/-
Signatures of stubs: which inputs become parameters.

An operation asks for its parameters, then for the required and the optional properties of its body. One after the other
is given an argument, unless its identifier is taken by then; then it is reported, and nothing else becomes of it. So
among inputs of one identifier the earliest stands for all, with its own type, and is required or not as it says itself.

Main statements: `give_value` and `debugged_give`, what one input does; `given`, what the inputs of an operation do one
after the other; `ofOperation_signature`, the printed parameters.
-/
import ApiTypes.Proofs.Calling

namespace ApiTypes

/-! ## Inputs -/

/-- what an operation asks for: a parameter of its own, or a property of its body -/
structure Input where
  name : String
  type : Node
  required : Bool

namespace Input

def ofParameter (p : Parameter) : Input := ⟨p.name, .scalar p.type, p.required⟩

def ofProperty (required : Bool) (p : Property) : Input := ⟨p.name, p.type, required⟩

/-- the inputs of a body, the required ones first -/
def ofBody (schema : Component) : List Input :=
  schema.required.map (ofProperty true) ++ schema.optional.map (ofProperty false)

end Input

/-- the inputs of an operation, in order -/
def Operation.asked (op : Operation) : List Input :=
  op.arguments.map Input.ofParameter ++ (op.bodySchema?.map Input.ofBody).getD []

mutual

/-- a declaration is only warned about -/
theorem Declaration.level_ofNode : (node : Node) → ∀ n ∈ (ofNode node).notices, n.level = .warning
  | .scalar name => by
    intro n mem
    rw [ofNode, ofScalar] at mem
    split at mem
    · cases mem
    · obtain rfl : n = .unmappedScalar name := by simpa [Noted.report] using mem
      rfl
  | .array element => by
    intro n mem
    rw [ofNode, Noted.bind_notices, Noted.pure_notices, List.append_nil] at mem
    exact level_ofNode element n mem
  | .object fields => by
    intro n mem
    rw [ofNode, Noted.bind_notices, Noted.pure_notices, List.append_nil] at mem
    exact level_ofFields fields n mem
  | .component _ => by simp [ofNode]
  | .oneOf _ => by simp [ofNode]

theorem Declaration.level_ofFields : (fields : List (String × Node)) →
    ∀ n ∈ (ofFields fields).notices, n.level = .warning
  | [] => by simp [ofFields]
  | (name, node) :: rest => by
    intro n mem
    simp only [ofFields, Noted.bind_notices, Noted.pure_notices, List.append_nil, List.mem_append] at mem
    exact mem.elim (level_ofNode node n) (level_ofFields rest n)

end

namespace Module

-- no identifier is to be computed
attribute [local irreducible] identifier

/-- the argument of an input -/
def argumentOf (i : Input) : Argument := ⟨identifier i.name, (Declaration.ofNode i.type).value, i.required⟩

theorem argumentOf_name (i : Input) : (argumentOf i).name = identifier i.name := by rw [argumentOf]

/-- an input is declared, and given an argument unless its identifier is taken -/
def give (operation : String) (arguments : List Argument) (i : Input) : Noted (List Argument) := do
  Argument.accept operation i.name (← Declaration.ofNode i.type) i.required arguments

theorem acceptParameters_eq (operation : String) (parameters : List Parameter) (arguments : List Argument) :
    Argument.acceptParameters operation parameters arguments =
      (parameters.map Input.ofParameter).foldlM (give operation) arguments := by
  induction parameters generalizing arguments with
  | nil => rfl
  | cons p rest ih =>
    rw [Argument.acceptParameters, List.map_cons, List.foldlM_cons, give, bind_assoc]
    simp only [ih]
    rfl

theorem acceptProperties_eq (operation : String) (required : Bool) (properties : List Property)
    (arguments : List Argument) : Argument.acceptProperties operation required properties arguments =
      (properties.map (Input.ofProperty required)).foldlM (give operation) arguments := by
  induction properties generalizing arguments with
  | nil => rfl
  | cons p rest ih =>
    rw [Argument.acceptProperties, List.map_cons, List.foldlM_cons, give, bind_assoc]
    simp only [ih]
    rfl

/-- the inputs of an operation are given arguments one after the other -/
theorem ofOperation_eq (op : Operation) : Argument.ofOperation op = op.asked.foldlM (give op.name) [] := by
  rw [Argument.ofOperation, Operation.asked, List.foldlM_append, acceptParameters_eq]
  cases op.bodySchema? with
  | none => simp
  | some schema => simp [Input.ofBody, List.foldlM_append, acceptProperties_eq]

/-! ## One input -/

section

variable {operation : String} {arguments : List Argument} {i : Input}

/-- is the identifier of an input that of an argument? -/
def isTaken (arguments : List Argument) (i : Input) : Bool := arguments.any (·.name == identifier i.name)

theorem give_value : (give operation arguments i).value =
    if isTaken arguments i then arguments else arguments ++ [argumentOf i] := by
  rw [give, Noted.bind_value, Argument.accept, isTaken]
  split_ifs <;> rfl

/-- the debug records of a run -/
def debugged {α : Type} (x : Noted α) : List Notice := x.notices.filter (·.level = .debug)

theorem debugged_bind {α β : Type} (x : Noted α) (f : α → Noted β) :
    debugged (x >>= f) = debugged x ++ debugged (f x.value) := by
  rw [debugged, Noted.bind_notices, List.filter_append]
  rfl

theorem debugged_ofNode (node : Node) : debugged (Declaration.ofNode node) = [] := by
  rw [debugged, List.filter_eq_nil_iff]
  intro n mem
  rw [Declaration.level_ofNode node n mem]
  decide

theorem debugged_give : debugged (give operation arguments i) =
    if isTaken arguments i then [.collidingArgument operation i.name] else [] := by
  rw [give, debugged_bind, debugged_ofNode, Argument.accept, isTaken]
  split_ifs <;> rfl

end

/-! ## All inputs -/

/-- do two inputs have one identifier? -/
def clash (i j : Input) : Bool := identifier i.name == identifier j.name

/-- has an earlier input the identifier of the input at this position? -/
def isRepeated (inputs : List Input) (p : Input × Nat) : Bool := (inputs.take p.2).any (clash · p.1)

/-- the inputs whose identifier no earlier one has, in order -/
def earliest (inputs : List Input) : List Input := (inputs.zipIdx.filter (!isRepeated inputs ·)).map Prod.fst

/-- the inputs whose identifier an earlier one has, in order -/
def repeated (inputs : List Input) : List Input := (inputs.zipIdx.filter (isRepeated inputs)).map Prod.fst

section

variable {inputs : List Input} {i j : Input}

theorem clash_iff : clash i j = true ↔ identifier i.name = identifier j.name := beq_iff_eq

theorem clash_congr (h : clash i j = true) : (clash · i) = (clash · j) := by
  funext k
  rw [clash, clash, clash_iff.1 h]

/-- whether an input is repeated does not depend on those behind it -/
theorem filter_repeated_snoc (inputs : List Input) (i : Input) (p : Bool → Bool) :
    (inputs ++ [i]).zipIdx.filter (fun e => p (isRepeated (inputs ++ [i]) e)) =
      inputs.zipIdx.filter (fun e => p (isRepeated inputs e)) ++
        [(i, inputs.length)].filter fun _ => p (inputs.any (clash · i)) := by
  have before : ∀ e ∈ inputs.zipIdx, isRepeated (inputs ++ [i]) e = isRepeated inputs e := by
    intro e mem
    have below : e.2 < inputs.length := by simpa using List.snd_lt_of_mem_zipIdx mem
    rw [isRepeated, List.take_append_of_le_length below.le, isRepeated]
  have last : isRepeated (inputs ++ [i]) (i, inputs.length) = inputs.any (clash · i) := by
    rw [isRepeated, List.take_left']
    rfl
  rw [List.zipIdx_append, List.filter_append]
  congr 1
  · exact List.filter_congr fun e mem => congrArg p (before e mem)
  · simp [last, List.filter_cons]

theorem earliest_snoc (inputs : List Input) (i : Input) :
    earliest (inputs ++ [i]) = earliest inputs ++ if inputs.any (clash · i) then [] else [i] := by
  rw [earliest, filter_repeated_snoc inputs i not, List.map_append, ← earliest]
  cases inputs.any (clash · i) <;> rfl

theorem repeated_snoc (inputs : List Input) (i : Input) :
    repeated (inputs ++ [i]) = repeated inputs ++ if inputs.any (clash · i) then [i] else [] := by
  have split := congrArg (List.map Prod.fst) (filter_repeated_snoc inputs i id)
  rw [List.map_append] at split
  rw [repeated, repeated]
  refine split.trans ?_
  cases inputs.any (clash · i) <;> rfl

theorem earliest_append_repeated (inputs : List Input) : (earliest inputs ++ repeated inputs).Perm inputs := by
  have split := (List.filter_append_perm (isRepeated inputs) inputs.zipIdx).map Prod.fst
  rw [List.map_append, List.zipIdx_map_fst] at split
  exact List.perm_append_comm.trans split

theorem mem_of_earliest (mem : i ∈ earliest inputs) : i ∈ inputs :=
  (earliest_append_repeated inputs).subset (List.mem_append_left _ mem)

/-- the first input of an identifier is among the earliest -/
theorem exists_earliest (h : inputs.any (clash · i) = true) :
    ∃ first ∈ earliest inputs, inputs.find? (clash · i) = some first := by
  induction inputs using List.reverseRecOn with
  | nil => cases h
  | append_singleton inputs j ih =>
    rw [earliest_snoc, List.find?_append]
    by_cases before : inputs.any (clash · i) = true
    · obtain ⟨first, mem, found⟩ := ih before
      exact ⟨first, List.mem_append_left _ mem, by rw [found, Option.some_or]⟩
    · have own : clash j i = true := by simpa [before] using h
      have free : inputs.any (clash · j) = false := by simpa [clash_congr own] using before
      have none : inputs.find? (clash · i) = none := by simpa using before
      refine ⟨j, List.mem_append_right _ (by simp [free]), ?_⟩
      rw [none, Option.none_or, List.find?_singleton, if_pos own]

/-- an identifier is taken by the earliest inputs exactly when some input has it -/
theorem isTaken_earliest : isTaken ((earliest inputs).map argumentOf) i = inputs.any (clash · i) := by
  rw [isTaken, List.any_map, Bool.eq_iff_iff]
  constructor
  · intro taken
    obtain ⟨j, mem, same⟩ := List.any_eq_true.1 taken
    exact List.any_eq_true.2 ⟨j, mem_of_earliest mem, by simpa [clash, argumentOf_name] using same⟩
  · intro taken
    obtain ⟨first, mem, found⟩ := exists_earliest taken
    exact List.any_eq_true.2 ⟨first, mem, by simpa [clash, argumentOf_name] using List.find?_some found⟩

theorem nodup_earliest (inputs : List Input) : ((earliest inputs).map fun i => identifier i.name).Nodup := by
  induction inputs using List.reverseRecOn with
  | nil => exact List.nodup_nil
  | append_singleton inputs i ih =>
    rw [earliest_snoc]
    by_cases taken : inputs.any (clash · i) = true
    · rwa [if_pos taken, List.append_nil]
    · rw [if_neg taken, List.map_append, List.map_singleton, List.nodup_append]
      refine ⟨ih, List.nodup_singleton _, ?_⟩
      intro name mem other isOwn same
      obtain ⟨j, hj, rfl⟩ := List.mem_map.1 mem
      obtain rfl := List.mem_singleton.1 isOwn
      exact taken (List.any_eq_true.2 ⟨j, mem_of_earliest hj, clash_iff.2 same⟩)

/-- an input has exactly one of the earliest inputs by its identifier, and that is the first of all -/
theorem earliest_unique (mem : i ∈ inputs) : ∃ first, inputs.find? (clash · i) = some first ∧
    ∀ j, j ∈ earliest inputs ∧ identifier j.name = identifier i.name ↔ j = first := by
  have taken : inputs.any (clash · i) = true := List.any_eq_true.2 ⟨i, mem, clash_iff.2 rfl⟩
  obtain ⟨first, among, found⟩ := exists_earliest taken
  have own : identifier first.name = identifier i.name := by simpa [clash] using List.find?_some found
  refine ⟨first, found, fun j => ⟨?_, ?_⟩⟩
  · rintro ⟨hj, same⟩
    exact List.inj_on_of_nodup_map (nodup_earliest inputs) hj among (same.trans own.symm)
  · rintro rfl
    exact ⟨among, own⟩

/-- **Inputs one after the other**: the earliest of each identifier are given arguments, and each other one is reported
once. -/
theorem given (operation : String) (inputs : List Input) :
    (inputs.foldlM (give operation) []).value = (earliest inputs).map argumentOf ∧
    debugged (inputs.foldlM (give operation) []) =
      (repeated inputs).map fun i => .collidingArgument operation i.name := by
  induction inputs using List.reverseRecOn with
  | nil => exact ⟨rfl, rfl⟩
  | append_singleton inputs i ih =>
    obtain ⟨value, reports⟩ := ih
    simp only [List.foldlM_append, List.foldlM_cons, List.foldlM_nil, bind_pure]
    rw [Noted.bind_value, debugged_bind, value, reports, give_value, debugged_give, isTaken_earliest, earliest_snoc,
      repeated_snoc]
    cases inputs.any (clash · i) <;> simp

end

/-! ## The printed parameters -/

/-- the parameter that an input is printed as -/
def parameterText (i : Input) : String :=
  identifier i.name ++ ": " ++ (TypeExpr.flat (Declaration.ofNode i.type).value).text ++
    if i.required then "" else " | None = None"

/-- the required inputs in order, then, behind a star, the optional ones -/
def parameterTexts (inputs : List Input) : List String :=
  let optional := inputs.filter (!·.required)
  (inputs.filter (·.required)).map parameterText ++
    if optional.isEmpty then [] else "*" :: optional.map parameterText

/-- the parameters of an operation's stub: which inputs they stand for, how they are printed and read, and what is
reported of the inputs that are left out -/
structure Signed (op : Operation) (stub : Noted Stub) : Prop where
  /-- parameters are printed for the earliest inputs only -/
  printed : ∃ rest, stub.value.text =
    "def " ++ identifier op.name ++ "(" ++ ", ".intercalate (parameterTexts (earliest op.asked)) ++ ") -> " ++ rest
  /-- in the order that they are asked for -/
  ordered : (earliest op.asked).Sublist op.asked
  /-- under identifiers that differ -/
  distinct : ((earliest op.asked).map fun i => identifier i.name).Nodup
  /-- an input has one of these parameters by its identifier: that of the first input that has it -/
  stands : ∀ i ∈ op.asked, ∃ first, op.asked.find? (clash · i) = some first ∧
    ∀ j, j ∈ earliest op.asked ∧ identifier j.name = identifier i.name ↔ j = first
  /-- every other input is reported once, by its name -/
  reported : debugged stub = (repeated op.asked).map fun i => .collidingArgument op.name i.name
  complete : (earliest op.asked ++ repeated op.asked).Perm op.asked
  /-- a parameter without a default is one of a required input, the others are taken by name only -/
  formals : stub.value.formals =
    ((earliest op.asked).filter (·.required)).map (fun i => ⟨identifier i.name, false, false⟩) ++
      ((earliest op.asked).filter (!·.required)).map fun i => ⟨identifier i.name, true, true⟩
  star : "*" ∈ stub.value.signature ↔ ∃ i ∈ earliest op.asked, i.required = false

theorem argumentOf_text (i : Input) : (argumentOf i).text = parameterText i := by
  unfold Argument.text Argument.annotated parameterText argumentOf
  cases i.required <;> simp

theorem argumentOf_required (i : Input) : (argumentOf i).required = i.required := by rw [argumentOf]

theorem required_argumentOf (inputs : List Input) :
    (inputs.map argumentOf).filter (·.required) = (inputs.filter (·.required)).map argumentOf := by
  rw [List.filter_map]
  simp only [Function.comp_def, argumentOf_required]

theorem optional_argumentOf (inputs : List Input) :
    (inputs.map argumentOf).filter (!·.required) = (inputs.filter (!·.required)).map argumentOf := by
  rw [List.filter_map]
  simp only [Function.comp_def, argumentOf_required]

theorem earliest_sublist (inputs : List Input) : (earliest inputs).Sublist inputs := by
  have sub := (List.filter_sublist (p := (!isRepeated inputs ·)) (l := inputs.zipIdx)).map Prod.fst
  rwa [List.zipIdx_map_fst] at sub

theorem arguments_ofOperation (op : Operation) :
    (Stub.ofOperation op).value.arguments = (earliest op.asked).map argumentOf := by
  rw [ofOperation_value, ofOperation_eq, (given op.name op.asked).1]

theorem signature_ofOperation (op : Operation) :
    (Stub.ofOperation op).value.signature = parameterTexts (earliest op.asked) := by
  rw [Stub.signature, parameterTexts, arguments_ofOperation, required_argumentOf, optional_argumentOf]
  simp only [List.map_map, Function.comp_def, argumentOf_text, List.isEmpty_map]

/-- the parameters stand between the brackets of the first line, and the response behind its arrow -/
theorem Stub.text_signature (s : Stub) :
    ∃ rest, s.text = "def " ++ s.name ++ "(" ++ ", ".intercalate s.signature ++ ") -> " ++
      (TypeExpr.flat s.response).text ++ ":\n" ++ rest := by
  refine ⟨"    \"\"\"" ++ "\n    ".intercalate (s.lines.map lineText) ++ "\n    \"\"\"\n" ++
    "    raise NotImplementedError\n", ?_⟩
  unfold Stub.text
  simp only [String.append_assoc]

/-- no parameter is printed as the star -/
theorem star_mem_parameterTexts (inputs : List Input) :
    "*" ∈ parameterTexts inputs ↔ ∃ i ∈ inputs, i.required = false := by
  have plain (some : List Input) : "*" ∉ some.map parameterText := by
    intro mem
    obtain ⟨i, -, text⟩ := List.mem_map.1 mem
    exact (argumentOf i).text_ne_star ((argumentOf_text i).trans text)
  rw [parameterTexts, List.mem_append, or_iff_right (plain _)]
  by_cases none : (inputs.filter (!·.required)).isEmpty = true
  · rw [if_pos none]
    simpa using none
  · rw [if_neg none, iff_true_left List.mem_cons_self]
    simpa using none

/-- **The signature of a stub.** -/
theorem ofOperation_signature (op : Operation) : Signed op (Stub.ofOperation op) where
  printed := by
    obtain ⟨rest, text⟩ := (Stub.ofOperation op).value.text_signature
    rw [signature_ofOperation] at text
    refine ⟨(TypeExpr.flat (Stub.ofOperation op).value.response).text ++ ":\n" ++ rest, ?_⟩
    rw [text, ofOperation_value]
    simp only [String.append_assoc]
  ordered := earliest_sublist op.asked
  distinct := nodup_earliest op.asked
  stands := fun i mem => earliest_unique mem
  reported := by
    rw [Stub.ofOperation, debugged_bind, debugged_bind, debugged_ofNode, ofOperation_eq, (given op.name op.asked).2]
    exact List.append_nil _
  complete := earliest_append_repeated op.asked
  formals := by
    have readable : ∀ a ∈ (Stub.ofOperation op).value.arguments, a.Readable := by
      rw [arguments_ofOperation, List.forall_mem_map]
      intro i _
      exact readable_of_identifier
    rw [formals_signature readable, arguments_ofOperation, required_argumentOf, optional_argumentOf]
    simp only [List.map_map, Function.comp_def, argumentOf_name]
  star := by rw [signature_ofOperation, star_mem_parameterTexts]

/-- an optional input stands for a required one behind it, which is left out -/
example : parameterTexts (earliest
    [⟨"userId", .scalar "string", false⟩, ⟨"kind", .scalar "string", true⟩, ⟨"user_id", .scalar "integer", true⟩]) =
      ["kind: str", "*", "user_id: str | None = None"] := by decide +kernel

end Module

end ApiTypes
