/-
Calls of stubs: which requests a printed signature lets through.

A call binds values to the parameters of a function, by position and by name, and is accepted where every name is one of
a parameter, no parameter is bound twice and each one without a default is bound. A request of an operation has a value
for each required argument, perhaps for others, and a body with its required properties, or none where the body need not
be sent. The signature has a parameter for each argument and each property, and takes a required property for a required
parameter; whether the body itself is required is not looked at. So a request without a body can only be made by a call
where no property is required.

Main statements: `formals_signature`, the parameters that are read off a printed signature; `ofOperation_inputs`, those
of an operation whose names are kept apart; `expressible_iff`, the requests that some call makes; `bodiless_unexpressible`,
an operation with a body that need not be sent, and a request that no call makes.
-/
import ApiTypes.Proofs.Identifier
import ApiTypes.Proofs.Legibility
import ApiTypes.Proofs.Passing

namespace ApiTypes

/-! ## Requests -/

/-- the values of a request: of the arguments by their names, and of the properties of the body, if there is one -/
structure Request (V : Type) where
  arguments : List (String × V)
  body : Option (List (String × V))

namespace Operation

/-- must a body be sent? -/
def bodyRequired (op : Operation) : Bool :=
  match op.requestBody with
  | some (.json required _ _ _) => required
  | _ => false

/-- the properties of the body -/
def bodyProperties (op : Operation) : List Property := (op.bodySchema?.map Component.properties).getD []

/-- the names that a request can give values for -/
def inputNames (op : Operation) : List String := op.arguments.map Parameter.name ++ op.bodyProperties.map Property.name

end Operation

namespace Request

variable {V : Type}

/-- all values of a request -/
def supplied (r : Request V) : List (String × V) := r.arguments ++ r.body.getD []

/-- the body of a request that an operation allows -/
def BodyAllowed (op : Operation) : Option (List (String × V)) → Prop
  | none => op.bodyRequired = false
  | some values => ∃ schema, op.bodySchema? = some schema ∧ (values.map Prod.fst).Nodup ∧
      (∀ e ∈ values, e.1 ∈ schema.properties.map Property.name) ∧
        ∀ p ∈ schema.required, p.name ∈ values.map Prod.fst

/-- a request that an operation allows: all required arguments, any others, and a body as it may be -/
structure Allowed (op : Operation) (r : Request V) : Prop where
  once : (r.arguments.map Prod.fst).Nodup
  known : ∀ e ∈ r.arguments, e.1 ∈ op.arguments.map Parameter.name
  required : ∀ p ∈ op.arguments, p.required = true → p.name ∈ r.arguments.map Prod.fst
  body : BodyAllowed op r.body

end Request

namespace Module

open ApiTypes.Text

/-! ## Signatures -/

/-- a parameter as it is read off a signature -/
structure Formal where
  name : String
  keywordOnly : Bool
  hasDefault : Bool
  deriving DecidableEq, Repr

/-- the name of a parameter stands before a colon, its default behind an equals sign -/
def Formal.ofText (keywordOnly : Bool) (text : String) : Formal :=
  ⟨String.ofList (text.toList.takeWhile (· != ':')), keywordOnly, text.toList.contains '='⟩

/-- the parameters of a signature; those behind a star are taken by name only -/
def formalsFrom (keywordOnly : Bool) : List String → List Formal
  | [] => []
  | part :: rest =>
    if part = "*" then formalsFrom true rest else Formal.ofText keywordOnly part :: formalsFrom keywordOnly rest

def Stub.formals (s : Stub) : List Formal := formalsFrom false s.signature

structure Call (V : Type) where
  positional : List V := []
  keywords : List (String × V) := []

namespace Call

variable {V : Type}

/-- what the call binds: values in order to the parameters that are not taken by name only, then the others by name -/
def bound (formals : List Formal) (call : Call V) : List (String × V) :=
  ((formals.filter (!·.keywordOnly)).map Formal.name).zip call.positional ++ call.keywords

/-- the call is one of a function with these parameters -/
structure Accepted (formals : List Formal) (call : Call V) : Prop where
  few : call.positional.length ≤ (formals.filter (!·.keywordOnly)).length
  known : ∀ e ∈ call.keywords, e.1 ∈ formals.map Formal.name
  once : ((call.bound formals).map Prod.fst).Nodup
  complete : ∀ f ∈ formals, f.hasDefault = false → f.name ∈ (call.bound formals).map Prod.fst

/-- the call passes exactly the values of a request, each by the identifier of its name -/
def Passes (formals : List Formal) (call : Call V) (r : Request V) : Prop :=
  (call.bound formals).Perm (r.supplied.map fun e => (identifier e.1, e.2))

end Call

theorem TypeExpr.Worded.no_equals {type : TypeExpr} (h : type.Worded) : '=' ∉ type.text.toList := by
  induction type with
  | word text =>
    have plain : ∀ word ∈ words, '=' ∉ word.toList := by decide
    rcases h with known | rfl | rfl
    · exact plain text known
    · decide
    · decide
  | list item ih => simpa [text] using ih h
  | component name =>
    have isName : IsClassName name := h
    intro mem
    exact absurd (isName.word _ mem) (by decide)
  | record name =>
    have isName : IsClassName name := h
    intro mem
    exact absurd (isName.word _ mem) (by decide)

/-- an argument whose name and type hold no mark of a signature -/
structure Argument.Readable (a : Argument) : Prop where
  colon : ':' ∉ a.name.toList
  equals : '=' ∉ a.name.toList
  type : '=' ∉ (TypeExpr.flat a.type).text.toList

theorem Argument.toList_text (a : Argument) : ∃ rest, a.text.toList = a.name.toList ++ ':' :: rest := by
  unfold text annotated
  split_ifs
  · exact ⟨' ' :: (TypeExpr.flat a.type).text.toList, by simp⟩
  · exact ⟨' ' :: (TypeExpr.flat a.type).text.toList ++ " | None = None".toList, by simp⟩

theorem Argument.text_ne_star (a : Argument) : a.text ≠ "*" := by
  obtain ⟨rest, chars⟩ := a.toList_text
  intro star
  have colon : ':' ∈ a.text.toList := by
    rw [chars]
    simp
  rw [star] at colon
  exact absurd colon (by decide)

theorem Argument.Readable.ofText {a : Argument} (h : a.Readable) (keywordOnly : Bool) :
    Formal.ofText keywordOnly a.text = ⟨a.name, keywordOnly, !a.required⟩ := by
  obtain ⟨rest, chars⟩ := a.toList_text
  have before : ∀ c ∈ a.name.toList, (c != ':') = true := by
    intro c mem
    rw [bne_iff_ne]
    rintro rfl
    exact h.colon mem
  have name : a.text.toList.takeWhile (· != ':') = a.name.toList := by
    rw [chars, List.takeWhile_append_of_pos before]
    simp
  have default : a.text.toList.contains '=' = !a.required := by
    have equals := h.equals
    have type := h.type
    unfold text annotated
    cases a.required <;> simp [equals, type]
  rw [Formal.ofText, name, default, String.ofList_toList]

theorem formalsFrom_texts (arguments : List Argument) (h : ∀ a ∈ arguments, a.Readable) (keywordOnly : Bool)
    (rest : List String) : formalsFrom keywordOnly (arguments.map Argument.text ++ rest) =
      (arguments.map fun a => ⟨a.name, keywordOnly, !a.required⟩) ++ formalsFrom keywordOnly rest := by
  induction arguments with
  | nil => rfl
  | cons a later ih =>
    have readable := h a List.mem_cons_self
    rw [List.map_cons, List.cons_append, formalsFrom, if_neg a.text_ne_star, readable.ofText,
      ih fun b mem => h b (List.mem_cons_of_mem _ mem)]
    rfl

/-- **The parameters of a printed signature**: an argument may be left out exactly when it is not required, and is then
taken by name only. -/
theorem formals_signature {s : Stub} (h : ∀ a ∈ s.arguments, a.Readable) :
    s.formals = (s.arguments.filter (·.required)).map (fun a => ⟨a.name, false, false⟩) ++
      (s.arguments.filter (!·.required)).map (fun a => ⟨a.name, true, true⟩) := by
  have must := formalsFrom_texts (s.arguments.filter (·.required)) fun a mem => h a (List.mem_of_mem_filter mem)
  have may := formalsFrom_texts (s.arguments.filter (!·.required)) fun a mem => h a (List.mem_of_mem_filter mem)
  have required : (s.arguments.filter (·.required)).map (fun a => (⟨a.name, false, !a.required⟩ : Formal)) =
      (s.arguments.filter (·.required)).map fun a => ⟨a.name, false, false⟩ := by
    apply List.map_congr_left
    intro a mem
    simp [(List.mem_filter.1 mem).2]
  have optional : (s.arguments.filter (!·.required)).map (fun a => (⟨a.name, true, !a.required⟩ : Formal)) =
      (s.arguments.filter (!·.required)).map fun a => ⟨a.name, true, true⟩ := by
    apply List.map_congr_left
    intro a mem
    simp [(List.mem_filter.1 mem).2]
  unfold Stub.formals Stub.signature
  rw [must, required]
  by_cases none : s.arguments.filter (!·.required) = []
  · simp [none, formalsFrom]
  · have star := may true []
    rw [List.append_nil] at star
    rw [if_neg (by simpa using none), formalsFrom, if_pos rfl, star, optional, formalsFrom, List.append_nil]

/-! ## Arguments of operations -/

section

-- no identifier is to be computed
attribute [local irreducible] identifier

def ofParameter (p : Parameter) : Argument :=
  ⟨identifier p.name, (Declaration.ofNode (.scalar p.type)).value, p.required⟩

def ofProperty (required : Bool) (p : Property) : Argument :=
  ⟨identifier p.name, (Declaration.ofNode p.type).value, required⟩

/-- the arguments that a body asks for -/
def bodyInputs (schema : Component) : List Argument :=
  schema.required.map (ofProperty true) ++ schema.optional.map (ofProperty false)

/-- the arguments that an operation asks for, whether or not their identifiers are taken -/
def inputs (op : Operation) : List Argument :=
  op.arguments.map ofParameter ++ (op.bodySchema?.map bodyInputs).getD []

@[simp] theorem ofParameter_name (p : Parameter) : (ofParameter p).name = identifier p.name := by rw [ofParameter]

@[simp] theorem ofProperty_name (required : Bool) (p : Property) :
    (ofProperty required p).name = identifier p.name := by rw [ofProperty]

@[simp] theorem ofParameter_required (p : Parameter) : (ofParameter p).required = p.required := by rw [ofParameter]

@[simp] theorem ofProperty_required (required : Bool) (p : Property) : (ofProperty required p).required = required := by
  rw [ofProperty]

theorem mem_inputs {op : Operation} {a : Argument} : a ∈ inputs op ↔ (∃ p ∈ op.arguments, ofParameter p = a) ∨
    ∃ schema, op.bodySchema? = some schema ∧
      ((∃ p ∈ schema.required, ofProperty true p = a) ∨ ∃ p ∈ schema.optional, ofProperty false p = a) := by
  unfold inputs bodyInputs
  cases op.bodySchema? <;> simp

theorem inputs_names (op : Operation) : (inputs op).map Argument.name = op.inputNames.map identifier := by
  unfold inputs Operation.inputNames Operation.bodyProperties
  cases op.bodySchema? <;> simp [bodyInputs, Component.properties, Function.comp_def]

theorem accept_free (operation name : String) (type : Declaration) (required : Bool) {arguments : List Argument}
    (free : identifier name ∉ arguments.map Argument.name) :
    (Argument.accept operation name type required arguments).value =
      arguments ++ [⟨identifier name, type, required⟩] := by
  have untaken : arguments.any (·.name == identifier name) = false := by
    rw [List.any_eq_false]
    intro a mem taken
    exact free (List.mem_map.2 ⟨a, mem, by simpa using taken⟩)
  rw [Argument.accept, untaken]
  rfl

/-- the names of the arguments up to one that is added differ from its own -/
theorem free_of_nodup {arguments rest : List Argument} {a : Argument}
    (distinct : ((arguments ++ a :: rest).map Argument.name).Nodup) : a.name ∉ arguments.map Argument.name := by
  rw [List.map_append, List.map_cons] at distinct
  intro mem
  exact List.disjoint_of_nodup_append distinct mem List.mem_cons_self

theorem acceptParameters_free (operation : String) {arguments : List Argument} {parameters : List Parameter}
    (distinct : ((arguments ++ parameters.map ofParameter).map Argument.name).Nodup) :
    (Argument.acceptParameters operation parameters arguments).value = arguments ++ parameters.map ofParameter := by
  induction parameters generalizing arguments with
  | nil => simp [Argument.acceptParameters]
  | cons p rest ih =>
    rw [List.map_cons] at distinct ⊢
    have free := free_of_nodup distinct
    rw [ofParameter_name] at free
    rw [Argument.acceptParameters, Noted.bind_value, Noted.bind_value, accept_free operation p.name _ _ free]
    rw [List.append_cons] at distinct
    rw [← ofParameter, ih distinct, ← List.append_cons]

theorem acceptProperties_free (operation : String) (required : Bool) {arguments : List Argument}
    {properties : List Property}
    (distinct : ((arguments ++ properties.map (ofProperty required)).map Argument.name).Nodup) :
    (Argument.acceptProperties operation required properties arguments).value =
      arguments ++ properties.map (ofProperty required) := by
  induction properties generalizing arguments with
  | nil => simp [Argument.acceptProperties]
  | cons p rest ih =>
    rw [List.map_cons] at distinct ⊢
    have free := free_of_nodup distinct
    rw [ofProperty_name] at free
    rw [Argument.acceptProperties, Noted.bind_value, Noted.bind_value, accept_free operation p.name _ _ free]
    rw [List.append_cons] at distinct
    rw [← ofProperty, ih distinct, ← List.append_cons]

/-- **Arguments whose identifiers differ are all kept**, in order. -/
theorem ofOperation_inputs {op : Operation} (distinct : ((inputs op).map Argument.name).Nodup) :
    (Argument.ofOperation op).value = inputs op := by
  unfold Argument.ofOperation inputs at *
  cases body : op.bodySchema? with
  | none =>
    rw [body] at distinct
    rw [Noted.bind_value, acceptParameters_free op.name (by simpa using distinct)]
    simp
  | some schema =>
    rw [body, Option.map_some, Option.getD_some, bodyInputs, ← List.append_assoc] at distinct
    have required := distinct.sublist ((List.sublist_append_left _ _).map Argument.name)
    have parameters := required.sublist ((List.sublist_append_left _ _).map Argument.name)
    simp only [Noted.bind_value]
    rw [acceptParameters_free op.name (by simpa using parameters), List.nil_append,
      acceptProperties_free op.name true required, acceptProperties_free op.name false distinct, List.append_assoc]
    rfl

theorem readable_of_identifier {name : String} {node : Node} {required : Bool} :
    (⟨identifier name, (Declaration.ofNode node).value, required⟩ : Argument).Readable := by
  have chars := identifier_all name
  refine ⟨?_, ?_, (worded_flat (Declaration.emitted_ofNode node fun _ => id)).no_equals⟩
  · intro mem
    exact absurd (chars _ mem) (by decide)
  · intro mem
    exact absurd (chars _ mem) (by decide)

theorem readable_inputs (op : Operation) : ∀ a ∈ inputs op, a.Readable := by
  intro a mem
  rcases mem_inputs.1 mem with ⟨p, -, rfl⟩ | ⟨schema, -, ⟨p, -, rfl⟩ | ⟨p, -, rfl⟩⟩
  · exact readable_of_identifier
  · exact readable_of_identifier
  · exact readable_of_identifier

/-- the parameters of an operation's stub, as they are printed -/
def formalsOf (op : Operation) : List Formal := (Stub.ofOperation op).value.formals

/-- an operation's stub has a parameter for each argument that the operation asks for -/
theorem mem_formalsOf {op : Operation} (distinct : (op.inputNames.map identifier).Nodup) {f : Formal} :
    f ∈ formalsOf op ↔ ∃ a ∈ inputs op, f = ⟨a.name, !a.required, !a.required⟩ := by
  have kept : (Argument.ofOperation op).value = inputs op := ofOperation_inputs (by rwa [inputs_names])
  have readable := readable_inputs op
  have arguments : (Stub.ofOperation op).value.arguments = inputs op := by
    rw [ofOperation_value, ← kept]
  rw [formalsOf, formals_signature (by rwa [arguments]), arguments, List.mem_append, List.mem_map, List.mem_map]
  constructor
  · rintro (⟨a, mem, rfl⟩ | ⟨a, mem, rfl⟩)
    · obtain ⟨mem, required⟩ := List.mem_filter.1 mem
      exact ⟨a, mem, by simp [required]⟩
    · obtain ⟨mem, optional⟩ := List.mem_filter.1 mem
      have : a.required = false := by simpa using optional
      exact ⟨a, mem, by simp [this]⟩
  · rintro ⟨a, mem, rfl⟩
    cases required : a.required with
    | true => exact .inl ⟨a, List.mem_filter.2 ⟨mem, required⟩, rfl⟩
    | false => exact .inr ⟨a, List.mem_filter.2 ⟨mem, by simp [required]⟩, rfl⟩

/-- the parameters that a call must bind are those of required arguments and of required properties -/
theorem name_of_required {op : Operation} (distinct : (op.inputNames.map identifier).Nodup) {f : Formal}
    (formal : f ∈ formalsOf op) (required : f.hasDefault = false) :
    (∃ p ∈ op.arguments, p.required = true ∧ f.name = identifier p.name) ∨
      ∃ schema, op.bodySchema? = some schema ∧ ∃ p ∈ schema.required, f.name = identifier p.name := by
  obtain ⟨a, input, rfl⟩ := (mem_formalsOf distinct).1 formal
  rcases mem_inputs.1 input with ⟨p, mem, rfl⟩ | ⟨schema, has, ⟨p, mem, rfl⟩ | ⟨p, mem, rfl⟩⟩
  · exact .inl ⟨p, mem, by simpa using required, ofParameter_name p⟩
  · exact .inr ⟨schema, has, p, mem, ofProperty_name true p⟩
  · simp at required

/-- a required property is a parameter without a default -/
theorem formal_of_required {op : Operation} (distinct : (op.inputNames.map identifier).Nodup) {schema : Component}
    (has : op.bodySchema? = some schema) {p : Property} (mem : p ∈ schema.required) :
    ∃ f ∈ formalsOf op, f.hasDefault = false ∧ f.name = identifier p.name := by
  have input : ofProperty true p ∈ inputs op := mem_inputs.2 (.inr ⟨schema, has, .inl ⟨p, mem, rfl⟩⟩)
  exact ⟨_, (mem_formalsOf distinct).2 ⟨_, input, rfl⟩, rfl, ofProperty_name true p⟩

/-- every name of the operation is that of a parameter -/
theorem formal_of_name {op : Operation} (distinct : (op.inputNames.map identifier).Nodup) {name : String}
    (mem : name ∈ op.inputNames) : identifier name ∈ (formalsOf op).map Formal.name := by
  have input : identifier name ∈ (inputs op).map Argument.name := by
    rw [inputs_names]
    exact List.mem_map_of_mem mem
  obtain ⟨a, ha, same⟩ := List.mem_map.1 input
  rw [← same]
  exact List.mem_map.2 ⟨_, (mem_formalsOf distinct).2 ⟨a, ha, rfl⟩, rfl⟩

/-! ## Requests by calls -/

variable {V : Type} {op : Operation} {r : Request V}

/-- the names of a request are those of the operation, once each -/
theorem supplied_names (distinct : op.inputNames.Nodup) (allowed : r.Allowed op) :
    (r.supplied.map Prod.fst).Nodup ∧ ∀ name ∈ r.supplied.map Prod.fst, name ∈ op.inputNames := by
  have arguments : ∀ name ∈ r.arguments.map Prod.fst, name ∈ op.arguments.map Parameter.name := by
    intro name mem
    obtain ⟨e, he, rfl⟩ := List.mem_map.1 mem
    exact allowed.known e he
  have body : ((r.body.getD []).map Prod.fst).Nodup ∧
      ∀ name ∈ (r.body.getD []).map Prod.fst, name ∈ op.bodyProperties.map Property.name := by
    have allows := allowed.body
    cases given : r.body with
    | none => simp
    | some values =>
      rw [given] at allows
      obtain ⟨schema, has, once, known, -⟩ := allows
      refine ⟨once, fun name mem => ?_⟩
      obtain ⟨e, he, rfl⟩ := List.mem_map.1 mem
      rw [Operation.bodyProperties, has]
      exact known e he
  rw [Request.supplied, List.map_append, List.nodup_append']
  refine ⟨⟨allowed.once, body.1, ?_⟩, ?_⟩
  · intro name mem mem'
    exact List.disjoint_of_nodup_append distinct (arguments name mem) (body.2 name mem')
  · intro name mem
    exact List.mem_append.2 ((List.mem_append.1 mem).imp (arguments name) (body.2 name))

theorem identifier_injOn (distinct : (op.inputNames.map identifier).Nodup) {a b : String} (ha : a ∈ op.inputNames)
    (hb : b ∈ op.inputNames) (same : identifier a = identifier b) : a = b :=
  List.inj_on_of_nodup_map distinct ha hb same

/-- the call that passes every value by name -/
def callByName (r : Request V) : Call V := { keywords := r.supplied.map fun e => (identifier e.1, e.2) }

theorem bound_callByName (formals : List Formal) (r : Request V) :
    (callByName r).bound formals = r.supplied.map fun e => (identifier e.1, e.2) := by
  simp [callByName, Call.bound]

theorem names_callByName (formals : List Formal) (r : Request V) :
    ((callByName r).bound formals).map Prod.fst = (r.supplied.map Prod.fst).map identifier := by
  simp [bound_callByName]

/-- **A request can be made exactly when it has a body or no property of the body is required.** Let the names of the
arguments and of the body's properties have different identifiers, and let the operation allow the request. Some call
that the printed signature accepts passes exactly the values of the request if and only if, where the request has no
body, the schema of the body, if there is one, requires nothing. -/
theorem expressible_iff (distinct : (op.inputNames.map identifier).Nodup) (allowed : r.Allowed op) :
    (∃ call : Call V, call.Accepted (formalsOf op) ∧ call.Passes (formalsOf op) r) ↔
      (r.body = none → ∀ schema, op.bodySchema? = some schema → schema.required = []) := by
  have names : op.inputNames.Nodup := distinct.of_map _
  obtain ⟨once, known⟩ := supplied_names names allowed
  constructor
  · rintro ⟨call, accepted, passes⟩ bodiless schema has
    by_contra nonempty
    obtain ⟨p, mem⟩ := List.exists_mem_of_ne_nil _ nonempty
    -- the call binds the parameter of a required property, so the request has a value for it
    obtain ⟨f, formal, required, name⟩ := formal_of_required distinct has mem
    have bound := (passes.map Prod.fst).mem_iff.1 (accepted.complete f formal required)
    rw [name, List.map_map] at bound
    obtain ⟨e, he, same⟩ := List.mem_map.1 bound
    have supplied : r.supplied = r.arguments := by rw [Request.supplied, bodiless, Option.getD_none, List.append_nil]
    have isProperty : p.name ∈ op.bodyProperties.map Property.name := by
      rw [Operation.bodyProperties, has]
      exact List.mem_map_of_mem (List.mem_append_left _ mem)
    have eq := identifier_injOn distinct (known e.1 (List.mem_map_of_mem he))
      (List.mem_append_right _ isProperty) same
    rw [supplied] at he
    have isArgument := allowed.known e he
    rw [eq] at isArgument
    exact List.disjoint_of_nodup_append names isArgument isProperty
  · intro bodiless
    refine ⟨callByName r, ⟨Nat.zero_le _, ?_, ?_, ?_⟩, ?_⟩
    · intro e mem
      obtain ⟨given, he, rfl⟩ := List.mem_map.1 mem
      exact formal_of_name distinct (known given.1 (List.mem_map_of_mem he))
    · rw [names_callByName]
      exact once.map_on fun a ha b hb => identifier_injOn distinct (known a ha) (known b hb)
    · intro f formal required
      rw [names_callByName]
      rcases name_of_required distinct formal required with ⟨p, mem, isRequired, eq⟩ | ⟨schema, has, p, mem, eq⟩
      · rw [eq, Request.supplied, List.map_append]
        exact List.mem_map_of_mem (List.mem_append_left _ (allowed.required p mem isRequired))
      · cases given : r.body with
        | none =>
          rw [bodiless given schema has] at mem
          cases mem
        | some values =>
          have allows := allowed.body
          rw [given] at allows
          obtain ⟨schema', has', -, -, all⟩ := allows
          obtain rfl := Option.some.inj (has.symm.trans has')
          rw [eq, Request.supplied, given, List.map_append]
          exact List.mem_map_of_mem (List.mem_append_right _ (all p mem))
    · rw [Call.Passes, bound_callByName]

end

/-- an operation with a body that need not be sent, and has a name whenever it is -/
def optionalBody : Operation :=
  { endpoint := "/pets", name := "create_pet", operationId := "createPet", summary := "", method := .post,
    arguments := [⟨"limit", "query", "integer", .str "", false, ""⟩],
    requestBody := some (.json false "application/json" ⟨[⟨"name", .scalar "string", "", .str "", true⟩], []⟩ none),
    responseType := .scalar "string", group := "" }

/-- it allows a request without a body, and no call of its stub makes it -/
theorem bodiless_unexpressible :
    (optionalBody.inputNames.map identifier).Nodup ∧
      Request.Allowed optionalBody (⟨[("limit", 5)], none⟩ : Request Nat) ∧
      ¬ ∃ call : Call Nat, call.Accepted (formalsOf optionalBody) ∧
        call.Passes (formalsOf optionalBody) ⟨[("limit", 5)], none⟩ := by
  have distinct : (optionalBody.inputNames.map identifier).Nodup := by decide
  have allowed : Request.Allowed optionalBody (⟨[("limit", 5)], none⟩ : Request Nat) :=
    ⟨by decide, by decide, by decide, rfl⟩
  refine ⟨distinct, allowed, ?_⟩
  rw [expressible_iff distinct allowed]
  intro bodiless
  exact absurd (bodiless rfl _ rfl) (by decide)

end Module

end ApiTypes
