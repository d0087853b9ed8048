/-
Operations modules of documentations that differ in their free texts are lexed alike.

Of the free texts an operations module holds summaries and endpoints, each between the quotes of a stub's documentation,
which they neither end nor go beyond. So the tokens of two modules that are the same without them differ in the texts that
blocks open with only, and lexing comes through both modules or stops in both.

Main statements: `Stub.partsAlike`, for one stub; `lexedAlike_operations`, for whole modules.
-/
import ApiTypes.Proofs.MutedComponents

namespace ApiTypes

namespace Source

/-- the same tokens, but for the texts that blocks open with -/
inductive ButDocumentation : List Token → List Token → Prop
  | nil : ButDocumentation [] []
  | token {tokens others} (t : Token) : ButDocumentation tokens others → ButDocumentation (t :: tokens) (t :: others)
  | documentation {tokens others} (text other : String) : ButDocumentation tokens others →
    ButDocumentation (.indent :: .text {} text :: tokens) (.indent :: .text {} other :: others)

theorem joins_butDocumentation : Joins ButDocumentation where
  refl := by
    intro tokens
    induction tokens with
    | nil => exact .nil
    | cons t rest ih => exact .token t ih
  append := by
    intro tokens tokens' more more' h h'
    induction h with
    | nil => exact h'
    | token t _ ih => exact .token t ih
    | documentation text other _ ih => exact .documentation text other ih

end Source

namespace Module

open Source Source.Lexing Text

variable {same : List Token → List Token → Prop} {s s' : Stub} {op op' : Operation} {d d' : Documentation}

/-! ## Imports -/

/-- the line of an import is passed where all names are identifiers only -/
theorem outcome_importChars {beside : Bool} {module text first : String} {rest : List String}
    (spelled : Spells 0 text.toList (dotsFor beside ++ [.name module]))
    (words : ∀ name ∈ first :: rest, IsWord name.toList) :
    ((∀ name ∈ first :: rest, isIdentifier name.toList = true) ∧
      Passes 0 (importChars text (first :: rest)) (importHead beside module ++ importTokens first rest)) ∨
        Breaks 0 (importChars text (first :: rest)) := by
  have word : Spells 0 "from".toList [.name "from"] := spells_name (by decide)
  have imports : Spells 0 "import".toList [.name "import"] := spells_name (by decide)
  rcases outcome_words words 0 with ⟨areNames, -⟩ | breaks
  · exact .inl ⟨areNames, (spells_importChars spelled areNames).passes (by omega)⟩
  · have named := (imports.passes (by omega)).breaks (glues_blank.breaks breaks) rfl
    have whole := (word.passes (by omega)).breaks
      (glues_blank.breaks ((spelled.passes (by omega)).breaks (glues_blank.breaks named) rfl)) rfl
    exact .inr whole

theorem clean_importChars {beside : Bool} {module text : String} {names : List String}
    (spelled : Spells 0 text.toList (dotsFor beside ++ [.name module])) (words : ∀ name ∈ names, IsWord name.toList) :
    Clean (importChars text names) := by
  have clean : Clean (", ".toList.intercalate (names.map String.toList)) := by
    have items : ∀ i ∈ names.map fun name => (name.toList, [Token.name name]), Lexes i.1 i.2 := by
      intro i hi
      obtain ⟨name, mem, rfl⟩ := List.mem_map.1 hi
      exact (words name mem).lexes
    simpa [Function.comp_def] using (lexes_separated items).clean
  unfold importChars
  simp only [clean_append]
  exact ⟨by decide, by decide, spelled.clean, by decide, by decide, by decide, clean⟩

/-- an import of words on both sides -/
theorem partsAlike_importLine {beside : Bool} {module text : String} {names : List String} (joins : Joins same)
    (spelled : Spells 0 text.toList (dotsFor beside ++ [.name module])) (words : ∀ name ∈ names, IsWord name.toList)
    (nonempty : names ≠ []) :
    PartsAlike same (∀ name ∈ names, isIdentifier name.toList = true) (importLine text names) (importLine text names) := by
  obtain ⟨first, rest, rfl⟩ := List.exists_cons_of_ne_nil nonempty
  have line := lexedAlike_line joins (clean_importChars spelled words) (outcome_importChars spelled words) (.inl rfl) rfl
    (List.cons_ne_nil _ _) .plain
  have ends : (importLine text (first :: rest)).toList.getLast? = some '\n' := by
    rw [toList_importLine, List.getLast?_append]
    rfl
  refine ⟨?_, ends, ends⟩
  rw [toList_importLine]
  rw [List.nil_append] at line
  rwa [line.clean.lineFeeds]

theorem isWord_of_mem_imports {stubs : List Stub} {name : String} (mem : name ∈ importsOf stubs) : IsWord name.toList := by
  obtain ⟨stub, -, mentioned⟩ := mem_importsOf.1 mem
  obtain ⟨type, -, c, -, rfl⟩ := mem_references.1 mentioned
  exact (isClassName_className c).isWord

/-- the import of the classes that a module mentions, if it mentions any -/
theorem listsAlike_imports (joins : Joins same) {names : List String} (words : ∀ name ∈ names, IsWord name.toList) :
    ListsAlike same (∀ name ∈ names, isIdentifier name.toList = true)
      (if names.isEmpty then [] else [importLine ".components" names])
      (if names.isEmpty then [] else [importLine ".components" names]) := by
  split_ifs with empty
  · rw [List.isEmpty_iff.1 empty]
    obtain ⟨lexed, ends, ends'⟩ := listsAlike_nil joins
    exact ⟨lexed.imp fun _ => by simp, ends, ends'⟩
  · exact (partsAlike_importLine joins spells_beside words (by simpa using empty)).list joins

/-! ## Stubs -/

/-- lexing comes through the heading of a stub, and its tokens are those of a function's if its types are legible -/
def Stub.Passed (s : Stub) : Prop :=
  ∃ tokens, Passes 0 s.heading tokens ∧ ((∀ type ∈ s.types, (TypeExpr.flat type).Legible) →
    ∀ parts : List (List Token × Statement), parts ≠ [] → (∀ part ∈ parts, IsStatement 1 part.1 part.2) →
      IsStatement 2 (tokens ++ .mark ":" :: blockTokens parts) (.function s.name (parts.map Prod.snd)))

/-- the block of a stub, with line feeds for its line ends -/
def Stub.block (s : Stub) : List Char := indentation ++ threeQuotes ++ (lineFeeds s.documentation ++ behindDocumentation)

/-- whatever the documentation of a stub holds, lexing comes through it, and by the same tokens but for its text -/
theorem Stub.Documented.through_block (h : s.Documented) : Clean s.block ∧ Through s.block [] [(4, 4)]
    [.indent, .text {} (String.ofList (lineFeeds s.documentation)), .newline, .name "raise",
      .name "NotImplementedError", .newline] := by
  obtain ⟨text, -, documented⟩ := h.isBodyPart
  have eq : s.block = (indentation ++ (threeQuotes ++ (lineFeeds s.documentation ++ threeQuotes)) ++ ['\n']) ++
      (indentation ++ "raise NotImplementedError\n".toList) := by
    simp [block, behindDocumentation]
  rw [eq]
  refine ⟨clean_append.2 ⟨documented.clean, isBodyPart_raise.clean⟩, fun rest => ?_⟩
  rw [List.append_assoc]
  exact (documented.opens _).trans (isBodyPart_raise.goesOn rest)

/-- **Stubs with the same heading are lexed alike**, whatever their documentation holds. -/
theorem Stub.partsAlike (heading : s'.heading = s.heading) (worded : s.Worded) (h : s.Documented) (h' : s'.Documented) :
    PartsAlike ButDocumentation s.Passed s.text s'.text := by
  obtain ⟨tokens, lexes, isStatement⟩ := worded.lexes_heading
  obtain ⟨clean, through⟩ := h.through_block
  obtain ⟨clean', through'⟩ := h'.through_block
  have alike := ButDocumentation.documentation (String.ofList (lineFeeds s.documentation))
    (String.ofList (lineFeeds s'.documentation)) (joins_butDocumentation.refl
      [.newline, .name "raise", .name "NotImplementedError", .newline])
  have nonempty : s.heading ≠ [] := List.cons_ne_nil _ _
  have lexed := lexes.lexedAlike_block joins_butDocumentation rfl nonempty clean clean' through through' alike
  refine ⟨?_, s.ends_text, s'.ends_text⟩
  rw [Stub.lineFeeds_text lexes.clean, Stub.lineFeeds_text (heading ▸ lexes.clean), heading]
  have passed : LexedAlike ButDocumentation s.Passed _ _ := lexed.imp fun passes => ⟨tokens, passes, isStatement⟩
  simpa [block] using passed

/-- arguments have identifiers for their names, and declarations of nodes for their types -/
theorem fine_arguments (op : Operation) :
    ∀ a ∈ (Argument.ofOperation op).value, FineArgument (fun type => ∃ names, type.Emitted names) a :=
  fine_ofOperation (fun _ => ⟨_, Declaration.emitted_ofNode _ fun _ mem => mem⟩)
    fun node _ => ⟨_, Declaration.emitted_ofNode node fun _ mem => mem⟩

theorem emitted_types (op : Operation) : ∀ type ∈ (Stub.ofOperation op).value.types, ∃ names, type.Emitted names := by
  rw [ofOperation_value, Stub.types, List.forall_mem_append, List.forall_mem_singleton]
  refine ⟨fun type mem => ?_, _, Declaration.emitted_ofNode op.responseType fun _ mem => mem⟩
  obtain ⟨a, ha, rfl⟩ := List.mem_map.1 mem
  exact (fine_arguments op a ha).type

theorem worded_ofOperation (op : Operation) : (Stub.ofOperation op).value.Worded := by
  have types := emitted_types op
  have plain := isPlainField_identifier op.name
  rw [ofOperation_value] at types ⊢
  -- the identifier is not to be computed
  generalize identifier op.name = own at types plain ⊢
  refine ⟨plain, fun a ha => (fine_arguments op a ha).name, fun type mem => ?_⟩
  obtain ⟨names, emitted⟩ := types type mem
  exact worded_flat emitted

theorem documented_ofOperation (h : d.Writable) (hop : op ∈ d.operations) : (Stub.ofOperation op).value.Documented := by
  obtain ⟨summary, endpoint⟩ := h.operations op hop
  rw [ofOperation_value]
  generalize identifier op.name = own
  exact ⟨List.cons_ne_nil _ _, not_mem_linesOf summary endpoint⟩

/-! ## Pages -/

theorem heading_mute (op : Operation) :
    (Stub.ofOperation op.mute).value.heading = (Stub.ofOperation op).value.heading := by
  rw [ofOperation_mute]
  generalize (Stub.ofOperation op).value = stub
  rfl

theorem importsOf_mute (d : Documentation) :
    importsOf (stubsOf d.mute.operations).value = importsOf (stubsOf d.operations).value := by
  have references (op : Operation) : (Stub.ofOperation op.mute).value.references = (Stub.ofOperation op).value.references := by
    rw [ofOperation_mute]
    generalize (Stub.ofOperation op).value = stub
    rfl
  rw [stubsOf_value, stubsOf_value, importsOf, importsOf, Documentation.mute, List.map_map, List.flatMap_map,
    List.flatMap_map]
  simp only [Function.comp_apply, references]

theorem texts_stubsOf (operations : List Operation) : (stubsOf operations).value.map (fun s => "\n" ++ s.text) =
    operations.map fun op => "\n" ++ (Stub.ofOperation op).value.text := by
  rw [stubsOf_value, List.map_map]
  rfl

/-- the stubs of operations that differ in their free texts -/
theorem listsAlike_stubs (eq : d.mute = d'.mute) (h : d.Writable) (h' : d'.Writable) :
    ListsAlike ButDocumentation (∀ op ∈ d.operations, (Stub.ofOperation op).value.Passed)
      ((stubsOf d.operations).value.map fun s => "\n" ++ s.text)
      ((stubsOf d'.operations).value.map fun s => "\n" ++ s.text) := by
  have operations : d.operations.map Operation.mute = d'.operations.map Operation.mute :=
    congrArg Documentation.operations eq
  obtain ⟨pairs, first, second, all⟩ := exists_pairs operations
  have each : ∀ p ∈ pairs, PartsAlike ButDocumentation (Stub.ofOperation p.1).value.Passed
      ("\n" ++ (Stub.ofOperation p.1).value.text) ("\n" ++ (Stub.ofOperation p.2).value.text) := by
    intro p hp
    obtain ⟨mem, mem', alike⟩ := all p hp
    have heading : (Stub.ofOperation p.2).value.heading = (Stub.ofOperation p.1).value.heading := by
      rw [← heading_mute p.2, ← alike, heading_mute p.1]
    have stubs := Stub.partsAlike heading (worded_ofOperation p.1) (documented_ofOperation h mem)
      (documented_ofOperation h' mem')
    exact stubs.below joins_butDocumentation
  obtain ⟨lexed, ends, ends'⟩ :=
    listsAlike_map (f := fun op : Operation => "\n" ++ (Stub.ofOperation op).value.text) joins_butDocumentation each
  rw [texts_stubsOf, texts_stubsOf, ← first, ← second]
  refine ⟨lexed.imp fun known op hop => ?_, ends, ends'⟩
  obtain ⟨p, hp, rfl⟩ := List.mem_map.1 hop
  exact known p hp

/-- the parts of the operations module -/
def operationsParts (d : Documentation) : List String :=
  [importLine "typing" ["Any"]] ++
    (if (importsOf (stubsOf d.operations).value).isEmpty then []
      else [importLine ".components" (importsOf (stubsOf d.operations).value)]) ++
    (stubsOf d.operations).value.map fun s => "\n" ++ s.text

theorem operationsText_value (d : Documentation) : (operationsText d).value = page (operationsParts d) := rfl

/-- what is known of an operations module through which lexing comes -/
structure OperationsPassed (d : Documentation) : Prop where
  imports : ∀ name ∈ importsOf (stubsOf d.operations).value, isIdentifier name.toList = true
  stubs : ∀ op ∈ d.operations, (Stub.ofOperation op).value.Passed

theorem listsAlike_operations (eq : d.mute = d'.mute) (h : d.Writable) (h' : d'.Writable) :
    ListsAlike ButDocumentation (OperationsPassed d) (operationsParts d) (operationsParts d') := by
  have joins := joins_butDocumentation
  have imports : importsOf (stubsOf d'.operations).value = importsOf (stubsOf d.operations).value := by
    rw [← importsOf_mute d', ← eq, importsOf_mute d]
  have words : ∀ name ∈ importsOf (stubsOf d.operations).value, IsWord name.toList :=
    fun name mem => isWord_of_mem_imports mem
  have typing : IsPart (importLine "typing" ["Any"]) _ :=
    isPart_importLine spells_typing (by decide) (by decide) (by decide)
  have front := ((typing.alike joins).list joins).append joins (listsAlike_imports joins words)
  obtain ⟨lexed, ends, ends'⟩ := front.append joins (listsAlike_stubs eq h h')
  unfold operationsParts
  rw [imports]
  exact ⟨lexed.imp fun known => ⟨known.1.2, known.2⟩, ends, ends'⟩

/-- **The operations modules of documentations that differ in their free texts are lexed alike.** -/
theorem lexedAlike_operations (eq : d.mute = d'.mute) (h : d.Writable) (h' : d'.Writable) :
    LexedAlike ButDocumentation (OperationsPassed d) (closeLines (operationsText d).value.toList)
      (closeLines (operationsText d').value.toList) :=
  (listsAlike_operations eq h h').page joins_butDocumentation

end Module

end ApiTypes
