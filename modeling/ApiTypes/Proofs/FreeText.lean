/-
Free text cannot inject code.

For two documentations that differ in their free texts only, the components modules have the same tokens, and so have the
operations modules but for the texts of the stubs' documentation. So either both modules of a pair are read, as the same
statements but for that documentation, or neither is. An operations module can be unread in two ways: lexing stops in both,
or a class that signatures mention is a reserved word, at whose import reading halts before it comes to any stub.

Main statement: `free_texts_inert`.
-/
import ApiTypes.Proofs.BlindStatement
import ApiTypes.Proofs.Halting
import ApiTypes.Proofs.MutedOperations

namespace ApiTypes

namespace Source

/-- the statement without the text of its documentation, if it is a function that has some -/
def Statement.undocumented : Statement → Statement
  | .function name (.expression (.text _) :: body) => .function name (.expression (.text "") :: body)
  | s => s

theorem Lexed.complaint?_eq_none {lexed : Lexed} : lexed.complaint? = none ↔ lexed.stop = .complete := by
  unfold complaint?
  split <;> simp_all

/-- a text without null characters has none before its line ends are made line feeds -/
theorem Clean.not_mem_null {text : String} (h : Clean (closeLines text.toList)) : '\x00' ∉ text.toList := by
  intro mem
  refine h.2 ?_
  have kept := mem_lineFeeds (by decide) mem
  rw [closeLines]
  split_ifs
  · exact kept
  · exact List.mem_append_left _ kept

open Lexing in
/-- the tokens of statements that are laid out, of a line behind them, and of what comes after -/
theorem tokens_of_laid {same : List Token → List Token → Prop} {holds : Prop} {text line rest : List Char}
    {statements : List Statement} {tokens : List Token} (h : Laid text statements) (passes : Passes 0 line tokens)
    (starts : startsLine line = true) (nonempty : line ≠ []) (after : LexedAlike same holds rest rest) {whole : String}
    (eq : closeLines whole.toList = text ++ (line ++ ['\n'] ++ rest)) :
    ∃ (parts : List (List Token × Statement)) (more : List Token),
      (∀ part ∈ parts, IsStatement 2 part.1 part.2) ∧
        (Lexed.ofText whole.toList).tokens = (parts.map Prod.fst).flatten ++ (tokens ++ .newline :: more) := by
  obtain ⟨parts, -, all, goes⟩ := h.goes
  obtain ⟨behind, known, front, same, through⟩ := goes [] (by decide)
  have closed : Through (text ++ (line ++ ['\n'])) [] [] (front ++ (closing behind ++ (tokens ++ [.newline]))) := by
    refine Through.append through fun rest => ?_
    have starts' := startsLine_append (startsLine_append starts nonempty ['\n']) (by simp) rest
    have passed := passes ('\n' :: rest) [] [] rfl rfl
    rw [List.append_assoc] at starts' ⊢
    exact (goes_closing starts' known).trans (passed.trans (goes_newline rest []))
  have chars : text ++ (line ++ ['\n'] ++ rest) = text ++ (line ++ ['\n']) ++ rest := by simp
  have split (more : List Token) : front ++ (closing behind ++ (tokens ++ [.newline])) ++ more =
      (parts.map Prod.fst).flatten ++ (tokens ++ .newline :: more) := by
    rw [← List.append_assoc front, same]
    simp [closing]
  obtain ⟨own, other, -, outcome⟩ := after.outcome [] (by decide)
  rw [Lexed.ofText, eq, chars]
  rcases outcome with ⟨-, last, mem, onward, -⟩ | ⟨complaint, short, -⟩
  · obtain ⟨lexed, -⟩ := (closed.append onward).lexed mem
    refine ⟨parts, own ++ (closing last ++ [.finish]), all, ?_⟩
    rw [lexed, ← split]
    simp
  · obtain ⟨lexed, -⟩ := (closed.short short).lexed
    exact ⟨parts, own, all, lexed.trans (split own)⟩

end Source

namespace Module

open Source Source.Lexing Text

variable {d d' : Documentation} {s : Stub} {head : List Statement}

/-! ## Modules that lexing comes through -/

/-- a stub that lexing comes through is read when its types are legible -/
theorem Stub.Passed.isPart (h : s.Passed) (worded : s.Worded) (documented : s.Documented)
    (legible : ∀ type ∈ s.types, (TypeExpr.flat type).Legible) :
    ∃ text, IsPart s.text [.function s.name (stubBody text)] := by
  obtain ⟨tokens, passes, isStatement⟩ := h
  obtain ⟨text, -, parts, full, body, statements, lines⟩ := documented.body
  obtain ⟨own, lexes, -⟩ := worded.lexes_heading
  have nonempty : s.heading ≠ [] := List.cons_ne_nil _ _
  have inner : ∀ part ∈ parts.map Prod.snd, IsStatement 1 part.1 part.2 := by
    intro part mem
    obtain ⟨p, hp, rfl⟩ := List.mem_map.1 mem
    exact (body p hp).isStatement
  have function := isStatement legible (parts.map Prod.snd) (by simpa using full) inner
  rw [List.map_map] at function
  have chunk := isChunk_block lexes.clean (fun rest ends => passes rest [] [] ends rfl) rfl nonempty full body function
  rw [lines] at chunk
  refine ⟨text, ⟨?_, s.ends_text⟩⟩
  rw [Stub.lineFeeds_text lexes.clean, ← statements]
  exact Laid.single chunk

/-- without reserved words among the classes that are mentioned, the module is read -/
theorem OperationsPassed.reads (passed : OperationsPassed d) (h : d.Writable) (isHead : IsPart Module.head head)
    (allowed : ∀ name ∈ importsOf (stubsOf d.operations).value, isReserved name = false) :
    ∃ functions, read (operationsText d).value = .ok (head ++ behindHead d functions) ∧
      List.Forall₂ StubOf d.operations functions := by
  have plain : ∀ name ∈ importsOf (stubsOf d.operations).value, isPlainField name = true :=
    fun name mem => isPlainField_iff.2 ⟨passed.imports name mem, allowed name mem⟩
  refine reads_functions isHead plain fun op hop => ?_
  refine (passed.stubs op hop).isPart (worded_ofOperation op) (documented_ofOperation h hop) fun type mem => ?_
  obtain ⟨names, emitted⟩ := emitted_types op type mem
  refine (legible_flat emitted fun c hc => plain _ ?_).1
  have stub : (Stub.ofOperation op).value ∈ (stubsOf d.operations).value := by
    rw [stubsOf_value]
    exact List.mem_map_of_mem hop
  exact mem_importsOf.2 ⟨_, stub, mem_references.2 ⟨type, mem, c, hc, rfl⟩⟩

/-- with one among them, reading halts at the import -/
theorem toOption_read_of_reserved (h : d.Writable)
    (areNames : ∀ name ∈ importsOf (stubsOf d.operations).value, isIdentifier name.toList = true)
    (reserved : ∃ name ∈ importsOf (stubsOf d.operations).value, isReserved name = true) :
    (read (operationsText d).value).toOption = none := by
  obtain ⟨e, isHead⟩ := isPart_head
  have typing : IsPart (importLine "typing" ["Any"]) _ :=
    isPart_importLine spells_typing (by decide) (by decide) (by decide)
  have stubs := (listsAlike_stubs (d := d) rfl h h).lexed
  have ends := (listsAlike_operations (d := d) rfl h h).ends
  have page := closeLines_page ends
  rw [← operationsText_value, operationsParts] at page
  generalize importsOf (stubsOf d.operations).value = imports at areNames reserved page
  obtain ⟨first, rest, rfl⟩ : ∃ first rest, imports = first :: rest := by
    obtain ⟨name, mem, -⟩ := reserved
    exact List.exists_cons_of_ne_nil (List.ne_nil_of_mem mem)
  have line := spells_importChars spells_beside areNames
  have feeds : lineFeeds (importLine ".components" (first :: rest)).toList =
      importChars ".components" (first :: rest) ++ ['\n'] := by
    rw [toList_importLine]
    exact (clean_append.2 ⟨line.clean, by decide⟩).lineFeeds
  have split : closeLines (operationsText d).value.toList =
      (lineFeeds Module.head.toList ++ ('\n' :: lineFeeds (importLine "typing" ["Any"]).toList ++ ['\n'])) ++
        (importChars ".components" (first :: rest) ++ ['\n'] ++
          ((stubsOf d.operations).value.map fun s => "\n" ++ s.text).flatMap fun p => '\n' :: lineFeeds p.toList) := by
    rw [page, ← feeds]
    simp
  have front := isHead.laid.append (Laid.append (.blank typing.laid) (.blank .nil))
  obtain ⟨parts, more, all, tokens⟩ := tokens_of_laid front (line.passes (by omega)) rfl (List.cons_ne_nil _ _) stubs split
  have isName : Module.isReserved "components" = false := by decide
  have halts := halts_importFrom true isName reserved more
  apply toOption_read_of_halts
  rw [tokens, List.append_assoc]
  exact halts_module all (by decide) (by decide) halts

/-! ## Pairs of modules -/

/-- the statements of operations with the same names, but for their documentation -/
theorem undocumented_functions {operations operations' : List Operation} {functions functions' : List Statement}
    (h : List.Forall₂ StubOf operations functions) (h' : List.Forall₂ StubOf operations' functions')
    (names : operations.map Operation.name = operations'.map Operation.name) :
    functions.map Statement.undocumented = functions'.map Statement.undocumented := by
  induction h generalizing operations' functions' with
  | nil =>
    rw [List.map_nil] at names
    rw [List.map_eq_nil_iff.1 names.symm] at h'
    cases h'
    rfl
  | cons first _ ih =>
    cases h' with
    | nil => cases names
    | cons second others =>
      obtain ⟨text, rfl⟩ := first
      obtain ⟨text', rfl⟩ := second
      rw [List.map_cons, List.map_cons, List.cons.injEq] at names
      rw [List.map_cons, List.map_cons, ih others names.2, names.1]
      rfl

/-- the statements of two operations modules that lexing comes through -/
theorem undocumented_operations (eq : d.mute = d'.mute) (h : d.Writable) (h' : d'.Writable)
    (passed : OperationsPassed d) (passed' : OperationsPassed d') :
    (read (operationsText d).value).toOption.map (List.map Statement.undocumented) =
      (read (operationsText d').value).toOption.map (List.map Statement.undocumented) := by
  have imports : importsOf (stubsOf d'.operations).value = importsOf (stubsOf d.operations).value := by
    rw [← importsOf_mute d', ← eq, importsOf_mute d]
  by_cases reserved : ∃ name ∈ importsOf (stubsOf d.operations).value, isReserved name = true
  · rw [toOption_read_of_reserved h passed.imports reserved,
      toOption_read_of_reserved h' passed'.imports (by rwa [imports])]
  · have allowed : ∀ name ∈ importsOf (stubsOf d.operations).value, isReserved name = false := by simpa using reserved
    obtain ⟨e, isHead⟩ := isPart_head
    obtain ⟨functions, isRead, stubs⟩ := passed.reads h isHead allowed
    obtain ⟨functions', isRead', stubs'⟩ := passed'.reads h' isHead (by rwa [imports])
    have names : d.operations.map Operation.name = d'.operations.map Operation.name := by
      have operations := congrArg (fun d : Documentation => d.operations.map Operation.name) eq
      simpa [Documentation.mute, Function.comp_def, Operation.mute] using operations
    rw [isRead, isRead', behindHead, behindHead, imports]
    simp only [Except.toOption, Option.map_some, List.map_append, List.map_cons,
      undocumented_functions stubs stubs' names]

/-- **Free text cannot inject code.** Take two documentations that are the same but for descriptions, examples and
defaults, where parameters stand, and the summaries, endpoints, groups and operation ids of operations, in none of which a
null character is printed. Their components modules have the same tokens. Their operations modules have the same tokens
but for the documentation that blocks open with. Lexing stops early in both modules of a pair, for the same reason, or in
neither; and both are read, as the same statements but for the documentation of functions, or neither is. -/
theorem free_texts_inert {d d' : Documentation} (eq : d.mute = d'.mute) (h : d.Writable) (h' : d'.Writable) :
    ((Lexed.ofText (componentsText d).value.toList).tokens = (Lexed.ofText (componentsText d').value.toList).tokens ∧
      (Lexed.ofText (componentsText d).value.toList).complaint? =
        (Lexed.ofText (componentsText d').value.toList).complaint? ∧
      (read (componentsText d).value).toOption = (read (componentsText d').value).toOption) ∧
    (ButDocumentation (Lexed.ofText (operationsText d).value.toList).tokens
        (Lexed.ofText (operationsText d').value.toList).tokens ∧
      (Lexed.ofText (operationsText d).value.toList).complaint? =
        (Lexed.ofText (operationsText d').value.toList).complaint? ∧
      (read (operationsText d).value).toOption.map (List.map Statement.undocumented) =
        (read (operationsText d').value).toOption.map (List.map Statement.undocumented)) := by
  have components := lexedAlike_components eq h h'
  have operations := lexedAlike_operations eq h h'
  obtain ⟨tokens, complaint, -⟩ := components.lexed joins_eq
  obtain ⟨alike, stop, known⟩ := operations.lexed joins_butDocumentation
  obtain ⟨-, -, known'⟩ := (lexedAlike_operations eq.symm h' h).lexed joins_butDocumentation
  refine ⟨⟨tokens, complaint, ?_⟩, alike, stop, ?_⟩
  · exact toOption_read_eq components.clean.not_mem_null components.clean'.not_mem_null tokens
  · cases stopped : (Lexed.ofText (operationsText d).value.toList).complaint? with
    | none => exact undocumented_operations eq h h' (known stopped) (known' (stop ▸ stopped))
    | some reason =>
      have early : (Lexed.ofText (operationsText d).value.toList).stop ≠ .complete := fun complete => by
        rw [Lexed.complaint?_eq_none.2 complete] at stopped
        cases stopped
      have early' : (Lexed.ofText (operationsText d').value.toList).stop ≠ .complete := fun complete => by
        rw [stop, Lexed.complaint?_eq_none.2 complete] at stopped
        cases stopped
      rw [toOption_read_eq_none early, toOption_read_eq_none early']

/-- one component and one operation with these free texts -/
def told (description endpoint summary : String) : Documentation where
  components := [("Pet", ⟨[⟨"name", .scalar "string", description, .str description, true⟩], []⟩)]
  operations :=
    [{ endpoint, name := "get_pet", operationId := endpoint, summary, method := .get, group := summary,
       responseType := .component "Pet",
       arguments := [⟨"id", summary, "string", .str endpoint, true, description⟩] }]

/-- texts that say nothing -/
def quiet : Documentation := told "" "/" ""

/-- texts that would end a comment or documentation if they could -/
def hostile : Documentation :=
  told "\n    owner: str\r\x0c\u2028x" "/\"\"\"\nimport os\n\"\"\"\\" "\"\"\"\\"

/-- such texts are read, and like none -/
theorem hostile_inert : quiet.mute = hostile.mute ∧ quiet.Writable ∧ hostile.Writable ∧
    (∃ statements, read (operationsText hostile).value = .ok statements) ∧
    (read (componentsText quiet).value).toOption = (read (componentsText hostile).value).toOption ∧
      (read (operationsText quiet).value).toOption.map (List.map Statement.undocumented) =
        (read (operationsText hostile).value).toOption.map (List.map Statement.undocumented) := by
  have printable : hostile.Printable := ⟨by decide, by decide, by decide, by decide, by decide⟩
  obtain ⟨e, functions, isRead, -⟩ := reads_stubs printable
  have same : quiet.mute = hostile.mute := rfl
  have writable : quiet.Writable := ⟨by decide, by decide⟩
  have writable' : hostile.Writable := ⟨by decide, by decide⟩
  obtain ⟨⟨-, -, components⟩, -, -, operations⟩ := free_texts_inert same writable writable'
  exact ⟨same, writable, writable', ⟨_, isRead⟩, components, operations⟩

end Module

end ApiTypes
