/-
Generated modules are read back.

Each part of a generated page is laid out as statements: the imports, the block of each typed dictionary in either of its
forms, and the stub of each operation, whatever texts its documentation holds.
-/
import ApiTypes.Proofs.Layout

namespace ApiTypes.Source

open Lexing ApiTypes.Text

/-! ## Lists of parts -/

/-- what each of the parts has gives a list of as many -/
theorem exists_map_of_forall {α β γ : Type} {f : α → γ} {g : β → γ} {P : β → Prop} {l : List α}
    (h : ∀ a ∈ l, ∃ b, g b = f a ∧ P b) : ∃ bs : List β, bs.map g = l.map f ∧ ∀ b ∈ bs, P b := by
  induction l with
  | nil => exact ⟨[], rfl, by simp⟩
  | cons a rest ih =>
    obtain ⟨b, eq, holds⟩ := h a List.mem_cons_self
    obtain ⟨bs, eqs, all⟩ := ih fun c hc => h c (List.mem_cons_of_mem _ hc)
    refine ⟨b :: bs, by rw [List.map_cons, List.map_cons, eq, eqs], ?_⟩
    intro c hc
    rcases List.mem_cons.1 hc with rfl | hc
    · exact holds
    · exact all c hc

/-- joined parts, with the separator behind the last of them as well -/
theorem toList_intercalate_append {separator : String} {parts : List String} (nonempty : parts ≠ []) :
    (separator.intercalate parts ++ separator).toList = parts.flatMap fun p => p.toList ++ separator.toList := by
  obtain ⟨first, rest, rfl⟩ := List.exists_cons_of_ne_nil nonempty
  clear nonempty
  induction rest generalizing first with
  | nil => simp
  | cons second rest ih =>
    rw [String.intercalate_cons_cons, String.append_assoc, String.toList_append, ih second]
    simp

/-! ## Line ends -/

/-- line ends are told apart only within a text, unless it ends in a carriage return -/
theorem lineFeeds_append {text : List Char} (h : text.getLast? ≠ some '\r') (other : List Char) :
    lineFeeds (text ++ other) = lineFeeds text ++ lineFeeds other := by
  fun_induction lineFeeds text with
  | case1 rest ih =>
    have last : rest.getLast? ≠ some '\r' := by
      cases rest with
      | nil => simp
      | cons c more => simpa using h
    rw [List.cons_append, List.cons_append, lineFeeds, ih last]
    rfl
  | case2 rest alone ih =>
    cases rest with
    | nil => simp at h
    | cons c more =>
      have other : ∀ others : List Char, c :: more ++ other = '\n' :: others → False := by
        rintro others eq
        exact alone more (by rw [(List.cons.inj eq).1])
      rw [List.cons_append, lineFeeds, ih (by simpa using h)]
      · rfl
      · exact other
  | case3 c rest _ notReturn ih =>
    have last : rest.getLast? ≠ some '\r' := by
      cases rest with
      | nil => simp
      | cons d more => simpa using h
    rw [List.cons_append, Literal.lineFeeds_cons notReturn, ih last]
    rfl
  | case4 => rfl

theorem mem_lineFeeds {c : Char} (ne : c ≠ '\r') {text : List Char} (h : c ∈ text) : c ∈ lineFeeds text := by
  fun_induction lineFeeds text with
  | case1 rest ih =>
    rcases List.mem_cons.1 h with h | h
    · exact absurd h ne
    · exact List.mem_cons.2 ((List.mem_cons.1 h).imp id ih)
  | case2 rest alone ih =>
    rcases List.mem_cons.1 h with h | h
    · exact absurd h ne
    · exact List.mem_cons_of_mem _ (ih h)
  | case3 d rest _ notReturn ih => exact List.mem_cons.2 ((List.mem_cons.1 h).imp id ih)
  | case4 => exact h

theorem of_mem_lineFeeds {c : Char} {text : List Char} (h : c ∈ lineFeeds text) : c = '\n' ∨ c ∈ text := by
  fun_induction lineFeeds text with
  | case1 rest ih =>
    rcases List.mem_cons.1 h with h | h
    · exact Or.inl h
    · exact (ih h).imp id fun mem => List.mem_cons_of_mem _ (List.mem_cons_of_mem _ mem)
  | case2 rest alone ih =>
    rcases List.mem_cons.1 h with h | h
    · exact Or.inl h
    · exact (ih h).imp id (List.mem_cons_of_mem _)
  | case3 d rest _ notReturn ih =>
    rcases List.mem_cons.1 h with rfl | h
    · exact Or.inr List.mem_cons_self
    · exact (ih h).imp id (List.mem_cons_of_mem _)
  | case4 => exact Or.inr h

theorem getLast?_lineFeeds {c : Char} (ne : c ≠ '\r') {text : List Char} (h : text.getLast? = some c) :
    (lineFeeds text).getLast? = some c := by
  have behind {d : Char} {rest : List Char} (ih : rest.getLast? = some c → (lineFeeds rest).getLast? = some c)
      (last : rest = [] ∨ rest.getLast? = some c) (end_ : rest = [] → d = c) :
      (d :: lineFeeds rest).getLast? = some c := by
    rcases last with rfl | last
    · rw [end_ rfl]
      rfl
    · rw [List.getLast?_cons, ih last]
      rfl
  have inner {d : Char} {rest : List Char} (h : (d :: rest).getLast? = some c) :
      rest = [] ∨ rest.getLast? = some c := by
    cases rest with
    | nil => exact Or.inl rfl
    | cons e more => exact Or.inr (by simpa using h)
  have alone {d : Char} {rest : List Char} (h : (d :: rest).getLast? = some c) (empty : rest = []) : d = c := by
    rw [empty] at h
    exact Option.some.inj h
  fun_induction lineFeeds text with
  | case1 rest ih =>
    have own : ('\n' :: rest).getLast? = some c := by simpa using h
    exact behind ih (inner own) (alone own)
  | case2 rest _ ih => exact behind ih (inner h) fun empty => absurd (alone h empty).symm ne
  | case3 d rest _ _ ih => exact behind ih (inner h) (alone h)
  | case4 => exact h

/-! ## Parts of a page -/

theorem Laid.single {text : List Char} {s : Statement} (h : IsChunk text s) : Laid text [s] := by
  have laid : Laid (text ++ []) [s] := .chunk h .nil
  rwa [List.append_nil] at laid

/-- the part is laid out as these statements, once its line ends are line feeds -/
structure IsPart (part : String) (statements : List Statement) : Prop where
  laid : Laid (lineFeeds part.toList) statements
  ends : part.toList.getLast? = some '\n'

theorem Laid.isPart {part : String} {statements : List Statement} (h : Laid part.toList statements)
    (ends : part.toList.getLast? = some '\n') : IsPart part statements where
  laid := by
    rw [h.clean.lineFeeds]
    exact h
  ends := ends

/-- two parts with an empty line between them -/
theorem IsPart.join {part other : String} {statements more : List Statement} (h : IsPart part statements)
    (h' : IsPart other more) : IsPart (part ++ "\n" ++ other) (statements ++ more) where
  laid := by
    have split : (part ++ "\n" ++ other).toList = part.toList ++ '\n' :: other.toList := by simp
    have last : part.toList.getLast? ≠ some '\r' := by
      rw [h.ends]
      decide
    rw [split, lineFeeds_append last, Literal.lineFeeds_cons (by decide)]
    exact h.laid.append (.blank h'.laid)
  ends := by
    rw [String.toList_append, List.getLast?_append, h'.ends]
    rfl

theorem isPart_joined {first : String} {statements : List Statement} {rest : List String} {more : List (List Statement)}
    (h : IsPart first statements) (h' : List.Forall₂ IsPart rest more) :
    IsPart ("\n".intercalate (first :: rest)) (statements ++ more.flatten) := by
  induction h' generalizing first statements with
  | nil =>
    rw [String.intercalate_singleton, List.flatten_nil, List.append_nil]
    exact h
  | cons second _ ih =>
    rw [String.intercalate_cons_cons, List.flatten_cons]
    exact h.join (ih second)

/-- **A part is read as its statements.** -/
theorem IsPart.read {text : String} {statements : List Statement} (h : IsPart text statements) :
    read text = .ok statements := by
  have noNull : '\x00' ∉ text.toList := fun mem => h.laid.clean.2 (mem_lineFeeds (by decide) mem)
  refine read_of_laid noNull ?_
  rw [closeLines, if_pos (getLast?_lineFeeds (by decide) h.ends)]
  exact h.laid

/-! ## Documentation -/

/-- a text between three quotes -/
theorem spells_documentation {deep : Nat} {body : List Char} (h : Literal.Harmless body)
    (last : body.getLast? ≠ some '"') (clean : Clean body) :
    Spells deep (threeQuotes ++ (body ++ threeQuotes)) [.text {} (String.ofList body)] where
  clean := clean_append.2 ⟨by decide, clean_append.2 ⟨clean, by decide⟩⟩
  goes := by
    intro rest columns brackets _ _
    have goes := goes_harmless h last rest columns brackets
    rwa [List.append_assoc, List.append_assoc]

/-! ## Imports -/

/-- the line that imports names from a module, without its end -/
def importChars (text : String) (names : List String) : List Char :=
  "from".toList ++ ([' '] ++ (text.toList ++ ([' '] ++ ("import".toList ++ ([' '] ++
    ", ".toList.intercalate (names.map String.toList))))))

theorem toList_importLine (text : String) (names : List String) :
    (Module.importLine text names).toList = importChars text names ++ ['\n'] := by
  simp [Module.importLine, importChars]

theorem spells_importChars {beside : Bool} {module text first : String} {rest : List String}
    (spelled : Spells 0 text.toList (dotsFor beside ++ [.name module]))
    (areNames : ∀ name ∈ first :: rest, isIdentifier name.toList = true) :
    Spells 0 (importChars text (first :: rest)) (importHead beside module ++ importTokens first rest) := by
  have word : Spells 0 "from".toList [.name "from"] := spells_name (by decide)
  have imports : Spells 0 "import".toList [.name "import"] := spells_name (by decide)
  have items : ∀ i ∈ (first :: rest).map fun name => (name.toList, [Token.name name]), Spells 0 i.1 i.2 := by
    intro i hi
    obtain ⟨name, mem, rfl⟩ := List.mem_map.1 hi
    exact spells_name (areNames name mem)
  have named : Spells 0 (", ".toList.intercalate ((first :: rest).map String.toList)) (importTokens first rest) := by
    simpa [Function.comp_def, separated, importTokens, List.flatMap_map] using spells_separated items
  have line := word.append (glues_blank.before (spelled.append (glues_blank.before
    (imports.append (glues_blank.before named) rfl)) rfl)) rfl
  simpa [importHead, importChars] using line

/-- names that are imported from a module -/
theorem isPart_importLine {beside : Bool} {module text : String} {names : List String}
    (spelled : Spells 0 text.toList (dotsFor beside ++ [.name module])) (isModule : Module.isReserved module = false)
    (nonempty : names ≠ []) (plain : ∀ name ∈ names, Module.isPlainField name = true) :
    IsPart (Module.importLine text names) [.importFrom (if beside then 1 else 0) (some module) names] := by
  obtain ⟨first, rest, rfl⟩ := List.exists_cons_of_ne_nil nonempty
  have line := spells_importChars spelled fun name mem => (Module.isPlainField_iff.1 (plain name mem)).1
  have simple := isSimple_importFrom beside isModule fun name mem => (Module.isPlainField_iff.1 (plain name mem)).2
  have chunk := isChunk_line line (by decide) rfl (List.cons_ne_nil _ _) simple
  refine Laid.isPart ?_ ?_
  · rw [toList_importLine]
    exact Laid.single chunk
  · rw [toList_importLine, List.getLast?_append]
    rfl

/-- what every page opens with -/
theorem isPart_head : ∃ e, IsPart Module.head [.expression e, .importFrom 0 (some "__future__") ["annotations"]] := by
  have harmless : Literal.Harmless ("Generated by openapi-typegen. Do not edit.".toList ++ []) :=
    Literal.Harmless.nil.behind (Literal.forall_mem_of_all (by decide))
  rw [List.append_nil] at harmless
  obtain ⟨text, decoded⟩ := Literal.decode_harmless harmless
  have spelled : Spells 0 _ _ := spells_documentation harmless (by decide) (by decide)
  have chunk := isChunk_line spelled (by decide) rfl (by decide) (isSimple_text decoded)
  have line : IsPart "\"\"\"Generated by openapi-typegen. Do not edit.\"\"\"\n" [.expression (.text text)] :=
    Laid.isPart (Laid.single chunk) (by decide)
  have future : Spells 0 "__future__".toList (dotsFor false ++ [.name "__future__"]) := spells_name (by decide)
  have imports := isPart_importLine future (by decide) (List.cons_ne_nil "annotations" []) (by decide)
  have eq : Module.head = "\"\"\"Generated by openapi-typegen. Do not edit.\"\"\"\n" ++ "\n" ++
      Module.importLine "__future__" ["annotations"] := by decide
  refine ⟨.text text, ?_⟩
  rw [eq]
  exact line.join imports

end ApiTypes.Source
