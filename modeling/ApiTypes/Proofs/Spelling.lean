/-
Spelling.

A text spells tokens when lexing goes through it by these tokens. The printer puts names, brackets and quoted texts
together by marks with blanks behind them; a name must end where the next piece begins, and every bracket needs room
among those that are open.
-/
import ApiTypes.Proofs.Denotation
import ApiTypes.Proofs.Lexing
import ApiTypes.Proofs.ParsingStatement

namespace ApiTypes.Source

open Lexing ApiTypes.Text

/-! ## Clean texts -/

/-- the text holds no carriage return and no null character -/
def Clean (text : List Char) : Prop := '\r' ∉ text ∧ '\x00' ∉ text

instance (text : List Char) : Decidable (Clean text) := inferInstanceAs (Decidable (_ ∧ _))

theorem clean_append {text other : List Char} : Clean (text ++ other) ↔ Clean text ∧ Clean other := by
  simp only [Clean, List.mem_append, not_or]
  tauto

theorem clean_cons {c : Char} {text : List Char} : Clean (c :: text) ↔ Clean [c] ∧ Clean text := by
  rw [← List.singleton_append, clean_append]

theorem clean_flatMap {α : Type} {parts : List α} {f : α → List Char} (h : ∀ p ∈ parts, Clean (f p)) :
    Clean (parts.flatMap f) := by
  constructor
  · intro mem
    obtain ⟨p, hp, mem⟩ := List.mem_flatMap.1 mem
    exact (h p hp).1 mem
  · intro mem
    obtain ⟨p, hp, mem⟩ := List.mem_flatMap.1 mem
    exact (h p hp).2 mem

theorem Clean.lineFeeds {text : List Char} (h : Clean text) : Text.lineFeeds text = text := by
  induction text with
  | nil => rfl
  | cons c rest ih =>
    obtain ⟨first, others⟩ := clean_cons.1 h
    have other : c ≠ '\r' := fun eq => first.1 (by simp [eq])
    rw [Literal.lineFeeds_cons other, ih others]

theorem clean_name {name : List Char} (h : isIdentifier name = true) : Clean name := by
  have all := isIdentifier_all h
  rw [List.all_eq_true] at all
  constructor
  · intro mem
    exact absurd (all _ mem) (by decide)
  · intro mem
    exact absurd (all _ mem) (by decide)

theorem clean_hexDigits (width n : Nat) : Clean (hexDigits width n) := by
  have digits : ∀ k < 16, Clean [hexDigit k] := by decide
  induction width generalizing n with
  | zero => exact ⟨by simp [hexDigits], by simp [hexDigits]⟩
  | succ width ih =>
    rw [hexDigits]
    exact clean_append.2 ⟨ih _, digits _ (Nat.mod_lt n (by omega))⟩

/-- what is written for a character between quotes is clean, whatever the character -/
theorem clean_escape {quote : Char} (isQuote : quote ∈ Literal.quotes) (c : Char) : Clean (escape quote c) := by
  have code (letter : Char) (width : Nat) (clean : Clean ['\\', letter]) :
      Clean ('\\' :: letter :: hexDigits width c.toNat) := by
    have whole := clean_append.2 ⟨clean, clean_hexDigits width c.toNat⟩
    exact whole
  unfold escape
  split_ifs with own feed carriage tab printable two four
  · have known : ∀ q ∈ '\\' :: Literal.quotes, Clean ['\\', q] := Literal.forall_mem_of_all (by decide)
    refine known c ?_
    rcases Bool.or_eq_true_iff.1 own with eq | eq
    · rw [beq_iff_eq.1 eq]
      exact List.mem_cons_self
    · rw [beq_iff_eq.1 eq]
      exact List.mem_cons_of_mem _ isQuote
  · decide
  · decide
  · decide
  · constructor
    · intro mem
      rw [← List.mem_singleton.1 mem] at printable
      exact absurd printable (by decide)
    · intro mem
      rw [← List.mem_singleton.1 mem] at printable
      exact absurd printable (by decide)
  · exact code 'x' 2 (by decide)
  · exact code 'u' 4 (by decide)
  · exact code 'U' 8 (by decide)

theorem clean_quoted (text : String) : Clean (quoted text).toList := by
  have isQuote := quoteFor_mem text.toList
  have mark : Clean [quoteFor text.toList] := by
    have known : ∀ q ∈ Literal.quotes, Clean [q] := Literal.forall_mem_of_all (by decide)
    exact known _ isQuote
  have body : Clean (text.toList.flatMap (escape (quoteFor text.toList))) :=
    clean_flatMap fun c _ => clean_escape isQuote c
  rw [quoted, String.toList_ofList, quotedChars]
  exact clean_append.2 ⟨clean_cons.2 ⟨mark, body⟩, mark⟩

/-! ## Pieces -/

/-- the text is lexed as these tokens before what delimits a name, if so many brackets more may be opened -/
structure Spells (deep : Nat) (text : List Char) (tokens : List Token) : Prop where
  clean : Clean text
  goes : ∀ rest columns brackets, delimited rest = true → brackets.length + deep ≤ 200 →
    Goes ⟨false, text ++ rest, columns, brackets⟩ ⟨false, rest, columns, brackets⟩ tokens

/-- the text is lexed as these tokens whatever stands behind it -/
structure Glues (text : List Char) (tokens : List Token) : Prop where
  clean : Clean text
  goes : ∀ rest columns brackets, Goes ⟨false, text ++ rest, columns, brackets⟩ ⟨false, rest, columns, brackets⟩ tokens

section

variable {deep : Nat} {text other : List Char} {tokens more : List Token}

theorem delimited_append (h : delimited text = true) (other : List Char) : delimited (text ++ other) = true := by
  cases text with
  | nil => cases h
  | cons c rest => exact h

theorem Spells.mono {deep' : Nat} (h : Spells deep text tokens) (le : deep ≤ deep') : Spells deep' text tokens :=
  ⟨h.clean, fun rest columns brackets ends room => h.goes rest columns brackets ends (by omega)⟩

theorem Spells.append (h : Spells deep text tokens) (h' : Spells deep other more) (ends : delimited other = true) :
    Spells deep (text ++ other) (tokens ++ more) := by
  refine ⟨clean_append.2 ⟨h.clean, h'.clean⟩, fun rest columns brackets ends' room => ?_⟩
  have first := h.goes (other ++ rest) columns brackets (delimited_append ends rest) room
  rw [List.append_assoc]
  exact first.trans (h'.goes rest columns brackets ends' room)

theorem Glues.before (h : Glues text tokens) (h' : Spells deep other more) : Spells deep (text ++ other) (tokens ++ more) := by
  refine ⟨clean_append.2 ⟨h.clean, h'.clean⟩, fun rest columns brackets ends room => ?_⟩
  rw [List.append_assoc]
  exact (h.goes (other ++ rest) columns brackets).trans (h'.goes rest columns brackets ends room)

theorem Glues.append (h : Glues text tokens) (h' : Glues other more) : Glues (text ++ other) (tokens ++ more) := by
  refine ⟨clean_append.2 ⟨h.clean, h'.clean⟩, fun rest columns brackets => ?_⟩
  rw [List.append_assoc]
  exact (h.goes (other ++ rest) columns brackets).trans (h'.goes rest columns brackets)

theorem glues_blank : Glues [' '] [] :=
  ⟨by decide, goes_blank⟩

theorem glues_arrow : Glues " -> ".toList [.mark "->"] := by
  have arrow : Glues ['-', '>'] [.mark "->"] := ⟨by decide, goes_arrow⟩
  exact glues_blank.append (arrow.append glues_blank)

/-- a mark with a blank behind it -/
theorem glues_mark {c : Char} (h : (c, ' ') ∈ plainMarks) : Glues [c, ' '] [.mark (String.singleton c)] := by
  have clean : ∀ p ∈ plainMarks, Clean [p.1, ' '] := by decide
  refine ⟨clean _ h, fun rest columns brackets => ?_⟩
  exact (goes_mark h rest columns brackets).trans (goes_blank rest columns brackets)

theorem glues_comma : Glues ", ".toList [.mark ","] := glues_mark (by decide)

theorem glues_colon : Glues ": ".toList [.mark ":"] := glues_mark (by decide)

theorem glues_equals : Glues " = ".toList [.mark "="] := glues_blank.append (glues_mark (by decide))

theorem glues_bar : Glues " | ".toList [.mark "|"] := glues_blank.append (glues_mark (by decide))

theorem spells_nil : Spells deep [] [] :=
  ⟨by decide, fun _ _ _ _ _ => Goes.refl _⟩

theorem spells_name {name : String} (h : isIdentifier name.toList = true) : Spells deep name.toList [.name name] := by
  refine ⟨clean_name h, fun rest columns brackets ends _ => ?_⟩
  have goes := goes_name h ends columns brackets
  rwa [String.ofList_toList] at goes

theorem spells_quoted (text : String) :
    ∃ body, Literal.decode {} body = .ok text ∧ Spells deep (quoted text).toList [.text {} body] := by
  obtain ⟨body, decoded, goes⟩ := goes_quoted text
  exact ⟨body, decoded, clean_quoted text, fun rest columns brackets ends _ => goes rest columns brackets ends⟩

/-- a closing bracket delimits a name -/
theorem closing_cases {opening closing : Char} (pair : closing? opening = some closing) :
    Clean [opening, closing] ∧ delimited [closing] = true := by
  unfold closing? at pair
  split at pair <;> cases pair <;> decide

/-- brackets around a text -/
theorem Spells.brackets {opening closing : Char} (h : Spells deep text tokens) (isOpening : opening ∈ openings)
    (pair : closing? opening = some closing) :
    Spells (deep + 1) (opening :: (text ++ [closing]))
      (.mark (String.singleton opening) :: (tokens ++ [.mark (String.singleton closing)])) := by
  obtain ⟨clean, delimits⟩ := closing_cases pair
  obtain ⟨cleanOpening, cleanClosing⟩ := clean_cons.1 clean
  refine ⟨clean_cons.2 ⟨cleanOpening, clean_append.2 ⟨h.clean, cleanClosing⟩⟩, fun rest columns brackets ends room => ?_⟩
  have free : brackets.length < 200 := by omega
  have inside := h.goes (closing :: rest) columns (opening :: brackets) (delimited_append delimits rest)
    (by rw [List.length_cons]; omega)
  have opened := goes_open isOpening (text ++ closing :: rest) columns free
  have whole := opened.trans (inside.trans (goes_close pair rest columns brackets))
  simpa using whole

theorem spells_star : Spells deep ['*'] [.mark "*"] := by
  refine ⟨by decide, fun rest columns brackets ends _ => ?_⟩
  cases rest with
  | nil => cases ends
  | cons c more =>
    have delimiter : c ∈ delimiters := by simpa [delimited] using ends
    have plain : ('*', c) ∈ plainMarks := List.mem_append_right _ (List.mem_map_of_mem delimiter)
    exact goes_mark plain more columns brackets

/-- texts with commas between them -/
theorem spells_separated {items : List (List Char × List Token)} (h : ∀ i ∈ items, Spells deep i.1 i.2) :
    Spells deep (", ".toList.intercalate (items.map Prod.fst)) (separated (items.map Prod.snd)) := by
  induction items with
  | nil => exact spells_nil
  | cons first rest ih =>
    have later := ih fun i hi => h i (List.mem_cons_of_mem _ hi)
    have own := h first List.mem_cons_self
    cases rest with
    | nil => simpa [separated] using own
    | cons second rest =>
      have whole := own.append (glues_comma.before later) rfl
      simpa [separated, List.intercalate_cons_cons] using whole

end

/-! ## Types -/

/-- the text is a primary expression with so many brackets inside each other, at most -/
def SpellsPrimary (deep : Nat) (text : String) : Prop :=
  ∃ tokens e, Spells deep text.toList tokens ∧ IsPrimary tokens e

/-- the text is an expression with so many brackets inside each other, at most -/
def SpellsExpression (deep : Nat) (text : String) : Prop :=
  ∃ tokens e, Spells deep text.toList tokens ∧ IsExpression tokens e

/-- is it the type of a field that may be absent, by its mark? -/
def Expr.isMarked : Expr → Bool
  | .subscript (.name "NotRequired") _ => true
  | _ => false

/-- the text is a primary expression without the mark of a field that may be absent -/
def SpellsUnmarked (deep : Nat) (text : String) : Prop :=
  ∃ tokens e, Spells deep text.toList tokens ∧ IsPrimary tokens e ∧ e.isMarked = false

section

variable {deep : Nat} {text name : String}

theorem SpellsPrimary.expression (h : SpellsPrimary deep text) : SpellsExpression deep text := by
  obtain ⟨tokens, e, spells, isPrimary⟩ := h
  exact ⟨tokens, e, spells, isPrimary.expression⟩

theorem SpellsPrimary.mono {deep' : Nat} (h : SpellsPrimary deep text) (le : deep ≤ deep') : SpellsPrimary deep' text := by
  obtain ⟨tokens, e, spells, isPrimary⟩ := h
  exact ⟨tokens, e, spells.mono le, isPrimary⟩

theorem spellsPrimary_name (h : Module.isPlainField name = true) : SpellsPrimary deep name := by
  obtain ⟨isName, notReserved⟩ := Module.isPlainField_iff.1 h
  exact ⟨_, _, spells_name isName, isPrimary_name notReserved⟩

theorem spellsPrimary_quoted (text : String) : SpellsPrimary deep (quoted text) := by
  obtain ⟨body, decoded, spells⟩ := spells_quoted text
  exact ⟨_, _, spells, isPrimary_text decoded⟩

/-- an item of a name -/
theorem SpellsPrimary.exists_itemOf (h : SpellsPrimary deep text) (isName : Module.isPlainField name = true) :
    ∃ tokens e, Spells (deep + 1) (name ++ "[" ++ text ++ "]").toList tokens ∧
      IsPrimary tokens (.subscript (.name name) e) := by
  obtain ⟨tokens, e, spells, isPrimary⟩ := h
  obtain ⟨isIdentifier, notReserved⟩ := Module.isPlainField_iff.1 isName
  have bracketed := spells.brackets (by decide : '[' ∈ openings) rfl
  have whole := (spells_name isIdentifier).append bracketed rfl
  refine ⟨_, e, ?_, isPrimary.expression.itemOf notReserved⟩
  simpa using whole

/-- a dictionary of unknown content -/
theorem spellsUnmarked_dictionary : SpellsUnmarked (deep + 1) "dict[str, Any]" := by
  have str : Spells deep "str".toList [.name "str"] := spells_name (by decide)
  have any : Spells deep "Any".toList [.name "Any"] := spells_name (by decide)
  have items := (str.append (glues_comma.before any) rfl).brackets (by decide : '[' ∈ openings) rfl
  have whole := (spells_name (by decide : isIdentifier "dict".toList = true)).append items rfl
  have isStr : IsExpression [.name "str"] (.name "str") := (isPrimary_name (by decide)).expression
  have isAny : IsExpression [.name "Any"] (.name "Any") := (isPrimary_name (by decide)).expression
  exact ⟨_, _, whole, isStr.itemsOf (by decide) isAny, rfl⟩

/-- with `None` as an alternative -/
theorem SpellsPrimary.orNone (h : SpellsPrimary deep text) : SpellsExpression deep (text ++ " | None") := by
  obtain ⟨tokens, e, spells, isPrimary⟩ := h
  have none : Spells deep "None".toList [.name "None"] := spells_name (by decide)
  refine ⟨_, _, ?_, isPrimary.orNone⟩
  have whole := spells.append (glues_bar.before none) rfl
  simpa using whole

theorem SpellsUnmarked.primary (h : SpellsUnmarked deep text) : SpellsPrimary deep text := by
  obtain ⟨tokens, e, spells, isPrimary, -⟩ := h
  exact ⟨tokens, e, spells, isPrimary⟩

theorem spellsUnmarked_name (h : Module.isPlainField name = true) : SpellsUnmarked deep name := by
  obtain ⟨isName, notReserved⟩ := Module.isPlainField_iff.1 h
  exact ⟨_, _, spells_name isName, isPrimary_name notReserved, rfl⟩

theorem spellsUnmarked_quoted (text : String) : SpellsUnmarked deep (quoted text) := by
  obtain ⟨body, decoded, spells⟩ := spells_quoted text
  exact ⟨_, _, spells, isPrimary_text decoded, rfl⟩

theorem SpellsPrimary.listOf (h : SpellsPrimary deep text) : SpellsUnmarked (deep + 1) ("list[" ++ text ++ "]") := by
  have head : "list[" = "list" ++ "[" := by decide
  obtain ⟨tokens, e, spells, isPrimary⟩ := h.exists_itemOf (by decide : Module.isPlainField "list" = true)
  rw [head]
  exact ⟨tokens, _, spells, isPrimary, rfl⟩

/-- with the mark of a field that may be absent, unless the field is required -/
theorem SpellsUnmarked.marked (h : SpellsUnmarked deep text) (required : Bool) :
    ∃ tokens e, Spells (deep + 1) (Module.Line.marked required text).toList tokens ∧ IsPrimary tokens e ∧
      e.isMarked = !required := by
  unfold Module.Line.marked
  cases required with
  | true =>
    obtain ⟨tokens, e, spells, isPrimary, unmarked⟩ := h
    exact ⟨tokens, e, spells.mono (Nat.le_succ deep), isPrimary, unmarked⟩
  | false =>
    have head : "NotRequired[" = "NotRequired" ++ "[" := by decide
    obtain ⟨tokens, e, spells, isPrimary⟩ :=
      h.primary.exists_itemOf (by decide : Module.isPlainField "NotRequired" = true)
    rw [if_neg Bool.false_ne_true, head]
    exact ⟨tokens, _, spells, isPrimary, rfl⟩

end

end ApiTypes.Source

namespace ApiTypes.Module

open ApiTypes.Text ApiTypes.Source

namespace TypeExpr

/-- the levels of list around a type expression -/
def levels : TypeExpr → Nat
  | .list item => item.levels + 1
  | _ => 0

/-- a type expression of words of the language and of class names that can stand as they are -/
inductive Legible : TypeExpr → Prop
  | builtin {name} : name ∈ Declaration.builtins → Legible (.builtin name)
  | any : Legible .any
  | dictionary : Legible .dictionary
  | list {item} : Legible item → Legible (.list item)
  | component {name} : isPlainField name = true → Legible (.component name)
  | record {name} : isPlainField name = true → Legible (.record name)

/-- a type expression is a primary expression, one level of brackets deeper than its lists at most -/
theorem Legible.spells {type : TypeExpr} (h : Legible type) : SpellsUnmarked (type.levels + 1) type.text := by
  induction h with
  | @builtin name known =>
    have words : ∀ word ∈ ["str", "int", "float", "bool"], SpellsUnmarked 1 word := by
      intro word hw
      have plain : ∀ word ∈ ["str", "int", "float", "bool"], isPlainField word = true := by decide
      exact spellsUnmarked_name (plain word hw)
    have anything : SpellsPrimary 0 "Any" := spellsPrimary_name (by decide)
    simp only [Declaration.builtins, List.mem_cons, List.not_mem_nil, or_false] at known
    rcases known with rfl | rfl | rfl | rfl | rfl | rfl
    · exact words _ (by decide)
    · exact words _ (by decide)
    · exact words _ (by decide)
    · exact words _ (by decide)
    · exact anything.listOf
    · exact spellsUnmarked_dictionary
  | any => exact spellsUnmarked_name (by decide)
  | dictionary => exact spellsUnmarked_dictionary
  | list _ ih => exact ih.primary.listOf
  | component plain => exact spellsUnmarked_name plain
  | record plain => exact spellsUnmarked_name plain

end TypeExpr

end ApiTypes.Module
