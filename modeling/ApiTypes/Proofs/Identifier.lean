/-
The form of identifiers.

A snake-case form holds small letters, digits and single underscores between them, and is its own snake-case form. The
identifier of a name is this form with an underscore before a first digit or behind a reserved word. No snake-case form
begins or ends with an underscore, so that neither guard makes one form look like another. Two names have one identifier
only where they have one snake-case form, or where one has none and stands for the word that is taken instead.

Main statements: `exists_snakeChars_iff`, which texts are snake-case forms; `identifier_inj`, which names have one
identifier; `identifier_lowerName`, what an identifier looks like, and which names share one.
-/
import Mathlib.Data.List.Chain
import Mathlib.Tactic.SplitIfs
import ApiTypes.Proofs.ClassName
import ApiTypes.Proofs.Substitution

namespace ApiTypes.Module

open ApiTypes.Text

/-! ## Snake case, twice -/

/-- no two underscores stand side by side -/
def Single (text : List Char) : Prop := text.IsChain fun a b => ¬ (a = '_' ∧ b = '_')

theorem single_separateFrom (keep : Char → Bool) (kept : keep '_' = false) (text : List Char) (inRun : Bool) :
    Single (separateFrom keep inRun text) ∧ (inRun = true → (separateFrom keep inRun text).head? ≠ some '_') := by
  induction text generalizing inRun with
  | nil => simp [separateFrom, Single]
  | cons c rest ih =>
    rw [separateFrom]
    by_cases own : keep c = true
    · have plain : c ≠ '_' := by
        rintro rfl
        simp [kept] at own
      rw [if_pos own]
      refine ⟨List.isChain_cons.2 ⟨fun d _ both => plain both.1, (ih false).1⟩, fun _ => by simpa using plain⟩
    · rw [if_neg own]
      cases inRun with
      | true => exact ih true
      | false =>
        refine ⟨List.isChain_cons.2 ⟨?_, (ih true).1⟩, by simp⟩
        intro d first both
        exact (ih true).2 rfl (both.2 ▸ Option.mem_def.1 first)

theorem infix_trimBoth (c : Char) (text : List Char) : trimBoth c text <:+: text := by
  have behind : text.dropWhile (· == c) <:+ text := List.dropWhile_suffix _
  have before : trimBoth c text <+: text.dropWhile (· == c) := by
    have reversed := List.dropWhile_suffix (· == c) (l := (text.dropWhile (· == c)).reverse)
    exact List.reverse_suffix.1 (by simpa [trimBoth] using reversed)
  exact before.isInfix.trans behind.isInfix

theorem lowerChar_eq_underscore {c : Char} (h : lowerChar c = '_') : c = '_' := by
  unfold lowerChar at h
  split_ifs at h with upper
  · have letters : ∀ n < 91, 65 ≤ n → Char.ofNat (n + 32) ≠ '_' := by decide
    simp only [isUpper, Bool.and_eq_true, decide_eq_true_eq] at upper
    exact absurd h (letters c.toNat (by omega) upper.1)
  · exact h

theorem isUpper_lowerChar (c : Char) : isUpper (lowerChar c) = false := by
  unfold lowerChar
  split_ifs with upper
  · have letters : ∀ n < 91, 65 ≤ n → isUpper (Char.ofNat (n + 32)) = false := by decide
    simp only [isUpper, Bool.and_eq_true, decide_eq_true_eq] at upper
    exact letters c.toNat (by omega) upper.1
  · simpa using upper

theorem snakeChars_ends (text : List Char) :
    (snakeChars text).head? ≠ some '_' ∧ (snakeChars text).getLast? ≠ some '_' := by
  obtain ⟨head, last⟩ := trimBoth_ends '_' (separate isAsciiAlnum (splitHumps (splitCapitals text)))
  rw [snakeChars, List.head?_map, List.getLast?_map]
  constructor <;> intro h <;> obtain ⟨c, found, lowered⟩ := Option.map_eq_some_iff.1 h
  · exact head (lowerChar_eq_underscore lowered ▸ found)
  · exact last (lowerChar_eq_underscore lowered ▸ found)

theorem single_snakeChars (text : List Char) : Single (snakeChars text) := by
  have separated := (single_separateFrom isAsciiAlnum (by decide) (splitHumps (splitCapitals text)) false).1
  have trimmed : Single (trimBoth '_' (separate isAsciiAlnum (splitHumps (splitCapitals text)))) :=
    separated.infix (infix_trimBoth _ _)
  rw [snakeChars, Single, List.isChain_map]
  exact trimmed.imp fun a b apart both =>
    apart ⟨lowerChar_eq_underscore both.1, lowerChar_eq_underscore both.2⟩

theorem not_isUpper_snakeChars (text : List Char) : ∀ c ∈ snakeChars text, isUpper c = false := by
  intro c mem
  obtain ⟨d, -, rfl⟩ := List.mem_map.1 mem
  exact isUpper_lowerChar d

/-- what a small letter, a digit or an underscore is not, and what it is -/
theorem snakeChar_cases {c : Char} (h : isLower c = true ∨ isAsciiDigit c = true ∨ c = '_') :
    isUpper c = false ∧ (isAsciiAlnum c = true ∨ c = '_') := by
  rcases h with lower | digit | rfl
  · exact ⟨isUpper_of_isLower lower, Or.inl (by simp [isAsciiAlnum, isAsciiLetter, lower])⟩
  · refine ⟨?_, Or.inl (by simp [isAsciiAlnum, digit])⟩
    simp only [isAsciiDigit, isUpper, Bool.and_eq_true, decide_eq_true_eq, Bool.and_eq_false_iff,
      decide_eq_false_iff_not] at digit ⊢
    omega
  · exact ⟨by decide, Or.inr rfl⟩

/-- small letters and digits, and single underscores between them -/
structure IsSnake (text : List Char) : Prop where
  chars : ∀ c ∈ text, isLower c = true ∨ isAsciiDigit c = true ∨ c = '_'
  single : Single text
  head : text.head? ≠ some '_'
  last : text.getLast? ≠ some '_'

theorem isSnake_snakeChars (text : List Char) : IsSnake (snakeChars text) := by
  obtain ⟨head, last⟩ := snakeChars_ends text
  refine ⟨fun c mem => ?_, single_snakeChars text, head, last⟩
  have small := not_isUpper_snakeChars text c mem
  rcases snakeChars_all text c mem with alnum | underscore
  · rw [isAsciiAlnum, isAsciiLetter, small, Bool.or_false, Bool.or_eq_true] at alnum
    exact alnum.imp_right Or.inl
  · exact Or.inr (Or.inr underscore)

section

variable {text : List Char}

theorem splitCapitals_of_lower (h : ∀ c ∈ text, isUpper c = false) : splitCapitals text = text := by
  induction text using splitCapitals.induct with
  | case1 a b c rest capitals _ => simp [h a] at capitals
  | case2 a b c rest other ih =>
    rw [splitCapitals, if_neg other, ih fun d hd => h d (List.mem_cons_of_mem _ hd)]
  | case3 short none => 
    unfold splitCapitals
    split
    · exact absurd rfl (none _ _ _ _)
    · rfl

theorem splitHumps_of_lower (h : ∀ c ∈ text, isUpper c = false) : splitHumps text = text := by
  induction text using splitHumps.induct with
  | case1 a b rest hump _ => simp [h b] at hump
  | case2 a b rest other ih =>
    rw [splitHumps, if_neg other, ih fun d hd => h d (List.mem_cons_of_mem _ hd)]
  | case3 short none =>
    unfold splitHumps
    split
    · exact absurd rfl (none _ _ _)
    · rfl

theorem separateFrom_of_single {keep : Char → Bool} (single : Single text) (h : ∀ c ∈ text, keep c = true ∨ c = '_')
    (inRun : Bool) (begins : inRun = true → text.head? ≠ some '_') : separateFrom keep inRun text = text := by
  induction text generalizing inRun with
  | nil => rfl
  | cons c rest ih =>
    obtain ⟨next, single⟩ := List.isChain_cons.1 single
    have later : ∀ d ∈ rest, keep d = true ∨ d = '_' := fun d hd => h d (List.mem_cons_of_mem _ hd)
    rw [separateFrom]
    by_cases own : keep c = true
    · rw [if_pos own, ih single later false (by simp)]
    · have underscore := (h c List.mem_cons_self).resolve_left own
      have outside : inRun = false := by
        cases inRun with
        | false => rfl
        | true => exact absurd (by rw [underscore]; rfl) (begins rfl)
      have follows : true = true → rest.head? ≠ some '_' := fun _ first => next _ first ⟨underscore, rfl⟩
      rw [if_neg own, outside, ih single later true follows, underscore]
      rfl

end

/-- no step changes such a text: it holds no capital, and what stands between two words is one underscore -/
theorem IsSnake.snakeChars_eq {text : List Char} (h : IsSnake text) : snakeChars text = text := by
  have small : ∀ c ∈ text, isUpper c = false := fun c mem => (snakeChar_cases (h.chars c mem)).1
  have kept : ∀ c ∈ text, isAsciiAlnum c = true ∨ c = '_' := fun c mem => (snakeChar_cases (h.chars c mem)).2
  have lowered : text.map lowerChar = text := by
    rw [List.map_congr_left (g := id), List.map_id]
    intro c mem
    rw [lowerChar, small c mem]
    rfl
  have separated := separateFrom_of_single h.single kept false (by simp)
  rw [snakeChars, splitCapitals_of_lower small, splitHumps_of_lower small, separate, separated,
    trimBoth_of_ends h.head h.last, lowered]

/-- **Which texts are snake-case forms.** -/
theorem exists_snakeChars_iff {text : List Char} : (∃ name, snakeChars name = text) ↔ IsSnake text := by
  constructor
  · rintro ⟨name, rfl⟩
    exact isSnake_snakeChars name
  · exact fun h => ⟨text, h.snakeChars_eq⟩

/-- **The snake-case form is its own**, so that it makes no difference how often it is taken. -/
theorem snakeChars_snakeChars (text : List Char) : snakeChars (snakeChars text) = snakeChars text :=
  (isSnake_snakeChars text).snakeChars_eq

/-! ## Identifiers -/

/-- what an identifier is made from: the snake-case form of the name, or a word where that is empty -/
def stem (name : String) : String := String.ofList (nonEmptyOr "arg".toList (snakeChars name.toList))

theorem toList_stem (name : String) : (stem name).toList = nonEmptyOr "arg".toList (snakeChars name.toList) :=
  String.toList_ofList

theorem stem_snakeCase (name : String) : stem (snakeCase name) = stem name := by
  have chars : (snakeCase name).toList = snakeChars name.toList := String.toList_ofList
  rw [stem, chars, snakeChars_snakeChars, stem]

theorem identifier_eq (name : String) :
    identifier name = unreserve (String.ofList (guardDigit (stem name).toList)) := by
  rw [toList_stem, identifier]

theorem isSnake_stem (name : String) : IsSnake (stem name).toList := by
  rw [toList_stem, nonEmptyOr]
  split_ifs
  · have argument : snakeChars "arg".toList = "arg".toList := by decide
    exact exists_snakeChars_iff.1 ⟨_, argument⟩
  · exact isSnake_snakeChars name.toList

theorem stem_nonempty (name : String) : (stem name).toList ≠ [] := by
  rw [toList_stem, nonEmptyOr]
  split_ifs with empty
  · decide
  · simpa using empty

/-- a small letter or an underscore, then small letters, digits and underscores -/
def isLowerName : List Char → Bool
  | [] => false
  | c :: rest => (isLower c || c == '_') && rest.all fun d => isLower d || isAsciiDigit d || d == '_'

/-- a guarded word begins like a name -/
theorem isLowerName_guardDigit {word : List Char} (snake : IsSnake word) (nonempty : word ≠ []) :
    isLowerName (guardDigit word) = true := by
  cases word with
  | nil => exact absurd rfl nonempty
  | cons c rest =>
    have all : ∀ d ∈ c :: rest, (isLower d || isAsciiDigit d || d == '_') = true := by
      intro d mem
      simpa [or_assoc] using snake.chars d mem
    rw [← List.all_eq_true] at all
    rw [guardDigit]
    by_cases digit : isDigit c = true
    · rw [if_pos digit, isLowerName, all]
      rfl
    · -- the first character is no underscore, and a digit of ASCII is a digit
      have first : isLower c = true := by
        rcases snake.chars c List.mem_cons_self with lower | ascii | rfl
        · exact lower
        · have isDigit_c : isDigit c = true := by
            rw [isDigit, if_pos (isAscii_of_isAsciiAlnum (by simp [isAsciiAlnum, ascii])), ascii]
          exact absurd isDigit_c digit
        · exact absurd rfl snake.head
      rw [List.all_cons, Bool.and_eq_true] at all
      rw [if_neg digit, isLowerName, first, all.2]
      rfl

theorem isLowerName_unreserve {name : String} (h : isLowerName name.toList = true) :
    isLowerName (unreserve name).toList = true := by
  unfold unreserve
  split_ifs
  · rw [String.toList_append]
    cases chars : name.toList with
    | nil =>
      rw [chars] at h
      cases h
    | cons c rest =>
      rw [chars, isLowerName, Bool.and_eq_true] at h
      simp [isLowerName, List.all_append, h.1, h.2]
  · exact h

theorem isLowerName_identifier (name : String) : isLowerName (identifier name).toList = true := by
  rw [identifier_eq]
  refine isLowerName_unreserve ?_
  rw [String.toList_ofList]
  exact isLowerName_guardDigit (isSnake_stem name) (stem_nonempty name)

theorem mem_lowerName {text : List Char} (h : isLowerName text = true) :
    ∀ c ∈ text, isLower c = true ∨ isAsciiDigit c = true ∨ c = '_' := by
  cases text with
  | nil => cases h
  | cons c rest =>
    simp only [isLowerName, Bool.and_eq_true, Bool.or_eq_true, beq_iff_eq, List.all_eq_true, or_assoc] at h
    intro d mem
    rcases List.mem_cons.1 mem with rfl | mem
    · exact h.1.imp_right Or.inr
    · exact h.2 d mem

/-- the characters of an identifier -/
theorem identifier_all (name : String) : ∀ c ∈ (identifier name).toList, isAsciiAlnum c = true ∨ c = '_' :=
  fun c mem => (snakeChar_cases (mem_lowerName (isLowerName_identifier name) c mem)).2

theorem isAscii_identifier (name : String) : ∀ c ∈ (identifier name).toList, isAscii c = true := by
  intro c mem
  rcases identifier_all name c mem with alnum | rfl
  · exact isAscii_of_isAsciiAlnum alnum
  · decide

/-- a guarded word tells the word -/
theorem guardDigit_inj {a b : List Char} (nonempty : a ≠ []) (nonempty' : b ≠ []) (ha : a.head? ≠ some '_')
    (hb : b.head? ≠ some '_') (same : guardDigit a = guardDigit b) : a = b := by
  rcases guardDigit_cases a nonempty with eq | eq <;> rcases guardDigit_cases b nonempty' with eq' | eq' <;>
    rw [eq, eq'] at same
  · exact same
  · exact absurd (by rw [same]; rfl) ha
  · exact absurd (by rw [← same]; rfl) hb
  · exact (List.cons.inj same).2

theorem getLast?_guardDigit {word : List Char} (nonempty : word ≠ []) : (guardDigit word).getLast? = word.getLast? := by
  rcases guardDigit_cases word nonempty with eq | eq
  · rw [eq]
  · rw [eq, List.getLast?_cons_of_ne_nil nonempty]

/-- an underscore behind a reserved word makes it no other name -/
theorem unreserve_inj {a b : String} (ha : a.toList.getLast? ≠ some '_') (hb : b.toList.getLast? ≠ some '_')
    (same : unreserve a = unreserve b) : a = b := by
  have ends (name : String) : (name ++ "_").toList.getLast? = some '_' := by simp
  unfold unreserve at same
  split_ifs at same
  · simpa using same
  · exact absurd (same ▸ ends a) hb
  · exact absurd (same.symm ▸ ends b) ha
  · exact same

/-- **Two names have one identifier exactly when they have one stem.** -/
theorem identifier_inj (a b : String) : identifier a = identifier b ↔ stem a = stem b := by
  constructor
  · intro same
    have last (name : String) : (String.ofList (guardDigit (stem name).toList)).toList.getLast? ≠ some '_' := by
      rw [String.toList_ofList, getLast?_guardDigit (stem_nonempty name)]
      exact (isSnake_stem name).last
    rw [identifier_eq, identifier_eq] at same
    have guarded := unreserve_inj (last a) (last b) same
    rw [String.ofList_inj] at guarded
    exact String.toList_inj.1
      (guardDigit_inj (stem_nonempty a) (stem_nonempty b) (isSnake_stem a).head (isSnake_stem b).head guarded)
  · intro same
    rw [identifier_eq, identifier_eq, same]

theorem stem_eq (name : String) : stem name = if snakeCase name = "" then "arg" else snakeCase name := by
  have empty : snakeCase name = "" ↔ (snakeChars name.toList).isEmpty = true := by
    rw [snakeCase, List.isEmpty_iff, ← String.toList_eq_nil_iff, String.toList_ofList]
  rw [stem, nonEmptyOr, apply_ite String.ofList, String.ofList_toList, snakeCase]
  exact if_congr empty.symm rfl rfl

/-- **Identifiers are names, and make no two names clash.** An identifier is a small letter or an underscore followed by
small letters, digits and underscores, and no reserved word. Two names have one identifier exactly when they have one
snake-case form, where a word stands for an empty one. -/
theorem identifier_lowerName (s t : String) : isLowerName (identifier s).toList = true ∧
    isReserved (identifier s) = false ∧
    (identifier s = identifier t ↔ (if snakeCase s = "" then "arg" else snakeCase s) =
      if snakeCase t = "" then "arg" else snakeCase t) := by
  refine ⟨isLowerName_identifier s, identifier_not_reserved s, ?_⟩
  rw [← stem_eq, ← stem_eq]
  exact identifier_inj s t

/-- each of the guards, and the word that is taken instead -/
example : ["2nd-page", "class", "…", "Arg", "_class_"].map identifier =
    ["_2nd_page", "class_", "arg", "arg", "class_"] := by
  decide +kernel

end ApiTypes.Module
