/-
The form of class names.

A class name is a word without outer underscores, but for the one that guards a first digit. It is its own class name,
and it stays one when ASCII letters and digits are put behind it, as the names of hoisted records are made: the Pascal
case of a field, the word for an item, and a number that tells a name apart.

Main statements: `isClassName_className`, `className_of_isClassName`; `claimed_name`, the name of a hoisted record is a
class name and no word of the language.
-/
import Mathlib.Tactic.SplitIfs
import ApiTypes.Module.Sheet

namespace ApiTypes.Module

open ApiTypes.Text

/-! ## Trimming -/

theorem head?_dropWhile_ne (c : Char) (text : List Char) : (text.dropWhile (· == c)).head? ≠ some c := by
  intro h
  have not := List.head?_dropWhile_not (· == c) text
  rw [h] at not
  simp at not

theorem dropWhile_of_head? {c : Char} {text : List Char} (h : text.head? ≠ some c) :
    text.dropWhile (· == c) = text := by
  cases text with
  | nil => rfl
  | cons d rest =>
    have other : (d == c) = false := by simpa using h
    rw [List.dropWhile_cons, other]
    rfl

theorem getLast?_of_suffix {text tail : List Char} (h : tail <:+ text) (ne : tail ≠ []) :
    tail.getLast? = text.getLast? := by
  obtain ⟨front, rfl⟩ := h
  rw [List.getLast?_append, List.getLast?_eq_some_getLast ne, Option.some_or]

theorem trimBoth_ends (c : Char) (text : List Char) :
    (trimBoth c text).head? ≠ some c ∧ (trimBoth c text).getLast? ≠ some c := by
  unfold trimBoth
  constructor
  · rw [List.head?_reverse]
    intro h
    have suffix : ((text.dropWhile (· == c)).reverse.dropWhile (· == c)) <:+ (text.dropWhile (· == c)).reverse :=
      List.dropWhile_suffix _
    rw [getLast?_of_suffix suffix (by rintro eq; rw [eq] at h; cases h), List.getLast?_reverse] at h
    exact head?_dropWhile_ne c text h
  · rw [List.getLast?_reverse]
    exact head?_dropWhile_ne c _

theorem trimBoth_of_ends {c : Char} {text : List Char} (head : text.head? ≠ some c) (last : text.getLast? ≠ some c) :
    trimBoth c text = text := by
  rw [trimBoth, dropWhile_of_head? head, dropWhile_of_head? (by rwa [List.head?_reverse]), List.reverse_reverse]

theorem trimBoth_cons (c : Char) (text : List Char) : trimBoth c (c :: text) = trimBoth c text := by
  simp [trimBoth]

theorem separateFrom_of_all {keep : Char → Bool} {text : List Char} (h : ∀ c ∈ text, keep c = true) (inRun : Bool) :
    separateFrom keep inRun text = text := by
  induction text generalizing inRun with
  | nil => rfl
  | cons c rest ih =>
    rw [separateFrom, if_pos (h c List.mem_cons_self), ih fun d hd => h d (List.mem_cons_of_mem _ hd)]

/-! ## Class names -/

/-- what a class name is before its first digit is guarded -/
structure IsCore (core : List Char) : Prop where
  nonempty : core ≠ []
  word : ∀ c ∈ core, isWord c = true
  head : core.head? ≠ some '_'
  last : core.getLast? ≠ some '_'

def IsClassName (name : String) : Prop := ∃ core, IsCore core ∧ name = String.ofList (guardDigit core)

theorem isWord_underscore : isWord '_' = true := by decide

theorem isCore_trimmed (name : List Char) :
    IsCore (nonEmptyOr "Component".toList (trimBoth '_' (separate isWord name))) := by
  unfold nonEmptyOr
  split_ifs with empty
  · have word : "Component".toList.all isWord = true := by decide
    exact ⟨by decide, List.all_eq_true.1 word, by decide, by decide⟩
  · obtain ⟨head, last⟩ := trimBoth_ends '_' (separate isWord name)
    refine ⟨by simpa using empty, fun c hc => ?_, head, last⟩
    have mem : c ∈ separate isWord name := by
      unfold trimBoth at hc
      have inner := (List.dropWhile_suffix _).subset (List.mem_reverse.1 hc)
      exact (List.dropWhile_suffix _).subset (List.mem_reverse.1 inner)
    rcases separate_all isWord name c mem with word | rfl
    · exact word
    · exact isWord_underscore

theorem isClassName_className (name : String) : IsClassName (className name) :=
  ⟨_, isCore_trimmed name.toList, rfl⟩

theorem guardDigit_cases (core : List Char) (h : core ≠ []) :
    guardDigit core = core ∨ guardDigit core = '_' :: core := by
  cases core with
  | nil => exact absurd rfl h
  | cons c rest =>
    simp only [guardDigit]
    split_ifs
    · exact Or.inr rfl
    · exact Or.inl rfl

theorem guardDigit_append {core : List Char} (h : core ≠ []) (suffix : List Char) :
    guardDigit (core ++ suffix) = guardDigit core ++ suffix := by
  cases core with
  | nil => exact absurd rfl h
  | cons c rest =>
    simp only [guardDigit, List.cons_append]
    split_ifs <;> rfl

theorem IsClassName.word {name : String} (h : IsClassName name) : ∀ c ∈ name.toList, isWord c = true := by
  obtain ⟨core, isCore, rfl⟩ := h
  intro c hc
  rw [String.toList_ofList] at hc
  rcases guardDigit_cases core isCore.nonempty with eq | eq <;> rw [eq] at hc
  · exact isCore.word c hc
  · rcases List.mem_cons.1 hc with rfl | hc
    · exact isWord_underscore
    · exact isCore.word c hc

/-- a class name is its own class name -/
theorem className_of_isClassName {name : String} (h : IsClassName name) : className name = name := by
  have word := h.word
  obtain ⟨core, isCore, rfl⟩ := h
  rw [String.toList_ofList] at word
  have trimmed : trimBoth '_' (guardDigit core) = core := by
    rcases guardDigit_cases core isCore.nonempty with eq | eq <;> rw [eq]
    · exact trimBoth_of_ends isCore.head isCore.last
    · rw [trimBoth_cons]
      exact trimBoth_of_ends isCore.head isCore.last
  have full : nonEmptyOr "Component".toList core = core := by simp [nonEmptyOr, isCore.nonempty]
  rw [className, String.toList_ofList, classNameChars, separate, separateFrom_of_all word, trimmed, full]

theorem IsClassName.ne_empty {name : String} (h : IsClassName name) : name ≠ "" := by
  obtain ⟨core, isCore, rfl⟩ := h
  intro empty
  have := congrArg String.toList empty
  rw [String.toList_ofList] at this
  exact guardDigit_nonempty isCore.nonempty this

/-! ## Suffixes -/

/-- what is put behind a class name: ASCII letters and digits, the first of them no small letter -/
structure IsSuffix (text : String) : Prop where
  alnum : ∀ c ∈ text.toList, isAsciiAlnum c = true
  first : ∀ c, text.toList.head? = some c → isLower c = false

theorem isAscii_of_isAsciiAlnum {c : Char} (h : isAsciiAlnum c = true) : isAscii c = true := by
  simp only [isAsciiAlnum, isAsciiLetter, isAsciiDigit, isLower, isUpper, Bool.or_eq_true, Bool.and_eq_true,
    decide_eq_true_eq] at h
  simp only [isAscii, decide_eq_true_eq]
  omega

theorem isWord_of_isAsciiAlnum {c : Char} (h : isAsciiAlnum c = true) : isWord c = true := by
  simp [isWord, isAscii_of_isAsciiAlnum h, h]

/-- a capital is no small letter, and still a letter or digit -/
theorem upperChar_alnum {c : Char} (h : isAsciiAlnum c = true) :
    isAsciiAlnum (upperChar c) = true ∧ isLower (upperChar c) = false := by
  unfold upperChar
  split_ifs with lower
  · have all : ∀ n < 123, 97 ≤ n →
        isAsciiAlnum (Char.ofNat (n - 32)) = true ∧ isLower (Char.ofNat (n - 32)) = false := by decide
    simp only [isLower, Bool.and_eq_true, decide_eq_true_eq] at lower
    exact all c.toNat (by omega) lower.1
  · exact ⟨h, by simpa using lower⟩

theorem isSuffix_item : IsSuffix "Item" := by
  have alnum : "Item".toList.all isAsciiAlnum = true := by decide
  constructor
  · exact List.all_eq_true.1 alnum
  · intro c h
    obtain rfl : 'I' = c := by simpa using h
    decide

theorem IsSuffix.append {text other : String} (h : IsSuffix text) (h' : IsSuffix other) : IsSuffix (text ++ other) := by
  constructor
  · intro c hc
    rw [String.toList_append, List.mem_append] at hc
    exact hc.elim (h.alnum c) (h'.alnum c)
  · intro c hc
    rw [String.toList_append] at hc
    cases eq : text.toList with
    | nil => exact h'.first c (by simpa [eq] using hc)
    | cons d rest => exact h.first c (by simpa [eq] using hc)

theorem isSuffix_number (n : Nat) : IsSuffix (toString n) := by
  have digit : ∀ c ∈ (toString n).toList, isAsciiDigit c = true := by
    intro c hc
    rw [Nat.toString_eq_ofList_toDigits, String.toList_ofList] at hc
    have := Nat.isDigit_of_mem_toDigits (by decide) (by decide) hc
    simpa [Char.isDigit, isAsciiDigit, UInt32.le_iff_toNat_le] using this
  constructor
  · intro c hc
    simp [isAsciiAlnum, digit c hc]
  · intro c hc
    have := digit c (List.mem_of_mem_head? hc)
    simp only [isAsciiDigit, Bool.and_eq_true, decide_eq_true_eq] at this
    simp only [isLower, Bool.and_eq_false_iff, decide_eq_false_iff_not]
    omega

/-- a capital letter or digit in front of each word, and letters and digits behind -/
theorem isSuffix_pascalCase (text : String) : IsSuffix (pascalCase text) := by
  have words := wordsFrom_all (fun c => !isAsciiAlnum c) [] text.toList (by simp)
  simp only [Bool.not_eq_false'] at words
  constructor
  · intro c hc
    rw [pascalCase, String.toList_ofList, List.mem_flatMap] at hc
    obtain ⟨w, hw, hc⟩ := hc
    have alnum := (words w hw).2
    cases w with
    | nil => cases hc
    | cons d rest =>
      rcases List.mem_cons.1 hc with rfl | hc
      · exact (upperChar_alnum (alnum d List.mem_cons_self)).1
      · exact alnum c (List.mem_cons_of_mem _ hc)
  · intro c hc
    rw [pascalCase, String.toList_ofList] at hc
    cases eq : wordsBy (fun c => !isAsciiAlnum c) text.toList with
    | nil =>
      rw [eq] at hc
      cases hc
    | cons w more =>
      obtain ⟨ne, alnum⟩ := words w (by rw [wordsBy] at eq; rw [eq]; exact List.mem_cons_self)
      rw [eq] at hc
      cases w with
      | nil => exact absurd rfl ne
      | cons d rest =>
        obtain rfl : upperChar d = c := by simpa [capitalize] using hc
        exact (upperChar_alnum (alnum d List.mem_cons_self)).2

theorem IsClassName.append {name suffix : String} (h : IsClassName name) (h' : IsSuffix suffix) :
    IsClassName (name ++ suffix) := by
  obtain ⟨core, isCore, rfl⟩ := h
  refine ⟨core ++ suffix.toList, ⟨?_, ?_, ?_, ?_⟩, ?_⟩
  · simp [isCore.nonempty]
  · intro c hc
    rcases List.mem_append.1 hc with hc | hc
    · exact isCore.word c hc
    · exact isWord_of_isAsciiAlnum (h'.alnum c hc)
  · cases eq : core with
    | nil => exact absurd eq isCore.nonempty
    | cons c rest => simpa [eq] using isCore.head
  · rw [List.getLast?_append]
    cases eq : suffix.toList.getLast? with
    | none => simpa using isCore.last
    | some c =>
      have := h'.alnum c (List.mem_of_getLast? eq)
      rintro same
      obtain rfl : c = '_' := by simpa using same
      revert this
      decide
  · rw [guardDigit_append isCore.nonempty, String.ofList_append, String.ofList_toList]

/-! ## Claimed names -/

/-- the words of the language that an annotation may consist of, besides class names -/
def plainWords : List String := ["Any", "str", "int", "float", "bool"]

/-- a suffix behind a name has something else than small letters behind the first letter -/
theorem not_tail_lower {name suffix : String} (h : name ≠ "") (h' : IsSuffix suffix) (ne : suffix ≠ "") :
    (name ++ suffix).toList.tail.all isLower = false := by
  cases name' : name.toList with
  | nil => exact absurd (by simpa using name') h
  | cons d rest =>
    cases suffix' : suffix.toList with
    | nil => exact absurd (by simpa using suffix') ne
    | cons c more =>
      have first : isLower c = false := h'.first c (by simp [suffix'])
      simp [name', suffix', first]

/-- behind their first letter, these words have small letters only -/
theorem not_plainWord {name suffix : String} (h : IsClassName name) (h' : IsSuffix suffix) (ne : suffix ≠ "") :
    name ++ suffix ∉ plainWords := by
  intro mem
  have tails : ∀ w ∈ plainWords, w.toList.tail.all isLower = true := by decide
  have lower := tails _ mem
  rw [not_tail_lower h.ne_empty h' ne] at lower
  contradiction

theorem fresh_cases (taken : List String) (name : String) :
    (fresh taken name = name ∧ name ∉ taken) ∨ ∃ n : Nat, fresh taken name = name ++ toString n := by
  unfold fresh
  split_ifs with used
  · obtain ⟨n, -, eq⟩ := freshFrom_eq_numbered taken name taken.length 2
    exact Or.inr ⟨n, eq⟩
  · exact Or.inl ⟨rfl, by simpa using used⟩

/-- the name that is claimed for a record: the name of its owner, which is in use, and a suffix behind it -/
theorem claimed_suffix {taken : List String} {owner suffix : String} (h : IsClassName owner) (used : owner ∈ taken)
    (h' : IsSuffix suffix) :
    ∃ more, IsSuffix more ∧ more ≠ "" ∧ fresh taken (className (owner ++ suffix)) = owner ++ more := by
  rw [className_of_isClassName (h.append h')]
  rcases fresh_cases taken (owner ++ suffix) with ⟨eq, free⟩ | ⟨n, eq⟩
  · refine ⟨suffix, h', ?_, eq⟩
    rintro rfl
    rw [String.append_empty] at free
    exact free used
  · refine ⟨suffix ++ toString n, h'.append (isSuffix_number n), ?_, by rw [eq, String.append_assoc]⟩
    intro empty
    have digits := congrArg String.toList empty
    rw [String.toList_append, Nat.toString_eq_ofList_toDigits, String.toList_ofList] at digits
    exact Nat.toDigits_ne_nil (List.append_eq_nil_iff.1 digits).2

theorem claimed_name {taken : List String} {owner suffix : String} (h : IsClassName owner) (used : owner ∈ taken)
    (h' : IsSuffix suffix) :
    IsClassName (fresh taken (className (owner ++ suffix))) ∧
      fresh taken (className (owner ++ suffix)) ∉ plainWords := by
  obtain ⟨more, isSuffix, ne, eq⟩ := claimed_suffix h used h'
  rw [eq]
  exact ⟨h.append isSuffix, not_plainWord h isSuffix ne⟩

/-! ## Names that can stand as they are -/

theorem isPlainField_iff {name : String} :
    isPlainField name = true ↔ isIdentifier name.toList = true ∧ isReserved name = false := by
  simp [isPlainField]

theorem isNameContinue_of_isAsciiAlnum {c : Char} (h : isAsciiAlnum c = true) : isNameContinue c = true := by
  rw [isNameContinue_of_isWord_ascii (isAscii_of_isAsciiAlnum h)]
  exact isWord_of_isAsciiAlnum h

theorem isIdentifier_append {name more : List Char} (h : isIdentifier name = true)
    (h' : more.all isNameContinue = true) : isIdentifier (name ++ more) = true := by
  cases name with
  | nil => simp [isIdentifier] at h
  | cons c rest =>
    rw [isIdentifier, Bool.and_eq_true] at h
    rw [List.cons_append, isIdentifier, List.all_append, h.1, h.2, h']
    rfl

/-- no reserved word has other than small letters behind its first letter, so that a suffix leaves a name that can stand
as it is -/
theorem isPlainField_append {name suffix : String} (h : isPlainField name = true) (h' : IsSuffix suffix)
    (ne : suffix ≠ "") : isPlainField (name ++ suffix) = true := by
  obtain ⟨isName, -⟩ := isPlainField_iff.1 h
  refine isPlainField_iff.2 ⟨?_, ?_⟩
  · rw [String.toList_append]
    refine isIdentifier_append isName ?_
    rw [List.all_eq_true]
    exact fun c hc => isNameContinue_of_isAsciiAlnum (h'.alnum c hc)
  · have tails : ∀ w ∈ reservedWords, w.toList.tail.all isLower = true := by decide
    have nonempty : name ≠ "" := by
      rintro rfl
      exact absurd isName (by decide)
    rw [isReserved, ← Bool.not_eq_true]
    intro mem
    have lower := tails _ (List.contains_iff_mem.1 mem)
    rw [not_tail_lower nonempty h' ne] at lower
    contradiction

theorem lowerChar_alnum {c : Char} (h : isAsciiAlnum c = true) : isAsciiAlnum (lowerChar c) = true := by
  unfold lowerChar
  split_ifs with upper
  · have all : ∀ n < 91, 65 ≤ n → isAsciiAlnum (Char.ofNat (n + 32)) = true := by decide
    simp only [isUpper, Bool.and_eq_true, decide_eq_true_eq] at upper
    exact all c.toNat (by omega) upper.1
  · exact h

/-- the characters of a snake-case form -/
theorem snakeChars_all (text : List Char) : ∀ c ∈ snakeChars text, isAsciiAlnum c = true ∨ c = '_' := by
  intro c hc
  obtain ⟨d, hd, rfl⟩ := List.mem_map.1 hc
  unfold trimBoth at hd
  have inner := (List.dropWhile_suffix _).subset (List.mem_reverse.1 hd)
  have whole := (List.dropWhile_suffix _).subset (List.mem_reverse.1 inner)
  rcases separate_all isAsciiAlnum _ d whole with alnum | rfl
  · exact Or.inl (lowerChar_alnum alnum)
  · exact Or.inr rfl

/-- with its first digit guarded, a word of ASCII letters, digits and underscores is an identifier -/
theorem isIdentifier_guardDigit {word : List Char} (nonempty : word ≠ [])
    (h : ∀ c ∈ word, isAsciiAlnum c = true ∨ c = '_') : isIdentifier (guardDigit word) = true := by
  have follows : word.all isNameContinue = true := by
    rw [List.all_eq_true]
    intro c hc
    rcases h c hc with alnum | rfl
    · exact isNameContinue_of_isAsciiAlnum alnum
    · decide
  cases word with
  | nil => exact absurd rfl nonempty
  | cons c rest =>
    simp only [guardDigit]
    split_ifs with digit
    · rw [isIdentifier, follows]
      decide
    · have starts : isNameStart c = true := by
        rcases h c List.mem_cons_self with alnum | rfl
        · have ascii := isAscii_of_isAsciiAlnum alnum
          have notDigit : isAsciiDigit c = false := by simpa [isDigit, ascii] using digit
          have letter : isAsciiLetter c = true := by simpa [isAsciiAlnum, notDigit] using alnum
          simp [isNameStart, ascii, letter]
        · decide
      rw [List.all_cons, Bool.and_eq_true] at follows
      rw [isIdentifier, starts, follows.2]
      rfl

/-- an identifier can stand as it is, whatever name it is made from -/
theorem isPlainField_identifier (name : String) : isPlainField (identifier name) = true := by
  refine isPlainField_iff.2 ⟨?_, identifier_not_reserved name⟩
  have word : ∀ c ∈ nonEmptyOr "arg".toList (snakeChars name.toList), isAsciiAlnum c = true ∨ c = '_' := by
    unfold nonEmptyOr
    split_ifs
    · have letters : "arg".toList.all isAsciiAlnum = true := by decide
      exact fun c hc => Or.inl (List.all_eq_true.1 letters c hc)
    · exact snakeChars_all name.toList
  have nonempty : nonEmptyOr "arg".toList (snakeChars name.toList) ≠ [] := by
    unfold nonEmptyOr
    split_ifs with empty
    · decide
    · simpa using empty
  have guarded := isIdentifier_guardDigit nonempty word
  unfold identifier unreserve
  split_ifs
  · rw [String.toList_append, String.toList_ofList]
    exact isIdentifier_append guarded (by decide)
  · rw [String.toList_ofList]
    exact guarded

end ApiTypes.Module
