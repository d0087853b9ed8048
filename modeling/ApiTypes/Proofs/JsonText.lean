/-
JSON texts.

A value of null, truth values, integers, texts, lists and mappings is spelled as JSON with blanks where a layout puts
them: behind an opening bracket, a comma or a colon, and before a closing bracket. However it is spelled, it is read
back, and what stands behind it is left.

Main statements: `readQuoted_quote` and `readWord_int`, texts and integers of any size are read back;
`readValue_spelled`, so is a value in any layout; `read_compact` and `read_indented`, the two layouts that are written.
-/
import Mathlib.Algebra.Group.Nat.Defs
import ApiTypes.Json.Writer
import ApiTypes.Proofs.Decoding
import ApiTypes.Proofs.Quoting

namespace ApiTypes.Json

/-! ## Texts -/

theorem escaped?_escapeLetter {c letter : Char} (h : escapeLetter? c = some letter) :
    letter ≠ 'u' ∧ escaped? letter = some c := by
  unfold escapeLetter? at h
  split at h <;> cases h <;> exact ⟨by decide, rfl⟩

/-- what is written for a character is read back as it, as long as the closing quote is still to come -/
structure Escapes (escape : Char → List Char) : Prop where
  nonempty : ∀ c, escape c ≠ []
  reads : ∀ start c fuel before rest, rest ≠ [] →
    readQuotedFrom start (fuel + 1) before (escape c ++ rest) = readQuotedFrom start fuel (c :: before) rest

/-- an escape by a letter -/
theorem readQuotedFrom_letter (start : List Char) {c letter : Char} (escape : escapeLetter? c = some letter)
    (fuel : Nat) (before rest : List Char) :
    readQuotedFrom start (fuel + 1) before ('\\' :: letter :: rest) = readQuotedFrom start fuel (c :: before) rest := by
  obtain ⟨other, back⟩ := escaped?_escapeLetter escape
  simp [readQuotedFrom, back]

theorem exists_digits {n : Nat} (h : n < 0x10000) :
    ∃ a b d e, Text.hexDigits 4 n = [a, b, d, e] ∧ hexNumber? [a, b, d, e] = some n := by
  refine ⟨_, _, _, _, rfl, ?_⟩
  have number := Source.Literal.hexNumber?_hexDigits 4 n
  rwa [Nat.mod_eq_of_lt (by omega)] at number

/-- an escape by one unit: the code of a character is no half of a pair, so that what follows it does not matter -/
theorem readQuotedFrom_unit (start : List Char) {c : Char} (one : c.toNat < 0x10000) (fuel : Nat) (before : List Char)
    {rest : List Char} (h : rest ≠ []) :
    readQuotedFrom start (fuel + 1) before (unitEscape c.toNat ++ rest) =
      readQuotedFrom start fuel (c :: before) rest := by
  obtain ⟨a, b, d, e, digits, number⟩ := exists_digits one
  have alone : pairChar? c.toNat rest = none := by
    have valid : c.toNat < 0xD800 ∨ 0xDFFF < c.toNat ∧ c.toNat < 0x110000 := c.valid
    unfold pairChar?
    exact if_neg (by omega)
  simp [unitEscape, digits, readQuotedFrom, h, number, alone, unitChar_toNat]

/-- a character for itself -/
theorem readQuotedFrom_own (start : List Char) {c : Char} (plain : escapeLetter? c = none) (printable : 32 ≤ c.toNat)
    (fuel : Nat) (before rest : List Char) :
    readQuotedFrom start (fuel + 1) before (c :: rest) = readQuotedFrom start fuel (c :: before) rest := by
  have quote : c ≠ '"' := by
    rintro rfl
    cases plain
  have backslash : c ≠ '\\' := by
    rintro rfl
    cases plain
  simp [readQuotedFrom, backslash, Nat.not_lt.2 printable]

theorem escapes_plain : Escapes plainEscape where
  nonempty c := by
    unfold plainEscape
    split
    · simp
    · split <;> simp [unitEscape]
  reads start c fuel before rest h := by
    unfold plainEscape
    split
    · rename_i letter escape
      exact readQuotedFrom_letter start escape fuel before rest
    · rename_i plain
      split
      · exact readQuotedFrom_unit start (by omega) fuel before h
      · exact readQuotedFrom_own start plain (by omega) fuel before rest

section

variable {escape : Char → List Char}

theorem readQuotedFrom_flatMap (escapes : Escapes escape) (start : List Char) (text : List Char) (fuel : Nat)
    (before behind : List Char) (enough : text.length < fuel) :
    readQuotedFrom start fuel before (text.flatMap escape ++ '"' :: behind) =
      .ok (String.ofList (before.reverse ++ text), behind) := by
  induction text generalizing fuel before with
  | nil =>
    obtain ⟨fuel, rfl⟩ : ∃ n, fuel = n + 1 := ⟨fuel - 1, by omega⟩
    simp [readQuotedFrom]
  | cons c rest ih =>
    rw [List.length_cons] at enough
    obtain ⟨fuel, rfl⟩ : ∃ n, fuel = n + 1 := ⟨fuel - 1, by omega⟩
    rw [List.flatMap_cons, List.append_assoc, escapes.reads _ _ _ _ _ (by simp), ih fuel _ (by omega)]
    simp

theorem length_le_flatMap (escapes : Escapes escape) (text : List Char) :
    text.length ≤ (text.flatMap escape).length := by
  induction text with
  | nil => simp
  | cons c rest ih =>
    have some := List.length_pos_iff.2 (escapes.nonempty c)
    rw [List.length_cons, List.flatMap_cons, List.length_append]
    omega

theorem toList_quote (escape : Char → List Char) (s : String) :
    (quote escape s).toList = '"' :: (s.toList.flatMap escape ++ ['"']) := by
  simp [quote]

/-- **A text between quotes is read back.** -/
theorem readQuoted_quote (escapes : Escapes escape) (s : String) (behind : List Char) :
    readQuoted ((quote escape s).toList ++ behind) = .ok (s, behind) := by
  have length := length_le_flatMap escapes s.toList
  rw [toList_quote, List.cons_append, List.append_assoc, readQuoted, List.tail_cons]
  refine (readQuotedFrom_flatMap escapes _ s.toList _ [] behind ?_).trans (by simp)
  rw [List.length_cons, List.length_append]
  omega

end

/-! ## Integers -/

/-- what stands behind a value: nothing, or a character that ends every number -/
def Ends (behind : List Char) : Prop := ∀ c ∈ behind.head?, c = ',' ∨ c = ']' ∨ c = '\x7d' ∨ isSpace c = true

theorem isAsciiDigit_of_isDigit {c : Char} (h : c.isDigit = true) : Text.isAsciiDigit c = true := by
  simpa [Char.isDigit, Text.isAsciiDigit, UInt32.le_iff_toNat_le] using h

/-- no leading zero -/
theorem toDigits_cons {n : Nat} (h : 0 < n) : ∃ c rest, Nat.toDigits 10 n = c :: rest ∧ c ≠ '0' := by
  induction n using Nat.strongRecOn with
  | _ n ih =>
    rw [Nat.toDigits_eq_if (by decide)]
    split
    · rename_i small
      have all : ∀ k < 10, 0 < k → k.digitChar ≠ '0' := by decide
      exact ⟨_, [], rfl, all n small h⟩
    · obtain ⟨c, rest, digits, other⟩ := ih (n / 10) (by omega) (by omega)
      exact ⟨c, rest ++ [(n % 10).digitChar], by rw [digits, List.cons_append], other⟩

theorem isAsciiDigit_toDigits {n : Nat} : ∀ c ∈ Nat.toDigits 10 n, Text.isAsciiDigit c = true :=
  fun _ mem => isAsciiDigit_of_isDigit (Nat.isDigit_of_mem_toDigits (by decide) (by decide) mem)

theorem exists_first_digit (n : Nat) : ∃ c rest, Nat.toDigits 10 n = c :: rest ∧ Text.isAsciiDigit c = true := by
  obtain ⟨c, rest, eq⟩ := List.exists_cons_of_ne_nil (Nat.toDigits_ne_nil (b := 10) (n := n))
  exact ⟨c, rest, eq, isAsciiDigit_toDigits c (eq ▸ List.mem_cons_self)⟩

theorem naturalOf_toDigits (n : Nat) : naturalOf (Nat.toDigits 10 n) = n :=
  Nat.ofDigitChars_ten_toDigits

theorem Ends.head {c : Char} {rest : List Char} (h : Ends (c :: rest)) :
    Text.isAsciiDigit c = false ∧ c ≠ '.' ∧ c ≠ 'e' ∧ c ≠ 'E' := by
  have ends := h c rfl
  simp only [isSpace, Bool.or_eq_true, beq_iff_eq, or_assoc] at ends
  rcases ends with rfl | rfl | rfl | rfl | rfl | rfl | rfl <;> decide

/-- digits that no fraction and no exponent follow are an integer -/
theorem numberFrom_ends (negative : Bool) (digits : List Char) {behind : List Char} (h : Ends behind) :
    numberFrom negative digits behind =
      (.int (if negative then -Int.ofNat (naturalOf digits) else Int.ofNat (naturalOf digits)), behind) := by
  have none : fractionOf behind = ([], behind) ∧ exponentOf behind = (none, behind) := by
    cases behind with
    | nil => exact ⟨rfl, rfl⟩
    | cons c rest =>
      obtain ⟨-, point, lower, upper⟩ := h.head
      simp [fractionOf, exponentOf, point, lower, upper]
  simp [numberFrom, none]

theorem takeWhile_digits (n : Nat) {behind : List Char} (h : Ends behind) :
    (Nat.toDigits 10 n ++ behind).takeWhile Text.isAsciiDigit = Nat.toDigits 10 n ∧
      (Nat.toDigits 10 n ++ behind).dropWhile Text.isAsciiDigit = behind := by
  have stops : behind.takeWhile Text.isAsciiDigit = [] ∧ behind.dropWhile Text.isAsciiDigit = behind := by
    cases behind with
    | nil => exact ⟨rfl, rfl⟩
    | cons c rest => simp [h.head.1]
  rw [List.takeWhile_append_of_pos isAsciiDigit_toDigits, List.dropWhile_append_of_pos isAsciiDigit_toDigits]
  simp [stops]

/-- a number without leading zeros, behind its sign -/
theorem readNumber_digits (negative : Bool) (n : Nat) {behind : List Char} (h : Ends behind)
    (positive : negative = true → 0 < n) :
    readNumber ((if negative then ['-'] else []) ++ (Nat.toDigits 10 n ++ behind)) =
      .ok (.int (if negative then -Int.ofNat n else Int.ofNat n), behind) := by
  have done := numberFrom_ends negative (Nat.toDigits 10 n) h
  rw [naturalOf_toDigits] at done
  have digits := takeWhile_digits n h
  rcases Nat.eq_zero_or_pos n with rfl | some
  -- zero has no sign, and its one digit is read before all others
  · obtain rfl : negative = false := by
      cases negative
      · rfl
      · exact absurd (positive rfl) (by decide)
    rw [← done]
    rfl
  · obtain ⟨c, rest, eq, other⟩ := toDigits_cons some
    have digit : Text.isAsciiDigit c = true := isAsciiDigit_toDigits c (by rw [eq]; exact List.mem_cons_self)
    have sign : c ≠ '-' := by
      rintro rfl
      cases digit
    rw [← done]
    rw [eq, List.cons_append] at digits ⊢
    cases negative
    · simp [readNumber, digit, sign, digits]
    · simp [readNumber, digit, digits]

theorem toList_natural (n : Nat) : (toString n).toList = Nat.toDigits 10 n := by
  rw [Nat.toString_eq_ofList_toDigits, String.toList_ofList]

/-- an integer is written as a sign where it is negative, and digits -/
theorem toList_int (n : Int) : ∃ (negative : Bool) (m : Nat),
    (toString n).toList = (if negative then ['-'] else []) ++ Nat.toDigits 10 m ∧ (negative = true → 0 < m) ∧
      n = if negative then -Int.ofNat m else Int.ofNat m := by
  cases n with
  | ofNat m => exact ⟨false, m, toList_natural m, by simp, rfl⟩
  | negSucc m =>
    refine ⟨true, m + 1, ?_, by simp, rfl⟩
    have text : toString (Int.negSucc m) = "-" ++ toString (m + 1) := rfl
    rw [text, String.toList_append, toList_natural]
    rfl

/-- a number begins no word of the grammar -/
theorem readWord_number {text : List Char} (c : Char) (rest : List Char)
    (h : text = c :: rest ∧ Text.isAsciiDigit c = true ∨
      text = '-' :: c :: rest ∧ Text.isAsciiDigit c = true) : readWord text = readNumber text := by
  have none : (wordValues.find? fun w => w.1.isPrefixOf text) = none := by
    rcases h with ⟨rfl, digit⟩ | ⟨rfl, digit⟩
    all_goals
      have apart : 'n' ≠ c ∧ 't' ≠ c ∧ 'f' ≠ c ∧ 'N' ≠ c ∧ 'I' ≠ c ∧ '-' ≠ c := by
        refine ⟨?_, ?_, ?_, ?_, ?_, ?_⟩ <;> (rintro rfl; cases digit)
      simp [wordValues, apart]
  rw [readWord, none]

/-- **An integer of any size is read back.** -/
theorem readWord_int (n : Int) {behind : List Char} (h : Ends behind) :
    readWord ((toString n).toList ++ behind) = .ok (.int n, behind) := by
  obtain ⟨negative, m, text, positive, rfl⟩ := toList_int n
  rw [text, List.append_assoc]
  obtain ⟨c, rest, eq, digit⟩ := exists_first_digit m
  rw [readWord_number c (rest ++ behind), readNumber_digits negative m h positive]
  rw [eq]
  cases negative
  · exact Or.inl ⟨rfl, digit⟩
  · exact Or.inr ⟨rfl, digit⟩

end ApiTypes.Json

namespace ApiTypes

/-! ## Values of JSON -/

namespace Value

mutual

/-- null, truth values, integers, texts, and lists and mappings of them under different texts -/
def IsJson : Value → Prop
  | null => True
  | bool _ => True
  | int _ => True
  | str _ => True
  | list items => IsJsonItems items
  | map entries => DistinctKeys entries ∧ IsJsonEntries entries
  | _ => False

def IsJsonItems : List Value → Prop
  | [] => True
  | v :: rest => IsJson v ∧ IsJsonItems rest

def IsJsonEntries : List (Value × Value) → Prop
  | [] => True
  | (key, v) :: rest => (∃ name, key = .str name) ∧ IsJson v ∧ IsJsonEntries rest

end

theorem isJsonItems_iff {items : List Value} : IsJsonItems items ↔ ∀ v ∈ items, v.IsJson := by
  induction items with
  | nil => simp [IsJsonItems]
  | cons v rest ih => simp [IsJsonItems, ih]

theorem isJsonEntries_iff {entries : Entries} :
    IsJsonEntries entries ↔ ∀ e ∈ entries, (∃ name, e.1 = .str name) ∧ e.2.IsJson := by
  induction entries with
  | nil => simp [IsJsonEntries]
  | cons e rest ih =>
    obtain ⟨key, v⟩ := e
    simp [IsJsonEntries, ih, and_assoc]

/-- entries under different names -/
theorem isJson_named {α : Type} {named : List (String × α)} (value : α → Value)
    (names : (named.map Prod.fst).Nodup) (h : ∀ a ∈ named, (value a.2).IsJson) :
    (Value.map (named.map fun a => (.str a.1, value a.2))).IsJson := by
  rw [IsJson]
  constructor
  · rw [DistinctKeys, List.pairwise_map]
    refine (List.pairwise_map.1 names).imp ?_
    intro a b apart
    rw [Entries.same_str]
    exact beq_eq_false_iff_ne.2 apart
  · rw [isJsonEntries_iff, List.forall_mem_map]
    exact fun a mem => ⟨⟨a.1, rfl⟩, h a mem⟩

end Value

namespace Json

/-! ## Layouts -/

/-- blanks, which may stand between the parts of a text -/
def Blank (blanks : List Char) : Prop := ∀ c ∈ blanks, isSpace c = true

section

variable (escape : Char → List Char)

mutual

/-- the characters spell the value in some layout, its texts in the given form -/
def Spelled : Value → List Char → Prop
  | .list items, text => ∃ blanks rest, Blank blanks ∧ SpelledItems items rest ∧ text = '[' :: (blanks ++ rest)
  | .map entries, text =>
    ∃ blanks rest, Blank blanks ∧ SpelledMembers entries rest ∧ text = '\x7b' :: (blanks ++ rest)
  | .str s, text => text = (quote escape s).toList
  | scalar, text => text = (scalarText scalar).toList

/-- the characters spell the items, up to the closing bracket -/
def SpelledItems : List Value → List Char → Prop
  | [], text => text = [']']
  | v :: rest, text => ∃ word blanks more, Spelled v word ∧ Blank blanks ∧
      (rest = [] ∧ text = word ++ (blanks ++ [']']) ∨
        rest ≠ [] ∧ SpelledItems rest more ∧ text = word ++ ',' :: (blanks ++ more))

/-- the characters spell the members, up to the closing bracket -/
def SpelledMembers : List (Value × Value) → List Char → Prop
  | [], text => text = ['\x7d']
  | (key, v) :: rest, text => ∃ gap word blanks more, Blank gap ∧ Spelled v word ∧ Blank blanks ∧
      (rest = [] ∧ text = (quote escape (keyText key)).toList ++ ':' :: (gap ++ (word ++ (blanks ++ ['\x7d']))) ∨
        rest ≠ [] ∧ SpelledMembers rest more ∧
          text = (quote escape (keyText key)).toList ++ ':' :: (gap ++ (word ++ ',' :: (blanks ++ more))))

end

end

theorem skipBlanks_solid {c : Char} (solid : isSpace c = false) (rest : List Char) :
    skipBlanks (c :: rest) = c :: rest := by
  rw [skipBlanks, List.dropWhile_cons_of_neg (by simp [solid])]

theorem skipBlanks_append {blanks rest : List Char} {c : Char} (h : Blank blanks) (solid : isSpace c = false) :
    skipBlanks (blanks ++ c :: rest) = c :: rest := by
  rw [skipBlanks, List.dropWhile_append_of_pos h]
  exact skipBlanks_solid solid rest

/-- the first character of a spelled value: no blank, no mark of an encoding, no closing bracket -/
def Opens (text : List Char) : Prop :=
  ∃ c rest, text = c :: rest ∧ isSpace c = false ∧ c ≠ '\uFEFF' ∧ c ≠ ']' ∧ c ≠ '\x7d'

theorem opens_int (n : Int) : Opens (toString n).toList := by
  obtain ⟨negative, m, text, -, -⟩ := toList_int n
  obtain ⟨c, rest, eq, digit⟩ := exists_first_digit m
  rw [text, eq]
  cases negative
  · refine ⟨c, rest, rfl, ?_, ?_, ?_, ?_⟩
    · cases space : isSpace c with
      | false => rfl
      | true =>
        simp only [isSpace, Bool.or_eq_true, beq_iff_eq, or_assoc] at space
        rcases space with rfl | rfl | rfl | rfl <;> cases digit
    all_goals
      rintro rfl
      cases digit
  · exact ⟨'-', _, rfl, by decide, by decide, by decide, by decide⟩

theorem opens_quote (escape : Char → List Char) (s : String) : Opens (quote escape s).toList := by
  rw [toList_quote]
  exact ⟨_, _, rfl, by decide, by decide, by decide, by decide⟩

theorem Spelled.opens {escape : Char → List Char} {v : Value} {text : List Char} (json : v.IsJson)
    (h : Spelled escape v text) : Opens text := by
  cases v with
  | list items =>
    rw [Spelled] at h
    obtain ⟨blanks, rest, -, -, rfl⟩ := h
    exact ⟨_, _, rfl, by decide, by decide, by decide, by decide⟩
  | map entries =>
    rw [Spelled] at h
    obtain ⟨blanks, rest, -, -, rfl⟩ := h
    exact ⟨_, _, rfl, by decide, by decide, by decide, by decide⟩
  | str s =>
    rw [Spelled] at h
    exact h ▸ opens_quote escape s
  | int n =>
    rw [Spelled, scalarText] at h
    · exact h ▸ opens_int n
    all_goals simp
  | bool b =>
    rw [Spelled, scalarText] at h
    · subst h
      cases b <;> exact ⟨_, _, rfl, by decide, by decide, by decide, by decide⟩
    all_goals simp
  | null =>
    rw [Spelled, scalarText] at h
    · subst h
      exact ⟨_, _, rfl, by decide, by decide, by decide, by decide⟩
    all_goals simp
  | _ => simp [Value.IsJson] at json

theorem Opens.append {text : List Char} (h : Opens text) (behind : List Char) : Opens (text ++ behind) := by
  obtain ⟨c, rest, rfl, facts⟩ := h
  exact ⟨c, rest ++ behind, rfl, facts⟩

theorem Opens.fuel {text : List Char} (h : Opens text) {fuel : Nat} (enough : text.length ≤ fuel) :
    ∃ n, fuel = n + 1 := by
  obtain ⟨c, rest, rfl, -⟩ := h
  rw [List.length_cons] at enough
  exact ⟨fuel - 1, by omega⟩

theorem skipBlanks_opens {blanks text : List Char} (h : Blank blanks) (opens : Opens text) :
    skipBlanks (blanks ++ text) = text := by
  obtain ⟨c, rest, rfl, solid, -⟩ := opens
  exact skipBlanks_append h solid

theorem ends_blanks {blanks rest : List Char} {c : Char} (h : Blank blanks) (closing : c = ']' ∨ c = '\x7d') :
    Ends (blanks ++ c :: rest) := by
  intro d first
  cases blanks with
  | nil =>
    obtain rfl : c = d := by simpa using first
    exact Or.inr (closing.imp_right Or.inl)
  | cons b blanks =>
    obtain rfl : b = d := by simpa using first
    exact Or.inr (Or.inr (Or.inr (h b List.mem_cons_self)))

theorem ends_comma (rest : List Char) : Ends (',' :: rest) := by
  intro c first
  obtain rfl : ',' = c := by simpa using first
  exact Or.inl rfl

/-! ## One step of a reader -/

variable {fuel : Nat} {v : Value} {text behind blanks more space : List Char}

theorem blank_nil : Blank [] := by
  intro c mem
  cases mem

theorem readItems_last {items : List Value} (read : readValue fuel text = .ok (v, blanks ++ ']' :: behind))
    (blank : Blank blanks) : readItems (fuel + 1) items text = .ok (.list (items.reverse ++ [v]), behind) := by
  have closing : skipBlanks (blanks ++ ']' :: behind) = _ := skipBlanks_append blank (by decide)
  simp [readItems, read, bind, Except.bind, closing]

theorem readItems_more {items : List Value} (spaced : Blank space)
    (read : readValue fuel text = .ok (v, space ++ ',' :: (blanks ++ more))) (blank : Blank blanks)
    (opens : Opens more) : readItems (fuel + 1) items text = readItems fuel (v :: items) more := by
  have comma : skipBlanks (space ++ ',' :: (blanks ++ more)) = _ := skipBlanks_append spaced (by decide)
  simp [readItems, read, bind, Except.bind, comma, skipBlanks_opens blank opens]

/-- the characters from a quote on are read as a name, whatever stands behind them -/
def Quotes (key : List Char) (name : String) : Prop :=
  ∃ inside, key = '"' :: inside ∧ ∀ behind, readQuoted (key ++ behind) = .ok (name, behind)

theorem quotes_quote {escape : Char → List Char} (escapes : Escapes escape) (name : String) :
    Quotes (quote escape name).toList name :=
  ⟨_, toList_quote escape name, readQuoted_quote escapes name⟩

theorem Quotes.readValue {key : List Char} {name : String} (h : Quotes key name) (fuel : Nat) (behind : List Char) :
    Json.readValue (fuel + 1) (key ++ behind) = .ok (.str name, behind) := by
  obtain ⟨inside, rfl, read⟩ := h
  have read := read behind
  rw [List.cons_append] at read ⊢
  rw [Json.readValue, read]
  rfl

section Members

variable {members : Entries} {name : String} {key gap word : List Char}

/-- a member up to the value behind its colon -/
theorem reads_key (quotes : Quotes key name) (spaced : Blank space) (between : Blank gap) (opens : Opens word) :
    ∃ inside, key ++ (space ++ ':' :: (gap ++ word)) = '"' :: inside ∧
      readQuoted ('"' :: inside) = .ok (name, space ++ ':' :: (gap ++ word)) ∧
      skipBlanks (space ++ ':' :: (gap ++ word)) = ':' :: (gap ++ word) ∧ skipBlanks (gap ++ word) = word := by
  obtain ⟨inside, rfl, read⟩ := quotes
  exact ⟨_, rfl, read _, skipBlanks_append spaced (by decide), skipBlanks_opens between opens⟩

theorem readMembers_last (quotes : Quotes key name) (spaced : Blank space)
    (read : readValue fuel word = .ok (v, blanks ++ '\x7d' :: behind)) (between : Blank gap) (opens : Opens word)
    (blank : Blank blanks) :
    readMembers (fuel + 1) members (key ++ (space ++ ':' :: (gap ++ word))) =
      .ok (.map (Entries.ofPairs (members.reverse ++ [(.str name, v)])), behind) := by
  obtain ⟨inside, eq, key, colon, value⟩ := reads_key quotes spaced between opens
  have closing : skipBlanks (blanks ++ '\x7d' :: behind) = '\x7d' :: behind := skipBlanks_append blank (by decide)
  rw [eq]
  simp only [readMembers, key, colon, value, read, closing, bind, Except.bind, List.reverse_cons]

theorem readMembers_more (quotes : Quotes key name) (spaced : Blank space) {comma : List Char} (pause : Blank comma)
    (read : readValue fuel word = .ok (v, comma ++ ',' :: (blanks ++ more))) (between : Blank gap)
    (opens : Opens word) (blank : Blank blanks) (next : Opens more) :
    readMembers (fuel + 1) members (key ++ (space ++ ':' :: (gap ++ word))) =
      readMembers fuel ((.str name, v) :: members) more := by
  obtain ⟨inside, eq, key, colon, value⟩ := reads_key quotes spaced between opens
  have comma : skipBlanks (comma ++ ',' :: (blanks ++ more)) = ',' :: (blanks ++ more) :=
    skipBlanks_append pause (by decide)
  rw [eq]
  simp only [readMembers, key, colon, value, read, comma, skipBlanks_opens blank next, bind, Except.bind]

end Members

theorem readValue_items (blank : Blank blanks) (opens : Opens text) :
    readValue (fuel + 1) ('[' :: (blanks ++ text)) = readItems fuel [] text := by
  rw [readValue, skipBlanks_opens blank opens]
  obtain ⟨c, rest, rfl, -, -, bracket, -⟩ := opens
  split
  · rename_i eq
    cases eq
    exact absurd rfl bracket
  · rfl

theorem readValue_noItems (blank : Blank blanks) :
    readValue (fuel + 1) ('[' :: (blanks ++ ']' :: behind)) = .ok (.list [], behind) := by
  rw [readValue, skipBlanks_append blank (by decide)]
  rfl

theorem readValue_members (blank : Blank blanks) (opens : Opens text) :
    readValue (fuel + 1) ('\x7b' :: (blanks ++ text)) = readMembers fuel [] text := by
  rw [readValue, skipBlanks_opens blank opens]
  obtain ⟨c, rest, rfl, -, -, -, brace⟩ := opens
  split
  · rename_i eq
    cases eq
    exact absurd rfl brace
  · rfl

theorem readValue_noMembers (blank : Blank blanks) :
    readValue (fuel + 1) ('\x7b' :: (blanks ++ '\x7d' :: behind)) = .ok (.map [], behind) := by
  rw [readValue, skipBlanks_append blank (by decide)]
  rfl

theorem readValue_int (n : Int) (ends : Ends behind) :
    readValue (fuel + 1) ((scalarText (.int n)).toList ++ behind) = .ok (.int n, behind) := by
  rw [scalarText, ← readWord_int n ends]
  obtain ⟨negative, m, text, -, -⟩ := toList_int n
  obtain ⟨c, rest, eq, digit⟩ := exists_first_digit m
  rw [text, eq]
  cases negative
  · refine readValue_word fuel ⟨?_, ?_, ?_⟩ <;> (rintro rfl; cases digit)
  · exact readValue_word fuel ⟨by decide, by decide, by decide⟩

theorem readValue_bool (b : Bool) :
    readValue (fuel + 1) ((scalarText (.bool b)).toList ++ behind) = .ok (.bool b, behind) := by
  cases b with
  | false =>
    have word : (scalarText (.bool false)).toList = ['f', 'a', 'l', 's', 'e'] := by decide
    rw [word, List.cons_append, readValue_word fuel ⟨by decide, by decide, by decide⟩]
    simp [readWord, wordValues]
  | true =>
    have word : (scalarText (.bool true)).toList = ['t', 'r', 'u', 'e'] := by decide
    rw [word, List.cons_append, readValue_word fuel ⟨by decide, by decide, by decide⟩]
    simp [readWord, wordValues]

theorem readValue_null : readValue (fuel + 1) ((scalarText .null).toList ++ behind) = .ok (.null, behind) := by
  have word : (scalarText .null).toList = ['n', 'u', 'l', 'l'] := by decide
  rw [word, List.cons_append, readValue_word fuel ⟨by decide, by decide, by decide⟩]
  simp [readWord, wordValues]

/-! ## Reading -/

variable {escape : Char → List Char}

theorem SpelledItems.opens {rest : List Value} (json : Value.IsJsonItems (v :: rest))
    (h : SpelledItems escape (v :: rest) text) : Opens text := by
  rw [Value.IsJsonItems] at json
  rw [SpelledItems] at h
  obtain ⟨word, blanks, more, spelled, -, ⟨-, rfl⟩ | ⟨-, -, rfl⟩⟩ := h
  · exact (spelled.opens json.1).append _
  · exact (spelled.opens json.1).append _

theorem SpelledMembers.opens {key : Value} {rest : Entries} (h : SpelledMembers escape ((key, v) :: rest) text) :
    Opens text := by
  have quoted := opens_quote escape (keyText key)
  rw [SpelledMembers] at h
  obtain ⟨gap, word, blanks, more, -, -, -, ⟨-, eq⟩ | ⟨-, -, eq⟩⟩ := h
  · exact eq ▸ quoted.append _
  · exact eq ▸ quoted.append _

mutual

/-- **A value is read back in any layout**, and what stands behind it is left. The length of the text is fuel enough,
since each level of readers takes a bracket, a comma or a colon. -/
theorem readValue_spelled (escapes : Escapes escape) : (v : Value) → {text behind : List Char} → {fuel : Nat} →
    v.IsJson → Spelled escape v text → Ends behind → text.length ≤ fuel →
    readValue fuel (text ++ behind) = .ok (v, behind)
  | .list items, text, behind, fuel, json, spelled, ends, enough => by
    rw [Value.IsJson] at json
    rw [Spelled] at spelled
    obtain ⟨blanks, rest, blank, spelled, rfl⟩ := spelled
    rw [List.length_cons, List.length_append] at enough
    obtain ⟨fuel, rfl⟩ : ∃ n, fuel = n + 1 := ⟨fuel - 1, by omega⟩
    rw [List.cons_append, List.append_assoc]
    cases items with
    | nil =>
      rw [SpelledItems] at spelled
      subst spelled
      exact readValue_noItems blank
    | cons v more =>
      rw [readValue_items blank ((spelled.opens json).append behind)]
      exact readItems_spelled escapes (v :: more) (List.cons_ne_nil _ _) json spelled (by omega)
  | .map entries, text, behind, fuel, json, spelled, ends, enough => by
    rw [Value.IsJson] at json
    rw [Spelled] at spelled
    obtain ⟨blanks, rest, blank, spelled, rfl⟩ := spelled
    rw [List.length_cons, List.length_append] at enough
    obtain ⟨fuel, rfl⟩ : ∃ n, fuel = n + 1 := ⟨fuel - 1, by omega⟩
    rw [List.cons_append, List.append_assoc]
    cases entries with
    | nil =>
      rw [SpelledMembers] at spelled
      subst spelled
      exact readValue_noMembers blank
    | cons e more =>
      rw [readValue_members blank (spelled.opens.append behind),
        readMembers_spelled escapes (e :: more) (List.cons_ne_nil _ _) json.2 spelled (by omega),
        List.reverse_nil, List.nil_append, Vocabulary.ofPairs_of_distinct json.1]
  | .null, text, behind, fuel, json, spelled, _, enough => by
    obtain ⟨fuel, rfl⟩ := (spelled.opens json).fuel enough
    rw [show text = (scalarText (.null)).toList by simpa only [Spelled] using spelled]
    exact readValue_null
  | .bool b, text, behind, fuel, json, spelled, _, enough => by
    obtain ⟨fuel, rfl⟩ := (spelled.opens json).fuel enough
    rw [show text = (scalarText (.bool b)).toList by simpa only [Spelled] using spelled]
    exact readValue_bool b
  | .int n, text, behind, fuel, json, spelled, ends, enough => by
    obtain ⟨fuel, rfl⟩ := (spelled.opens json).fuel enough
    rw [show text = (scalarText (.int n)).toList by simpa only [Spelled] using spelled]
    exact readValue_int n ends
  | .str s, text, behind, fuel, json, spelled, _, enough => by
    obtain ⟨fuel, rfl⟩ := (spelled.opens json).fuel enough
    rw [show text = (quote escape s).toList by simpa only [Spelled] using spelled]
    exact (quotes_quote escapes s).readValue fuel behind

theorem readItems_spelled (escapes : Escapes escape) : (items : List Value) → items ≠ [] →
    {before : List Value} → {text behind : List Char} → {fuel : Nat} → Value.IsJsonItems items →
    SpelledItems escape items text → text.length ≤ fuel →
    readItems fuel before (text ++ behind) = .ok (.list (before.reverse ++ items), behind)
  | [], given, _, _, _, _, _, _, _ => absurd rfl given
  | v :: rest, _, before, text, behind, fuel, json, spelled, enough => by
    rw [Value.IsJsonItems] at json
    rw [SpelledItems] at spelled
    obtain ⟨word, blanks, more, spelled, blank, ⟨rfl, rfl⟩ | ⟨given, items, rfl⟩⟩ := spelled
    · rw [List.length_append, List.length_append, List.length_singleton] at enough
      obtain ⟨fuel, rfl⟩ : ∃ n, fuel = n + 1 := ⟨fuel - 1, by omega⟩
      have ends : Ends (blanks ++ ']' :: behind) := ends_blanks blank (Or.inl rfl)
      have read : readValue fuel (word ++ (blanks ++ ']' :: behind)) = _ :=
        readValue_spelled escapes v json.1 spelled ends (by omega)
      rw [List.append_assoc, List.append_assoc, List.singleton_append]
      exact readItems_last read blank
    · rw [List.length_append, List.length_cons, List.length_append] at enough
      obtain ⟨fuel, rfl⟩ : ∃ n, fuel = n + 1 := ⟨fuel - 1, by omega⟩
      have read : readValue fuel (word ++ ',' :: (blanks ++ (more ++ behind))) = _ :=
        readValue_spelled escapes v json.1 spelled (ends_comma _) (by omega)
      have next : Opens (more ++ behind) := by
        obtain ⟨w, rest, rfl⟩ := List.exists_cons_of_ne_nil given
        exact (items.opens json.2).append behind
      rw [List.append_assoc, List.cons_append, List.append_assoc]
      refine (readItems_more blank_nil read blank next).trans ?_
      rw [readItems_spelled escapes rest given json.2 items (by omega), List.reverse_cons, List.append_assoc,
        List.singleton_append]

theorem readMembers_spelled (escapes : Escapes escape) : (entries : List (Value × Value)) → entries ≠ [] →
    {before : List (Value × Value)} → {text behind : List Char} → {fuel : Nat} → Value.IsJsonEntries entries →
    SpelledMembers escape entries text → text.length ≤ fuel →
    readMembers fuel before (text ++ behind) = .ok (.map (Entries.ofPairs (before.reverse ++ entries)), behind)
  | [], given, _, _, _, _, _, _, _ => absurd rfl given
  | (key, v) :: rest, _, before, text, behind, fuel, json, spelled, enough => by
    rw [Value.IsJsonEntries] at json
    obtain ⟨⟨name, rfl⟩, json, others⟩ := json
    rw [SpelledMembers, keyText] at spelled
    -- the quoted name is kept as a text of its own, since it would be unfolded down to its bytes
    have quotes : Quotes (quote escape name).toList name := quotes_quote escapes name
    generalize (quote escape name).toList = key at spelled quotes
    obtain ⟨gap, word, blanks, more, between, spelled, blank, ⟨rfl, rfl⟩ | ⟨given, members, rfl⟩⟩ := spelled
    · simp only [List.length_append, List.length_cons, List.length_nil] at enough
      obtain ⟨fuel, rfl⟩ : ∃ n, fuel = n + 1 := ⟨fuel - 1, by omega⟩
      have ends : Ends (blanks ++ '\x7d' :: behind) := ends_blanks blank (Or.inr rfl)
      have read : readValue fuel (word ++ (blanks ++ '\x7d' :: behind)) = _ :=
        readValue_spelled escapes v json spelled ends (by omega)
      simp only [List.append_assoc, List.cons_append]
      exact readMembers_last quotes blank_nil read between ((spelled.opens json).append _) blank
    · simp only [List.length_append, List.length_cons] at enough
      obtain ⟨fuel, rfl⟩ : ∃ n, fuel = n + 1 := ⟨fuel - 1, by omega⟩
      have read : readValue fuel (word ++ ',' :: (blanks ++ (more ++ behind))) = _ :=
        readValue_spelled escapes v json spelled (ends_comma _) (by omega)
      have next : Opens (more ++ behind) := by
        obtain ⟨w, rest, rfl⟩ := List.exists_cons_of_ne_nil given
        exact members.opens.append behind
      simp only [List.append_assoc, List.cons_append]
      refine (readMembers_more quotes blank_nil blank_nil read between ((spelled.opens json).append _) blank
        next).trans ?_
      rw [readMembers_spelled escapes rest given others members (by omega), List.reverse_cons, List.append_assoc,
        List.singleton_append]

end

/-- a value with blanks around it is a whole text -/
theorem readWhole_value {before : List Char} (start : Blank before) (opens : Opens text) (stop : Blank behind)
    (read : ∀ fuel, text.length ≤ fuel → readValue fuel (text ++ behind) = .ok (v, behind)) :
    readWhole (before ++ (text ++ behind)) = .ok v := by
  have value := read ((before ++ (text ++ behind)).length + 1) (by simp only [List.length_append]; omega)
  have skipped : skipBlanks (before ++ (text ++ behind)) = text ++ behind := skipBlanks_opens start (opens.append _)
  have done : skipBlanks (behind ++ []) = [] := List.dropWhile_append_of_pos stop
  rw [List.append_nil] at done
  unfold readWhole
  split
  · rename_i same
    exfalso
    obtain ⟨c, rest, rfl, -, mark, -⟩ := opens
    cases before with
    | nil => exact mark (List.cons.inj same).1
    | cons b more =>
      obtain rfl : b = '\uFEFF' := (List.cons.inj same).1
      exact absurd (start _ List.mem_cons_self) (by decide)
  · rw [skipped, value]
    simp [bind, Except.bind, done]

/-- **A whole text is read back**, whatever its layout. -/
theorem read_spelled (escapes : Escapes escape) {v : Value} {text : String} (json : v.IsJson)
    (spelled : Spelled escape v text.toList) : read text = .ok v := by
  have whole : readWhole ([] ++ (text.toList ++ [])) = .ok v :=
    readWhole_value blank_nil (spelled.opens json) blank_nil
      fun _ enough => readValue_spelled escapes v json spelled (by simp [Ends]) enough
  rw [List.nil_append, List.append_nil] at whole
  rw [read, whole]

/-! ## Layouts that are written -/

theorem spelledItems_intercalate {items : List Value} {parts : List String} {separator : String}
    {between closing : List Char} (comma : separator.toList = ',' :: between) (blank : Blank between)
    (closes : Blank closing) (spelled : List.Forall₂ (fun v p => Spelled escape v p.toList) items parts)
    (given : items ≠ []) : SpelledItems escape items ((separator.intercalate parts).toList ++ (closing ++ [']'])) := by
  induction spelled with
  | nil => exact absurd rfl given
  | @cons v p items parts head tail ih =>
    rw [SpelledItems]
    cases tail with
    | nil => exact ⟨_, closing, [], head, closes, Or.inl ⟨rfl, by rw [String.intercalate_singleton]⟩⟩
    | cons second others =>
      refine ⟨_, between, _, head, blank, Or.inr ⟨by simp, ih (by simp), ?_⟩⟩
      rw [String.intercalate_cons_cons, String.toList_append, String.toList_append, comma]
      simp only [List.append_assoc, List.cons_append]

/-- the text spells a member, with a gap behind the colon -/
def SpelledMember (escape : Char → List Char) (gap : List Char) (e : Value × Value) (part : String) : Prop :=
  ∃ word, Spelled escape e.2 word ∧ part.toList = (quote escape (keyText e.1)).toList ++ ':' :: (gap ++ word)

theorem spelledMembers_intercalate {entries : Entries} {parts : List String} {separator : String}
    {between closing gap : List Char} (comma : separator.toList = ',' :: between) (blank : Blank between)
    (closes : Blank closing) (colon : Blank gap) (spelled : List.Forall₂ (SpelledMember escape gap) entries parts)
    (given : entries ≠ []) :
    SpelledMembers escape entries ((separator.intercalate parts).toList ++ (closing ++ ['\x7d'])) := by
  induction spelled with
  | nil => exact absurd rfl given
  | @cons e p entries parts head tail ih =>
    obtain ⟨word, head, eq⟩ := head
    rw [SpelledMembers]
    cases tail with
    | nil =>
      refine ⟨gap, word, closing, [], colon, head, closes, Or.inl ⟨rfl, ?_⟩⟩
      rw [String.intercalate_singleton, eq]
      simp only [List.append_assoc, List.cons_append]
    | cons second others =>
      refine ⟨gap, word, between, _, colon, head, blank, Or.inr ⟨by simp, ih (by simp), ?_⟩⟩
      rw [String.intercalate_cons_cons, String.toList_append, String.toList_append, comma, eq]
      simp only [List.append_assoc, List.cons_append]

theorem blank_space : Blank [' '] := by simp [Blank, isSpace]

theorem blank_newLine (depth : Nat) : Blank (newLine depth).toList := by
  intro c mem
  rw [newLine, String.toList_ofList, List.mem_cons, List.mem_replicate] at mem
  rcases mem with rfl | ⟨-, rfl⟩ <;> rfl

section Layouts

variable {items : List Value} {entries : Entries} {parts : List String} {depth : Nat}

theorem spelled_lineList {separator : String} {between : List Char} (comma : separator.toList = ',' :: between)
    (blank : Blank between) (spelled : List.Forall₂ (fun v p => Spelled escape v p.toList) items parts) :
    Spelled escape (.list items) ("[" ++ separator.intercalate parts ++ "]").toList := by
  rw [Spelled]
  cases spelled with
  | nil => exact ⟨[], [']'], blank_nil, by rw [SpelledItems], by simp⟩
  | cons head tail =>
    have spelled := spelledItems_intercalate comma blank blank_nil (.cons head tail) (by simp)
    exact ⟨[], _, blank_nil, spelled, by simp⟩

theorem spelled_lineMap {separator : String} {between gap : List Char} (comma : separator.toList = ',' :: between)
    (blank : Blank between) (colon : Blank gap)
    (spelled : List.Forall₂ (SpelledMember escape gap) entries parts) :
    Spelled escape (.map entries) ("\x7b" ++ separator.intercalate parts ++ "\x7d").toList := by
  rw [Spelled]
  cases spelled with
  | nil => exact ⟨[], ['\x7d'], blank_nil, by rw [SpelledMembers], by simp⟩
  | cons head tail =>
    have spelled := spelledMembers_intercalate comma blank blank_nil colon (.cons head tail) (by simp)
    exact ⟨[], _, blank_nil, spelled, by simp⟩

theorem toList_separator (depth : Nat) : ("," ++ newLine depth).toList = ',' :: (newLine depth).toList := by
  simp

theorem spelled_indentedList (spelled : List.Forall₂ (fun v p => Spelled escape v p.toList) items parts) :
    Spelled escape (.list items) (bracketed "[" "]" depth parts).toList := by
  rw [Spelled]
  cases spelled with
  | nil => exact ⟨[], [']'], blank_nil, by rw [SpelledItems], by simp [bracketed]⟩
  | cons head tail =>
    have spelled := spelledItems_intercalate (toList_separator (depth + 1)) (blank_newLine _) (blank_newLine depth)
      (.cons head tail) (by simp)
    exact ⟨_, _, blank_newLine (depth + 1), spelled, by simp [bracketed]⟩

theorem spelled_indentedMap (spelled : List.Forall₂ (SpelledMember escape [' ']) entries parts) :
    Spelled escape (.map entries) (bracketed "\x7b" "\x7d" depth parts).toList := by
  rw [Spelled]
  cases spelled with
  | nil => exact ⟨[], ['\x7d'], blank_nil, by rw [SpelledMembers], by simp [bracketed]⟩
  | cons head tail =>
    have spelled := spelledMembers_intercalate (toList_separator (depth + 1)) (blank_newLine _) (blank_newLine depth)
      blank_space (.cons head tail) (by simp)
    exact ⟨_, _, blank_newLine (depth + 1), spelled, by simp [bracketed]⟩

end Layouts

mutual

theorem spelled_compact : (v : Value) → v.IsJson → Spelled plainEscape v (compact v).toList
  | .list items, json => by
    rw [Value.IsJson] at json
    rw [compact]
    exact spelled_lineList rfl blank_nil (spelledItems_compact items json)
  | .map entries, json => by
    rw [Value.IsJson] at json
    rw [compact]
    exact spelled_lineMap rfl blank_nil blank_nil (spelledMembers_compact entries json.2)
  | .null, _ => by simp [Spelled, compact]
  | .bool _, _ => by simp [Spelled, compact]
  | .int _, _ => by simp [Spelled, compact]
  | .str _, _ => by simp [Spelled, compact, scalarText, quoteText]

theorem spelledItems_compact : (items : List Value) → Value.IsJsonItems items →
    List.Forall₂ (fun v p => Spelled plainEscape v p.toList) items (compactItems items)
  | [], _ => by
    rw [compactItems]
    exact .nil
  | v :: rest, json => by
    rw [Value.IsJsonItems] at json
    rw [compactItems]
    exact .cons (spelled_compact v json.1) (spelledItems_compact rest json.2)

theorem spelledMembers_compact : (entries : List (Value × Value)) → Value.IsJsonEntries entries →
    List.Forall₂ (SpelledMember plainEscape []) entries (compactMembers entries)
  | [], _ => by
    rw [compactMembers]
    exact .nil
  | (key, v) :: rest, json => by
    rw [Value.IsJsonEntries] at json
    rw [compactMembers]
    exact .cons ⟨_, spelled_compact v json.2.1, by simp [quoteText]⟩ (spelledMembers_compact rest json.2.2)

end

mutual

theorem spelled_indented (depth : Nat) : (v : Value) → v.IsJson → Spelled plainEscape v (indented depth v).toList
  | .list items, json => by
    rw [Value.IsJson] at json
    rw [indented]
    exact spelled_indentedList (spelledItems_indented (depth + 1) items json)
  | .map entries, json => by
    rw [Value.IsJson] at json
    rw [indented]
    exact spelled_indentedMap (spelledMembers_indented (depth + 1) entries json.2)
  | .null, _ => by simp [Spelled, indented]
  | .bool _, _ => by simp [Spelled, indented]
  | .int _, _ => by simp [Spelled, indented]
  | .str _, _ => by simp [Spelled, indented, scalarText, quoteText]

theorem spelledItems_indented (depth : Nat) : (items : List Value) → Value.IsJsonItems items →
    List.Forall₂ (fun v p => Spelled plainEscape v p.toList) items (indentedItems depth items)
  | [], _ => by
    rw [indentedItems]
    exact .nil
  | v :: rest, json => by
    rw [Value.IsJsonItems] at json
    rw [indentedItems]
    exact .cons (spelled_indented depth v json.1) (spelledItems_indented depth rest json.2)

theorem spelledMembers_indented (depth : Nat) : (entries : List (Value × Value)) → Value.IsJsonEntries entries →
    List.Forall₂ (SpelledMember plainEscape [' ']) entries (indentedMembers depth entries)
  | [], _ => by
    rw [indentedMembers]
    exact .nil
  | (key, v) :: rest, json => by
    rw [Value.IsJsonEntries] at json
    rw [indentedMembers]
    exact .cons ⟨_, spelled_indented depth v json.2.1, by simp [quoteText]⟩
      (spelledMembers_indented depth rest json.2.2)

end

/-- **What is written without blanks is read back.** -/
theorem read_compact {v : Value} (json : v.IsJson) : read (compact v) = .ok v :=
  read_spelled escapes_plain json (spelled_compact v json)

/-- **What is written with items on lines of their own is read back.** -/
theorem read_indented {v : Value} (json : v.IsJson) (depth : Nat) : read (indented depth v) = .ok v :=
  read_spelled escapes_plain json (spelled_indented depth v json)

end Json

end ApiTypes
