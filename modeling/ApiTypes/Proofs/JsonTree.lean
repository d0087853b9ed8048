/-
Concrete syntax of JSON documents.

A tree says how each part of a document is written: every blank, every escape, every digit. Its text is what stands in
the file, and its value is what is meant. Escapes by digits are those of one character; halves of pairs are left out.
Well-formedness is part of the trees, so that each has a text of the grammar.

Main statements: `readNumber_numeral` and `readQuoted_quoted`, numbers and texts of the grammar are read as what they
mean; `readValue_tree`, so is every tree; `read_document`, and a document with blanks around it.
-/
import ApiTypes.Proofs.JsonText

namespace ApiTypes.Json

open ApiTypes.Number

/-! ## Syntax -/

/-- blanks between the parts of a text -/
structure Blanks where
  chars : List Char
  blank : Blank chars

/-- a part of a quoted text: a character for itself, an escape by a letter, or an escape by four digits -/
inductive Piece where
  | plain (c : Char) (own : 32 ≤ c.toNat ∧ c ≠ '"' ∧ c ≠ '\\')
  | letter (mark c : Char) (means : escaped? mark = some c)
  | digits (first second third fourth c : Char) (means : hexNumber? [first, second, third, fourth] = some c.toNat)

def Piece.text : Piece → List Char
  | plain c _ => [c]
  | letter mark _ _ => ['\\', mark]
  | digits first second third fourth _ _ => ['\\', 'u', first, second, third, fourth]

/-- the character that is meant -/
def Piece.char : Piece → Char
  | plain c _ => c
  | letter _ c _ => c
  | digits _ _ _ _ c _ => c

/-- a text between quotes -/
def quoted (pieces : List Piece) : List Char := '"' :: (pieces.flatMap Piece.text ++ ['"'])

def unquoted (pieces : List Piece) : String := String.ofList (pieces.map Piece.char)

/-- digits, at least one -/
structure Digits where
  chars : List Char
  given : chars ≠ []
  digit : ∀ c ∈ chars, Text.isAsciiDigit c = true

/-- a power of ten behind a number -/
structure Power where
  capital : Bool
  /-- its sign, if one is written: is it a minus? -/
  sign : Option Bool
  digits : Digits

def Power.text (p : Power) : List Char :=
  (if p.capital then 'E' else 'e') :: ((match p.sign with
    | none => []
    | some true => ['-']
    | some false => ['+']) ++ p.digits.chars)

def Power.exponent (p : Power) : Int :=
  if p.sign = some true then -Int.ofNat (naturalOf p.digits.chars) else Int.ofNat (naturalOf p.digits.chars)

/-- a number as it is written -/
structure Numeral where
  negative : Bool
  whole : Digits
  fraction : Option Digits
  power : Option Power
  /-- no leading zero -/
  leads : whole.chars = ['0'] ∨ whole.chars.head? ≠ some '0'

namespace Numeral

def fractionDigits (n : Numeral) : List Char :=
  match n.fraction with
  | none => []
  | some digits => digits.chars

def fractionText (n : Numeral) : List Char :=
  match n.fraction with
  | none => []
  | some digits => '.' :: digits.chars

def powerText (n : Numeral) : List Char :=
  match n.power with
  | none => []
  | some power => power.text

def exponent (n : Numeral) : Int :=
  match n.power with
  | none => 0
  | some power => power.exponent

/-- the digits, a point and a power of ten, without the sign -/
def unsigned (n : Numeral) : List Char := n.whole.chars ++ (n.fractionText ++ n.powerText)

def text (n : Numeral) : List Char := (if n.negative then ['-'] else []) ++ n.unsigned

/-- is it written without a point and without a power of ten? -/
def isInteger (n : Numeral) : Bool := n.fraction.isNone && n.power.isNone

def value (n : Numeral) : Value :=
  if n.isInteger then
    .int (if n.negative then -Int.ofNat (naturalOf n.whole.chars) else Int.ofNat (naturalOf n.whole.chars))
  else
    .float (Binary64.ofDecimal n.negative (naturalOf (n.whole.chars ++ n.fractionDigits))
      (n.exponent - Int.ofNat n.fractionDigits.length))

end Numeral

/-- the words for nothing and for truth values -/
inductive Word where
  | null
  | truth (b : Bool)

def Word.text : Word → List Char
  | null => "null".toList
  | truth true => "true".toList
  | truth false => "false".toList

def Word.value : Word → Value
  | null => .null
  | truth b => .bool b

mutual

inductive Tree where
  | word (word : Word)
  | number (numeral : Numeral)
  | text (pieces : List Piece)
  | noItems (inside : Blanks)
  | list (before : Blanks) (items : Items)
  | noMembers (inside : Blanks)
  | map (before : Blanks) (members : Members)

/-- the items of a list up to its bracket -/
inductive Items where
  | last (item : Tree) (behind : Blanks)
  | more (item : Tree) (behind before : Blanks) (rest : Items)

/-- a key and its value, with the blanks around the colon and behind the value -/
inductive Member where
  | mk (key : List Piece) (behind before : Blanks) (value : Tree) (after : Blanks)

/-- the members of a mapping up to its bracket -/
inductive Members where
  | last (member : Member)
  | more (member : Member) (before : Blanks) (rest : Members)

end

/-- a tree with blanks around it -/
structure Document where
  before : Blanks
  tree : Tree
  behind : Blanks

/-! ## Texts and values -/

mutual

def Tree.chars : Tree → List Char
  | .word word => word.text
  | .number numeral => numeral.text
  | .text pieces => quoted pieces
  | .noItems inside => '[' :: (inside.chars ++ [']'])
  | .list before items => '[' :: (before.chars ++ items.chars)
  | .noMembers inside => '\x7b' :: (inside.chars ++ ['\x7d'])
  | .map before members => '\x7b' :: (before.chars ++ members.chars)

def Items.chars : Items → List Char
  | .last item behind => item.chars ++ (behind.chars ++ [']'])
  | .more item behind before rest => item.chars ++ (behind.chars ++ ',' :: (before.chars ++ rest.chars))

def Member.chars : Member → List Char
  | .mk key behind before value after =>
    quoted key ++ (behind.chars ++ ':' :: (before.chars ++ (value.chars ++ after.chars)))

def Members.chars : Members → List Char
  | .last member => member.chars ++ ['\x7d']
  | .more member before rest => member.chars ++ ',' :: (before.chars ++ rest.chars)

end

mutual

/-- the value of a tree, given what a number means -/
def Tree.valueOf (number : Numeral → Value) : Tree → Value
  | .word word => word.value
  | .number numeral => number numeral
  | .text pieces => .str (unquoted pieces)
  | .noItems _ => .list []
  | .list _ items => .list (items.valuesOf number)
  | .noMembers _ => .map []
  | .map _ members => .map (Entries.ofPairs (members.pairsOf number))

def Items.valuesOf (number : Numeral → Value) : Items → List Value
  | .last item _ => [item.valueOf number]
  | .more item _ _ rest => item.valueOf number :: rest.valuesOf number

def Member.pairOf (number : Numeral → Value) : Member → Value × Value
  | .mk key _ _ value _ => (.str (unquoted key), value.valueOf number)

def Members.pairsOf (number : Numeral → Value) : Members → List (Value × Value)
  | .last member => [member.pairOf number]
  | .more member _ rest => member.pairOf number :: rest.pairsOf number

end

mutual

/-- the numbers in a tree -/
def Tree.numerals : Tree → List Numeral
  | .number numeral => [numeral]
  | .list _ items => items.numerals
  | .map _ members => members.numerals
  | _ => []

def Items.numerals : Items → List Numeral
  | .last item _ => item.numerals
  | .more item _ _ rest => item.numerals ++ rest.numerals

def Member.numerals : Member → List Numeral
  | .mk _ _ _ value _ => value.numerals

def Members.numerals : Members → List Numeral
  | .last member => member.numerals
  | .more member _ rest => member.numerals ++ rest.numerals

end

mutual

/-- the parts of the quoted texts in a tree, those of keys included -/
def Tree.pieces : Tree → List Piece
  | .text pieces => pieces
  | .list _ items => items.pieces
  | .map _ members => members.pieces
  | _ => []

def Items.pieces : Items → List Piece
  | .last item _ => item.pieces
  | .more item _ _ rest => item.pieces ++ rest.pieces

def Member.pieces : Member → List Piece
  | .mk key _ _ value _ => key ++ value.pieces

def Members.pieces : Members → List Piece
  | .last member => member.pieces
  | .more member _ rest => member.pieces ++ rest.pieces

end

def Document.chars (d : Document) : List Char := d.before.chars ++ (d.tree.chars ++ d.behind.chars)

def Document.value (d : Document) : Value := d.tree.valueOf Numeral.value

mutual

theorem Tree.valueOf_congr {f g : Numeral → Value} : (t : Tree) → (∀ n ∈ t.numerals, f n = g n) →
    t.valueOf f = t.valueOf g
  | .word _, _ => rfl
  | .number _, same => same _ List.mem_cons_self
  | .text _, _ => rfl
  | .noItems _, _ => rfl
  | .list _ items, same => by rw [Tree.valueOf, Tree.valueOf, items.valuesOf_congr same]
  | .noMembers _, _ => rfl
  | .map _ members, same => by rw [Tree.valueOf, Tree.valueOf, members.pairsOf_congr same]

theorem Items.valuesOf_congr {f g : Numeral → Value} : (items : Items) → (∀ n ∈ items.numerals, f n = g n) →
    items.valuesOf f = items.valuesOf g
  | .last item _, same => by rw [Items.valuesOf, Items.valuesOf, item.valueOf_congr same]
  | .more item _ _ rest, same => by
    rw [Items.numerals, List.forall_mem_append] at same
    rw [Items.valuesOf, Items.valuesOf, item.valueOf_congr same.1, rest.valuesOf_congr same.2]

theorem Member.pairOf_congr {f g : Numeral → Value} : (member : Member) → (∀ n ∈ member.numerals, f n = g n) →
    member.pairOf f = member.pairOf g
  | .mk _ _ _ value _, same => by rw [Member.pairOf, Member.pairOf, value.valueOf_congr same]

theorem Members.pairsOf_congr {f g : Numeral → Value} : (members : Members) → (∀ n ∈ members.numerals, f n = g n) →
    members.pairsOf f = members.pairsOf g
  | .last member, same => by rw [Members.pairsOf, Members.pairsOf, member.pairOf_congr same]
  | .more member _ rest, same => by
    rw [Members.numerals, List.forall_mem_append] at same
    rw [Members.pairsOf, Members.pairsOf, member.pairOf_congr same.1, rest.pairsOf_congr same.2]

end

/-! ## Texts between quotes -/

theorem readQuotedFrom_piece (start : List Char) (p : Piece) (fuel : Nat) (before rest : List Char) (h : rest ≠ []) :
    readQuotedFrom start (fuel + 1) before (p.text ++ rest) = readQuotedFrom start fuel (p.char :: before) rest := by
  cases p with
  | plain c own =>
    obtain ⟨printable, quote, backslash⟩ := own
    simp [Piece.text, Piece.char, readQuotedFrom, backslash, Nat.not_lt.2 printable]
  | letter mark c means =>
    have other : mark ≠ 'u' := by
      rintro rfl
      cases means
    simp [Piece.text, Piece.char, readQuotedFrom, means]
  | digits first second third fourth c means =>
    -- the code of a character is no half of a pair, so that what follows it does not matter
    have alone : pairChar? c.toNat rest = none := by
      have valid : c.toNat < 0xD800 ∨ 0xDFFF < c.toNat ∧ c.toNat < 0x110000 := c.valid
      unfold pairChar?
      exact if_neg (by omega)
    simp [Piece.text, Piece.char, readQuotedFrom, h, means, alone, unitChar_toNat]

theorem readQuotedFrom_pieces (start : List Char) (pieces : List Piece) (fuel : Nat) (before behind : List Char)
    (enough : pieces.length < fuel) :
    readQuotedFrom start fuel before (pieces.flatMap Piece.text ++ '"' :: behind) =
      .ok (String.ofList (before.reverse ++ pieces.map Piece.char), behind) := by
  induction pieces generalizing fuel before with
  | nil =>
    obtain ⟨fuel, rfl⟩ : ∃ n, fuel = n + 1 := ⟨fuel - 1, by omega⟩
    simp [readQuotedFrom]
  | cons p rest ih =>
    rw [List.length_cons] at enough
    obtain ⟨fuel, rfl⟩ : ∃ n, fuel = n + 1 := ⟨fuel - 1, by omega⟩
    rw [List.flatMap_cons, List.append_assoc, readQuotedFrom_piece _ _ _ _ _ (by simp), ih fuel _ (by omega)]
    simp

theorem length_le_pieces (pieces : List Piece) : pieces.length ≤ (pieces.flatMap Piece.text).length := by
  induction pieces with
  | nil => simp
  | cons p rest ih =>
    have some : 0 < p.text.length := by cases p <;> simp [Piece.text]
    rw [List.length_cons, List.flatMap_cons, List.length_append]
    omega

/-- **A quoted text of the grammar is read as what it means.** -/
theorem readQuoted_quoted (pieces : List Piece) (behind : List Char) :
    readQuoted (quoted pieces ++ behind) = .ok (unquoted pieces, behind) := by
  have length := length_le_pieces pieces
  rw [quoted, List.cons_append, List.append_assoc, readQuoted, List.tail_cons]
  refine (readQuotedFrom_pieces _ pieces _ [] behind ?_).trans (by simp [unquoted])
  rw [List.length_cons, List.length_append]
  omega

/-! ## Numbers -/

theorem takeWhile_digits_append {digits rest : List Char} (digit : ∀ c ∈ digits, Text.isAsciiDigit c = true)
    (ends : ∀ c ∈ rest.head?, Text.isAsciiDigit c = false) :
    (digits ++ rest).takeWhile Text.isAsciiDigit = digits ∧
      (digits ++ rest).dropWhile Text.isAsciiDigit = rest := by
  have stops : rest.takeWhile Text.isAsciiDigit = [] ∧ rest.dropWhile Text.isAsciiDigit = rest := by
    cases rest with
    | nil => exact ⟨rfl, rfl⟩
    | cons c rest => simp [ends c rfl]
  rw [List.takeWhile_append_of_pos digit, List.dropWhile_append_of_pos digit]
  simp [stops]

theorem Digits.exists_cons (d : Digits) : ∃ c rest, d.chars = c :: rest ∧ Text.isAsciiDigit c = true := by
  obtain ⟨c, rest, eq⟩ := List.exists_cons_of_ne_nil d.given
  exact ⟨c, rest, eq, d.digit c (eq ▸ List.mem_cons_self)⟩

theorem Ends.no_digit {behind : List Char} (h : Ends behind) : ∀ c ∈ behind.head?, Text.isAsciiDigit c = false := by
  cases behind with
  | nil => simp
  | cons c rest =>
    rintro _ ⟨⟩
    exact h.head.1

theorem exponentOf_power (p : Power) {behind : List Char} (h : Ends behind) :
    exponentOf (p.text ++ behind) = (some p.exponent, behind) := by
  obtain ⟨capital, sign, digits⟩ := p
  obtain ⟨taken, left⟩ := takeWhile_digits_append digits.digit h.no_digit
  obtain ⟨c, rest, eq, digit⟩ := digits.exists_cons
  have mark : ((if capital then 'E' else 'e') == 'e' || (if capital then 'E' else 'e') == 'E') = true := by
    cases capital <;> rfl
  have minus : c ≠ '-' := by
    rintro rfl
    cases digit
  have plus : c ≠ '+' := by
    rintro rfl
    cases digit
  rw [eq, List.cons_append] at taken left
  rcases sign with - | negative | negative
  all_goals
    simp only [Power.text, List.cons_append, List.nil_append, exponentOf, mark, if_true]
    simp [Power.exponent, eq, minus, plus, taken, left]

namespace Numeral

variable (n : Numeral) {behind : List Char}

/-- a number goes on behind its digits with a point or a mark of a power of ten -/
theorem power_no_digit (h : Ends behind) :
    ∀ c ∈ (n.powerText ++ behind).head?, Text.isAsciiDigit c = false ∧ c ≠ '.' := by
  unfold powerText
  cases n.power with
  | none =>
    cases behind with
    | nil => simp
    | cons c rest =>
      rintro _ ⟨⟩
      exact ⟨h.head.1, h.head.2.1⟩
  | some p =>
    rintro _ ⟨⟩
    cases p.capital <;> exact ⟨rfl, by decide⟩

theorem fraction_no_digit (h : Ends behind) :
    ∀ c ∈ (n.fractionText ++ (n.powerText ++ behind)).head?, Text.isAsciiDigit c = false := by
  unfold fractionText
  cases n.fraction with
  | none => exact fun c first => (n.power_no_digit h c first).1
  | some digits =>
    rintro _ ⟨⟩
    rfl

theorem fractionOf_text (h : Ends behind) :
    fractionOf (n.fractionText ++ (n.powerText ++ behind)) = (n.fractionDigits, n.powerText ++ behind) := by
  have next := n.power_no_digit h
  unfold fractionText fractionDigits
  cases n.fraction with
  | none =>
    rw [List.nil_append]
    unfold fractionOf
    split
    · rename_i eq
      rw [eq] at next
      exact absurd rfl (next '.' rfl).2
    · rfl
  | some digits =>
    obtain ⟨taken, left⟩ := takeWhile_digits_append digits.digit fun c first => (next c first).1
    simp [fractionOf, taken, left, digits.given]

theorem exponentOf_text (h : Ends behind) :
    exponentOf (n.powerText ++ behind) = (n.power.map Power.exponent, behind) := by
  unfold powerText
  cases n.power with
  | none =>
    cases behind with
    | nil => rfl
    | cons c rest =>
      obtain ⟨-, -, lower, upper⟩ := h.head
      simp [exponentOf, lower, upper]
  | some p => exact exponentOf_power p h

theorem numberFrom_text (h : Ends behind) :
    numberFrom n.negative n.whole.chars (n.fractionText ++ (n.powerText ++ behind)) = (n.value, behind) := by
  have integer : (n.fractionDigits.isEmpty && (n.power.map Power.exponent).isNone) = n.isInteger := by
    unfold fractionDigits isInteger
    cases n.fraction with
    | none => simp
    | some digits => simp [digits.given]
  have exponent : (n.power.map Power.exponent).getD 0 = n.exponent := by
    unfold exponent
    cases n.power <;> rfl
  simp only [numberFrom, n.fractionOf_text h, n.exponentOf_text h, integer, exponent, value]
  split <;> rfl

end Numeral

/-- **A number of the grammar is read as what it means.** -/
theorem readNumber_numeral (n : Numeral) {behind : List Char} (h : Ends behind) :
    readNumber (n.text ++ behind) = .ok (n.value, behind) := by
  have next := n.fraction_no_digit h
  have number := n.numberFrom_text h
  obtain ⟨c, rest, eq, digit⟩ := n.whole.exists_cons
  have leads := n.leads
  obtain ⟨taken, left⟩ := takeWhile_digits_append n.whole.digit next
  have sign : c ≠ '-' := by
    rintro rfl
    cases digit
  rw [Numeral.text, Numeral.unsigned]
  simp only [List.append_assoc]
  rw [eq] at leads number taken left ⊢
  by_cases zero : c = '0'
  · obtain rfl : rest = [] := by
      rcases leads with leads | leads
      · exact (List.cons.inj leads).2
      · exact absurd (congrArg some zero) leads
    subst zero
    cases negative : n.negative <;> simp_all [readNumber]
  · rw [List.cons_append] at taken left
    cases negative : n.negative
    · rw [negative] at number
      simp [readNumber, sign, digit, taken, left, number]
    · rw [negative] at number
      simp [readNumber, digit, taken, left, number]

theorem Numeral.exists_first (n : Numeral) : ∃ c rest, Text.isAsciiDigit c = true ∧
    (n.text = c :: rest ∨ n.text = '-' :: c :: rest) := by
  obtain ⟨c, rest, eq, digit⟩ := n.whole.exists_cons
  refine ⟨c, rest ++ (n.fractionText ++ n.powerText), digit, ?_⟩
  rw [text, unsigned, eq]
  cases n.negative
  · exact Or.inl rfl
  · exact Or.inr rfl

theorem readWord_numeral (n : Numeral) {behind : List Char} (h : Ends behind) :
    readWord (n.text ++ behind) = .ok (n.value, behind) := by
  obtain ⟨c, rest, digit, eq⟩ := n.exists_first
  rw [readWord_number c (rest ++ behind), readNumber_numeral n h]
  rcases eq with eq | eq
  · exact Or.inl ⟨by rw [eq, List.cons_append], digit⟩
  · exact Or.inr ⟨by rw [eq, List.cons_append, List.cons_append], digit⟩

theorem readWord_word (w : Word) (behind : List Char) : readWord (w.text ++ behind) = .ok (w.value, behind) := by
  rcases w with - | b
  · simp [Word.text, Word.value, readWord, wordValues]
  · cases b <;> simp [Word.text, Word.value, readWord, wordValues]

/-! ## Trees -/

theorem not_digit_of_space {c : Char} (digit : Text.isAsciiDigit c = true) :
    isSpace c = false ∧ c ≠ '\uFEFF' ∧ c ≠ ']' ∧ c ≠ '\x7d' ∧ c ≠ '"' ∧ c ≠ '[' ∧ c ≠ '\x7b' := by
  refine ⟨?_, ?_, ?_, ?_, ?_, ?_, ?_⟩
  · cases space : isSpace c with
    | false => rfl
    | true =>
      simp only [isSpace, Bool.or_eq_true, beq_iff_eq, or_assoc] at space
      rcases space with rfl | rfl | rfl | rfl <;> cases digit
  all_goals
    rintro rfl
    cases digit

theorem Numeral.opens (n : Numeral) : Opens n.text := by
  obtain ⟨c, rest, digit, eq⟩ := n.exists_first
  rcases eq with eq | eq
  · obtain ⟨space, mark, bracket, brace, -⟩ := not_digit_of_space digit
    exact ⟨c, rest, eq, space, mark, bracket, brace⟩
  · exact ⟨'-', c :: rest, eq, by decide, by decide, by decide, by decide⟩

theorem opens_quoted (pieces : List Piece) : Opens (quoted pieces) :=
  ⟨_, _, rfl, by decide, by decide, by decide, by decide⟩

theorem Tree.opens : (t : Tree) → Opens t.chars
  | .word .null => ⟨_, _, rfl, by decide, by decide, by decide, by decide⟩
  | .word (.truth true) => ⟨_, _, rfl, by decide, by decide, by decide, by decide⟩
  | .word (.truth false) => ⟨_, _, rfl, by decide, by decide, by decide, by decide⟩
  | .number n => n.opens
  | .text pieces => opens_quoted pieces
  | .noItems _ => ⟨_, _, rfl, by decide, by decide, by decide, by decide⟩
  | .list _ _ => ⟨_, _, rfl, by decide, by decide, by decide, by decide⟩
  | .noMembers _ => ⟨_, _, rfl, by decide, by decide, by decide, by decide⟩
  | .map _ _ => ⟨_, _, rfl, by decide, by decide, by decide, by decide⟩

theorem Items.opens (items : Items) : Opens items.chars := by
  cases items with
  | last item _ => exact item.opens.append _
  | more item _ _ _ => exact item.opens.append _

theorem Member.opens (member : Member) : Opens member.chars := by
  obtain ⟨key, -, -, -, -⟩ := member
  exact (opens_quoted key).append _

theorem Members.opens (members : Members) : Opens members.chars := by
  cases members with
  | last member => exact member.opens.append _
  | more member _ _ => exact member.opens.append _

theorem quotes_quoted (pieces : List Piece) : Quotes (quoted pieces) (unquoted pieces) :=
  ⟨_, rfl, readQuoted_quoted pieces⟩

theorem readValue_numeral (n : Numeral) (fuel : Nat) {behind : List Char} (ends : Ends behind) :
    readValue (fuel + 1) (n.text ++ behind) = .ok (n.value, behind) := by
  rw [← readWord_numeral n ends]
  obtain ⟨c, rest, digit, eq | eq⟩ := n.exists_first
  · obtain ⟨-, -, -, -, quote, bracket, brace⟩ := not_digit_of_space digit
    rw [eq]
    exact readValue_word fuel ⟨quote, bracket, brace⟩
  · rw [eq]
    exact readValue_word fuel ⟨by decide, by decide, by decide⟩

theorem readValue_wordText (w : Word) (fuel : Nat) (behind : List Char) :
    readValue (fuel + 1) (w.text ++ behind) = .ok (w.value, behind) := by
  rw [← readWord_word w behind]
  rcases w with - | - | -
  all_goals exact readValue_word fuel ⟨by decide, by decide, by decide⟩

theorem ends_blanks_comma (b : Blanks) (rest : List Char) : Ends (b.chars ++ ',' :: rest) := by
  obtain ⟨blanks, blank⟩ := b
  cases blanks with
  | nil => exact ends_comma rest
  | cons c blanks =>
    rintro _ ⟨⟩
    exact Or.inr (Or.inr (Or.inr (blank c List.mem_cons_self)))

section Reading

variable {fuel : Nat} {behind : List Char}

mutual

/-- **A tree is read as its value**, and what stands behind it is left. -/
theorem readValue_tree : (t : Tree) → (fuel : Nat) → {behind : List Char} → Ends behind → t.chars.length ≤ fuel →
    readValue fuel (t.chars ++ behind) = .ok (t.valueOf Numeral.value, behind)
  | t, 0, _, _, enough => absurd (t.opens.fuel enough) (by simp)
  | .word w, fuel + 1, behind, _, _ => readValue_wordText w fuel behind
  | .number n, fuel + 1, _, ends, _ => readValue_numeral n fuel ends
  | .text pieces, fuel + 1, behind, _, _ => (quotes_quoted pieces).readValue fuel behind
  | .noItems inside, fuel + 1, behind, _, _ => by
    rw [Tree.chars, List.cons_append, List.append_assoc]
    exact readValue_noItems inside.blank
  | .list before items, fuel + 1, behind, _, enough => by
    rw [Tree.chars, List.length_cons, List.length_append] at enough
    rw [Tree.chars, List.cons_append, List.append_assoc, readValue_items before.blank (items.opens.append behind),
      readItems_items items fuel [] behind (by omega), Tree.valueOf, List.reverse_nil, List.nil_append]
  | .noMembers inside, fuel + 1, behind, _, _ => by
    rw [Tree.chars, List.cons_append, List.append_assoc]
    exact readValue_noMembers inside.blank
  | .map before members, fuel + 1, behind, _, enough => by
    rw [Tree.chars, List.length_cons, List.length_append] at enough
    rw [Tree.chars, List.cons_append, List.append_assoc,
      readValue_members before.blank (members.opens.append behind),
      readMembers_members members fuel [] behind (by omega), Tree.valueOf, List.reverse_nil, List.nil_append]

theorem readItems_items : (items : Items) → (fuel : Nat) → (before : List Value) → (behind : List Char) →
    items.chars.length ≤ fuel → readItems fuel before (items.chars ++ behind) =
      .ok (.list (before.reverse ++ items.valuesOf Numeral.value), behind)
  | items, 0, _, _, enough => absurd (items.opens.fuel enough) (by simp)
  | .last item space, fuel + 1, before, behind, enough => by
    rw [Items.chars, List.length_append, List.length_append, List.length_singleton] at enough
    have ends : Ends (space.chars ++ ']' :: behind) := ends_blanks space.blank (Or.inl rfl)
    have read := readValue_tree item fuel ends (by omega)
    rw [Items.chars, List.append_assoc, List.append_assoc]
    exact readItems_last read space.blank
  | .more item space gap rest, fuel + 1, before, behind, enough => by
    rw [Items.chars, List.length_append, List.length_append, List.length_cons, List.length_append] at enough
    have read := readValue_tree item fuel (ends_blanks_comma space (gap.chars ++ (rest.chars ++ behind))) (by omega)
    rw [Items.chars, List.append_assoc, List.append_assoc, List.cons_append, List.append_assoc,
      readItems_more space.blank read gap.blank (rest.opens.append behind),
      readItems_items rest fuel _ behind (by omega), Items.valuesOf, List.reverse_cons, List.append_assoc,
      List.singleton_append]

theorem readMembers_members : (members : Members) → (fuel : Nat) → (before : List (Value × Value)) →
    (behind : List Char) → members.chars.length ≤ fuel → readMembers fuel before (members.chars ++ behind) =
      .ok (.map (Entries.ofPairs (before.reverse ++ members.pairsOf Numeral.value)), behind)
  | members, 0, _, _, enough => absurd (members.opens.fuel enough) (by simp)
  | .last (.mk key space gap value after), fuel + 1, before, behind, enough => by
    simp only [Members.chars, Member.chars, List.length_append, List.length_cons, List.length_nil] at enough
    have ends : Ends (after.chars ++ '\x7d' :: behind) := ends_blanks after.blank (Or.inr rfl)
    have read := readValue_tree value fuel ends (by omega)
    simp only [Members.chars, Member.chars, List.append_assoc, List.cons_append, List.nil_append]
    exact readMembers_last (quotes_quoted key) space.blank read gap.blank (value.opens.append _) after.blank
  | .more (.mk key space gap value after) next rest, fuel + 1, before, behind, enough => by
    simp only [Members.chars, Member.chars, List.length_append, List.length_cons] at enough
    have read := readValue_tree value fuel (ends_blanks_comma after (next.chars ++ (rest.chars ++ behind))) (by omega)
    simp only [Members.chars, Member.chars, List.append_assoc, List.cons_append]
    rw [readMembers_more (quotes_quoted key) space.blank after.blank read gap.blank (value.opens.append _) next.blank
        (rest.opens.append behind), readMembers_members rest fuel _ behind (by omega), Members.pairsOf, Member.pairOf,
      List.reverse_cons, List.append_assoc, List.singleton_append]

end

end Reading

theorem ends_blank {blanks : List Char} (h : Blank blanks) : Ends blanks := by
  intro c first
  exact Or.inr (Or.inr (Or.inr (h c (List.mem_of_mem_head? first))))

/-- **A document is read as its value.** -/
theorem read_document (d : Document) : read (String.ofList d.chars) = .ok d.value := by
  have whole : readWhole d.chars = .ok d.value :=
    readWhole_value d.before.blank d.tree.opens d.behind.blank
      fun fuel enough => readValue_tree d.tree fuel (ends_blank d.behind.blank) enough
  rw [read, String.toList_ofList, whole]

end ApiTypes.Json
