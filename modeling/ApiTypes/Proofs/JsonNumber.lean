/-
Numbers of JSON as plain scalars.

A plain scalar is a number if it has the form of one. An exponent must have a sign there, and a point before it, so that
a number of JSON that is written otherwise is a text.

Main statements: `neg_ofDecimal`, a sign before a decimal is the sign of its number; `read_numeral`, what is read for a
number of JSON as a plain scalar.
-/
import ApiTypes.Proofs.JsonTree
import ApiTypes.Yaml.Scalar

namespace ApiTypes

/-! ## Signs -/

namespace Number.Binary64

theorem xor_top {n : Nat} (h : n < 2 ^ 64) : n ^^^ 2 ^ 63 = (2 ^ 63 + n) % 2 ^ 64 := by
  have low : (n ^^^ 2 ^ 63) % 2 ^ 63 = n % 2 ^ 63 := by
    rw [Nat.xor_mod_two_pow, Nat.mod_self, Nat.xor_zero]
  have high : (n ^^^ 2 ^ 63) / 2 ^ 63 = n / 2 ^ 63 ^^^ 1 := by
    rw [Nat.xor_div_two_pow, Nat.div_self (by decide)]
  have bit : n / 2 ^ 63 = 0 ∨ n / 2 ^ 63 = 1 := by omega
  have flipped : n / 2 ^ 63 ^^^ 1 = 1 - n / 2 ^ 63 := by
    rcases bit with bit | bit <;> rw [bit] <;> rfl
  rw [flipped] at high
  omega

theorem neg_ofFields (exponent fraction : Nat) :
    (ofFields false exponent fraction).neg = ofFields true exponent fraction := by
  have top : powerOfTwo 63 = 2 ^ 63 := rfl
  have word : (0x8000000000000000 : UInt64).toNat = 2 ^ 63 := rfl
  have ofNat : ∀ n : Nat, (UInt64.ofNat n).toNat = n % 2 ^ 64 := fun _ => rfl
  unfold ofFields neg
  congr 1
  apply UInt64.toNat.inj
  rw [UInt64.toNat_xor, word, ofNat, ofNat, xor_top (Nat.mod_lt _ (by decide)), if_pos rfl, if_neg (by decide), top]
  omega

theorem neg_ite {p : Prop} [Decidable p] {x y negX negY : Binary64} (hx : x.neg = negX) (hy : y.neg = negY) :
    (if p then x else y).neg = if p then negX else negY := by
  split
  · exact hx
  · exact hy

theorem neg_pack (mantissa : Nat) (exponent : Int) : (pack false mantissa exponent).neg = pack true mantissa exponent :=
  neg_ite (neg_ofFields _ _) (neg_ite (neg_ofFields _ _) (neg_ofFields _ _))

theorem neg_ofRatio (num den : Nat) : (ofRatio false num den).neg = ofRatio true num den :=
  neg_ite (neg_ofFields _ _) (neg_pack _ _)

theorem neg_ofDecimal (digits : Nat) (exponent : Int) :
    (ofDecimal false digits exponent).neg = ofDecimal true digits exponent :=
  neg_ite (neg_ofFields _ _) (neg_ite (neg_ofFields _ _) (neg_ite (neg_ofFields _ _)
    (neg_ite (neg_ofRatio _ _) (neg_ofRatio _ _))))

end Number.Binary64

namespace Yaml

/-! ## Forms of texts -/

theorem Kind.dropSign_of_ne {c : Char} {rest : List Char} (minus : c ≠ '-') (plus : c ≠ '+') :
    dropSign (c :: rest) = c :: rest := by
  unfold dropSign
  split
  · rename_i same
    exact absurd (List.cons.inj same).1 minus
  · rename_i same
    exact absurd (List.cons.inj same).1 plus
  · rfl

theorem Kind.parts_of_no_colon {text : List Char} (h : ':' ∉ text) : parts text = [text] := by
  induction text with
  | nil => rfl
  | cons c rest ih =>
    rw [List.mem_cons, not_or] at h
    rw [parts, ih h.2]
    exact fun eq => h.1 eq.symm

/-- a stamp starts with the digits of its year and a dash -/
theorem Stamp.exists_dash {text : List Char} {s : Stamp} (h : ofText? text = some s) :
    ∃ digits more, text = digits ++ '-' :: more ∧ digits ≠ [] ∧ ∀ c ∈ digits, Text.isAsciiDigit c = true := by
  unfold ofText? at h
  obtain ⟨⟨year, rest⟩, found, h⟩ := Option.bind_eq_some_iff.1 h
  obtain ⟨behind, dash, -⟩ := Option.bind_eq_some_iff.1 h
  obtain ⟨more, rfl⟩ : ∃ more, rest = '-' :: more := by
    unfold char? at dash
    split at dash
    · split at dash
      · rename_i x more eq
        exact ⟨more, by rw [eq]⟩
      · cases dash
    · cases dash
  unfold digits? at found
  dsimp only at found
  split at found
  · rename_i four
    obtain ⟨-, left⟩ := Prod.mk.inj (Option.some.inj found)
    have taken : (text.take 4).takeWhile Text.isAsciiDigit = text.take 4 := by
      refine (List.takeWhile_prefix _).eq_of_length ?_
      have most := (List.takeWhile_prefix (l := text.take 4) Text.isAsciiDigit).length_le
      have least := List.length_take_le 4 text
      omega
    rw [taken] at four left
    have length : (text.take 4).length = 4 := Nat.le_antisymm (List.length_take_le 4 text) four
    rw [length] at left
    refine ⟨text.take 4, more, by rw [← left, List.take_append_drop], List.ne_nil_of_length_pos (by omega), ?_⟩
    rw [← taken]
    exact List.all_eq_true.1 List.all_takeWhile
  · cases found

end Yaml

namespace Json

open ApiTypes.Number ApiTypes.Yaml

/-! ## Numbers that keep their value -/

namespace Numeral

/-- is it a number in block notation too? -/
def isKept (n : Numeral) : Bool :=
  n.isInteger || (n.fraction.isSome && n.power.all fun power => power.sign.isSome)

/-- what is read for the number in block notation -/
def loaded (n : Numeral) : Value := if n.isKept then n.value else .str (String.ofList n.text)

variable (n : Numeral)

/-! ## Characters -/

theorem digit_ne {c : Char} (digit : Text.isAsciiDigit c = true) : c ≠ '-' ∧ c ≠ '+' ∧ c ≠ '.' ∧ c ≠ ':' ∧ c ≠ '_' ∧
    c ≠ 'e' ∧ c ≠ 'E' ∧ c ≠ 'b' ∧ c ≠ 'x' ∧ Text.isBlank c = false ∧ Text.lowerChar c = c := by
  refine ⟨?_, ?_, ?_, ?_, ?_, ?_, ?_, ?_, ?_, ?_, ?_⟩
  all_goals try
    rintro rfl
    exact absurd digit (by decide)
  all_goals
    simp only [Text.isAsciiDigit, Bool.and_eq_true, decide_eq_true_eq] at digit
  · simp only [Text.isBlank, Bool.or_eq_false_iff, Bool.and_eq_false_iff, decide_eq_false_iff_not, beq_eq_false_iff_ne]
    omega
  · rw [Text.lowerChar, if_neg]
    simp only [Text.isUpper, Bool.and_eq_true, decide_eq_true_eq]
    omega

/-- the characters of a number: digits, signs, a point, marks of a power of ten -/
def IsFigure (z : Char) : Prop :=
  Text.isAsciiDigit z = true ∨ z = '-' ∨ z = '+' ∨ z = '.' ∨ z = 'e' ∨ z = 'E'

theorem mem_powerText {z : Char} (mem : z ∈ n.powerText) : IsFigure z ∧ z ≠ '.' := by
  unfold powerText at mem
  split at mem
  · cases mem
  · rename_i p _
    rw [Power.text, List.mem_cons, List.mem_append] at mem
    rcases mem with rfl | sign | digit
    · cases p.capital
      · exact ⟨Or.inr (Or.inr (Or.inr (Or.inr (Or.inl rfl)))), by decide⟩
      · exact ⟨Or.inr (Or.inr (Or.inr (Or.inr (Or.inr rfl)))), by decide⟩
    · split at sign
      · cases sign
      · obtain rfl := List.mem_singleton.1 sign
        exact ⟨Or.inr (Or.inl rfl), by decide⟩
      · obtain rfl := List.mem_singleton.1 sign
        exact ⟨Or.inr (Or.inr (Or.inl rfl)), by decide⟩
    · have digit := p.digits.digit z digit
      exact ⟨Or.inl digit, (digit_ne digit).2.2.1⟩

theorem mem_unsigned {z : Char} (mem : z ∈ n.unsigned) : IsFigure z := by
  rw [unsigned, List.mem_append, List.mem_append] at mem
  rcases mem with whole | fraction | power
  · exact Or.inl (n.whole.digit z whole)
  · unfold fractionText at fraction
    split at fraction
    · cases fraction
    · rename_i digits _
      rcases List.mem_cons.1 fraction with rfl | digit
      · exact Or.inr (Or.inr (Or.inr (Or.inl rfl)))
      · exact Or.inl (digits.digit z digit)
  · exact (n.mem_powerText power).1

theorem mem_text {z : Char} (mem : z ∈ n.text) : IsFigure z := by
  rw [text, List.mem_append] at mem
  rcases mem with sign | mem
  · split at sign
    · exact Or.inr (Or.inl (List.mem_singleton.1 sign))
    · cases sign
  · exact n.mem_unsigned mem

theorem IsFigure.ne {z : Char} (h : IsFigure z) : z ≠ ':' ∧ z ≠ '_' ∧ Text.isBlank z = false := by
  rcases h with digit | rfl | rfl | rfl | rfl | rfl
  · obtain ⟨-, -, -, colon, underscore, -, -, -, -, blank, -⟩ := digit_ne digit
    exact ⟨colon, underscore, blank⟩
  all_goals exact ⟨by decide, by decide, by decide⟩

theorem unsigned_cons : ∃ c rest, n.unsigned = c :: rest ∧ Text.isAsciiDigit c = true := by
  obtain ⟨c, rest, eq, digit⟩ := n.whole.exists_cons
  exact ⟨c, rest ++ (n.fractionText ++ n.powerText), by rw [unsigned, eq, List.cons_append], digit⟩

theorem dropSign_unsigned : Kind.dropSign n.unsigned = n.unsigned := by
  obtain ⟨c, rest, eq, digit⟩ := n.unsigned_cons
  obtain ⟨minus, plus, -⟩ := digit_ne digit
  rw [eq]
  exact Kind.dropSign_of_ne minus plus

theorem dropSign_text : Kind.dropSign n.text = n.unsigned := by
  rw [text]
  cases n.negative
  · exact n.dropSign_unsigned
  · rfl

theorem isNegative_text : Scalar.isNegative n.text = n.negative := by
  obtain ⟨c, rest, eq, digit⟩ := n.unsigned_cons
  rw [text]
  cases n.negative
  · simp [Scalar.isNegative, eq, (digit_ne digit).1]
  · rfl

/-! ## Forms -/

theorem isSexagesimal_eq_false {text : List Char} (first : List Char → Bool) (h : ∀ z ∈ text, z ≠ ':') :
    Kind.isSexagesimal first text = false := by
  have parts : Kind.parts text = [text] := Kind.parts_of_no_colon fun mem => h _ mem rfl
  simp [Kind.isSexagesimal, parts]

theorem isExponent_powerText : Kind.isExponent n.powerText = n.power.all fun power => power.sign.isSome := by
  unfold powerText
  cases n.power with
  | none => rfl
  | some p =>
    obtain ⟨capital, sign, digits⟩ := p
    obtain ⟨c, rest, eq, digit⟩ := digits.exists_cons
    obtain ⟨minus, plus, -⟩ := digit_ne digit
    have all : (c :: rest).all Text.isAsciiDigit = true := List.all_eq_true.2 (eq ▸ digits.digit)
    have mark : ((if capital then 'E' else 'e') == 'e' || (if capital then 'E' else 'e') == 'E') = true := by
      cases capital <;> rfl
    rcases sign with - | negative | negative
    · simp [Power.text, Kind.isExponent, eq, minus, plus]
    all_goals
      simp only [Power.text, Kind.isExponent, eq, List.cons_append, List.nil_append, mark, all]
      rfl

theorem dropWhile_figures (digits : Digits) :
    (digits.chars ++ n.powerText).dropWhile Kind.isFigure = n.powerText := by
  have figures : ∀ c ∈ digits.chars, Kind.isFigure c = true := by
    intro c mem
    simp [Kind.isFigure, digits.digit c mem]
  rw [List.dropWhile_append_of_pos figures]
  unfold powerText
  cases n.power with
  | none => rfl
  | some p =>
    obtain ⟨capital, sign, digits⟩ := p
    cases capital <;> rfl

theorem atPoint?_unsigned : Kind.atPoint? n.unsigned =
    n.fraction.map fun digits => (n.whole.chars, digits.chars ++ n.powerText) := by
  have whole : ∀ c ∈ n.whole.chars, (c != '.') = true := fun c mem => by
    simpa using (digit_ne (n.whole.digit c mem)).2.2.1
  have power : ∀ c ∈ n.powerText, (c != '.') = true := fun c mem => by simpa using (n.mem_powerText mem).2
  rw [Kind.atPoint?, unsigned, List.dropWhile_append_of_pos whole, List.takeWhile_append_of_pos whole, fractionText]
  cases n.fraction with
  | none =>
    have done : (n.powerText ++ []).dropWhile (· != '.') = [] := List.dropWhile_append_of_pos power
    rw [List.append_nil] at done
    simp [done]
  | some digits => simp

theorem isFloat_text : Kind.isFloat n.text = (n.fraction.isSome && n.power.all fun power => power.sign.isSome) := by
  obtain ⟨c, rest, eq, digit⟩ := n.unsigned_cons
  have point := (digit_ne digit).2.2.1
  have named : (["inf", "Inf", "INF"].any fun w => n.unsigned == '.' :: w.toList) = false := by
    simp [eq, point]
  have start : ∃ d tail, n.text = d :: tail ∧ d ≠ '.' := by
    rw [text, eq]
    cases n.negative
    · exact ⟨c, rest, rfl, point⟩
    · exact ⟨'-', _, rfl, by decide⟩
  obtain ⟨d, tail, first, other⟩ := start
  have notANumber : (["nan", "NaN", "NAN"].any fun w => n.text == '.' :: w.toList) = false := by
    simp [first, other]
  have led : Kind.ledBy Text.isAsciiDigit n.whole.chars = true := by
    obtain ⟨c, rest, eq, digit⟩ := n.whole.exists_cons
    have all := n.whole.digit
    rw [eq] at all ⊢
    simp only [Kind.ledBy, digit, Bool.true_and, List.all_eq_true, Bool.or_eq_true]
    exact fun z mem => Or.inl (all z (List.mem_cons_of_mem _ mem))
  have sexagesimal : Kind.isSexagesimal (Kind.ledBy Text.isAsciiDigit) n.whole.chars = false :=
    isSexagesimal_eq_false _ fun z mem => (digit_ne (n.whole.digit z mem)).2.2.2.1
  simp only [Kind.isFloat, dropSign_text, named, notANumber, atPoint?_unsigned, Bool.false_or]
  rw [first]
  cases n.fraction with
  | none => simp [other]
  | some digits => simp [led, sexagesimal, dropWhile_figures, isExponent_powerText, other]

/-- what stands behind the whole part: nothing, or a point or a mark of a power of ten -/
theorem behind_whole : n.isInteger = true ∧ n.fractionText ++ n.powerText = [] ∨
    n.isInteger = false ∧ ∃ y more, n.fractionText ++ n.powerText = y :: more ∧ (y = '.' ∨ y = 'e' ∨ y = 'E') := by
  unfold isInteger fractionText powerText
  cases n.fraction with
  | some digits => exact Or.inr ⟨rfl, '.', _, rfl, Or.inl rfl⟩
  | none =>
    cases n.power with
    | none => exact Or.inl ⟨rfl, rfl⟩
    | some p =>
      obtain ⟨capital, sign, digits⟩ := p
      cases capital
      · exact Or.inr ⟨rfl, 'e', _, rfl, Or.inr (Or.inl rfl)⟩
      · exact Or.inr ⟨rfl, 'E', _, rfl, Or.inr (Or.inr rfl)⟩

/-- the whole part is a zero, or starts with another digit -/
theorem whole_cases : n.whole.chars = ['0'] ∨
    ∃ c rest, n.whole.chars = c :: rest ∧ c ≠ '0' ∧ ∀ z ∈ c :: rest, Text.isAsciiDigit z = true := by
  obtain ⟨c, rest, eq, digit⟩ := n.whole.exists_cons
  rcases n.leads with zero | other
  · exact Or.inl zero
  · refine Or.inr ⟨c, rest, eq, ?_, eq ▸ n.whole.digit⟩
    rintro rfl
    exact other (by rw [eq]; rfl)

theorem isInt_text : Kind.isInt n.text = n.isInteger := by
  rw [Kind.isInt, dropSign_text, unsigned]
  rcases n.whole_cases with zero | ⟨c, rest, eq, other, digits⟩
  · rw [zero]
    rcases n.behind_whole with ⟨integer, done⟩ | ⟨float, y, more, goes, mark⟩
    · rw [integer, done]
      rfl
    · rw [float, goes]
      rcases mark with rfl | rfl | rfl <;> rfl
  · have sexagesimal := isSexagesimal_eq_false (Kind.ledBy Kind.isPositiveDigit)
      fun z mem => (n.mem_unsigned (z := z) mem).ne.1
    have led : Kind.ledBy Kind.isPositiveDigit (c :: (rest ++ (n.fractionText ++ n.powerText))) = n.isInteger := by
      have first : Kind.isPositiveDigit c = true := by
        simp [Kind.isPositiveDigit, digits c List.mem_cons_self, other]
      have all : rest.all (fun c => Text.isAsciiDigit c || c == '_') = true := by
        rw [List.all_eq_true]
        intro z mem
        rw [digits z (List.mem_cons_of_mem _ mem)]
        rfl
      rw [Kind.ledBy, first, List.all_append, all]
      rcases n.behind_whole with ⟨integer, done⟩ | ⟨float, y, more, goes, mark⟩
      · rw [integer, done]
        rfl
      · rw [float, goes]
        rcases mark with rfl | rfl | rfl <;> rfl
    rw [unsigned, eq, List.cons_append] at sexagesimal
    rw [eq, List.cons_append]
    simp [other, led, sexagesimal]

theorem first_text : ∃ c rest, n.text = c :: rest ∧ (c = '-' ∨ Text.isAsciiDigit c = true) := by
  obtain ⟨c, rest, digit, eq | eq⟩ := n.exists_first
  · exact ⟨c, rest, eq, Or.inr digit⟩
  · exact ⟨'-', c :: rest, eq, Or.inl rfl⟩

/-- may a number not start with this character? -/
def startsOther (c : Char) : Bool := c != '-' && !Text.isAsciiDigit c

/-- a number is none of the words that do not start as one -/
theorem ne_word {w : String} (h : w.toList.head?.all startsOther = true) : String.ofList n.text ≠ w := by
  rintro rfl
  obtain ⟨c, rest, eq, first⟩ := n.first_text
  rw [String.toList_ofList, eq] at h
  simp only [List.head?_cons, Option.all_some, startsOther, Bool.and_eq_true, bne_iff_ne, Bool.not_eq_true'] at h
  rcases first with rfl | isDigit
  · exact h.1 rfl
  · rw [h.2] at isDigit
    cases isDigit

theorem not_contains {words : List String} (h : words.all (fun w => w.toList.head?.all startsOther) = true) :
    words.contains (String.ofList n.text) = false := by
  rw [List.contains_eq_mem, decide_eq_false_iff_not]
  exact fun mem => n.ne_word (List.all_eq_true.1 h _ mem) rfl

/-- digits and a dash start no number -/
theorem text_ne_dash {digits more : List Char} (given : digits ≠ []) (all : ∀ c ∈ digits, Text.isAsciiDigit c = true) :
    n.text ≠ digits ++ '-' :: more := by
  intro eq
  have ends : ∀ c ∈ ('-' :: more).head?, Text.isAsciiDigit c = false := by
    rintro _ ⟨⟩
    rfl
  have left := (takeWhile_digits_append all ends).2
  rw [← eq, text] at left
  cases negative : n.negative with
  | true =>
    obtain ⟨c, rest, rfl⟩ := List.exists_cons_of_ne_nil given
    rw [text, negative] at eq
    obtain rfl : '-' = c := (List.cons.inj eq).1
    exact absurd (all _ List.mem_cons_self) (by decide)
  | false =>
    have own : (n.whole.chars ++ (n.fractionText ++ n.powerText)).dropWhile Text.isAsciiDigit =
        n.fractionText ++ n.powerText := by
      refine (takeWhile_digits_append n.whole.digit ?_).2
      rcases n.behind_whole with ⟨-, done⟩ | ⟨-, y, tail, goes, mark⟩
      · simp [done]
      · rw [goes]
        rintro _ ⟨⟩
        rcases mark with rfl | rfl | rfl <;> rfl
    rw [negative] at left
    have same : '-' :: more = n.fractionText ++ n.powerText := left.symm.trans own
    rcases n.behind_whole with ⟨-, done⟩ | ⟨-, y, tail, goes, mark⟩
    · rw [done] at same
      cases same
    · rw [goes] at same
      obtain rfl := (List.cons.inj same).1
      rcases mark with mark | mark | mark <;> cases mark

theorem isStamp_text : Stamp.isStamp n.text = false := by
  have none : Stamp.ofText? n.text = none := by
    rw [Option.eq_none_iff_forall_ne_some]
    intro s stamp
    obtain ⟨digits, more, eq, given, all⟩ := Stamp.exists_dash stamp
    exact n.text_ne_dash given all eq
  simp [Stamp.isStamp, none]

/-! ## Kinds -/

theorem ofForm_text : Kind.ofForm (String.ofList n.text) =
    if n.isInteger then .int else if n.isKept then .float else .text := by
  have truth : Kind.truthWords.contains (String.ofList n.text) = false := n.not_contains (by decide)
  have null : Kind.nullWords.contains (String.ofList n.text) = false := n.not_contains (by decide)
  have merge : String.ofList n.text ≠ "<<" := n.ne_word (by decide)
  have standard : String.ofList n.text ≠ "=" := n.ne_word (by decide)
  have kept : n.isInteger = false → Kind.isFloat n.text = n.isKept := by
    intro float
    rw [isFloat_text, isKept, float, Bool.false_or]
  have integer : n.isInteger = true → Kind.isFloat n.text = false := by
    intro integer
    rw [isInteger, Bool.and_eq_true, Option.isNone_iff_eq_none] at integer
    rw [isFloat_text, integer.1]
    rfl
  rw [Kind.ofForm, String.toList_ofList, truth, isInt_text, isStamp_text]
  cases whole : n.isInteger with
  | true => simp only [integer whole, Bool.false_eq_true, if_false, if_true]
  | false =>
    cases float : n.isKept <;>
      simp only [kept whole, float, merge, null, standard, Bool.false_eq_true, if_false, if_true]

/-! ## Values -/

/-- without its capital, the mark of a power of ten means the same -/
def lowered : Numeral := { n with power := n.power.map fun power => { power with capital := false } }

theorem map_lowerChar_digits (d : Digits) : d.chars.map Text.lowerChar = d.chars := by
  conv_rhs => rw [← List.map_id d.chars]
  exact List.map_congr_left fun c mem => (digit_ne (d.digit c mem)).2.2.2.2.2.2.2.2.2.2

theorem map_lowerChar_text : n.text.map Text.lowerChar = n.lowered.text := by
  have sign : (if n.negative then ['-'] else []).map Text.lowerChar = if n.negative then ['-'] else [] := by
    cases n.negative <;> rfl
  have fraction : n.fractionText.map Text.lowerChar = n.fractionText := by
    unfold fractionText
    cases n.fraction with
    | none => rfl
    | some digits =>
      rw [List.map_cons, map_lowerChar_digits]
      rfl
  have power : n.powerText.map Text.lowerChar = n.lowered.powerText := by
    unfold powerText lowered
    cases n.power with
    | none => rfl
    | some p =>
      obtain ⟨capital, sign, digits⟩ := p
      cases capital <;> rcases sign with - | - | - <;>
        simp [Power.text, map_lowerChar_digits, Text.lowerChar, Text.isUpper]
  rw [text, unsigned, List.map_append, List.map_append, List.map_append, sign, map_lowerChar_digits, fraction, power]
  rfl

theorem trim_eq {text : List Char} (h : ∀ z ∈ text, Text.isBlank z = false) : Scalar.trim text = text := by
  have stays : ∀ text : List Char, (∀ z ∈ text, Text.isBlank z = false) → text.dropWhile Text.isBlank = text := by
    intro text h
    cases text with
    | nil => rfl
    | cons z rest => simp [h z List.mem_cons_self]
  rw [Scalar.trim, stays text h, stays text.reverse fun z mem => h z (List.mem_reverse.1 mem), List.reverse_reverse]

theorem filter_text : n.text.filter (· != '_') = n.text :=
  List.filter_eq_self.2 fun z mem => by simpa using (n.mem_text mem).ne.2.1

theorem mapM_digit? {digits : List Char} (h : ∀ c ∈ digits, Text.isAsciiDigit c = true) :
    digits.mapM (Scalar.digit? 10) = some (digits.map digitValue) := by
  induction digits with
  | nil => rfl
  | cons c rest ih =>
    have digit := h c List.mem_cons_self
    have small : c.toNat - 48 < 10 := by
      simp only [Text.isAsciiDigit, Bool.and_eq_true, decide_eq_true_eq] at digit
      omega
    have value : Scalar.digit? 10 c = some (digitValue c) := by
      simp [Scalar.digit?, digit, digitValue, Option.filter, small]
    rw [List.mapM_cons, value, ih fun z mem => h z (List.mem_cons_of_mem _ mem)]
    rfl

theorem integer_digits {c : Char} {rest : List Char} (h : ∀ z ∈ c :: rest, Text.isAsciiDigit z = true) :
    Scalar.integer 10 (c :: rest) = .ok (Int.ofNat (naturalOf (c :: rest))) := by
  obtain ⟨minus, plus, -⟩ := digit_ne (h c List.mem_cons_self)
  have trimmed : Scalar.trim (c :: rest) = c :: rest := trim_eq fun z mem => (digit_ne (h z mem)).2.2.2.2.2.2.2.2.2.1
  have unsigned : Kind.dropSign (c :: rest) = c :: rest := Kind.dropSign_of_ne minus plus
  have unmarked : Scalar.dropMark 10 (c :: rest) = c :: rest := by
    simp only [Scalar.dropMark]
    split <;> simp
  have positive : Scalar.isNegative (c :: rest) = false := by simp [Scalar.isNegative, minus]
  have total : (digitValue c :: rest.map digitValue).foldl (fun n d => 10 * n + d) 0 = naturalOf (c :: rest) := by
    rw [← List.map_cons, List.foldl_map, naturalOf]
  simp only [Scalar.integer, trimmed, unsigned, unmarked, mapM_digit? h, List.map_cons, total, positive]
  rfl

theorem readInt_text (integer : n.isInteger = true) : Scalar.readInt n.text =
    .ok (if n.negative then -Int.ofNat (naturalOf n.whole.chars) else Int.ofNat (naturalOf n.whole.chars)) := by
  have whole : n.unsigned = n.whole.chars := by
    rcases n.behind_whole with ⟨-, done⟩ | ⟨float, -⟩
    · rw [unsigned, done, List.append_nil]
    · rw [integer] at float
      cases float
  have magnitude : Scalar.magnitude n.whole.chars = .ok (Int.ofNat (naturalOf n.whole.chars)) := by
    rcases n.whole_cases with zero | ⟨c, rest, eq, other, digits⟩
    · rw [zero]
      rfl
    · have colon : ':' ∉ c :: rest := fun mem => absurd (digits _ mem) (by decide)
      rw [List.mem_cons] at colon
      rw [eq]
      simp [Scalar.magnitude, other, colon, integer_digits digits]
  have given : n.text.isEmpty = false := by
    obtain ⟨c, rest, eq, -⟩ := n.first_text
    rw [eq]
    rfl
  simp only [Scalar.readInt, filter_text, given, dropSign_text, whole, magnitude, isNegative_text]
  rfl

theorem dropSign_digits (d : Digits) : Kind.dropSign d.chars = d.chars ∧ Scalar.isNegative d.chars = false := by
  obtain ⟨c, rest, eq, digit⟩ := d.exists_cons
  obtain ⟨minus, plus, -⟩ := digit_ne digit
  rw [eq]
  exact ⟨Kind.dropSign_of_ne minus plus, by simp [Scalar.isNegative, minus]⟩

/-- a power of ten: its mark, and digits behind its sign -/
theorem power_shape (p : Power) : ∃ e rest, p.text = e :: rest ∧ (e = 'e' ∨ e = 'E') ∧
    Kind.dropSign rest = p.digits.chars ∧
    p.exponent = if Scalar.isNegative rest then -Int.ofNat (Stamp.numberOf p.digits.chars)
      else Int.ofNat (Stamp.numberOf p.digits.chars) := by
  obtain ⟨capital, sign, digits⟩ := p
  have own := dropSign_digits digits
  refine ⟨_, _, rfl, by cases capital <;> simp, ?_, ?_⟩
  · rcases sign with - | - | -
    · exact own.1
    · rfl
    · rfl
  · rcases sign with - | - | -
    · rw [List.nil_append, own.2]
      rfl
    · rfl
    · rfl

theorem decimal?_unsigned : Scalar.decimal? n.unsigned =
    some (naturalOf (n.whole.chars ++ n.fractionDigits), n.exponent - Int.ofNat n.fractionDigits.length) := by
  have ends : Ends [] := by simp [Ends]
  have stops := n.power_no_digit ends
  obtain ⟨taken, left⟩ := takeWhile_digits_append n.whole.digit (n.fraction_no_digit ends)
  have given := n.whole.given
  have number : ∀ digits, Stamp.numberOf digits = naturalOf digits := fun _ => rfl
  rw [List.append_nil] at taken left stops
  simp only [Scalar.decimal?, unsigned, taken, left]
  revert stops
  unfold powerText fractionText fractionDigits Numeral.exponent
  cases n.power with
  | none =>
    intro stops
    cases n.fraction with
    | none => simp [number, given]
    | some digits =>
      obtain ⟨taken, left⟩ := takeWhile_digits_append digits.digit fun c first => (stops c first).1
      simp only [List.append_nil] at taken left ⊢
      simp [number, given, taken, left]
  | some p =>
    obtain ⟨e, rest, eq, mark, figures, exponent⟩ := power_shape p
    have all : p.digits.chars.all Text.isAsciiDigit = true := List.all_eq_true.2 p.digits.digit
    have some := p.digits.given
    simp only [eq]
    intro stops
    cases n.fraction with
    | none => rcases mark with rfl | rfl <;> simp [number, given, figures, all, some, exponent]
    | some digits =>
      obtain ⟨taken, left⟩ := takeWhile_digits_append digits.digit fun c first => (stops c first).1
      rcases mark with rfl | rfl <;> simp [number, given, taken, left, figures, all, some, exponent]

/-- a number starts with a digit behind its sign -/
theorem unsigned_ne {w : List Char} (h : w.head?.all (fun c => !Text.isAsciiDigit c) = true) : n.unsigned ≠ w := by
  rintro rfl
  obtain ⟨c, rest, eq, digit⟩ := n.unsigned_cons
  rw [eq, List.head?_cons, Option.all_some, digit] at h
  cases h

theorem decimalFloat_unsigned : Scalar.decimalFloat n.unsigned = .ok (Binary64.ofDecimal false
    (naturalOf (n.whole.chars ++ n.fractionDigits)) (n.exponent - Int.ofNat n.fractionDigits.length)) := by
  have trimmed : Scalar.trim n.unsigned = n.unsigned := trim_eq fun z mem => (n.mem_unsigned mem).ne.2.2
  obtain ⟨c, rest, eq, digit⟩ := n.unsigned_cons
  have positive : Scalar.isNegative n.unsigned = false := by
    rw [eq]
    simp [Scalar.isNegative, (digit_ne digit).1]
  have inf : n.unsigned ≠ "inf".toList := n.unsigned_ne (by decide)
  have infinity : n.unsigned ≠ "infinity".toList := n.unsigned_ne (by decide)
  have nan : n.unsigned ≠ "nan".toList := n.unsigned_ne (by decide)
  simp only [Scalar.decimalFloat, trimmed, positive, dropSign_unsigned, inf, infinity, nan, or_self, if_false,
    decimal?_unsigned]

theorem readFloat_text : Scalar.readFloat n.text = .ok (Binary64.ofDecimal n.negative
    (naturalOf (n.whole.chars ++ n.fractionDigits)) (n.exponent - Int.ofNat n.fractionDigits.length)) := by
  have figures : (n.text.filter (· != '_')).map Text.lowerChar = n.lowered.text := by
    rw [filter_text, map_lowerChar_text]
  have given : n.lowered.text.isEmpty = false := by
    obtain ⟨c, rest, eq, -⟩ := n.lowered.first_text
    rw [eq]
    rfl
  have inf : n.lowered.unsigned ≠ ".inf".toList := n.lowered.unsigned_ne (by decide)
  have nan : n.lowered.unsigned ≠ ".nan".toList := n.lowered.unsigned_ne (by decide)
  have colon : n.lowered.unsigned.contains ':' = false := by
    rw [List.contains_eq_mem, decide_eq_false_iff_not]
    exact fun mem => (n.lowered.mem_unsigned mem).ne.1 rfl
  have exponent : n.lowered.exponent = n.exponent := by
    unfold Numeral.exponent lowered
    cases n.power <;> rfl
  have decimal := n.lowered.decimalFloat_unsigned
  rw [exponent] at decimal
  simp only [Scalar.readFloat, figures, given, dropSign_text, inf, nan, colon, decimal, isNegative_text]
  cases negative : n.negative with
  | false => simp [lowered, negative, fractionDigits, bind, Except.bind, pure, Except.pure]
  | true =>
    simp [lowered, negative, fractionDigits, bind, Except.bind, pure, Except.pure, Binary64.neg_ofDecimal]

/-- **What a plain scalar that is written as a number of JSON means.** -/
theorem read_numeral : Scalar.read (.ofForm (String.ofList n.text)) (String.ofList n.text) = some (.ok n.loaded) := by
  rw [ofForm_text, loaded, value]
  cases integer : n.isInteger with
  | true =>
    have kept : n.isKept = true := by rw [isKept, integer, Bool.true_or]
    simp only [if_true, kept, Scalar.read, String.toList_ofList, n.readInt_text integer]
    rfl
  | false =>
    cases kept : n.isKept with
    | true =>
      simp only [Bool.false_eq_true, if_false, if_true, Scalar.read, String.toList_ofList, readFloat_text]
      rfl
    | false => rfl

end Numeral

end Json

end ApiTypes
