/-
Binary floating-point numbers of 64 bits, by their bits, with exact arithmetic on naturals.

A number is a sign and either a magnitude `m · 2^q`, infinity, or no number at all. `ofRatio` rounds a quotient of
naturals to the nearest number, a tie to the even neighbour; sums and products are formed exactly and rounded once.
-/
import ApiTypes.Number.Power

namespace ApiTypes.Number

/-- a number in 64 bits: sign, eleven bits of exponent, fifty-two of fraction -/
structure Binary64 where
  bits : UInt64
  deriving DecidableEq, Repr, Inhabited

/-- what the bits say: a magnitude `mantissa · 2^exponent`, infinity, or no number -/
inductive Binary64.Parts where
  | finite (negative : Bool) (mantissa : Nat) (exponent : Int)
  | infinite (negative : Bool)
  | notANumber
  deriving DecidableEq, Repr

/-- the quotient rounded to the nearest natural, a tie to the even one -/
def roundDiv (num den : Nat) : Nat :=
  let low := num / den
  let rest := num % den
  if 2 * rest < den then low
  else if 2 * rest > den then low + 1
  else if low % 2 == 0 then low else low + 1

namespace Binary64

def isNegative (x : Binary64) : Bool := x.bits.toNat / powerOfTwo 63 == 1

def exponentField (x : Binary64) : Nat := x.bits.toNat / powerOfTwo 52 % powerOfTwo 11

def fractionField (x : Binary64) : Nat := x.bits.toNat % powerOfTwo 52

def parts (x : Binary64) : Parts :=
  if x.exponentField = 2047 then
    if x.fractionField = 0 then .infinite x.isNegative else .notANumber
  else if x.exponentField = 0 then .finite x.isNegative x.fractionField (-1074)
  else .finite x.isNegative (powerOfTwo 52 + x.fractionField) (Int.ofNat x.exponentField - 1075)

def ofFields (negative : Bool) (exponent fraction : Nat) : Binary64 :=
  ⟨UInt64.ofNat ((if negative then powerOfTwo 63 else 0) + exponent * powerOfTwo 52 + fraction)⟩

def zero (negative : Bool) : Binary64 := ofFields negative 0 0

def infinity (negative : Bool) : Binary64 := ofFields negative 2047 0

def nan : Binary64 := ofFields false 2047 (powerOfTwo 51)

/-- the number nearest to `mantissa · 2^exponent` for a mantissa of at most 53 bits already rounded at that exponent -/
def pack (negative : Bool) (mantissa : Nat) (exponent : Int) : Binary64 :=
  let carried := mantissa = powerOfTwo 53
  let mantissa := if carried then powerOfTwo 52 else mantissa
  let exponent := if carried then exponent + 1 else exponent
  if mantissa < powerOfTwo 52 then ofFields negative 0 mantissa
  else if exponent > 971 then infinity negative
  else ofFields negative (exponent + 1075).toNat (mantissa - powerOfTwo 52)

/-- the number nearest to `num / den`, a tie to the even neighbour -/
def ofRatio (negative : Bool) (num den : Nat) : Binary64 :=
  if num = 0 then zero negative
  else
    let guess : Int := Int.ofNat num.log2 - Int.ofNat den.log2 - 52
    let fits (e : Int) : Bool :=
      if 0 ≤ e then powerOfTwo 52 * (den * powerOfTwo e.toNat) ≤ num
      else powerOfTwo 52 * den ≤ num * powerOfTwo (-e).toNat
    let exponent := max (-1074) (if fits guess then guess else guess - 1)
    let mantissa :=
      if 0 ≤ exponent then roundDiv num (den * powerOfTwo exponent.toNat)
      else roundDiv (num * powerOfTwo (-exponent).toNat) den
    pack negative mantissa exponent

/-- the number nearest to `digits · 10^exponent` -/
def ofDecimal (negative : Bool) (digits : Nat) (exponent : Int) : Binary64 :=
  let width : Int := Int.ofNat digits.log2 / 3
  if digits = 0 then zero negative
  else if exponent > 400 then infinity negative
  else if exponent + width < -500 then zero negative
  else if 0 ≤ exponent then ofRatio negative (digits * powerOfTen exponent.toNat) 1
  else ofRatio negative digits (powerOfTen (-exponent).toNat)

def ofInt (n : Int) : Binary64 := ofRatio (n < 0) n.natAbs 1

/-- the number nearest to `n · 2^exponent`; zero is positive -/
def ofDyadic (n : Int) (exponent : Int) : Binary64 :=
  if 0 ≤ exponent then ofRatio (n < 0) (n.natAbs * powerOfTwo exponent.toNat) 1
  else ofRatio (n < 0) n.natAbs (powerOfTwo (-exponent).toNat)

def neg (x : Binary64) : Binary64 :=
  ⟨x.bits ^^^ 0x8000000000000000⟩

def signed (negative : Bool) (magnitude : Nat) : Int :=
  if negative then -Int.ofNat magnitude else Int.ofNat magnitude

/-- the sum of two finite numbers, formed exactly and rounded once; other operands give no number -/
def add (x y : Binary64) : Binary64 :=
  match x.parts, y.parts with
  | .finite s m p, .finite t n q =>
    let low := min p q
    ofDyadic (signed s (m * powerOfTwo (p - low).toNat) + signed t (n * powerOfTwo (q - low).toNat)) low
  | .infinite s, .finite _ _ _ => infinity s
  | .finite _ _ _, .infinite t => infinity t
  | _, _ => nan

/-- a finite number times an integer, formed exactly and rounded once -/
def scale (x : Binary64) (n : Int) : Binary64 :=
  match x.parts with
  | .finite s m p => if m = 0 then zero s else ofDyadic (signed s m * n) p
  | .infinite s => infinity s
  | .notANumber => nan

def isZero (x : Binary64) : Bool :=
  match x.parts with
  | .finite _ 0 _ => true
  | _ => false

/-- the integer that the number equals, if there is one -/
def toInt? (x : Binary64) : Option Int :=
  match x.parts with
  | .finite s m q =>
    if 0 ≤ q then some (signed s (m * powerOfTwo q.toNat))
    else if m % powerOfTwo (-q).toNat = 0 then some (signed s (m / powerOfTwo (-q).toNat)) else none
  | _ => none

/-- equality of the numbers meant: both zeros are equal and nothing equals "no number" -/
def same (x y : Binary64) : Bool :=
  match x.parts, y.parts with
  | .notANumber, _ => false
  | _, .notANumber => false
  | _, _ => x == y || (x.isZero && y.isZero)

end Binary64

end ApiTypes.Number
