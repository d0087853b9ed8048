/-
Scalars: the values that texts of a kind write.

Underscores in numbers count for nothing. An integer is written in base two, eight, ten or sixteen, or in places of base
sixty; a float likewise in decimal or in places of base sixty. What is told to be of a kind may fail to have its form.
-/
import ApiTypes.Fault
import ApiTypes.Json.Reader
import ApiTypes.Text.Words
import ApiTypes.Yaml.Kind

namespace ApiTypes.Yaml.Scalar

open ApiTypes.Number

def isNegative (text : List Char) : Bool := text.head? == some '-'

/-- a text without blanks at both ends -/
def trim (text : List Char) : List Char :=
  ((text.dropWhile Text.isBlank).reverse.dropWhile Text.isBlank).reverse

/-- the value of a digit; letters stand for digits from ten on -/
def digit? (base : Nat) (c : Char) : Option Nat :=
  let value :=
    if Text.isAsciiDigit c then some (c.toNat - 48)
    else if Text.isLower c then some (c.toNat - 87)
    else if Text.isUpper c then some (c.toNat - 55)
    else none
  value.filter (· < base)

/-- the mark of a base in front of digits -/
def dropMark (base : Nat) (text : List Char) : List Char :=
  let letter := if base = 2 then 'b' else if base = 8 then 'o' else 'x'
  match text with
  | '0' :: c :: rest => if base ≠ 10 ∧ Text.lowerChar c = letter then rest else text
  | _ => text

/-- an integer in a base -/
def integer (base : Nat) (text : List Char) : Except ScalarCause Int :=
  let trimmed := trim text
  let digits := dropMark base (Kind.dropSign trimmed)
  match digits.mapM (digit? base) with
  | some (d :: ds) =>
    let n := Int.ofNat ((d :: ds).foldl (fun n d => base * n + d) 0)
    .ok (if isNegative trimmed then -n else n)
  | _ => .error (.digits base (String.ofList text))

def sumOfSixtieths (places : List Int) : Int := places.foldl (fun n place => 60 * n + place) 0

/-- an integer without its sign -/
def magnitude (text : List Char) : Except ScalarCause Int :=
  match text with
  | [] => .error .empty
  | ['0'] => .ok 0
  | '0' :: 'b' :: rest => integer 2 rest
  | '0' :: 'x' :: rest => integer 16 rest
  | '0' :: _ => integer 8 text
  | _ =>
    if text.contains ':' then do
      let places ← (Kind.parts text).mapM (integer 10)
      return sumOfSixtieths places
    else integer 10 text

def readInt (text : List Char) : Except ScalarCause Int :=
  let figures := text.filter (· != '_')
  if figures.isEmpty then .error .empty
  else do
    let n ← magnitude (Kind.dropSign figures)
    return if isNegative figures then -n else n

/-- digits, a point and digits, with an exponent: the digits as one number, and the power of ten to multiply with -/
def decimal? (text : List Char) : Option (Nat × Int) :=
  let whole := text.takeWhile Text.isAsciiDigit
  let rest := text.dropWhile Text.isAsciiDigit
  let (fraction, rest) := match rest with
    | '.' :: rest => (rest.takeWhile Text.isAsciiDigit, rest.dropWhile Text.isAsciiDigit)
    | rest => ([], rest)
  let digits := whole ++ fraction
  let exponent : Option Int := match rest with
    | [] => some 0
    | e :: rest =>
      let figures := Kind.dropSign rest
      if (e == 'e' || e == 'E') && !figures.isEmpty && figures.all Text.isAsciiDigit then
        some (if isNegative rest then -Int.ofNat (Stamp.numberOf figures) else Int.ofNat (Stamp.numberOf figures))
      else none
  match exponent with
  | some e => if digits.isEmpty then none else some (Stamp.numberOf digits, e - Int.ofNat fraction.length)
  | none => none

/-- a float in decimal, or one of the names of infinity and of what is no number -/
def decimalFloat (text : List Char) : Except ScalarCause Binary64 :=
  let trimmed := trim text
  let negative := isNegative trimmed
  let unsigned := Kind.dropSign trimmed
  if unsigned = "inf".toList ∨ unsigned = "infinity".toList then .ok (Binary64.infinity negative)
  else if unsigned = "nan".toList then .ok Binary64.nan
  else
    match decimal? unsigned with
    | some (digits, exponent) => .ok (Binary64.ofDecimal negative digits exponent)
    | none => .error (.float (String.ofList text))

/-- places of base sixty, the last one first, from the power `base` on -/
def sumOfFloats (sum : Binary64) (base : Int) : List Binary64 → Binary64
  | [] => sum
  | place :: rest => sumOfFloats (sum.add (place.scale base)) (base * 60) rest

def readFloat (text : List Char) : Except ScalarCause Binary64 :=
  let figures := (text.filter (· != '_')).map Text.lowerChar
  if figures.isEmpty then .error .empty
  else
    let unsigned := Kind.dropSign figures
    let signed (x : Binary64) : Binary64 := if isNegative figures then x.neg else x
    if unsigned = ".inf".toList then .ok (Binary64.infinity (isNegative figures))
    else if unsigned = ".nan".toList then .ok Binary64.nan
    else if unsigned.contains ':' then do
      let places ← (Kind.parts unsigned).mapM decimalFloat
      return signed (sumOfFloats (Binary64.zero false) 1 places.reverse)
    else do return signed (← decimalFloat unsigned)

def readTruth (text : String) : Except ScalarCause Bool :=
  let lower := String.ofList (text.toList.map Text.lowerChar)
  if ["yes", "true", "on"].contains lower then .ok true
  else if ["no", "false", "off"].contains lower then .ok false
  else .error (.truth lower)

def readStamp (text : List Char) : Except ScalarCause Value :=
  match Stamp.ofText? text with
  | none => .error .timestamp
  | some ⟨year, month, day, none⟩ =>
    match Calendar.date? year month day with
    | .ok date => .ok (.date date)
    | .error fault => .error (.calendar fault)
  | some ⟨year, month, day, some t⟩ =>
    match Calendar.moment? year month day t.hour t.minute t.second t.microsecond t.offset with
    | .ok moment => .ok (.moment moment)
    | .error fault => .error (.calendar fault)

/-- the value of a scalar of a kind; nothing where the kind is none of scalars -/
def read (kind : Kind) (text : String) : Option (Except ScalarCause Value) :=
  match kind with
  | .null => some (.ok .null)
  | .truth => some ((readTruth text).map .bool)
  | .int => some ((readInt text.toList).map .int)
  | .float => some ((readFloat text.toList).map .float)
  | .stamp => some (readStamp text.toList)
  | .text => some (.ok (.str text))
  | _ => none

end ApiTypes.Yaml.Scalar
