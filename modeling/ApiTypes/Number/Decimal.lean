/-
Decimal texts of binary numbers: the fewest digits that read back, and their layout.

`shortest` selects the digits. For one digit, two digits and so on it takes the two neighbours of the number on that
decimal grid and keeps those that lie in the interval of reals rounding to the number; the first grid with a hit wins,
and of two hits the nearer. `Layout` holds every decision about how digits are written.
-/
import ApiTypes.Number.Binary64

namespace ApiTypes.Number

/-- a decimal magnitude `digits · 10^exponent` -/
structure Decimal where
  digits : Nat
  exponent : Int
  deriving DecidableEq, Repr

/-- how the digits of a number are laid out in a text -/
structure Layout where
  /-- the least power of ten of the first digit that is still written positionally -/
  least : Int
  /-- the greatest such power -/
  greatest : Int
  /-- is a positive exponent written with its sign? -/
  plusSign : Bool
  /-- the fewest digits of an exponent -/
  exponentWidth : Nat

namespace Decimal

/-- twice the number of powers of two in an exponent, as numerator and denominator -/
def powers (exponent : Int) : Nat × Nat :=
  if 0 ≤ exponent then (powerOfTwo exponent.toNat, 1) else (1, powerOfTwo (-exponent).toNat)

/-- is `digits · 10^exponent` in the interval of reals that round to `mantissa · 2^binary`? -/
def readsBack (mantissa : Nat) (binary : Int) (digits : Nat) (exponent : Int) : Bool :=
  let narrow := mantissa = powerOfTwo 52 ∧ binary > -1074
  let (up, down) := powers (binary - 2)
  let lowest := (4 * mantissa - (if narrow then 1 else 2)) * up
  let highest := (4 * mantissa + 2) * up
  let (num, den) :=
    if 0 ≤ exponent then (digits * powerOfTen exponent.toNat, 1) else (digits, powerOfTen (-exponent).toNat)
  if mantissa % 2 = 0 then lowest * den ≤ num * down && num * down ≤ highest * den
  else lowest * den < num * down && num * down < highest * den

/-- the nearest of the two neighbours of `mantissa · 2^binary` on the grid of step `10^exponent` that reads back -/
def onGrid (mantissa : Nat) (binary : Int) (exponent : Int) : Option Decimal :=
  let (up, down) := powers binary
  let (num, den) :=
    if 0 ≤ exponent then (mantissa * up, down * powerOfTen exponent.toNat)
    else (mantissa * up * powerOfTen (-exponent).toNat, down)
  let low := num / den
  let rest := num % den
  let lowReads := readsBack mantissa binary low exponent
  let highReads := readsBack mantissa binary (low + 1) exponent
  if lowReads && highReads then
    if 2 * rest < den then some ⟨low, exponent⟩
    else if 2 * rest > den then some ⟨low + 1, exponent⟩
    else some ⟨if low % 2 = 0 then low else low + 1, exponent⟩
  else if lowReads then some ⟨low, exponent⟩
  else if highReads then some ⟨low + 1, exponent⟩
  else none

/-- the power of ten of the first digit of `mantissa · 2^binary`, for a mantissa that is not zero -/
def firstPower (mantissa : Nat) (binary : Int) : Int :=
  let (up, down) := powers binary
  let reaches (e : Int) : Bool :=
    if 0 ≤ e then powerOfTen e.toNat * down ≤ mantissa * up else down ≤ mantissa * up * powerOfTen (-e).toNat
  let guess := (Int.ofNat mantissa.log2 + binary) * 30103 / 100000
  if reaches (guess + 1) then guess + 1 else if reaches guess then guess else guess - 1

/-- search the grids of `count`, `count + 1`, … digits -/
def searchGrids (mantissa : Nat) (binary first : Int) : (tries : Nat) → (count : Int) → Decimal
  | 0, count => (onGrid mantissa binary (first - count + 1)).getD ⟨0, 0⟩
  | tries + 1, count =>
    match onGrid mantissa binary (first - count + 1) with
    | some found => found
    | none => searchGrids mantissa binary first tries (count + 1)

/-- the fewest digits that read back as `mantissa · 2^binary` -/
def shortest (mantissa : Nat) (binary : Int) : Decimal :=
  searchGrids mantissa binary (firstPower mantissa binary) 17 1

/-- the digits of a magnitude without zeros at the end, and the power of ten of the first -/
def trimmed (d : Decimal) : List Char × Int :=
  let all := (Nat.repr d.digits).toList
  let kept := (all.reverse.dropWhile (· == '0')).reverse
  (kept, d.exponent + Int.ofNat all.length - 1)

end Decimal

namespace Layout

def exponentText (layout : Layout) (power : Int) : List Char :=
  let digits := (Nat.repr power.natAbs).toList
  let sign := if power < 0 then ['-'] else if layout.plusSign then ['+'] else []
  sign ++ List.replicate (layout.exponentWidth - digits.length) '0' ++ digits

/-- digits whose first stands for `power`, in positional or exponential form; a whole number shows `.0` -/
def digitsText (layout : Layout) (digits : List Char) (power : Int) : List Char :=
  if layout.least ≤ power && power ≤ layout.greatest then
    if power < 0 then '0' :: '.' :: List.replicate (-power - 1).toNat '0' ++ digits
    else
      let whole := power.toNat + 1
      let padded := digits ++ List.replicate (whole - digits.length) '0'
      let fraction := padded.drop whole
      padded.take whole ++ '.' :: (if fraction.isEmpty then ['0'] else fraction)
  else
    match digits with
    | [] => []
    | first :: rest =>
      first :: (if rest.isEmpty then [] else '.' :: rest) ++ 'e' :: layout.exponentText power

/-- the text of a finite number -/
def finiteText (layout : Layout) (negative : Bool) (mantissa : Nat) (binary : Int) : String :=
  let sign := if negative then ['-'] else []
  if mantissa = 0 then String.ofList (sign ++ ['0', '.', '0'])
  else
    let (digits, power) := (Decimal.shortest mantissa binary).trimmed
    String.ofList (sign ++ layout.digitsText digits power)

end Layout

/-- literals: positional from a ten-thousandth up to sixteen whole digits, else an exponent of two digits and a sign -/
def Layout.literal : Layout := ⟨-4, 15, true, 2⟩

/-- records: positional from a hundred-thousandth up to sixteen whole digits, else a bare exponent -/
def Layout.record : Layout := ⟨-5, 15, false, 1⟩

namespace Binary64

/-- the literal of a number; `nan`, `inf` and `-inf` name what is not finite -/
def literal (x : Binary64) : String :=
  match x.parts with
  | .finite negative mantissa binary => Layout.literal.finiteText negative mantissa binary
  | .infinite negative => if negative then "-inf" else "inf"
  | .notANumber => "nan"

end Binary64

end ApiTypes.Number
