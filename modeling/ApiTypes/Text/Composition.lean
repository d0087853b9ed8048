/-
Composed names: one spelling for names that read alike.

Every character is taken apart into what it stands for, the marks behind a letter are put in the order of their classes,
and a letter is joined with its marks again where a single character is written for both.

Main statement: `composed_ascii`, a name in ASCII is not changed.
-/
import ApiTypes.Text.Class
import ApiTypes.Text.Equivalents

namespace ApiTypes.Text

/-! ## Hangul -/

/-- the letters of a syllable: a leading one, a vowel and perhaps a trailing one -/
def syllable? (c : Char) : Option (List Char) :=
  if 0xAC00 ≤ c.toNat && c.toNat ≤ 0xD7A3 then
    let n := c.toNat - 0xAC00
    let letters := [Char.ofNat (0x1100 + n / 588), Char.ofNat (0x1161 + n % 588 / 28)]
    some (if n % 28 = 0 then letters else letters ++ [Char.ofNat (0x11A7 + n % 28)])
  else none

/-- the syllable of a leading letter and a vowel, or of a syllable and a trailing letter -/
def joined? (a b : Char) : Option Char :=
  if 0x1100 ≤ a.toNat && a.toNat ≤ 0x1112 && 0x1161 ≤ b.toNat && b.toNat ≤ 0x1175 then
    some (Char.ofNat (0xAC00 + (a.toNat - 0x1100) * 588 + (b.toNat - 0x1161) * 28))
  else if 0xAC00 ≤ a.toNat && a.toNat ≤ 0xD7A3 && (a.toNat - 0xAC00) % 28 = 0 &&
      0x11A8 ≤ b.toNat && b.toNat ≤ 0x11C2 then
    some (Char.ofNat (a.toNat + (b.toNat - 0x11A7)))
  else none

/-! ## Equivalents -/

/-- the ideograph that another one stands for -/
def ideograph? (n : Nat) : Option Char :=
  Equivalents.ideographs.findSome? fun (first, others) =>
    if first ≤ n then others[n - first]?.map Char.ofNat else none

/-- what a character stands for, taken apart once -/
def parts? (c : Char) : Option (List Char) :=
  let n := c.toNat
  match (Equivalents.pairs ++ Equivalents.split).find? (·.1 == n) with
  | some (_, a, b) => some [Char.ofNat a, Char.ofNat b]
  | none =>
    match Equivalents.shifts.find? fun (first, last, _) => first ≤ n && n ≤ last with
    | some (first, _, target) => some [Char.ofNat (target + (n - first))]
    | none =>
      match Equivalents.rows.find? (·.1 == n) with
      | some (_, row) => some (row.map Char.ofNat)
      | none =>
        match ideograph? n with
        | some other => some [other]
        | none => syllable? c

/-- what a character stands for, taken apart as often as `depth` says -/
def takenApart : (depth : Nat) → Char → List Char
  | 0, c => [c]
  | depth + 1, c =>
    if isAscii c then [c]
    else match parts? c with
      | some parts => parts.flatMap (takenApart depth)
      | none => [c]

/-- the order class of a mark; zero for characters that are no marks -/
def markClass (c : Char) : Nat :=
  if isAscii c then 0
  else ((Equivalents.classes.find? fun (first, last, _) => first ≤ c.toNat && c.toNat ≤ last).map (·.2.2)).getD 0

/-- the character that is written for two -/
def composite? (a b : Char) : Option Char :=
  match Equivalents.pairs.find? fun (_, first, second) => first == a.toNat && second == b.toNat with
  | some (n, _, _) => some (Char.ofNat n)
  | none => joined? a b

/-! ## Order and composition -/

/-- put a character in front, behind the marks of lower classes if it is a mark -/
def place (c : Char) : List Char → List Char
  | [] => [c]
  | d :: rest => if 0 < markClass d && markClass d < markClass c then d :: place c rest else c :: d :: rest

/-- marks in the order of their classes -/
def ordered (name : List Char) : List Char := name.foldr place []

/-- join `first` with the marks behind it; `kept` are those, last first, that are not joined -/
def join (first : Char) (kept : List Char) : List Char → List Char
  | [] => first :: kept.reverse
  | c :: rest =>
    match if kept.any (markClass c ≤ markClass ·) then none else composite? first c with
    | some whole => join whole kept rest
    | none =>
      if markClass c = 0 then first :: (kept.reverse ++ join c [] rest)
      else join first (c :: kept) rest

/-- how often a character can be taken apart, at most -/
def maxDepth : Nat := 8

/-- the name with every character taken apart and composed again -/
def composed (name : List Char) : List Char :=
  if name.all isAscii then name
  else match ordered (name.flatMap (takenApart maxDepth)) with
    | [] => []
    | c :: rest => join c [] rest

theorem composed_ascii {name : List Char} (ascii : ∀ c ∈ name, isAscii c = true) : composed name = name := by
  have h : name.all isAscii = true := List.all_eq_true.2 ascii
  simp [composed, h]

end ApiTypes.Text
