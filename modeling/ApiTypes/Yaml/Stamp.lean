/-
Time stamps: the written form of dates and moments.

A stamp is a date, or a date and a time with a `T` or blanks between them. The time may have a fraction of a second, of
which six digits count, and an offset from universal time in hours or in hours and minutes.
-/
import ApiTypes.Calendar
import ApiTypes.Text.Class

namespace ApiTypes.Yaml

structure Stamp.Time where
  hour : Nat
  minute : Nat
  second : Nat
  microsecond : Nat
  /-- minutes ahead of universal time -/
  offset : Option Int
  deriving DecidableEq, Repr

structure Stamp where
  year : Nat
  month : Nat
  day : Nat
  time : Option Stamp.Time
  deriving DecidableEq, Repr

namespace Stamp

def numberOf (digits : List Char) : Nat := digits.foldl (fun n d => 10 * n + (d.toNat - 48)) 0

/-- a number of at least `least` and at most `most` digits, as many as there are -/
def digits? (least most : Nat) (text : List Char) : Option (Nat × List Char) :=
  let found := (text.take most).takeWhile Text.isAsciiDigit
  if least ≤ found.length then some (numberOf found, text.drop found.length) else none

def char? (c : Char) : List Char → Option (List Char)
  | x :: rest => if x = c then some rest else none
  | [] => none

def isWhite (c : Char) : Bool := c == ' ' || c == '\t'

/-- what separates the time from the date -/
def between? : List Char → Option (List Char)
  | 'T' :: rest => some rest
  | 't' :: rest => some rest
  | c :: rest => if isWhite c then some (rest.dropWhile isWhite) else none
  | [] => none

/-- six digits, filled up with zeros -/
def microseconds (digits : List Char) : Nat := numberOf ((digits ++ List.replicate 6 '0').take 6)

/-- a fraction of a second, if there is one -/
def fraction : List Char → Nat × List Char
  | '.' :: rest => (microseconds (rest.takeWhile Text.isAsciiDigit), rest.dropWhile Text.isAsciiDigit)
  | text => (0, text)

def hoursAndMinutes? (text : List Char) : Option Nat := do
  let (hours, rest) ← digits? 1 2 text
  match rest with
  | [] => some (60 * hours)
  | ':' :: rest => do
    let (minutes, rest) ← digits? 2 2 rest
    if rest.isEmpty then some (60 * hours + minutes) else none
  | _ => none

/-- the offset that a text ends with: none, universal time, or a span ahead or behind -/
def offset? (text : List Char) : Option (Option Int) :=
  if text.isEmpty then some none
  else
    match text.dropWhile isWhite with
    | ['Z'] => some (some 0)
    | '+' :: rest => (hoursAndMinutes? rest).map fun n => some (Int.ofNat n)
    | '-' :: rest => (hoursAndMinutes? rest).map fun n => some (-Int.ofNat n)
    | _ => none

def time? (text : List Char) : Option Time := do
  let (hour, rest) ← digits? 1 2 (← between? text)
  let (minute, rest) ← digits? 2 2 (← char? ':' rest)
  let (second, rest) ← digits? 2 2 (← char? ':' rest)
  let (microsecond, rest) := fraction rest
  return ⟨hour, minute, second, microsecond, ← offset? rest⟩

/-- the stamp that a text writes -/
def ofText? (text : List Char) : Option Stamp := do
  let (year, rest) ← digits? 4 4 text
  let (month, rest) ← digits? 1 2 (← char? '-' rest)
  let (day, rest) ← digits? 1 2 (← char? '-' rest)
  if rest.isEmpty then return ⟨year, month, day, none⟩
  return ⟨year, month, day, some (← time? rest)⟩

/-- is the text a stamp without being told so? A day alone needs two digits for month and day. -/
def isStamp (text : List Char) : Bool :=
  match ofText? text with
  | none => false
  | some ⟨_, _, _, none⟩ => text.length == 10
  | some _ => true

example : isStamp "2020-01-02".toList = true ∧ isStamp "2020-1-2".toList = false := by decide

end Stamp

end ApiTypes.Yaml
