/-
Numbers in source texts.

A number is written in decimal, perhaps with a fraction, an exponent or an imaginary unit, or in base two, eight or
sixteen. Single underscores may stand between digits. A letter must not follow, unless it starts a word that may
follow a number.
-/
import ApiTypes.Source.Token

namespace ApiTypes.Source.Number

/-- may the character be part of a name? -/
def isNameChar (c : Char) : Bool := Text.isAsciiAlnum c || c == '_' || !Text.isAscii c

/-- the words that may follow a number without a blank -/
def followers : List String := ["and", "else", "for", "if", "in", "is", "or", "not"]

def startsFollower (text : List Char) : Bool := followers.any fun w => w.toList.isPrefixOf text

/-- the text behind a number of a form, where nothing runs into it -/
def endOf (form : String) (text : List Char) : Except Complaint (List Char) :=
  if startsFollower text then .ok text
  else
    match text with
    | [] => .ok []
    | c :: rest => if isNameChar c then .error (.invalidNumber form) else .ok (c :: rest)

/-- past decimal digits, with single underscores between them -/
def skipDigits : List Char → Except Complaint (List Char)
  | [] => .ok []
  | '_' :: c :: rest => if Text.isAsciiDigit c then skipDigits rest else .error (.invalidNumber "decimal")
  | c :: rest =>
    if Text.isAsciiDigit c then skipDigits rest
    else if c == '_' then .error (.invalidNumber "decimal")
    else .ok (c :: rest)

def startsDigit (text : List Char) : Bool :=
  match text with
  | c :: _ => Text.isAsciiDigit c
  | [] => false

def isUnit (c : Char) : Bool := c == 'j' || c == 'J'

/-- a number that was read: has it an imaginary unit, and what is behind it? -/
structure Found where
  imaginary : Bool
  rest : List Char
  deriving DecidableEq, Repr

/-- what may follow the digits and fraction: an imaginary unit, or nothing -/
def unit (text : List Char) : Except Complaint Found :=
  match text with
  | c :: rest =>
    if isUnit c then return ⟨true, ← endOf "imaginary" rest⟩ else return ⟨false, ← endOf "decimal" (c :: rest)⟩
  | [] => .ok ⟨false, []⟩

/-- an exponent, if there is one -/
def exponent (text : List Char) : Except Complaint Found :=
  match text with
  | c :: rest =>
    if c == 'e' || c == 'E' then
      match rest with
      | sign :: digits =>
        if sign == '+' || sign == '-' then
          if startsDigit digits then do unit (← skipDigits digits) else .error (.invalidNumber "decimal")
        else if Text.isAsciiDigit sign then do unit (← skipDigits rest)
        else return ⟨false, ← endOf "decimal" text⟩
      | [] => return ⟨false, ← endOf "decimal" text⟩
    else unit text
  | [] => .ok ⟨false, []⟩

/-- the part behind the point -/
def fraction (text : List Char) : Except Complaint Found :=
  if startsDigit text then do exponent (← skipDigits text) else exponent text

def afterWhole (text : List Char) : Except Complaint Found :=
  match text with
  | '.' :: rest => fraction rest
  | text => exponent text

/-- past digits of a base with single underscores between them; `fresh` says that a digit must follow -/
def skipBase (form : String) (isDigit : Char → Bool) (fresh : Bool) : List Char → Except Complaint (List Char)
  | [] => if fresh then .error (.invalidNumber form) else .ok []
  | '_' :: rest => if fresh then .error (.invalidNumber form) else skipBase form isDigit true rest
  | c :: rest =>
    if isDigit c then skipBase form isDigit false rest
    else if Text.isAsciiDigit c then .error (.invalidDigit c form)
    else if fresh then .error (.invalidNumber form)
    else endOf form (c :: rest)

/-- a number in base two, eight or sixteen, behind its mark -/
def based (form : String) (isDigit : Char → Bool) (text : List Char) : Except Complaint (List Char) :=
  match text with
  | '_' :: rest => skipBase form isDigit true rest
  | text => skipBase form isDigit true text

def isHexDigit (c : Char) : Bool := Text.isAsciiDigit c || ('a' ≤ c && c ≤ 'f') || ('A' ≤ c && c ≤ 'F')

/-- past zeros, with single underscores between them -/
def skipZeros : List Char → Except Complaint (List Char)
  | '0' :: rest => skipZeros rest
  | '_' :: c :: rest =>
    if c == '0' then skipZeros rest
    else if Text.isAsciiDigit c then .ok (c :: rest)
    else .error (.invalidNumber "decimal")
  | ['_'] => .error (.invalidNumber "decimal")
  | text => .ok text

/-- a decimal number that starts with a zero: other digits need a fraction, an exponent or a unit behind them -/
def fromZero (text : List Char) : Except Complaint Found := do
  let rest ← skipZeros text
  let behind ← skipDigits rest
  match behind with
  | c :: _ =>
    if c == '.' || c == 'e' || c == 'E' || isUnit c || !startsDigit rest then afterWhole behind
    else .error .leadingZeros
  | [] => if startsDigit rest then .error .leadingZeros else .ok ⟨false, []⟩

/-- the number in front -/
def read (text : List Char) : Except Complaint Found :=
  match text with
  | '.' :: rest => fraction rest
  | '0' :: c :: rest =>
    if c == 'x' || c == 'X' then return ⟨false, ← based "hexadecimal" isHexDigit rest⟩
    else if c == 'o' || c == 'O' then return ⟨false, ← based "octal" (fun d => '0' ≤ d && d ≤ '7') rest⟩
    else if c == 'b' || c == 'B' then return ⟨false, ← based "binary" (fun d => d == '0' || d == '1') rest⟩
    else fromZero (c :: rest)
  | _ => do afterWhole (← skipDigits text)

end ApiTypes.Source.Number
