/-
Strings in source texts: where they end, and the texts that they write.

Between single quotes a string ends on its line, unless the line end is escaped; between triple quotes it goes on to the
next three quotes. A backslash keeps the next character from ending the string.
-/
import ApiTypes.Json.Reader
import ApiTypes.Source.Token

namespace ApiTypes.Source.Literal

/-- where a string ends: its body, the line ends in it, and the text behind it; without an end, the line ends before -/
def scan (quote : Char) (triple : Bool) (body : List Char) (lines : Nat) :
    List Char → Except Nat (List Char × Nat × List Char)
  | [] => .error lines
  | '\\' :: c :: rest => scan quote triple (c :: '\\' :: body) (if c = '\n' then lines + 1 else lines) rest
  | c :: rest =>
    if c = quote then
      if triple then
        match rest with
        | d :: e :: behind =>
          if d = quote ∧ e = quote then .ok (body.reverse, lines, behind)
          else scan quote triple (c :: body) lines rest
        | _ => scan quote triple (c :: body) lines rest
      else .ok (body.reverse, lines, rest)
    else if c = '\n' then
      if triple then scan quote triple (c :: body) (lines + 1) rest else .error lines
    else scan quote triple (c :: body) lines rest

/-! ## Texts -/

/-- the characters that a backslash and one letter stand for -/
def letterEscape? : Char → Option Char
  | '\\' => some '\\'
  | '\'' => some '\''
  | '"' => some '"'
  | 'a' => some '\x07'
  | 'b' => some '\x08'
  | 'f' => some '\x0c'
  | 'n' => some '\n'
  | 'r' => some '\r'
  | 't' => some '\t'
  | 'v' => some '\x0b'
  | _ => none

/-- the number of hexadecimal digits behind a letter, and its form in complaints -/
def codeForm? : Char → Option (Nat × String)
  | 'x' => some (2, "\\xXX")
  | 'u' => some (4, "\\uXXXX")
  | 'U' => some (8, "\\UXXXXXXXX")
  | _ => none

def isOctal (c : Char) : Bool := '0' ≤ c && c ≤ '7'

def octalValue (digits : List Char) : Nat := digits.foldl (fun n d => 8 * n + (d.toNat - 48)) 0

/-- how far a character moves the place in a body: one beyond ASCII counts as its escape of ten characters -/
def span (c : Char) : Nat := if Text.isAscii c then 1 else 10

/-- how far a backslash does that; before a character beyond ASCII it counts as an escape of six -/
def backslashSpan (next : Char) : Nat := if Text.isAscii next then 1 else 6

/-- an escape that is cut short: its place in the body -/
def cutShort (position found : Nat) (form : String) : Complaint :=
  .escapeText (toString position ++ "-" ++ toString (position + 1 + found) ++ ": truncated " ++ form ++ " escape")

/-- a code point that no character has -/
def outOfRange (position width : Nat) : Complaint :=
  .escapeText (toString position ++ "-" ++ toString (position + 1 + width) ++ ": illegal Unicode character")

/-- the text of a body, after the characters `before` in reverse -/
def decodeFrom : (fuel : Nat) → (before : List Char) → (position : Nat) → List Char → Except Complaint (List Char)
  | 0, before, _, _ => .ok before.reverse
  | _, before, _, [] => .ok before.reverse
  | fuel + 1, before, position, '\\' :: c :: rest =>
    match letterEscape? c, codeForm? c with
    | some d, _ => decodeFrom fuel (d :: before) (position + 2) rest
    | none, some (width, form) =>
      let digits := (rest.take width).takeWhile fun d => (Json.hexValue? d).isSome
      if digits.length < width then .error (cutShort position digits.length form)
      else
        let code := ((Json.hexNumber? digits).getD 0)
        if 0x110000 ≤ code then .error (outOfRange position width)
        else decodeFrom fuel (Json.unitChar code :: before) (position + 2 + width) (rest.drop width)
    | none, none =>
      if c = '\n' then decodeFrom fuel before (position + 2) rest
      else if isOctal c then
        let digits := ((c :: rest).take 3).takeWhile isOctal
        decodeFrom fuel (Char.ofNat (octalValue digits) :: before) (position + 1 + digits.length)
          (rest.drop (digits.length - 1))
      else decodeFrom fuel (c :: '\\' :: before) (position + backslashSpan c + span c) rest
  | fuel + 1, before, position, c :: rest => decodeFrom fuel (c :: before) (position + span c) rest

/-- the text that a string writes -/
def decode (mode : TextMode) (body : String) : Except Complaint String :=
  if mode.raw || mode.bytes || mode.template then .ok body
  else (decodeFrom body.length [] 0 body.toList).map String.ofList

end ApiTypes.Source.Literal
