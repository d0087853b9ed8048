/-
Quoted texts in the generated language.

A text is written between single quotes, or between double quotes when it holds a single quote and no double quote.
The quote in use, the backslash, line feed, carriage return and tab are escaped by a backslash; any other character that
is not printable is written by its code point in hexadecimal, in two, four or eight digits, whichever is the first to
hold it.

Main statement: `escape_printable`, a printable character other than the backslash and the quote stands for itself.
-/
import ApiTypes.Text.Class

namespace ApiTypes.Text

/-- the lower-case hexadecimal digit of a number below sixteen -/
def hexDigit (n : Nat) : Char :=
  if n < 10 then Char.ofNat (48 + n) else Char.ofNat (87 + n)

/-- the last `width` hexadecimal digits of `n`, highest first -/
def hexDigits : (width : Nat) → (n : Nat) → List Char
  | 0, _ => []
  | width + 1, n => hexDigits width (n / 16) ++ [hexDigit (n % 16)]

theorem length_hexDigits (width n : Nat) : (hexDigits width n).length = width := by
  induction width generalizing n with
  | zero => rfl
  | succ width ih => simp [hexDigits, ih]

/-- double quotes serve a text that holds a single quote and no double quote -/
def quoteFor (text : List Char) : Char :=
  if text.contains '\'' && !text.contains '"' then '"' else '\''

/-- one character between quotes `quote` -/
def escape (quote c : Char) : List Char :=
  if c == '\\' || c == quote then ['\\', c]
  else if c == '\n' then ['\\', 'n']
  else if c == '\r' then ['\\', 'r']
  else if c == '\t' then ['\\', 't']
  else if isPrintable c then [c]
  else if c.toNat < 0x100 then '\\' :: 'x' :: hexDigits 2 c.toNat
  else if c.toNat < 0x10000 then '\\' :: 'u' :: hexDigits 4 c.toNat
  else '\\' :: 'U' :: hexDigits 8 c.toNat

def quotedChars (text : List Char) : List Char :=
  let quote := quoteFor text
  quote :: text.flatMap (escape quote) ++ [quote]

/-- a text as a literal of the generated language -/
def quoted (text : String) : String :=
  String.ofList (quotedChars text.toList)

theorem escape_printable {quote c : Char} (printable : isPrintable c = true) (slash : c ≠ '\\') (other : c ≠ quote) :
    escape quote c = [c] := by
  have newline : c ≠ '\n' := by rintro rfl; exact absurd printable (by decide)
  have carriage : c ≠ '\r' := by rintro rfl; exact absurd printable (by decide)
  have tab : c ≠ '\t' := by rintro rfl; exact absurd printable (by decide)
  simp [escape, slash, other, newline, carriage, tab, printable]

end ApiTypes.Text
