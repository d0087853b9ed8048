/-
Character classes of the texts that the library reads and writes.

A class is decided by cases on ASCII and by the tables of `Spans` beyond it. Four notions of "digit" are kept apart:
the decimal digits of any script, the wider class of characters that stand for a digit (superscripts, circled digits),
the word characters (letters, digits and other numbers, underscore), and the characters that an identifier may hold.

Main statements: `isWord_of_isNameStart_ascii` and `isNameContinue_of_isWord_ascii`, on ASCII the word characters are
the characters of identifiers.
-/
import ApiTypes.Text.Spans

namespace ApiTypes.Text

/-- does the code point of `c` lie in one of the spans? -/
def inSpans (spans : List (Nat × Nat)) (c : Char) : Bool :=
  spans.any fun span => span.1 ≤ c.toNat && c.toNat ≤ span.2

def isAscii (c : Char) : Bool := c.toNat < 128

def isLower (c : Char) : Bool := 97 ≤ c.toNat && c.toNat ≤ 122

def isUpper (c : Char) : Bool := 65 ≤ c.toNat && c.toNat ≤ 90

def isAsciiDigit (c : Char) : Bool := 48 ≤ c.toNat && c.toNat ≤ 57

def isAsciiLetter (c : Char) : Bool := isLower c || isUpper c

def isAsciiAlnum (c : Char) : Bool := isAsciiLetter c || isAsciiDigit c

/-- blanks that separate words: spaces of every width, line and paragraph ends, and the four information separators -/
def isBlank (c : Char) : Bool :=
  let n := c.toNat
  (9 ≤ n && n ≤ 13) || (28 ≤ n && n ≤ 32) || n == 0x85 || n == 0xA0 || n == 0x1680 || (0x2000 ≤ n && n ≤ 0x200A) ||
    n == 0x2028 || n == 0x2029 || n == 0x202F || n == 0x205F || n == 0x3000

/-- a decimal digit of any script -/
def isDecimal (c : Char) : Bool :=
  if isAscii c then isAsciiDigit c else inSpans Spans.decimals c

/-- a character that stands for a digit, positional or not -/
def isDigit (c : Char) : Bool :=
  if isAscii c then isAsciiDigit c else inSpans Spans.decimals c || inSpans Spans.digitForms c

def isLetter (c : Char) : Bool :=
  if isAscii c then isAsciiLetter c else inSpans Spans.letters c

/-- letters, digits, other numbers and the underscore -/
def isWord (c : Char) : Bool :=
  if isAscii c then isAsciiAlnum c || c == '_'
  else inSpans Spans.letters c || inSpans Spans.decimals c || inSpans Spans.digitForms c || inSpans Spans.numberForms c

/-- characters that may start an identifier -/
def isNameStart (c : Char) : Bool :=
  if isAscii c then isAsciiLetter c || c == '_'
  else (inSpans Spans.letters c && !inSpans Spans.notStarting c) || inSpans Spans.alsoStarting c

/-- characters that may follow in an identifier -/
def isNameContinue (c : Char) : Bool :=
  if isAscii c then isAsciiAlnum c || c == '_'
  else isNameStart c || inSpans Spans.continuing c

/-- characters that a quoted text shows as they are -/
def isPrintable (c : Char) : Bool :=
  if isAscii c then 32 ≤ c.toNat && c.toNat ≤ 126 else !inSpans Spans.hidden c

/-- an identifier: one starting character, then characters that may follow -/
def isIdentifier (name : List Char) : Bool :=
  match name with
  | [] => false
  | c :: rest => isNameStart c && rest.all isNameContinue

theorem isNameContinue_of_isWord_ascii {c : Char} (ascii : isAscii c = true) : isNameContinue c = isWord c := by
  simp [isNameContinue, isWord, ascii]

theorem isWord_of_isNameStart_ascii {c : Char} (ascii : isAscii c = true) (h : isNameStart c = true) :
    isWord c = true := by
  simp only [isNameStart, ascii, ↓reduceIte, Bool.or_eq_true] at h
  rcases h with h | h <;> simp [isWord, isAsciiAlnum, ascii, h]

theorem isNameContinue_of_isNameStart {c : Char} (h : isNameStart c = true) : isNameContinue c = true := by
  by_cases ascii : isAscii c = true
  · rw [isNameContinue_of_isWord_ascii ascii]
    exact isWord_of_isNameStart_ascii ascii h
  · simp [isNameContinue, ascii, h]

end ApiTypes.Text
