/-
Reading JSON texts, with the place of the first fault.

A text is read strictly: one value between blanks, no control characters inside quoted texts, no leading zeros.
Besides JSON proper the numbers `NaN`, `Infinity` and `-Infinity` are known. Of a key that is repeated the first
position and the last value count. Two escapes that form a UTF-16 pair are one character; an escape that is half a
pair is read as the replacement character.

A reader takes the characters that are left and gives back those it leaves. Readers of containers count down on a fuel
which the length of the text bounds, since each level and each item takes at least one character.

Main statement: `readValue_word`, what opens no bracket and no quote is a word or a number.
-/
import ApiTypes.Value.Basic
import ApiTypes.Text.Class
import ApiTypes.Text.Quoted

namespace ApiTypes.Json

open ApiTypes.Number

/-- what was wrong with a text -/
inductive Complaint where
  | value
  | propertyName
  | colon
  | comma
  | unterminated
  | control
  | escape
  | unicodeEscape
  | extra
  | byteOrderMark
  deriving DecidableEq, Repr

def Complaint.message : Complaint → String
  | value => "Expecting value"
  | propertyName => "Expecting property name enclosed in double quotes"
  | colon => "Expecting ':' delimiter"
  | comma => "Expecting ',' delimiter"
  | unterminated => "Unterminated string starting at"
  | control => "Invalid control character at"
  | escape => "Invalid \\escape"
  | unicodeEscape => "Invalid \\uXXXX escape"
  | extra => "Extra data"
  | byteOrderMark => "Unexpected UTF-8 BOM (decode using utf-8-sig)"

/-- a complaint and the characters that were left where it arose -/
structure Trouble where
  complaint : Complaint
  rest : List Char

/-- a fault of a text: the complaint, and its place as line, column and character count -/
structure Fault where
  complaint : Complaint
  line : Nat
  column : Nat
  index : Nat
  deriving DecidableEq, Repr

def Fault.message (f : Fault) : String :=
  f.complaint.message ++ ": line " ++ toString f.line ++ " column " ++ toString f.column ++
    " (char " ++ toString f.index ++ ")"

/-- a reader gives a result and the characters left, or says what was wrong -/
abbrev Reader (α : Type) := List Char → Except Trouble (α × List Char)

def isSpace (c : Char) : Bool := c == ' ' || c == '\t' || c == '\n' || c == '\r'

def skipBlanks (text : List Char) : List Char := text.dropWhile isSpace

/-! ## Quoted texts -/

def hexValue? (c : Char) : Option Nat :=
  let n := c.toNat
  if 48 ≤ n ∧ n ≤ 57 then some (n - 48)
  else if 97 ≤ n ∧ n ≤ 102 then some (n - 87)
  else if 65 ≤ n ∧ n ≤ 70 then some (n - 55)
  else none

/-- the number that hexadecimal digits write -/
def hexNumber? (digits : List Char) : Option Nat :=
  digits.foldl (fun acc c => match acc, hexValue? c with
    | some n, some d => some (16 * n + d)
    | _, _ => none) (some 0)

theorem hexValue?_hexDigit {n : Nat} (h : n < 16) : hexValue? (Text.hexDigit n) = some n := by
  have all : ∀ k < 16, hexValue? (Text.hexDigit k) = some k := by decide
  exact all n h

/-- the character of a UTF-16 unit that stands alone -/
def unitChar (n : Nat) : Char := if 0xD800 ≤ n ∧ n < 0xE000 then '\uFFFD' else Char.ofNat n

theorem unitChar_toNat (c : Char) : unitChar c.toNat = c := by
  have valid : c.toNat < 0xD800 ∨ 0xDFFF < c.toNat ∧ c.toNat < 0x110000 := c.valid
  have apart : ¬ (0xD800 ≤ c.toNat ∧ c.toNat < 0xE000) := by omega
  rw [unitChar, if_neg apart, Char.ofNat_toNat]

/-- the character that a letter after a backslash stands for -/
def escaped? : Char → Option Char
  | '"' => some '"'
  | '\\' => some '\\'
  | '/' => some '/'
  | 'b' => some '\x08'
  | 'f' => some '\x0c'
  | 'n' => some '\n'
  | 'r' => some '\r'
  | 't' => some '\t'
  | _ => none

/-- the first character is a high unit, four digits and something more follow a second escape: the pair's character -/
def pairChar? (high : Nat) (rest : List Char) : Option (Except Unit (Char × List Char)) :=
  if 0xD800 ≤ high ∧ high < 0xDC00 then
    match rest with
    | '\\' :: 'u' :: a :: b :: c :: d :: more =>
      if more.isEmpty then none
      else match hexNumber? [a, b, c, d] with
        | none => some (.error ())
        | some low =>
          if 0xDC00 ≤ low ∧ low < 0xE000 then
            some (.ok (Char.ofNat (0x10000 + (high - 0xD800) * 0x400 + (low - 0xDC00)), more))
          else none
    | _ => none
  else none

/-- read up to the closing quote; `start` are the characters from the opening quote on, `text` those read, in reverse -/
def readQuotedFrom (start : List Char) : (fuel : Nat) → (text : List Char) → Reader String
  | 0, _, _ => .error ⟨.unterminated, start⟩
  | fuel + 1, text, rest =>
    match rest with
    | [] => .error ⟨.unterminated, start⟩
    | '"' :: more => .ok (String.ofList text.reverse, more)
    | ['\\'] => .error ⟨.unterminated, start⟩
    | '\\' :: 'u' :: digits =>
      match digits with
      | a :: b :: c :: d :: more =>
        if more.isEmpty then .error ⟨.unicodeEscape, rest.tail⟩
        else match hexNumber? [a, b, c, d] with
          | none => .error ⟨.unicodeEscape, rest.tail⟩
          | some unit => match pairChar? unit more with
            | some (.ok (c, left)) => readQuotedFrom start fuel (c :: text) left
            | some (.error ()) => .error ⟨.unicodeEscape, more.tail⟩
            | none => readQuotedFrom start fuel (unitChar unit :: text) more
      | _ => .error ⟨.unicodeEscape, rest.tail⟩
    | '\\' :: letter :: more =>
      match escaped? letter with
      | some c => readQuotedFrom start fuel (c :: text) more
      | none => .error ⟨.escape, rest⟩
    | c :: more =>
      if c.toNat < 32 then .error ⟨.control, rest⟩ else readQuotedFrom start fuel (c :: text) more

/-- a quoted text; the opening quote is the first character -/
def readQuoted : Reader String := fun text =>
  readQuotedFrom text (text.length + 1) [] text.tail

/-! ## Numbers -/

def digitValue (c : Char) : Nat := c.toNat - 48

def naturalOf (digits : List Char) : Nat := digits.foldl (fun n c => 10 * n + digitValue c) 0

/-- digits after a point; nothing if none follows -/
def fractionOf (text : List Char) : List Char × List Char :=
  match text with
  | '.' :: rest =>
    let digits := rest.takeWhile Text.isAsciiDigit
    if digits.isEmpty then ([], text) else (digits, rest.dropWhile Text.isAsciiDigit)
  | _ => ([], text)

/-- sign and digits of an exponent; nothing if no digit follows -/
def exponentOf (text : List Char) : Option Int × List Char :=
  match text with
  | e :: rest =>
    if e == 'e' || e == 'E' then
      let (negative, rest) := match rest with
        | '-' :: more => (true, more)
        | '+' :: more => (false, more)
        | _ => (false, rest)
      let digits := rest.takeWhile Text.isAsciiDigit
      if digits.isEmpty then (none, text)
      else
        let n := Int.ofNat (naturalOf digits)
        (some (if negative then -n else n), rest.dropWhile Text.isAsciiDigit)
    else (none, text)
  | [] => (none, text)

/-- a number from its sign on; the digits are those before the point -/
def numberFrom (negative : Bool) (digits rest : List Char) : Value × List Char :=
  let (fraction, rest) := fractionOf rest
  let (exponent, rest) := exponentOf rest
  if fraction.isEmpty && exponent.isNone then
    let n := Int.ofNat (naturalOf digits)
    (.int (if negative then -n else n), rest)
  else
    (.float (Binary64.ofDecimal negative (naturalOf (digits ++ fraction))
      (exponent.getD 0 - Int.ofNat fraction.length)), rest)

/-- a number: an integer part without leading zeros, then a fraction and an exponent where they are complete -/
def readNumber : Reader Value := fun text =>
  let (negative, rest) := match text with
    | '-' :: more => (true, more)
    | _ => (false, text)
  match rest with
  | '0' :: more => .ok (numberFrom negative ['0'] more)
  | c :: _ =>
    if Text.isAsciiDigit c then
      .ok (numberFrom negative (rest.takeWhile Text.isAsciiDigit) (rest.dropWhile Text.isAsciiDigit))
    else .error ⟨.value, text⟩
  | [] => .error ⟨.value, text⟩

/-! ## Values -/

/-- the words of the grammar and their values -/
def wordValues : List (List Char × Value) :=
  [("null".toList, .null), ("true".toList, .bool true), ("false".toList, .bool false),
    ("NaN".toList, .float Binary64.nan),
    ("Infinity".toList, .float (Binary64.infinity false)), ("-Infinity".toList, .float (Binary64.infinity true))]

/-- a word of the grammar, or else a number -/
def readWord : Reader Value := fun text =>
  match wordValues.find? fun w => w.1.isPrefixOf text with
  | some (word, value) => .ok (value, text.drop word.length)
  | none => readNumber text

mutual

/-- a value, without blanks around it -/
def readValue : (fuel : Nat) → Reader Value
  | 0, text => .error ⟨.value, text⟩
  | fuel + 1, text =>
    match text with
    | '"' :: _ => do
      let (s, rest) ← readQuoted text
      .ok (.str s, rest)
    | '[' :: rest =>
      match skipBlanks rest with
      | ']' :: more => .ok (.list [], more)
      | rest => readItems fuel [] rest
    | '\x7b' :: rest =>
      match skipBlanks rest with
      | '\x7d' :: more => .ok (.map [], more)
      | rest => readMembers fuel [] rest
    | _ => readWord text

/-- the items from the next one on; `items` are those read, in reverse -/
def readItems : (fuel : Nat) → (items : List Value) → Reader Value
  | 0, _, text => .error ⟨.value, text⟩
  | fuel + 1, items, text => do
    let (item, rest) ← readValue fuel text
    match skipBlanks rest with
    | ']' :: more => .ok (.list (item :: items).reverse, more)
    | ',' :: more => readItems fuel (item :: items) (skipBlanks more)
    | rest => .error ⟨.comma, rest⟩

/-- the members from the next key on; `members` are those read, in reverse -/
def readMembers : (fuel : Nat) → (members : List (Value × Value)) → Reader Value
  | 0, _, text => .error ⟨.propertyName, text⟩
  | fuel + 1, members, text =>
    match text with
    | '"' :: _ => do
      let (key, rest) ← readQuoted text
      match skipBlanks rest with
      | ':' :: more => do
        let (value, rest) ← readValue fuel (skipBlanks more)
        let members := (Value.str key, value) :: members
        match skipBlanks rest with
        | '\x7d' :: more => .ok (.map (Entries.ofPairs members.reverse), more)
        | ',' :: more => readMembers fuel members (skipBlanks more)
        | rest => .error ⟨.comma, rest⟩
      | rest => .error ⟨.colon, rest⟩
    | _ => .error ⟨.propertyName, text⟩

end

/-- a text that opens no bracket and no quote is a word or a number -/
theorem readValue_word (fuel : Nat) {c : Char} {rest : List Char} (h : c ≠ '"' ∧ c ≠ '[' ∧ c ≠ '\x7b') :
    readValue (fuel + 1) (c :: rest) = readWord (c :: rest) := by
  obtain ⟨quote, bracket, brace⟩ := h
  simp [readValue, quote, bracket, brace]

/-- a value with blanks before it, and nothing but blanks after it -/
def readWhole (text : List Char) : Except Trouble Value := do
  match text with
  | '\uFEFF' :: _ => .error ⟨.byteOrderMark, text⟩
  | _ =>
    let (value, rest) ← readValue (text.length + 1) (skipBlanks text)
    let rest := skipBlanks rest
    if rest.isEmpty then .ok value else .error ⟨.extra, rest⟩

/-- the place of a trouble: lines count from one, columns from one, characters from zero -/
def Trouble.fault (text : List Char) (t : Trouble) : Fault :=
  let index := text.length - t.rest.length
  let before := text.take index
  let column := (before.reverse.takeWhile (· != '\n')).length + 1
  ⟨t.complaint, before.count '\n' + 1, column, index⟩

/-- read a JSON text -/
def read (text : String) : Except Fault Value :=
  match readWhole text.toList with
  | .ok v => .ok v
  | .error t => .error (t.fault text.toList)

end ApiTypes.Json
