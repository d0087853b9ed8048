/-
Quoted scalars.

Between single quotes, a quote is written twice and nothing else is escaped. Between double quotes, a backslash escapes.
In both, a line end with the blanks around it is read as one blank, and of several line ends the first is dropped.
-/
import ApiTypes.Json.Reader
import ApiTypes.Yaml.Cursor
import ApiTypes.Yaml.Trouble

namespace ApiTypes.Yaml.Quoted

/-- the characters that a backslash and one letter stand for -/
def letterEscape? : Char → Option Char
  | '0' => some '\x00'
  | 'a' => some '\x07'
  | 'b' => some '\x08'
  | 't' => some '\t'
  | '\t' => some '\t'
  | 'n' => some '\n'
  | 'v' => some '\x0b'
  | 'f' => some '\x0c'
  | 'r' => some '\r'
  | 'e' => some '\x1b'
  | ' ' => some ' '
  | '"' => some '"'
  | '\\' => some '\\'
  | '/' => some '/'
  | 'N' => some '\x85'
  | '_' => some '\xa0'
  | 'L' => some '\u2028'
  | 'P' => some '\u2029'
  | _ => none

/-- the number of hexadecimal digits after a letter that announces a code point -/
def codeWidth? : Char → Option Nat
  | 'x' => some 2
  | 'u' => some 4
  | 'U' => some 8
  | _ => none

/-- the code point in the next `width` digits -/
def codePoint (width : Nat) (c : Cursor) : Except Trouble (Nat × Cursor) :=
  let digits := c.rest.take width
  match digits.mapM Json.hexValue? with
  | some values =>
    if values.length = width then .ok (values.foldl (fun n d => 16 * n + d) 0, c.skip width) else .error .malformed
  | none => .error .malformed

def isHigh (n : Nat) : Bool := 0xD800 ≤ n && n < 0xDC00

def isLow (n : Nat) : Bool := 0xDC00 ≤ n && n < 0xE000

/-- the character of a code point that was read; two halves of one character, in two escapes, are put together -/
def character (code : Nat) (c : Cursor) : Except Trouble (Char × Cursor) :=
  if 0x110000 ≤ code then .error (.scalar (.codePoint code))
  else if isHigh code then
    match c.rest with
    | '\\' :: 'u' :: _ =>
      match codePoint 4 (c.skip 2) with
      | .ok (low, after) =>
        if isLow low then .ok (Char.ofNat (0x10000 + (code - 0xD800) * 0x400 + (low - 0xDC00)), after)
        else .ok ('\uFFFD', c)
      | .error _ => .ok ('\uFFFD', c)
    | _ => .ok ('\uFFFD', c)
  else if isLow code then .ok ('\uFFFD', c)
  else .ok (Char.ofNat code, c)

/-- the line ends in front, with the blanks between them left out; no document may end there -/
def breaks : (fuel : Nat) → Cursor → Except Trouble (List Char × Cursor)
  | 0, _ => .error .malformed
  | fuel + 1, c =>
    if c.atSeparator then .error .malformed
    else
      let c := c.skipWhile fun x => x == ' ' || x == '\t'
      match c.lineBreak with
      | ([], _) => .ok ([], c)
      | (first, after) => do
        let (others, after) ← breaks fuel after
        return (first ++ others, after)

/-- how a line end is read when `others` follow it -/
def foldBreak (first others : List Char) : List Char :=
  if first != ['\n'] then first ++ others else if others.isEmpty then [' '] else others

/-- blanks inside a quoted scalar: kept in a line, folded around line ends -/
def blanks (fuel : Nat) (c : Cursor) : Except Trouble (List Char × Cursor) := do
  let (white, c) := c.span fun x => x == ' ' || x == '\t'
  match c.lineBreak with
  | ([], _) => if c.rest.isEmpty then .error .malformed else return (white, c)
  | (first, after) => do
    let (others, after) ← breaks fuel after
    return (foldBreak first others, after)

/-- what a backslash stands for; the cursor is behind it -/
def escape (fuel : Nat) (c : Cursor) : Except Trouble (List Char × Cursor) :=
  match c.peek? with
  | none => .error .malformed
  | some x =>
    match letterEscape? x, codeWidth? x with
    | some y, _ => .ok ([y], c.step)
    | none, some width => do
      let (code, after) ← codePoint width c.step
      let (y, after) ← character code after
      return ([y], after)
    | none, none => if isBreak x then breaks fuel c.lineBreak.2 else .error .malformed

/-- the text from inside the quotes on, after the characters `before` in reverse -/
def body (double : Bool) : (fuel : Nat) → (before : List Char) → Cursor → Except Trouble (List Char × Cursor)
  | 0, _, _ => .error .malformed
  | fuel + 1, before, c =>
    match c.rest with
    | [] => .error .malformed
    | x :: rest =>
      if double && x == '"' then .ok (before.reverse, c.step)
      else if !double && x == '\'' then
        if rest.head? == some '\'' then body double fuel ('\'' :: before) (c.skip 2)
        else .ok (before.reverse, c.step)
      else if double && x == '\\' then do
        let (escaped, after) ← escape c.bound c.step
        body double fuel (escaped.reverse ++ before) after
      else if x == ' ' || x == '\t' || isBreak x then do
        let (white, after) ← blanks c.bound c
        body double fuel (white.reverse ++ before) after
      else body double fuel (x :: before) c.step

/-- the scalar that the quote in front opens -/
def read (double : Bool) (c : Cursor) : Except Trouble (List Char × Cursor) := body double c.bound [] c.step

end ApiTypes.Yaml.Quoted
