/-
Cursors: what is left of a text, and where it starts.

A line ends at a line feed, at the next-line control, or at a line or paragraph separator; the first two are read as a
line feed. A byte order mark takes no column.
-/

namespace ApiTypes.Yaml

def isBreak (c : Char) : Bool := c == '\n' || c == '\x85' || c == '\u2028' || c == '\u2029'

/-- does the text or the line end here? -/
def endsLine : Option Char → Bool
  | none => true
  | some c => isBreak c

/-- does a word end here, so that an indicator before it stands alone? -/
def endsWord : Option Char → Bool
  | none => true
  | some c => c == ' ' || c == '\t' || isBreak c

/-- does a word end here, where tabs do not separate words? -/
def endsField : Option Char → Bool
  | none => true
  | some c => c == ' ' || isBreak c

structure Cursor where
  rest : List Char
  /-- the number of characters before -/
  index : Nat := 0
  line : Nat := 0
  column : Nat := 0
  /-- no fewer than the characters that are left -/
  bound : Nat := rest.length
  deriving Repr

namespace Cursor

def peek? (c : Cursor) : Option Char := c.rest.head?

/-- the character `n` places further on -/
def ahead? (c : Cursor) (n : Nat) : Option Char := (c.rest.drop n).head?

def step (c : Cursor) : Cursor :=
  match c.rest with
  | [] => c
  | x :: rest =>
    if isBreak x then { c with rest, index := c.index + 1, line := c.line + 1, column := 0 }
    else if x == '\uFEFF' then { c with rest, index := c.index + 1 }
    else { c with rest, index := c.index + 1, column := c.column + 1 }

def skip (c : Cursor) : (n : Nat) → Cursor
  | 0 => c
  | n + 1 => c.step.skip n

/-- the characters of a class in front, and the cursor behind them -/
def span (c : Cursor) (p : Char → Bool) : List Char × Cursor :=
  let taken := c.rest.takeWhile p
  (taken, c.skip taken.length)

def skipWhile (c : Cursor) (p : Char → Bool) : Cursor := (c.span p).2

def skipBlanks (c : Cursor) : Cursor := c.skipWhile (· == ' ')

/-- past the blanks and a comment -/
def skipComment (c : Cursor) : Cursor :=
  let c := c.skipBlanks
  if c.peek? == some '#' then c.skipWhile (!isBreak ·) else c

/-- the line end in front as it is read, and the cursor behind it; nothing where there is none -/
def lineBreak (c : Cursor) : List Char × Cursor :=
  match c.peek? with
  | none => ([], c)
  | some x => if isBreak x then ([if x == '\x85' then '\n' else x], c.step) else ([], c)

/-- does a line with three dashes or dots start here? -/
def atSeparator (c : Cursor) : Bool :=
  (c.rest.take 3 == ['-', '-', '-'] || c.rest.take 3 == ['.', '.', '.']) && endsWord (c.ahead? 3)

end Cursor

end ApiTypes.Yaml
