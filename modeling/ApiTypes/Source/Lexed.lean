/-
Lexed texts: the lexemes of a source text, as far as they can be told.

Indentation is measured twice, with tabs to every eighth column and with tabs as one column; both measures must agree
on what is deeper. Inside brackets neither indentation nor line ends count.

Where lexing stops short, the reason is kept. Some reasons are reported whatever else is wrong with the text; others
only once everything before them has been understood.

Main statement: `indentTo_same`, a line at the depth of the one before opens and closes nothing.
-/
import ApiTypes.Source.Literal
import ApiTypes.Source.Number
import ApiTypes.Text.Decoded

namespace ApiTypes.Source

/-- where lexing stopped -/
inductive Stop where
  /-- at the end of the text -/
  | complete
  /-- at a fault that is reported in any case -/
  | fault (fault : Fault)
  /-- at a fault that is reported if the text before it is in order -/
  | late (fault : Fault)
  deriving DecidableEq, Repr

structure Lexed where
  lexemes : List Lexeme
  stop : Stop
  /-- the innermost bracket that is open at the stop, and its line -/
  bracket : Option (Char × Nat)
  deriving Repr

/-- a text while it is lexed -/
structure Lexing where
  rest : List Char
  line : Nat := 1
  /-- the columns of the open blocks by both measures, innermost first -/
  columns : List (Nat × Nat) := []
  /-- the open brackets with their lines, innermost first -/
  brackets : List (Char × Nat) := []
  /-- the lexemes so far, last first -/
  lexemes : List Lexeme := []

namespace Lexing

def push (token : Token) (line : Nat) (l : Lexing) : Lexing :=
  { l with lexemes := ⟨token, line, l.brackets.length⟩ :: l.lexemes }

def stopWith (stop : Stop) (l : Lexing) : Lexed := ⟨l.lexemes.reverse, stop, l.brackets.head?⟩

def faultAt (complaint : Complaint) (line : Nat) (l : Lexing) : Lexed := l.stopWith (.fault ⟨complaint, line⟩)

def lateAt (complaint : Complaint) (line : Nat) (l : Lexing) : Lexed := l.stopWith (.late ⟨complaint, line⟩)

/-! ## Indentation -/

/-- the blanks in front of a line -/
structure Margin where
  column : Nat := 0
  /-- the column with tabs as one column -/
  narrow : Nat := 0
  /-- the column before a line end that is escaped -/
  escaped : Nat := 0
  /-- line ends that are escaped -/
  lines : Nat := 0
  rest : List Char
  deriving Repr

def margin (m : Margin) : List Char → Margin
  | ' ' :: rest => margin { m with column := m.column + 1, narrow := m.narrow + 1 } rest
  | '\t' :: rest => margin { m with column := (m.column / 8 + 1) * 8, narrow := m.narrow + 1 } rest
  | '\x0c' :: rest => margin { m with column := 0, narrow := 0 } rest
  | '\\' :: '\n' :: c :: rest =>
    margin { m with escaped := if m.escaped = 0 then m.column else m.escaped, lines := m.lines + 1 } (c :: rest)
  | rest => { m with rest }

/-- the column of the innermost block, by both measures -/
def depth (l : Lexing) : Nat × Nat := l.columns.head?.getD (0, 0)

/-- close the blocks that are deeper than a column -/
def closeTo (column line : Nat) : (columns : List (Nat × Nat)) → Lexing → Lexing
  | [], l => l
  | c :: rest, l => if column < c.1 then closeTo column line rest { l.push .dedent line with columns := rest } else l

/-- the blocks after a line at this column -/
def indentTo (column narrow line : Nat) (l : Lexing) : Except Complaint Lexing :=
  if column = l.depth.1 then
    if narrow = l.depth.2 then .ok l else .error .mixedIndent
  else if l.depth.1 < column then
    if 100 ≤ l.columns.length + 1 then .error .tooDeep
    else if narrow ≤ l.depth.2 then .error .mixedIndent
    else .ok ({ l with columns := (column, narrow) :: l.columns }.push .indent line)
  else
    let closed := closeTo column line l.columns l
    if column ≠ closed.depth.1 then .error .unindentMismatch
    else if narrow ≠ closed.depth.2 then .error .mixedIndent
    else .ok closed

theorem indentTo_same (line : Nat) (l : Lexing) : indentTo l.depth.1 l.depth.2 line l = .ok l := by
  simp [indentTo]

/-! ## Tokens -/

def isBlank (c : Char) : Bool := c == ' ' || c == '\t' || c == '\x0c'

def isNameHead (c : Char) : Bool := Text.isAsciiLetter c || c == '_' || !Text.isAscii c

/-- the first character that keeps a name from being one -/
def badCharacter? : List Char → Option Char
  | [] => none
  | c :: rest => if Text.isNameStart c then rest.find? (!Text.isNameContinue ·) else some c

/-- a string in front, whose quote is `quote` -/
def readText (mode : TextMode) (quote : Char) (behind : List Char) (l : Lexing) : Except Lexed Lexing :=
  let done (body : List Char) (lines : Nat) (rest : List Char) : Lexing :=
    { l.push (.text mode (String.ofList body)) l.line with rest, line := l.line + lines }
  let short (triple : Bool) : Except Lexed Lexing :=
    match Literal.scan quote triple [] 0 (if triple then behind.drop 2 else behind) with
    | .ok (body, lines, rest) => .ok (done body lines rest)
    | .error lines =>
      let last := l.line + lines
      .error (l.faultAt (if triple then .unterminatedTriple (last - 1) else .unterminated last) l.line)
  match behind with
  | a :: b :: rest =>
    if a = quote then if b = quote then short true else .ok (done [] 0 (b :: rest)) else short false
  | _ => short false

/-- a name, or a string with letters in front -/
def readName (l : Lexing) : Except Lexed Lexing :=
  let name := l.rest.takeWhile Number.isNameChar
  let rest := l.rest.drop name.length
  let plain : Except Lexed Lexing :=
    match badCharacter? name with
    | some c => .error (l.faultAt (.character c) l.line)
    | none => .ok { l.push (.name (String.ofList name)) l.line with rest }
  match rest with
  | c :: behind =>
    if c = '\'' ∨ c = '"' then
      match textMode? name with
      | some mode => readText mode c behind l
      | none => plain
    else plain
  | [] => plain

def readNumber (l : Lexing) : Except Lexed Lexing :=
  match Number.read l.rest with
  | .ok found => .ok { l.push (.number found.imaginary) l.line with rest := found.rest }
  | .error complaint => .error (l.faultAt complaint l.line)

def openBracket (c : Char) (rest : List Char) (l : Lexing) : Except Lexed Lexing :=
  if 200 ≤ l.brackets.length then .error (l.faultAt .tooNested l.line)
  else .ok ({ l with brackets := (c, l.line) :: l.brackets, rest }.push (.mark (String.singleton c)) l.line)

def closeBracket (c : Char) (rest : List Char) (l : Lexing) : Except Lexed Lexing :=
  match l.brackets with
  | [] => .error (l.faultAt (.unmatched c) l.line)
  | (opening, line) :: outer =>
    if closing? opening = some c then
      .ok ({ l with brackets := outer, rest }.push (.mark (String.singleton c)) l.line)
    else .error (l.faultAt (.mismatched c opening (if line = l.line then none else some line)) l.line)

def readMark (c : Char) (rest : List Char) (l : Lexing) : Except Lexed Lexing :=
  match longMark? (c :: rest) with
  | some mark => .ok { l.push (.mark mark) l.line with rest := (c :: rest).drop mark.length }
  | none =>
    if (closing? c).isSome then l.openBracket c rest
    else if isClosing c then l.closeBracket c rest
    else if Text.isPrintable c then .ok { l.push (.mark (String.singleton c)) l.line with rest }
    else .error (l.faultAt (.character c) l.line)

/-- the token in front -/
def readToken (c : Char) (rest : List Char) (l : Lexing) : Except Lexed Lexing :=
  if isNameHead c then l.readName
  else if c = '\'' ∨ c = '"' then readText {} c rest l
  else if Text.isAsciiDigit c || (c = '.' && Number.startsDigit rest) then l.readNumber
  else l.readMark c rest

/-- the line of tokens at the end of the text -/
def lastLine (l : Lexing) : Nat := l.line - 1

def atEnd (l : Lexing) : Lexed :=
  match l.brackets with
  | (opening, line) :: _ => l.lateAt (.unclosed opening) line
  | [] => (l.push .finish l.lastLine).stopWith .complete

/-- lex on; `start` says that a line starts here -/
def run : (fuel : Nat) → (start : Bool) → Lexing → Lexed
  | 0, _, l => l.atEnd
  | fuel + 1, true, l =>
    if !l.brackets.isEmpty then run fuel false l
    else
      let m := margin { rest := l.rest } l.rest
      let l := { l with rest := m.rest, line := l.line + m.lines }
      match m.rest with
      | '#' :: _ => run fuel true { l with rest := (m.rest.dropWhile (· != '\n')).drop 1, line := l.line + 1 }
      | '\n' :: rest => run fuel true { l with rest, line := l.line + 1 }
      | rest =>
        let line := if rest.isEmpty then l.lastLine else l.line
        let column := if m.escaped = 0 then m.column else m.escaped
        let narrow := if m.escaped = 0 then m.narrow else m.escaped
        match indentTo column narrow line l with
        | .ok l => run fuel false l
        | .error complaint => l.lateAt complaint line
  | fuel + 1, false, l =>
    let rest := l.rest.dropWhile isBlank
    match (if rest.head? = some '#' then rest.dropWhile (· != '\n') else rest) with
    | [] => l.atEnd
    | '\n' :: rest =>
      let l := if l.brackets.isEmpty then l.push .newline l.line else l
      run fuel true { l with rest, line := l.line + 1 }
    | ['\\', '\n'] => l.lateAt .endOfText l.line
    | '\\' :: '\n' :: rest => run fuel false { l with rest, line := l.line + 1 }
    | '\\' :: _ => l.lateAt .afterContinuation l.line
    | c :: rest =>
      match readToken c rest { l with rest := c :: rest } with
      | .ok l => run fuel false l
      | .error lexed => lexed

theorem run_end (fuel : Nat) {l : Lexing} (done : l.rest = []) : run (fuel + 1) false l = l.atEnd := by
  rw [run, done]
  rfl

end Lexing

/-- the text with line feeds for line ends, one of them at its end -/
def closeLines (text : List Char) : List Char :=
  let text := Text.lineFeeds text
  if text.getLast? = some '\n' then text else text ++ ['\n']

/-- the lexemes of a text -/
def Lexed.ofText (text : List Char) : Lexed :=
  let text := closeLines text
  Lexing.run (2 * text.length + 2) true { rest := text }

end ApiTypes.Source
