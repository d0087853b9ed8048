/-
Layout: the tokens of a text, with its indentation made explicit.

While a text is read, the columns of the open indented blocks are kept. A colon may turn the token before it into a key
after the fact, if that token stands where a key may stand and on the same line, at most 1024 characters before; for
each level of brackets the last such token is kept. Inside brackets indentation does not count.
-/
import ApiTypes.Yaml.Block
import ApiTypes.Yaml.Plain
import ApiTypes.Yaml.Token

namespace ApiTypes.Yaml

/-- a token that may turn out to be a key -/
structure Candidate where
  /-- the number of tokens before it -/
  position : Nat
  /-- must it be a key, since it stands where the keys of the block stand? -/
  required : Bool
  index : Nat
  line : Nat
  column : Nat
  deriving Repr

structure Layout where
  cursor : Cursor
  /-- the tokens so far, last first -/
  tokens : List Token := []
  /-- how many tokens there are -/
  count : Nat := 0
  /-- the column of the innermost indented block; negative outside all -/
  indent : Int := -1
  /-- the columns of the blocks around it, innermost first -/
  outer : List Int := []
  /-- the candidates of the open brackets, innermost first, and that outside all brackets -/
  candidates : List (Option Candidate) := [none]
  /-- may a key stand here? -/
  keyAllowed : Bool := true
  deriving Repr

namespace Layout

/-- the number of open brackets -/
def depth (l : Layout) : Nat := l.candidates.length - 1

def inFlow (l : Layout) : Bool := l.depth != 0

def push (token : Token) (l : Layout) : Layout := { l with tokens := token :: l.tokens, count := l.count + 1 }

/-- put a token where `position` tokens are before it -/
def insertAt (position : Nat) (token : Token) (l : Layout) : Layout :=
  { l with tokens := l.tokens.insertIdx (l.count - position) token, count := l.count + 1 }

/-! ## Blocks -/

/-- close the blocks that are deeper than a column -/
def unwindFrom (column : Int) : (outer : List Int) → Layout → Layout
  | [], l => l
  | i :: rest, l =>
    if column < l.indent then
      unwindFrom column rest
        { l with indent := i, outer := rest, tokens := .blockEnd :: l.tokens, count := l.count + 1 }
    else l

/-- close the blocks that are deeper than a column; inside brackets none is -/
def unwind (column : Int) (l : Layout) : Layout := if l.inFlow then l else unwindFrom column l.outer l

/-- is a block at this column a new one? -/
def opens (column : Int) (l : Layout) : Bool := l.indent < column

def openBlock (column : Int) (l : Layout) : Layout := { l with indent := column, outer := l.indent :: l.outer }

/-! ## Candidates -/

/-- forget a candidate that cannot be a key any more; one that had to be a key is an error -/
def forgetStale (line index : Nat) : Option Candidate → Except Trouble (Option Candidate)
  | none => .ok none
  | some k =>
    if k.line ≠ line ∨ 1024 < index - k.index then (if k.required then .error .malformed else .ok none)
    else .ok (some k)

def dropStale (l : Layout) : Except Trouble Layout := do
  let candidates ← l.candidates.mapM (forgetStale l.cursor.line l.cursor.index)
  return { l with candidates }

def setCandidate (candidate : Option Candidate) (l : Layout) : Layout :=
  { l with candidates := candidate :: l.candidates.tail }

/-- forget the candidate of the innermost bracket -/
def dropCandidate (l : Layout) : Except Trouble Layout :=
  match l.candidates with
  | some k :: _ => if k.required then .error .malformed else .ok (l.setCandidate none)
  | _ => .ok l

/-- the next token may be a key, if one may stand here -/
def saveCandidate (l : Layout) : Except Trouble Layout :=
  if l.keyAllowed then do
    let l ← l.dropCandidate
    let c := l.cursor
    return l.setCandidate (some ⟨l.count, !l.inFlow && l.indent == Int.ofNat c.column, c.index, c.line, c.column⟩)
  else .ok l

/-! ## Tokens -/

def move (cursor : Cursor) (l : Layout) : Layout := { l with cursor }

def allow (keyAllowed : Bool) (l : Layout) : Layout := { l with keyAllowed }

/-- past blanks, comments and line ends -/
def skipLines : (fuel : Nat) → Layout → Layout
  | 0, l => l
  | fuel + 1, l =>
    let c := l.cursor.skipComment
    match c.lineBreak with
    | ([], _) => l.move c
    | (_, after) => skipLines fuel (if l.inFlow then l.move after else (l.move after).allow true)

/-- a token that ends all open blocks -/
def atMargin (l : Layout) : Except Trouble Layout := do
  let l ← (l.unwind (-1)).dropCandidate
  return l.allow false

def openBracket (token : Token) (l : Layout) : Except Trouble Layout := do
  let l ← l.saveCandidate
  return ({ l with candidates := none :: l.candidates, cursor := l.cursor.step }.allow true).push token

def closeBracket (token : Token) (l : Layout) : Except Trouble Layout := do
  if !l.inFlow then throw .malformed
  let l ← l.dropCandidate
  return ({ l with candidates := l.candidates.tail, cursor := l.cursor.step }.allow false).push token

/-- the start of a block at the cursor, if a token there opens one -/
def openHere (start : Token) (l : Layout) : Layout :=
  let column := Int.ofNat l.cursor.column
  if l.inFlow then l else if l.opens column then (l.openBlock column).push start else l

def readItem (l : Layout) : Except Trouble Layout := do
  if !l.inFlow && !l.keyAllowed then throw .malformed
  let l ← ((l.openHere .listStart).allow true).dropCandidate
  return (l.move l.cursor.step).push .item

def readKey (l : Layout) : Except Trouble Layout := do
  if !l.inFlow && !l.keyAllowed then throw .malformed
  let l ← ((l.openHere .mapStart).allow !l.inFlow).dropCandidate
  return (l.move l.cursor.step).push .key

/-- a colon: the candidate before it is its key, or it stands below a key that was marked -/
def readValue (l : Layout) : Except Trouble Layout := do
  match l.candidates with
  | some k :: _ =>
    let l := ((l.setCandidate none).insertAt k.position .key).allow false
    let column := Int.ofNat k.column
    let l := if !l.inFlow && l.opens column then (l.openBlock column).insertAt k.position .mapStart else l
    return (l.move l.cursor.step).push .value
  | _ =>
    if !l.inFlow && !l.keyAllowed then throw .malformed
    let l ← ((l.openHere .mapStart).allow !l.inFlow).dropCandidate
    return (l.move l.cursor.step).push .value

/-- a token that may be a key, read from the cursor on -/
def readCandidate (read : Cursor → Except Trouble (Token × Cursor)) (l : Layout) : Except Trouble Layout := do
  let l ← l.saveCandidate
  let (token, after) ← read l.cursor
  return ((l.move after).allow false).push token

def readBlock (folded : Bool) (l : Layout) : Except Trouble Layout := do
  let l ← (l.allow true).dropCandidate
  let (text, after) ← Block.read folded l.indent l.cursor
  return (l.move after).push (.scalar (String.ofList text) false)

def readQuoted (double : Bool) (c : Cursor) : Except Trouble (Token × Cursor) := do
  let (text, after) ← Quoted.read double c
  return (.scalar (String.ofList text) false, after)

def readPlain (l : Layout) : Except Trouble Layout := do
  let l ← l.saveCandidate
  let (text, gap) := Plain.read l.inFlow (l.indent + 1) l.cursor
  return ((l.move gap.after).allow gap.lines).push (.scalar (String.ofList text) true)

/-- a token that is a name behind a mark -/
def named (token : String → Token) (c : Cursor) : Except Trouble (Token × Cursor) := do
  let (name, after) ← Token.name c
  return (token name, after)

/-- the next token, whose first character is `x` -/
def readToken (x : Char) (l : Layout) : Except Trouble Layout :=
  let c := l.cursor
  if c.column = 0 ∧ x = '%' then do
    let l ← l.atMargin
    let (token, after) ← Token.readDirective c
    return (l.move after).push token
  else if c.column = 0 ∧ c.atSeparator then do
    let l ← l.atMargin
    return (l.move (c.skip 3)).push (if x = '-' then .documentStart else .documentEnd)
  else if x = '[' then l.openBracket .openList
  else if x = '\x7b' then l.openBracket .openMap
  else if x = ']' then l.closeBracket .closeList
  else if x = '\x7d' then l.closeBracket .closeMap
  else if x = ',' then do
    let l ← (l.allow true).dropCandidate
    return (l.move c.step).push .comma
  else if x = '-' ∧ endsWord (c.ahead? 1) then l.readItem
  else if x = '?' ∧ (l.inFlow ∨ endsWord (c.ahead? 1)) then l.readKey
  else if x = ':' ∧ (l.inFlow ∨ endsWord (c.ahead? 1)) then l.readValue
  else if x = '*' then l.readCandidate (named .alias)
  else if x = '&' then l.readCandidate (named .anchor)
  else if x = '!' then l.readCandidate Token.readTag
  else if x = '|' ∧ !l.inFlow then l.readBlock false
  else if x = '>' ∧ !l.inFlow then l.readBlock true
  else if x = '\'' then l.readCandidate (readQuoted false)
  else if x = '"' then l.readCandidate (readQuoted true)
  else if Plain.starts l.inFlow c.rest then l.readPlain
  else .error .malformed

/-- the tokens from here to the end; each takes at least one character -/
def readAll : (fuel : Nat) → Layout → Except Trouble (List Token)
  | 0, _ => .error .malformed
  | fuel + 1, l => do
    let l ← (skipLines (l.cursor.bound + 1) l).dropStale
    let l := l.unwind (Int.ofNat l.cursor.column)
    match l.cursor.rest with
    | [] => return (← l.atMargin).tokens.reverse
    | x :: _ => readAll fuel (← l.readToken x)

end Layout

/-- may a text hold this character? -/
def isPrintable (c : Char) : Bool :=
  let n := c.toNat
  n == 9 || n == 10 || n == 13 || (32 ≤ n && n ≤ 126) || n == 0x85 || (0xA0 ≤ n && n ≤ 0xD7FF) ||
    (0xE000 ≤ n && n ≤ 0xFFFD) || 0x10000 ≤ n

/-- the tokens of a text; a byte order mark in front is left out -/
def Token.ofText (text : List Char) : Except Trouble (List Token) :=
  if text.all isPrintable then
    let start : Cursor := { rest := text }
    let start := if text.head? == some '\uFEFF' then start.step else start
    Layout.readAll (text.length + 1) { cursor := start }
  else .error .malformed

end ApiTypes.Yaml
