/-
Block scalars: indented lines under a header.

The header is `|` to keep line ends or `>` to fold them, then an indentation digit and a sign in either order: `-` drops
the line ends at the end of the scalar, `+` keeps all of them, and by default one is kept.
-/
import ApiTypes.Yaml.Quoted

namespace ApiTypes.Yaml.Block

/-- what is kept of the line ends at the end -/
inductive Chomp where
  | strip
  | clip
  | keep
  deriving DecidableEq, Repr

structure Header where
  chomp : Chomp := .clip
  /-- the indentation that is asked for -/
  indent : Option Nat := none
  deriving Repr

def Chomp.ofSign? : Option Char → Option Chomp
  | some '+' => some .keep
  | some '-' => some .strip
  | _ => none

/-- the end of a scalar: the line end of its last line and those after it -/
def Chomp.ending (chomp : Chomp) (last others : List Char) : List Char :=
  match chomp with
  | strip => []
  | clip => last
  | keep => last ++ others

def digit? (x : Option Char) : Option Nat :=
  match x with
  | some x => if Text.isAsciiDigit x then some (x.toNat - 48) else none
  | none => none

def header (c : Cursor) : Except Trouble (Header × Cursor) := do
  let (read, c) ← match Chomp.ofSign? c.peek?, digit? c.peek? with
    | some chomp, _ =>
      match digit? c.step.peek? with
      | some 0 => .error .malformed
      | some n => .ok (Header.mk chomp (some n), c.skip 2)
      | none => .ok (Header.mk chomp none, c.step)
    | none, some 0 => .error .malformed
    | none, some n =>
      match Chomp.ofSign? c.step.peek? with
      | some chomp => .ok (Header.mk chomp (some n), c.skip 2)
      | none => .ok (Header.mk .clip (some n), c.step)
    | none, none => .ok (Header.mk .clip none, c)
  if !endsField c.peek? then throw .malformed
  let c := c.skipComment
  if !endsLine c.peek? then throw .malformed
  return (read, c.lineBreak.2)

/-- empty lines in front of the scalar, and the deepest blank in them or before its first line -/
def opening : (fuel : Nat) → (found : List Char) → (deepest : Nat) → Cursor → List Char × Nat × Cursor
  | 0, found, deepest, c => (found, deepest, c)
  | fuel + 1, found, deepest, c =>
    if c.peek? == some ' ' then opening fuel found (max deepest c.step.column) c.step
    else
      match c.lineBreak with
      | ([], _) => (found, deepest, c)
      | (first, after) => opening fuel (found ++ first) deepest after

/-- past the blanks up to the indentation -/
def toIndent (indent : Nat) (c : Cursor) : Cursor :=
  c.skip ((c.rest.take (indent - c.column)).takeWhile (· == ' ')).length

/-- empty lines, which may hold blanks up to the indentation -/
def emptyLines (indent : Nat) : (fuel : Nat) → (found : List Char) → Cursor → List Char × Cursor
  | 0, found, c => (found, c)
  | fuel + 1, found, c =>
    let c := toIndent indent c
    match c.lineBreak with
    | ([], _) => (found, c)
    | (first, after) => emptyLines indent fuel (found ++ first) after

def isWhite (x : Option Char) : Bool := x == some ' ' || x == some '\t'

/-- the text before this line, the line end before it, and the empty lines between -/
def joinLines (folded : Bool) (first : Option Char) (next : Option Char) (last others : List Char) : List Char :=
  if folded && last == ['\n'] && !isWhite first && !isWhite next then (if others.isEmpty then [' '] else others)
  else last ++ others

/-- the lines from here on; `text` was read before them -/
def lines (folded : Bool) (indent : Nat) (chomp : Chomp) :
    (fuel : Nat) → (text : List Char) → Cursor → List Char × Cursor
  | 0, text, c => (text, c)
  | fuel + 1, text, c =>
    let first := c.peek?
    let (line, c) := c.span (!isBreak ·)
    let (last, c) := c.lineBreak
    let (others, c) := emptyLines indent c.bound [] c
    if c.column = indent ∧ c.rest ≠ [] then
      lines folded indent chomp fuel (text ++ line ++ joinLines folded first c.peek? last others) c
    else (text ++ line ++ chomp.ending last others, c)

/-- the scalar whose header is in front, where the surrounding block is indented by `outer` -/
def read (folded : Bool) (outer : Int) (c : Cursor) : Except Trouble (List Char × Cursor) := do
  let (h, c) ← header c.step
  let least := max 1 (outer + 1).toNat
  let (empty, indent, c) := match h.indent with
    | none =>
      let (empty, deepest, c) := opening c.bound [] 0 c
      (empty, max least deepest, c)
    | some n =>
      let indent := least + n - 1
      let (empty, c) := emptyLines indent c.bound [] c
      (empty, indent, c)
  if c.column = indent ∧ c.rest ≠ [] then return lines folded indent h.chomp c.bound empty c
  else return (h.chomp.ending [] empty, c)

end ApiTypes.Yaml.Block
