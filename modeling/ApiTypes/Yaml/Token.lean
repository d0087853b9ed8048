/-
Tokens: the scalars, marks and brackets of a text, and the start and end of its indented blocks.

This module reads the tokens that are recognised by themselves: anchors and aliases, tags, and directives.
-/
import ApiTypes.Text.Decoded
import ApiTypes.Yaml.Quoted

namespace ApiTypes.Yaml

inductive Directive where
  /-- the version of the notation, of which the first number counts -/
  | version (major : Nat)
  /-- a short form for the start of tags -/
  | handle (handle start : String)
  | other
  deriving DecidableEq, Repr

inductive Token where
  | directive (directive : Directive)
  | documentStart
  | documentEnd
  | listStart
  | mapStart
  /-- the end of an indented list or mapping -/
  | blockEnd
  /-- an item of an indented list -/
  | item
  | key
  | value
  | openList
  | closeList
  | openMap
  | closeMap
  | comma
  | alias (name : String)
  | anchor (name : String)
  | tag (handle : Option String) (suffix : String)
  | scalar (text : String) (plain : Bool)
  deriving DecidableEq, Repr

namespace Token

def isNameChar (c : Char) : Bool := Text.isAsciiAlnum c || c == '-' || c == '_'

/-- may this follow the name of an anchor or alias? -/
def endsName : Option Char → Bool
  | none => true
  | some c => endsWord (some c) || "?:,]\x7d%@\x60".toList.contains c

/-- the name behind the mark in front -/
def name (c : Cursor) : Except Trouble (String × Cursor) :=
  match c.step.span isNameChar with
  | ([], _) => .error .malformed
  | (name, after) => if endsName after.peek? then .ok (String.ofList name, after) else .error .malformed

/-! ## Tags -/

def isTagChar (c : Char) : Bool := isNameChar c || ";/?:@&=+$,.!~*'()[]".toList.contains c

/-- bytes written as a percent sign and two digits -/
def percentBytes : (fuel : Nat) → (bytes : List UInt8) → Cursor → Except Trouble (List UInt8 × Cursor)
  | 0, bytes, c => .ok (bytes, c)
  | fuel + 1, bytes, c =>
    if c.peek? == some '%' then do
      let (byte, after) ← Quoted.codePoint 2 c.step
      percentBytes fuel (bytes ++ [UInt8.ofNat byte]) after
    else .ok (bytes, c)

/-- the rest of a tag, where percent signs stand for bytes -/
def tagText : (fuel : Nat) → (before : List Char) → Cursor → Except Trouble (List Char × Cursor)
  | 0, before, c => .ok (before, c)
  | fuel + 1, before, c =>
    match c.peek? with
    | none => .ok (before, c)
    | some x =>
      if x == '%' then do
        let (bytes, after) ← percentBytes c.bound [] c
        match Text.decode bytes with
        | .ok decoded => tagText fuel (before ++ decoded) after
        | .error _ => .error .malformed
      else if isTagChar x then tagText fuel (before ++ [x]) c.step
      else .ok (before, c)

/-- a tag's text, of which there is some -/
def suffix (c : Cursor) : Except Trouble (String × Cursor) := do
  let (text, after) ← tagText (c.bound + 1) [] c
  if after.index = c.index then throw .malformed
  return (String.ofList text, after)

/-- a handle: an exclamation mark, or a name between two -/
def handle (c : Cursor) : Except Trouble (String × Cursor) := do
  if c.peek? != some '!' then throw .malformed
  let (name, after) := c.step.span isNameChar
  if name.isEmpty ∧ c.step.peek? = some ' ' then return ("!", c.step)
  if after.peek? != some '!' then throw .malformed
  return (String.ofList ('!' :: name ++ ['!']), after.step)

/-- does the word in front hold an exclamation mark after its first character? -/
def hasHandle (c : Cursor) : Bool := (c.step.rest.takeWhile fun x => !endsField (some x)).contains '!'

def readTag (c : Cursor) : Except Trouble (Token × Cursor) := do
  let (token, after) ←
    if c.ahead? 1 == some '<' then do
      let (suffix, after) ← suffix (c.skip 2)
      if after.peek? != some '>' then throw .malformed
      pure (Token.tag none suffix, after.step)
    else if endsWord (c.ahead? 1) then pure (Token.tag none "!", c.step)
    else do
      let (handle, after) ← if hasHandle c then handle c else pure ("!", c.step)
      let (suffix, after) ← suffix after
      pure (Token.tag (some handle) suffix, after)
  if !endsField after.peek? then throw .malformed
  return (token, after)

/-! ## Directives -/

def number (c : Cursor) : Except Trouble (Nat × Cursor) :=
  match c.span Text.isAsciiDigit with
  | ([], _) => .error .malformed
  | (digits, after) => .ok (digits.foldl (fun n d => 10 * n + (d.toNat - 48)) 0, after)

def readVersion (c : Cursor) : Except Trouble (Directive × Cursor) := do
  let (major, c) ← number c.skipBlanks
  if c.peek? != some '.' then throw .malformed
  let (_, c) ← number c.step
  if !endsField c.peek? then throw .malformed
  return (.version major, c)

def readHandle (c : Cursor) : Except Trouble (Directive × Cursor) := do
  let (handle, c) ← handle c.skipBlanks
  if c.peek? != some ' ' then throw .malformed
  let (start, c) ← suffix c.skipBlanks
  if !endsField c.peek? then throw .malformed
  return (.handle handle start, c)

def readDirective (c : Cursor) : Except Trouble (Token × Cursor) := do
  let (name, c) := c.step.span isNameChar
  if name.isEmpty then throw .malformed
  if !endsField c.peek? then throw .malformed
  let (read, c) ←
    if name = "YAML".toList then readVersion c
    else if name = "TAG".toList then readHandle c
    else pure (.other, c.skipWhile (!isBreak ·))
  let c := c.skipComment
  if !endsLine c.peek? then throw .malformed
  return (.directive read, c.lineBreak.2)

end Token

end ApiTypes.Yaml
