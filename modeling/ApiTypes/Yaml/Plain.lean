/-
Plain scalars: texts without quotes.

A plain scalar ends at a colon before a blank, at a comment, and, inside brackets, at a bracket, comma or question mark.
It goes on over line ends while the lines are indented enough; line ends are folded as in quoted scalars. Tabs end it.
-/
import ApiTypes.Yaml.Quoted

namespace ApiTypes.Yaml.Plain

/-- may a plain scalar go on with the first of these characters? -/
def continues (flow : Bool) : List Char → Bool
  | [] => false
  | x :: rest =>
    !(x == ' ' || x == '\t' || isBreak x) &&
      !(x == ':' && (endsWord rest.head? || (flow && ",[]\x7b\x7d".toList.contains (rest.headD ' ')))) &&
      !(flow && ",?[]\x7b\x7d".toList.contains x)

/-- the number of characters in front that belong to one run -/
def runLength (flow : Bool) : List Char → Nat
  | [] => 0
  | x :: rest => if continues flow (x :: rest) then runLength flow rest + 1 else 0

/-- may a plain scalar start here? -/
def starts (flow : Bool) : List Char → Bool
  | [] => false
  | x :: rest =>
    !(x == ' ' || x == '\t' || isBreak x || "-?:,[]\x7b\x7d#&*!|>'\"%@\x60".toList.contains x) ||
      (!endsWord rest.head? && (x == '-' || (!flow && (x == '?' || x == ':'))))

/-- the blanks between two runs -/
structure Gap where
  /-- how they are read; nothing if the scalar must end -/
  text : List Char
  /-- is there a line end among them? -/
  lines : Bool
  after : Cursor

/-- line ends after the first one; `none` where a document ends -/
def laterBreaks : (fuel : Nat) → (found : List Char) → Cursor → Option (List Char) × Cursor
  | 0, found, c => (some found, c)
  | fuel + 1, found, c =>
    let c := c.skipBlanks
    match c.lineBreak with
    | ([], _) => (some found, c)
    | (first, after) => if after.atSeparator then (none, after) else laterBreaks fuel (found ++ first) after

def gap (c : Cursor) : Gap :=
  let (white, c) := c.span (· == ' ')
  match c.lineBreak with
  | ([], _) => ⟨white, false, c⟩
  | (first, after) =>
    if after.atSeparator then ⟨[], true, after⟩
    else
      match laterBreaks c.bound [] after with
      | (some others, after) => ⟨Quoted.foldBreak first others, true, after⟩
      | (none, after) => ⟨[], true, after⟩

/-- the scalar from a run on: `text` was read before, `between` are the blanks in front of the run -/
def runs (flow : Bool) (indent : Int) : (fuel : Nat) → (text : List Char) → (between : Gap) → List Char × Gap
  | 0, text, between => (text, between)
  | fuel + 1, text, between =>
    let c := between.after
    if c.peek? == some '#' then (text, between)
    else
      match runLength flow c.rest with
      | 0 => (text, between)
      | n =>
        let text := text ++ between.text ++ c.rest.take n
        let next := gap (c.skip n)
        if next.text.isEmpty || next.after.peek? == some '#' || (!flow && next.after.column < indent) then (text, next)
        else runs flow indent fuel text next

/-- the scalar in front, and the blanks behind it, where lines are indented by `indent` at least -/
def read (flow : Bool) (indent : Int) (c : Cursor) : List Char × Gap :=
  runs flow indent (c.bound + 1) [] ⟨[], false, c⟩

end ApiTypes.Yaml.Plain
