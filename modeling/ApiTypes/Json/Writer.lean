/-
Writing values as JSON, compact or indented by two blanks.

Texts are written in the plain form, numbers with the fewest digits, and what JSON lacks in its nearest form:
sequences of every kind as arrays, dates in calendar form, numbers that are not finite as null, keys that are no texts
by their text. An empty container is written the same way in both layouts.
-/
import ApiTypes.Json.Quoted
import ApiTypes.Number.Decimal
import ApiTypes.Value.Literal

namespace ApiTypes.Json

open ApiTypes.Number

def quoteText (s : String) : String := quote plainEscape s

def floatText (x : Binary64) : String :=
  match x.parts with
  | .finite negative mantissa binary => Layout.record.finiteText negative mantissa binary
  | _ => "null"

/-- the text that stands for a key: the items of a tuple are joined by commas -/
def keyText : Value → String
  | .null => "None"
  | .bool b => if b then "true" else "false"
  | .int n => toString n
  | .float x => x.literal
  | .str s => s
  | .date d => Calendar.dateText d
  | .moment m => Calendar.recordText m
  | .tuple items => ",".intercalate (keyTexts items)
  | other => other.literal
where
  keyTexts : List Value → List String
    | [] => []
    | v :: rest => keyText v :: keyTexts rest

/-- the text of a value that holds no others -/
def scalarText : Value → String
  | .null => "null"
  | .bool b => if b then "true" else "false"
  | .int n => toString n
  | .float x => floatText x
  | .str s => quoteText s
  | .date d => quoteText (Calendar.dateText d)
  | .moment m => quoteText (Calendar.recordText m)
  | _ => "null"

mutual

/-- the value without any blanks -/
def compact : Value → String
  | .list items => "[" ++ ",".intercalate (compactItems items) ++ "]"
  | .tuple items => "[" ++ ",".intercalate (compactItems items) ++ "]"
  | .map entries => "\x7b" ++ ",".intercalate (compactMembers entries) ++ "\x7d"
  | scalar => scalarText scalar

def compactItems : List Value → List String
  | [] => []
  | v :: rest => compact v :: compactItems rest

def compactMembers : List (Value × Value) → List String
  | [] => []
  | (k, v) :: rest => (quoteText (keyText k) ++ ":" ++ compact v) :: compactMembers rest

end

/-- a line end and the indentation of a depth -/
def newLine (depth : Nat) : String := String.ofList ('\n' :: List.replicate (2 * depth) ' ')

/-- a container over several lines; an empty one is its two brackets -/
def bracketed (opening closing : String) (depth : Nat) (parts : List String) : String :=
  if parts.isEmpty then opening ++ closing
  else opening ++ newLine (depth + 1) ++ ("," ++ newLine (depth + 1)).intercalate parts ++ newLine depth ++ closing

mutual

/-- the value with each item and member on a line of its own -/
def indented (depth : Nat) : Value → String
  | .list items => bracketed "[" "]" depth (indentedItems (depth + 1) items)
  | .tuple items => bracketed "[" "]" depth (indentedItems (depth + 1) items)
  | .map entries => bracketed "\x7b" "\x7d" depth (indentedMembers (depth + 1) entries)
  | scalar => scalarText scalar

def indentedItems (depth : Nat) : List Value → List String
  | [] => []
  | v :: rest => indented depth v :: indentedItems depth rest

def indentedMembers (depth : Nat) : List (Value × Value) → List String
  | [] => []
  | (k, v) :: rest => (quoteText (keyText k) ++ ": " ++ indented depth v) :: indentedMembers depth rest

end

end ApiTypes.Json
