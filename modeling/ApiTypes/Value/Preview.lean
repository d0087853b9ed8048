/-
Previews of raw nodes inside error messages.

A preview is the node as JSON text in ASCII, with the entries of every mapping in the order of their keys: texts by code
point, numbers and truth values by size. Dates, which JSON lacks, are quoted literals. A node with a mapping whose keys
cannot be put in order, or are no keys in JSON, is shown as a literal instead. At most `limit` characters are shown.

Main statement: `length_preview_le`, a preview holds at most `limit + 3` characters.
-/
import ApiTypes.Json.Quoted
import ApiTypes.Value.Literal

namespace ApiTypes

open ApiTypes.Number

namespace Value

/-! ## Order of keys -/

/-- the place of a number on the line of rationals, as numerator over `2^shift`, or beyond either end -/
inductive Place where
  | below
  | at (num : Int) (shift : Nat)
  | above
  | nowhere

def place : Value → Place
  | bool b => .at (if b then 1 else 0) 0
  | int n => .at n 0
  | float x => match x.parts with
    | .finite s m q =>
      if 0 ≤ q then .at (Binary64.signed s (m * powerOfTwo q.toNat)) 0 else .at (Binary64.signed s m) (-q).toNat
    | .infinite s => if s then .below else .above
    | .notANumber => .nowhere
  | _ => .nowhere

def Place.le : Place → Place → Bool
  | below, _ => true
  | _, above => true
  | .at a p, .at b q => a * Int.ofNat (Number.powerOfTwo q) ≤ b * Int.ofNat (Number.powerOfTwo p)
  | _, _ => false

def isNumber : Value → Bool
  | bool _ => true
  | int _ => true
  | float _ => true
  | _ => false

/-- the order of keys of one kind: texts by code point, numbers by size -/
def keyLe : Value → Value → Bool
  | str s, str t => decide (s ≤ t)
  | v, w => v.place.le w.place

/-- keys that can be put in order: all texts, all numbers, or one alone -/
def sortable (keys : List Value) : Bool :=
  keys.all (fun k => k.text?.isSome) || keys.all isNumber || keys.length ≤ 1

/-! ## JSON text -/

/-- the text of a number; what is not finite is named as in the literals of the JSON reader -/
def numberText (x : Binary64) : String :=
  match x.parts with
  | .infinite s => if s then "-Infinity" else "Infinity"
  | .notANumber => "NaN"
  | _ => x.literal

/-- the text that stands for a key -/
def keyText? : Value → Option String
  | null => some "null"
  | bool b => some (if b then "true" else "false")
  | int n => some (toString n)
  | float x => some (numberText x)
  | str s => some s
  | _ => none

def quoteAscii (s : String) : String := Json.quote Json.asciiEscape s

def entryText (entry : Value × String × String) : String :=
  quoteAscii entry.2.1 ++ ": " ++ entry.2.2

mutual

def jsonText? : Value → Option String
  | null => some "null"
  | bool b => some (if b then "true" else "false")
  | int n => some (toString n)
  | float x => some (numberText x)
  | str s => some (quoteAscii s)
  | date d => some (quoteAscii (Calendar.dateLiteral d))
  | moment m => some (quoteAscii (Calendar.momentLiteral m))
  | list items => (itemTexts? items).map fun texts => "[" ++ ", ".intercalate texts ++ "]"
  | tuple items => (itemTexts? items).map fun texts => "[" ++ ", ".intercalate texts ++ "]"
  | map entries =>
    if sortable (entries.map (·.1)) then
      (entryTexts? entries).map fun texts =>
        "\x7b" ++ ", ".intercalate ((texts.mergeSort fun a b => keyLe a.1 b.1).map entryText) ++ "\x7d"
    else none

def itemTexts? : List Value → Option (List String)
  | [] => some []
  | v :: rest => match jsonText? v, itemTexts? rest with
    | some text, some texts => some (text :: texts)
    | _, _ => none

/-- each key with the text that stands for it and the text of its value -/
def entryTexts? : List (Value × Value) → Option (List (Value × String × String))
  | [] => some []
  | (k, v) :: rest => match keyText? k, jsonText? v, entryTexts? rest with
    | some key, some text, some texts => some ((k, key, text) :: texts)
    | _, _, _ => none

end

/-- the characters of a node that a preview shows at most -/
def limit : Nat := 300

def fullPreview (node : Value) : String := node.jsonText?.getD node.literal

/-- cut a text after `limit` characters, marking the cut by three dots -/
def shorten (text : String) : String :=
  if text.length > limit then String.ofList (text.toList.take limit) ++ "..." else text

def preview (node : Value) : String := shorten node.fullPreview

theorem length_shorten_le (text : String) : (shorten text).length ≤ limit + 3 := by
  unfold shorten
  split
  · rw [String.length_append, String.length_ofList, List.length_take]
    have : "...".length = 3 := by decide
    omega
  · omega

theorem length_preview_le (node : Value) : node.preview.length ≤ limit + 3 :=
  length_shorten_le _

end Value

end ApiTypes
