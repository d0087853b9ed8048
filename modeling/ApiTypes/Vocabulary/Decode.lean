/-
Decoded payloads: responses whose text keys are told apart by a vocabulary.

A key in the vocabulary is known, any other text is unknown and is reported, once for each payload. Keys that are no
texts are left as they are. Sequences of either kind become lists.
-/
import ApiTypes.Run
import ApiTypes.Vocabulary.Basic

namespace ApiTypes

inductive Key where
  /-- a declared name, by the text it is held under -/
  | known (text : String)
  | unknown (text : String)
  /-- a key that is no text -/
  | other (key : Value)
  deriving Repr

inductive Payload where
  | scalar (value : Value)
  | list (items : List Payload)
  | map (entries : List (Key × Payload))
  deriving Repr

instance : Inhabited Payload := ⟨.scalar .null⟩

def Key.toValue : Key → Value
  | known text => .str text
  | unknown text => .str text
  | other key => key

namespace Payload

mutual

/-- the payload without the marks on its keys -/
def toValue : Payload → Value
  | scalar value => value
  | list items => .list (itemValues items)
  | map entries => .map (entryValues entries)

def itemValues : List Payload → List Value
  | [] => []
  | p :: rest => toValue p :: itemValues rest

def entryValues : List (Key × Payload) → List (Value × Value)
  | [] => []
  | (key, p) :: rest => (key.toValue, toValue p) :: entryValues rest

end

end Payload

namespace Vocabulary

/-- the names that were reported so far -/
abbrev Reported := List String

/-- decoding keeps the names that it reported -/
abbrev Decoding (α : Type) := StateT Reported Noted α

/-- the key of a name; a name that is not declared is reported -/
def resolve (v : Vocabulary) (name : Value) : Run Key := do
  match ← Run.ofExcept (v.lookup name) with
  | some held => return .known held
  | none => do
    Run.report (.undeclaredField name)
    return .unknown name.display

/-- the key of a name; a name that is not declared is reported once -/
def resolveOnce (v : Vocabulary) (name : String) : Decoding Key := fun reported =>
  match v.find? (.str name) with
  | some held => return (.known held, reported)
  | none =>
    if reported.contains name then return (.unknown name, reported)
    else do
      Noted.report (.undeclaredField (.str name))
      return (.unknown name, reported ++ [name])

mutual

def decodeValue (v : Vocabulary) : Value → Decoding Payload
  | .list items => do return .list (← decodeItems v items)
  | .tuple items => do return .list (← decodeItems v items)
  | .map entries => do return .map (← decodeEntries v entries)
  | scalar => return .scalar scalar

def decodeItems (v : Vocabulary) : List Value → Decoding (List Payload)
  | [] => return []
  | item :: rest => do
    let payload ← decodeValue v item
    return payload :: (← decodeItems v rest)

/-- the entries of a mapping, a key before its value -/
def decodeEntries (v : Vocabulary) : List (Value × Value) → Decoding (List (Key × Payload))
  | [] => return []
  | (.str name, value) :: rest => do
    let key ← resolveOnce v name
    let payload ← decodeValue v value
    return (key, payload) :: (← decodeEntries v rest)
  | (key, value) :: rest => do
    let payload ← decodeValue v value
    return (.other key, payload) :: (← decodeEntries v rest)

end

/-- a response with its keys told apart; every undeclared name is reported once -/
def decode (v : Vocabulary) (response : Value) : Noted Payload := do
  return (← decodeValue v response []).1

end Vocabulary

end ApiTypes
