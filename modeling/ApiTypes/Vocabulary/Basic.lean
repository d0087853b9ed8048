/-
Vocabularies: the closed set of field names that a description declares.

A vocabulary is made once, from a documentation or from any names, and never grows. A name that is no text is held under
itself and shown by its text.

Main statement: `contains_ofTexts`, a vocabulary made from texts holds exactly them.
-/
import ApiTypes.Documentation
import ApiTypes.Text.Order

namespace ApiTypes

namespace Node

mutual

/-- the field names of the objects in a node -/
def fieldNames : Node → List String
  | scalar _ => []
  | array element => fieldNames element
  | object fields => namesOfFields fields
  | component _ => []
  | oneOf variants => namesOfVariants variants

def namesOfFields : List (String × Node) → List String
  | [] => []
  | (name, node) :: rest => name :: (fieldNames node ++ namesOfFields rest)

def namesOfVariants : List Variant → List String
  | [] => []
  | .mk node _ _ :: rest => fieldNames node ++ namesOfVariants rest

end

end Node

/-- the names of the properties and of the fields inside them -/
def Component.fieldNames (c : Component) : List String := c.properties.flatMap fun p => p.name :: p.type.fieldNames

/-- the names of the arguments, and the field names of the body -/
def Operation.fieldNames (op : Operation) : List String :=
  op.arguments.map (·.name) ++
    match op.bodySchema? with
    | some schema => schema.fieldNames
    | none => []

def Documentation.fieldNames (d : Documentation) : List String :=
  d.components.flatMap (fun c => c.2.fieldNames) ++ d.operations.flatMap Operation.fieldNames

/-- declared names, each with its text -/
structure Vocabulary where
  entries : List (Value × String)
  deriving Repr

namespace Vocabulary

/-- hold a name; of two equal names the first place and the last text count -/
def hold (entries : List (Value × String)) (name : Value) : List (Value × String) :=
  match entries with
  | [] => [(name, name.display)]
  | (held, text) :: rest => if held.same name then (held, name.display) :: rest else (held, text) :: hold rest name

def ofNames (names : List Value) : Vocabulary := ⟨names.foldl hold []⟩

def ofTexts (names : List String) : Vocabulary := ⟨(Text.gather [] names).map fun name => (.str name, name)⟩

/-- the names that a value lists: its items, its keys, or its characters -/
def namesOf : Value → Except Fault (List Value)
  | .list items => .ok items
  | .tuple items => .ok items
  | .map entries => .ok (entries.map (·.1))
  | .str s => .ok (s.toList.map fun c => .str (String.singleton c))
  | other => .error (.notIterable other.type)

/-- a vocabulary of the names that a value lists; a list or mapping is no name -/
def ofValue (raw : Value) : Except Fault Vocabulary := do
  let names ← namesOf raw
  match names.findSome? Value.keyFault with
  | some type => throw (.badKey type)
  | none => return ofNames names

def ofDocumentation (d : Documentation) : Vocabulary := ofTexts d.fieldNames

def size (v : Vocabulary) : Nat := v.entries.length

/-- the texts of the names, in order -/
def texts (v : Vocabulary) : List String := Text.sorted (v.entries.map (·.2))

/-- the text under which a name is held -/
def find? (v : Vocabulary) (name : Value) : Option String := (v.entries.find? fun e => e.1.same name).map (·.2)

def contains (v : Vocabulary) (name : String) : Bool := (v.find? (.str name)).isSome

/-- the text under which any value is held; a list or mapping cannot be looked up -/
def lookup (v : Vocabulary) (name : Value) : Except Fault (Option String) :=
  match name.keyFault with
  | some type => .error (.badKey type)
  | none => .ok (v.find? name)

theorem contains_ofTexts (names : List String) (name : String) :
    (ofTexts names).contains name = true ↔ name ∈ names := by
  simp [contains, find?, ofTexts, List.find?_map, Function.comp_def, Entries.same_str, Text.mem_gather]

end Vocabulary

end ApiTypes
