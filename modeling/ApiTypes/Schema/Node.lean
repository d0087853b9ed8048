/-
Schema nodes: the types that a description gives to its values, in normal form.

A node is a scalar type by name, an array, an inline object, a reference to a component, or one of several variants.

Main statement: `references`, the components that a node refers to, wherever they stand in it.
-/
import ApiTypes.Value.Basic

namespace ApiTypes

mutual

inductive Node where
  /-- a plain type name, kept as the document gives it -/
  | scalar (name : String)
  | array (element : Node)
  /-- an inline object; its fields keep the order of the document -/
  | object (fields : List (String × Node))
  | component (name : String)
  | oneOf (variants : List Variant)
  deriving Repr

inductive Variant where
  | mk (type : Node) (sample standard : Value)
  deriving Repr

end

instance : Inhabited Node := ⟨.scalar ""⟩

namespace Variant

def type : Variant → Node
  | mk type _ _ => type

/-- the example that the document gives -/
def sample : Variant → Value
  | mk _ sample _ => sample

/-- the default value that the document gives -/
def standard : Variant → Value
  | mk _ _ standard => standard

end Variant

namespace Node

mutual

/-- the components that a node refers to -/
def references : Node → List String
  | scalar _ => []
  | array element => references element
  | object fields => fieldReferences fields
  | component name => [name]
  | oneOf variants => variantReferences variants

def fieldReferences : List (String × Node) → List String
  | [] => []
  | (_, node) :: rest => references node ++ fieldReferences rest

def variantReferences : List Variant → List String
  | [] => []
  | .mk node _ _ :: rest => references node ++ variantReferences rest

end

theorem fieldReferences_eq (fields : List (String × Node)) :
    fieldReferences fields = fields.flatMap fun f => references f.2 := by
  induction fields with
  | nil => simp [fieldReferences]
  | cons f rest ih =>
    obtain ⟨name, node⟩ := f
    simp [fieldReferences, ih]

end Node

end ApiTypes
