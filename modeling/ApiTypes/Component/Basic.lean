/-
Components: named object schemas, as their properties.

The properties of a component are kept in two groups, those that it requires and the others, each in document order. A
registry holds the components of a document under their keys, which need not be texts.
-/
import ApiTypes.Schema.Node

namespace ApiTypes

structure Property where
  name : String
  type : Node
  description : String := ""
  /-- the example that the document gives -/
  sample : Value := .str ""
  required : Bool := false
  deriving Repr

structure Component where
  required : List Property := []
  optional : List Property := []
  deriving Repr

namespace Component

def properties (c : Component) : List Property := c.required ++ c.optional

/-- the components that the properties refer to -/
def references (c : Component) : List String := c.properties.flatMap fun p => p.type.references

end Component

/-- the components of a document, in its order -/
abbrev Registry := List (Value × Component)

namespace Registry

/-- the component under a text key -/
def find? (registry : Registry) (name : String) : Option Component :=
  match registry with
  | [] => none
  | (k, c) :: rest => if k.isText name then some c else find? rest name

theorem find?_mem {registry : Registry} {name : String} {c : Component} (h : find? registry name = some c) :
    (Value.str name, c) ∈ registry := by
  induction registry with
  | nil => simp [find?] at h
  | cons e rest ih =>
    obtain ⟨k, d⟩ := e
    simp only [find?] at h
    split at h
    · rename_i hk
      cases h
      cases k <;> simp_all [Value.isText]
    · exact List.mem_cons_of_mem _ (ih h)

end Registry

end ApiTypes
