/-
The components module: a typed dictionary for each component.

All component names are taken into use before the first block is made, so that no hoisted record takes one of them. A
component's block follows the blocks of the records inside it.
-/
import ApiTypes.Documentation
import ApiTypes.Module.Page
import ApiTypes.Module.Sheet

namespace ApiTypes.Module

namespace Sheet

/-- the text of a module with these blocks -/
def text (s : Sheet) : String :=
  page (importLine "typing" ["Any", "NotRequired", "TypedDict"] :: s.blocks.map fun b => "\n" ++ b.text ++ "\n")

/-- add the blocks of components in order; what their types cannot express is reported -/
def addAll (s : Sheet) : List (String × Component) → Noted Sheet
  | [] => return s
  | (name, schema) :: rest => do
    let declaration ← ComponentDeclaration.ofComponent name schema
    addAll (addComponent declaration s).2 rest

/-- the sheet of a documentation's components -/
def ofComponents (components : List (String × Component)) : Noted Sheet :=
  addAll (reserve (components.map (·.1)) {}) components

end Sheet

/-- the text of the components module -/
def componentsText (documentation : Documentation) : Noted String := do
  return (← Sheet.ofComponents documentation.components).text

end ApiTypes.Module
