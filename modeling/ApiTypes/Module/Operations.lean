/-
The operations module: a stub for each operation, below one import of the component classes that their signatures
mention.

Main statement: `mem_importsOf`, exactly the classes that some stub mentions are imported.
-/
import ApiTypes.Module.Stub
import ApiTypes.Text.Order

namespace ApiTypes.Module

def stubsOf : List Operation → Noted (List Stub)
  | [] => return []
  | op :: rest => do
    let stub ← Stub.ofOperation op
    return stub :: (← stubsOf rest)

/-- the classes that some stub mentions -/
def importsOf (stubs : List Stub) : List String := Text.sorted (Text.gather [] (stubs.flatMap Stub.references))

def operationsPage (stubs : List Stub) : String :=
  let imports := importsOf stubs
  page ([importLine "typing" ["Any"]] ++ (if imports.isEmpty then [] else [importLine ".components" imports]) ++
    stubs.map fun s => "\n" ++ s.text)

/-- the text of the operations module -/
def operationsText (documentation : Documentation) : Noted String := do
  return operationsPage (← stubsOf documentation.operations)

theorem mem_importsOf {stubs : List Stub} {name : String} :
    name ∈ importsOf stubs ↔ ∃ s ∈ stubs, name ∈ s.references := by
  simp [importsOf, Text.mem_sorted, Text.mem_gather]

end ApiTypes.Module
