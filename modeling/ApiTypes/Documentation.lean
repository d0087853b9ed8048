/-
Documentations: everything that the generator knows about one API description.

Components are built first and operations against the finished registry, so that a request body only ever looks its
component up. Operations whose request body has no model are dropped with a notice.

Main statement: `keyed_map`, a registry whose keys are texts is kept as it is.
-/
import ApiTypes.Operation.Build

namespace ApiTypes

structure Documentation where
  components : List (String × Component) := []
  operations : List Operation := []
  deriving Repr

/-- is the tree a description of an API? -/
def isDescription (data : Value) : Bool := data.hasField "openapi" || data.hasField "swagger"

namespace Registry

/-- the components of the schemas, in document order -/
def ofSchemas (settings : Settings) : Entries → Run Registry
  | [] => return []
  | (name, raw) :: rest => do
    let component ← Component.ofRaw settings name raw
    return (name, component) :: (← ofSchemas settings rest)

/-- the field of a document's own mapping, an empty mapping where it holds nothing -/
def sectionOf (raw : Value) (name : String) : Run Value :=
  match raw with
  | .map _ =>
    let given := (raw.field? name).getD .null
    return if given.isGiven then given else .map []
  | other => throw (.noEntries other.type)

/-- the components of a document -/
def ofDocument (settings : Settings) (document : Value) : Run Registry := do
  match ← sectionOf (← sectionOf document "components") "schemas" with
  | .map schemas => do
    let registry ← ofSchemas settings schemas
    Run.report (.builtComponents registry.length)
    return registry
  | other => throw (.malformed .schemasNotMapping other ⟨"#", [.word "components", .word "schemas"]⟩)

/-- the registry under text keys; every other key is an issue -/
def keyed (registry : Registry) : Except Fault (List (String × Component)) :=
  let issues := registry.filterMap fun e => match e.1 with
    | .str _ => none
    | key => some ⟨["components", Record.keyStep key, "[key]"], Record.Complaint.notText⟩
  if issues.isEmpty then .ok (registry.filterMap fun e => e.1.text?.map (·, e.2))
  else .error (.invalid .documentation issues)

theorem keyed_map (components : List (String × Component)) :
    keyed (components.map fun c => (Value.str c.1, c.2)) = .ok components := by
  -- every key is a text, so no issue is found and every component kept
  simp only [keyed, List.filterMap_map, Function.comp_def, Value.text?, Option.map_some]
  simp

end Registry

namespace Documentation

/-- the operations of the path entries that are represented and supported, in document order -/
def operationsOf (registry : Registry) (settings : Settings) : Entries → Run (List Operation)
  | [] => return []
  | (path, entry) :: rest => do
    match ← Operation.ofRaw registry settings path entry with
    | none => operationsOf registry settings rest
    | some op =>
      match op.requestBody with
      | some (.unsupported contentType) => do
        Run.report (.droppedBody op.method.name path contentType)
        operationsOf registry settings rest
      | _ => return op :: (← operationsOf registry settings rest)

/-- the operations of a document, against a finished registry -/
def operationsOfDocument (registry : Registry) (settings : Settings) (document : Value) : Run (List Operation) := do
  match ← Registry.sectionOf document "paths" with
  | .map paths => operationsOf registry settings paths
  | other => throw (.malformed .pathsNotMapping other ⟨"#", [.word "paths"]⟩)

/-- the documentation of a raw document -/
def ofDocument (settings : Settings) (document : Value) : Run Documentation := do
  let registry ← Registry.ofDocument settings document
  let operations ← operationsOfDocument registry settings document
  Run.report (.parsed registry.length operations.length)
  return ⟨← Run.ofExcept registry.keyed, operations⟩

end Documentation

end ApiTypes
