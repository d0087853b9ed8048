/-
Type declarations: what the generated language says about a schema node.

`ofNode` never fails. A scalar without a type of its own, and a value that is no node at all, become the type of
anything with a notice; a choice of variants becomes it without one.

Main statement: `ofNode_array`, every level of array gives one level of list.
-/
import ApiTypes.Component.Basic
import ApiTypes.Run

namespace ApiTypes

inductive Declaration where
  /-- a type of the language by name -/
  | builtin (name : String)
  | list (item : Declaration)
  /-- a record without a name, printed as a class of its own -/
  | record (fields : List (String × Declaration))
  | reference (component : String)
  /-- anything; the reason is kept -/
  | any (reason : String)
  deriving Repr

instance : Inhabited Declaration := ⟨.any ""⟩

/-- a declared field of a component -/
structure Field where
  name : String
  type : Declaration
  description : String := ""
  deriving Repr

/-- the declared fields of a component, in the groups of its schema -/
structure ComponentDeclaration where
  name : String
  required : List Field := []
  optional : List Field := []
  deriving Repr

namespace Declaration

/-- the types of the language that stand for scalar types -/
def builtinFor? : String → Option String
  | "number" => some "float"
  | "integer" => some "int"
  | "boolean" => some "bool"
  | "string" => some "str"
  | "array" => some "list"
  | "object" => some "dict"
  | _ => none

def ofScalar (name : String) : Noted Declaration :=
  match builtinFor? name with
  | some type => pure (.builtin type)
  | none => do
    Noted.report (.unmappedScalar name)
    return .any ("unknown scalar " ++ Text.quoted name)

mutual

/-- the declaration of a node -/
def ofNode : Node → Noted Declaration
  | .scalar name => ofScalar name
  | .array element => do return .list (← ofNode element)
  | .object fields => do return .record (← ofFields fields)
  | .component name => return .reference name
  | .oneOf _ => return .any "oneOf"

/-- the declarations of the fields of an object, in order -/
def ofFields : List (String × Node) → Noted (List (String × Declaration))
  | [] => return []
  | (name, node) :: rest => do
    let declaration ← ofNode node
    return (name, declaration) :: (← ofFields rest)

end

/-- the declaration of a value that is no node -/
def ofOther (value : Value) : Noted Declaration := do
  Noted.report (.unhandledNode value)
  return .any ("unhandled " ++ value.type.shortName)

theorem ofNode_array (element : Node) : (ofNode (.array element)).value = .list (ofNode element).value := by
  simp [ofNode]

mutual

/-- the components that a declaration refers to, records included -/
def references : Declaration → List String
  | builtin _ => []
  | list item => references item
  | record fields => fieldReferences fields
  | reference component => [component]
  | any _ => []

def fieldReferences : List (String × Declaration) → List String
  | [] => []
  | (_, declaration) :: rest => references declaration ++ fieldReferences rest

end

end Declaration

namespace Field

def ofProperty (p : Property) : Noted Field := do
  return ⟨p.name, ← Declaration.ofNode p.type, p.description⟩

def ofProperties : List Property → Noted (List Field)
  | [] => return []
  | p :: rest => do
    let field ← ofProperty p
    return field :: (← ofProperties rest)

end Field

namespace ComponentDeclaration

def ofComponent (name : String) (schema : Component) : Noted ComponentDeclaration := do
  let required ← Field.ofProperties schema.required
  return ⟨name, required, ← Field.ofProperties schema.optional⟩

end ComponentDeclaration

end ApiTypes
