/-
Operations: the callable endpoints of an API.

Main statement: `isSupported_iff`, an operation is supported unless its request body has no model.
-/
import ApiTypes.Component.Basic

namespace ApiTypes

inductive Method where
  | get
  | post
  deriving DecidableEq, Repr

def Method.name : Method → String
  | get => "GET"
  | post => "POST"

/-- a parameter in the path, query, header or cookie -/
structure Parameter where
  name : String
  location : String
  /-- the plain type name -/
  type : String
  sample : Value := .str ""
  required : Bool := false
  description : String := ""
  deriving Repr

/-- the request body of an operation -/
inductive RequestBody where
  /-- a JSON body; `component` names its schema where the body refers to one -/
  | json (required : Bool) (contentType : String) (schema : Component) (component : Option String)
  /-- a body whose encoding has no model -/
  | unsupported (contentType : String)
  deriving Repr

def RequestBody.contentType : RequestBody → String
  | json _ contentType _ _ => contentType
  | unsupported contentType => contentType

def RequestBody.schema? : RequestBody → Option Component
  | json _ _ schema _ => some schema
  | unsupported _ => none

structure Operation where
  /-- the path, such as `/models/` and a parameter -/
  endpoint : String
  /-- the operation id in snake case -/
  name : String
  operationId : String
  summary : String
  deprecated : Bool := false
  method : Method
  arguments : List Parameter := []
  requestBody : Option RequestBody := none
  responseType : Node
  group : String
  deriving Repr

namespace Operation

/-- does the request body, if there is one, have a model? -/
def isSupported (op : Operation) : Bool :=
  match op.requestBody with
  | some (.unsupported _) => false
  | _ => true

/-- the schema of a JSON body -/
def bodySchema? (op : Operation) : Option Component := op.requestBody.bind RequestBody.schema?

theorem isSupported_iff (op : Operation) :
    op.isSupported = true ↔ ∀ contentType, op.requestBody ≠ some (.unsupported contentType) := by
  unfold isSupported
  split <;> simp_all

end Operation

end ApiTypes
