/-
Faults: why a document, a description or a source text is refused.

A fault names its cause; `message` words it. Faults of a document's content carry the raw node and its place, and form
the class `isDocumentFault` that the command line reports without a trace.
-/
import ApiTypes.Files.Path
import ApiTypes.Json.Reader
import ApiTypes.Location
import ApiTypes.Record.Issue
import ApiTypes.Source.Fault
import ApiTypes.Text.Decoded
import ApiTypes.Value.Preview

namespace ApiTypes

/-- why a raw node is refused -/
inductive Refusal where
  | schemaNotMapping
  | refNotText
  | typeNotText
  | objectWithItems
  | arrayWithProperties
  | propertiesNotMapping
  | cannotNormalize (shape : String)
  | untypedProperty
  | propertyNotMapping
  | oneOfNotList
  | unrecognisedProperty
  | unnamedProperty
  | variantNotMapping
  | untypedVariant
  | componentNotMapping
  | componentNotObject
  | requiredNotList
  | incompleteParameter
  | untypedParameter
  | bodyWithoutContent
  | bodyWithoutSchema
  | untypedBody
  | responsesNotMapping
  | noSuccess
  | successWithoutContent
  | untypedResponse
  | parametersNotList
  | schemasNotMapping
  | pathsNotMapping
  deriving DecidableEq, Repr

def Refusal.message : Refusal → String
  | schemaNotMapping => "schema is not a mapping"
  | refNotText => "$ref is not a string"
  | typeNotText => "type is not a string"
  | objectWithItems => "object schema declares items"
  | arrayWithProperties => "array schema declares properties"
  | propertiesNotMapping => "properties is not a mapping"
  | cannotNormalize shape => "cannot normalize a " ++ shape ++ " schema here"
  | untypedProperty => "object property has neither type nor $ref"
  | propertyNotMapping => "property is not a mapping"
  | oneOfNotList => "oneOf is not a list"
  | unrecognisedProperty => "unrecognised property"
  | unnamedProperty => "property has no name"
  | variantNotMapping => "oneOf variant is not a mapping"
  | untypedVariant => "oneOf variant has neither type nor $ref"
  | componentNotMapping => "component is not a mapping"
  | componentNotObject => "component is not an object schema"
  | requiredNotList => "required is not a list"
  | incompleteParameter => "parameter needs name, in and schema"
  | untypedParameter => "parameter schema has no type"
  | bodyWithoutContent => "request body has no content"
  | bodyWithoutSchema => "request body has no schema"
  | untypedBody => "request body schema is neither $ref nor object"
  | responsesNotMapping => "responses is not a mapping"
  | noSuccess => "no success response"
  | successWithoutContent => "success response has no content"
  | untypedResponse => "unsupported response schema"
  | parametersNotList => "parameters is not a list"
  | schemasNotMapping => "components/schemas is not a mapping"
  | pathsNotMapping => "paths is not a mapping"

/-- why a file is no document -/
inductive DocumentCause where
  /-- neither notation reads it; the fault is that of the second -/
  | unreadable (fault : Json.Fault)
  | notDescription
  deriving DecidableEq, Repr

def DocumentCause.message : DocumentCause → String
  | unreadable fault => "neither YAML nor JSON (" ++ fault.message ++ ")"
  | notDescription => "not an OpenAPI document"

/-- why a scalar with an explicit tag cannot be read -/
inductive ScalarCause where
  | calendar (fault : CalendarFault)
  /-- digits that are none in this base -/
  | digits (base : Nat) (text : String)
  | float (text : String)
  | empty
  /-- no truth value is written like this -/
  | truth (text : String)
  | timestamp
  /-- no character has this code -/
  | codePoint (code : Nat)
  deriving DecidableEq, Repr

def ScalarCause.message : ScalarCause → String
  | calendar fault => fault.message
  | digits base text => "invalid literal for int() with base " ++ toString base ++ ": " ++ Text.quoted text
  | float text => "could not convert string to float: " ++ Text.quoted text
  | empty => "string index out of range"
  | truth text => Text.quoted text
  | timestamp => "'NoneType' object has no attribute 'groupdict'"
  | codePoint code =>
    if code < Number.powerOfTwo 31 then "chr() arg not in range(0x110000)"
    else "Python int too large to convert to C int"

inductive Fault where
  /-- a raw node is refused -/
  | malformed (reason : Refusal) (node : Value) (location : Location)
  /-- a reference names no component -/
  | unresolved (component : String) (node : Value) (location : Location)
  | document (file : String) (cause : DocumentCause)
  /-- a record cannot hold these values -/
  | invalid (kind : Record.Kind) (issues : List Record.Issue)
  /-- a list or mapping where a key is needed -/
  | badKey (type : ValueType)
  /-- an operation id that is no text -/
  | operationId (type : ValueType)
  /-- a value that has no entries to look up -/
  | noEntries (type : ValueType)
  | notIterable (type : ValueType)
  /-- the operation to render is not represented -/
  | absentOperation
  | source (fault : Source.Fault)
  | scalar (cause : ScalarCause)
  | encoding (fault : Text.EncodingFault)
  | disk (fault : FileFault)
  deriving Repr

/-- a message about a node: what is wrong, where, and the node -/
def report (message : String) (node : Value) (location : String) : String :=
  message ++ " at " ++ location ++ ": " ++ node.preview

namespace Fault

def unknownComponent (component : String) : String := "unknown component " ++ Text.quoted component

def message : Fault → String
  | malformed reason node location => report reason.message node location.text
  | unresolved component node location => report (unknownComponent component) node location.text
  | document file cause => file ++ ": " ++ cause.message
  | invalid kind issues => Record.issuesMessage kind issues
  | badKey type => "unhashable type: '" ++ type.name ++ "'"
  | operationId type => "expected string or bytes-like object, got '" ++ type.name ++ "'"
  | noEntries type => "'" ++ type.name ++ "' object has no attribute 'get'"
  | notIterable type => "'" ++ type.name ++ "' object is not iterable"
  | absentOperation => "'NoneType' object has no attribute 'arguments'"
  | source fault => fault.message
  | scalar cause => cause.message
  | encoding fault => fault.message
  | disk fault => fault.message

/-- the place that the fault reports, for faults of a document's content -/
def location? : Fault → Option Location
  | malformed _ _ location => some location
  | unresolved _ _ location => some location
  | _ => none

/-- faults of the document itself, as against values that a record cannot hold -/
def isDocumentFault : Fault → Bool
  | malformed .. => true
  | unresolved .. => true
  | document .. => true
  | _ => false

end Fault

end ApiTypes
