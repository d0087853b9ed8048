/-
Operations from path entries.

A path entry is handled as one method: post, delete or get, whichever comes first in this order. Only get and post
have a model, and only with a group, an operation id, a summary and responses; every other entry is skipped with a
notice.
-/
import ApiTypes.Component.Build
import ApiTypes.Operation.Basic
import ApiTypes.Text.Words

namespace ApiTypes

/-! ## Method -/

/-- the method that a path entry is handled as -/
inductive MethodTag where
  | post
  | delete
  | get
  | other
  deriving DecidableEq, Repr

def MethodTag.name : MethodTag → String
  | post => "post"
  | delete => "delete"
  | get => "get"
  | other => "other"

/-- the method in capitals -/
def MethodTag.label : MethodTag → String
  | post => "POST"
  | delete => "DELETE"
  | get => "GET"
  | other => "OTHER"

def MethodTag.method? : MethodTag → Option Method
  | post => some .post
  | get => some .get
  | _ => none

def methodTag (entry : Value) : MethodTag :=
  if entry.hasField "post" then .post
  else if entry.hasField "delete" then .delete
  else if entry.hasField "get" then .get
  else .other

/-! ## Parameters -/

namespace Parameter

/-- a parameter record from raw values -/
def ofValues (name location : Value) (type : String) (sample : Value) (required : Bool) (description : Value) :
    Except Fault Parameter :=
  match name, location, description with
  | .str name, .str location, .str description => .ok ⟨name, location, type, sample, required, description⟩
  | _, _, _ =>
    .error (.invalid .parameter
      (Property.textIssue "name" name ++ Property.textIssue "location" location ++
        Property.textIssue "description" description))

/-- does the field hold a value that counts as given? -/
def isGiven (raw : Value) (field : String) : Bool :=
  match raw.field? field with
  | some v => v.isGiven
  | none => false

def ofRaw (location : Location) (raw : Value) : Except Fault Parameter :=
  match raw.field? "name", raw.field? "in", raw.field? "schema" with
  | some name, some place, some schema =>
    match schema.textField? "type" with
    | none => .error (.malformed .untypedParameter raw location)
    | some type =>
      ofValues name place type ((schema.field? "example").getD (.str "")) (isGiven raw "required")
        (Property.descriptionOf raw)
  | _, _, _ => .error (.malformed .incompleteParameter raw location)

/-- the parameters of a list; `index` counts those before -/
def listOfRaw (location : Location) (index : Nat) : List Value → Except Fault (List Parameter)
  | [] => .ok []
  | raw :: rest => do
    let parameter ← ofRaw (location.down [.word "parameters", .index index]) raw
    return parameter :: (← listOfRaw location (index + 1) rest)

end Parameter

/-! ## Request bodies -/

/-- the entries under a field, where it holds a mapping -/
def Value.mapField? (raw : Value) (name : String) : Option Entries := (raw.field? name).bind Value.entries?

namespace RequestBody

/-- the JSON body with this schema: a component of the registry, or an inline object schema -/
def schemaOfRaw (registry : Registry) (settings : Settings) (location : Location) (schema : Value) :
    Run (Component × Option String) :=
  match schema.textField? "$ref" with
  | some ref =>
    let component := settings.stripRef ref
    match registry.find? component with
    | some found => return (found, some component)
    | none => throw (.unresolved component schema location)
  | none => do
    if schema.fieldAmong "type" ["object"] then
      return (← Component.ofRaw settings (.str "") schema, none)
    else throw (.malformed .untypedBody schema location)

/-- the body whose content is `content` -/
def ofContent (registry : Registry) (settings : Settings) (location : Location) (raw : Value) (content : Entries)
    (first : Value) : Run RequestBody := do
  match content.find? settings.jsonContentType with
  | none =>
    match first with
    | .str contentType => return .unsupported contentType
    | _ => throw (.invalid .unsupportedBody [⟨["content_type"], .notText⟩])
  | some media =>
    let place := location.down [.word "content", .word settings.jsonContentType, .word "schema"]
    match media.field? "schema" with
    | some (.map entries) =>
      let (schema, component) ← schemaOfRaw registry settings place (.map entries)
      return .json (Parameter.isGiven raw "required") settings.jsonContentType schema component
    | _ => throw (.malformed .bodyWithoutSchema raw place)

/-- a request body against the finished registry; null stands for none -/
def ofRaw (registry : Registry) (settings : Settings) (location : Location) (raw : Value) : Run (Option RequestBody) :=
  match raw with
  | .null => return none
  | raw =>
    match raw.mapField? "content" with
    | some ((first, media) :: rest) =>
      some <$> ofContent registry settings location raw ((first, media) :: rest) first
    | _ => throw (.malformed .bodyWithoutContent raw location)

end RequestBody

/-! ## Responses -/

namespace Response

/-- the success response: the configured status, or else the first that starts with a two -/
def success? (settings : Settings) (responses : Entries) : Option (Value × Value) :=
  match List.find? (fun r => r.1.display == settings.successStatus) responses with
  | some found => some found
  | none => List.find? (fun r => r.1.display.toList.head? == some '2') responses

/-- the type of a response: a component, or a plain type name -/
def node? (settings : Settings) (schema : Value) : Option Node :=
  match schema.textField? "$ref", schema.textField? "type" with
  | some ref, _ => some (.component (settings.stripRef ref))
  | none, some type => some (.scalar type)
  | none, none => none

/-- the response type, from the first content entry of the success response -/
def typeOf (settings : Settings) (location : Location) (responses : Value) : Except Fault Node :=
  match responses with
  | .map entries =>
    match success? settings entries with
    | none => .error (.malformed .noSuccess responses location)
    | some (status, response) =>
      match response.mapField? "content" with
      | some ((contentType, media) :: _) =>
        let schema := (media.field? "schema").getD .null
        match node? settings schema with
        | some node => .ok node
        | none =>
          .error (.malformed .untypedResponse schema
            (location.down [.key status, .word "content", .key contentType, .word "schema"]))
      | _ => .error (.malformed .successWithoutContent response (location.down [.key status]))
  | _ => .error (.malformed .responsesNotMapping responses location)

end Response

/-! ## Operations -/

/-- the group of an operation: its extension's field, or its first tag where tags count -/
def groupOf (settings : Settings) (operation : Value) : Value :=
  match (operation.field? settings.groupExtension).bind (·.field? settings.groupField) with
  | some group => group
  | none =>
    match operation.field? "tags" with
    | some (.list (tag :: _)) => if settings.tagGroups then tag else .null
    | _ => .null

/-- what an operation needs beside its group -/
def requiredKeys : List String := ["operationId", "summary", "responses"]

namespace Operation

/-- an operation record from raw values; the operation id is a text already -/
def ofValues (endpoint : Value) (operationId : String) (summary : Value) (deprecated : Bool) (method : Method)
    (arguments : List Parameter) (requestBody : Option RequestBody) (responseType : Node) (group : Value) :
    Except Fault Operation :=
  match endpoint, summary, group with
  | .str endpoint, .str summary, .str group =>
    .ok ⟨endpoint, Text.snakeCase operationId, operationId, summary, deprecated, method, arguments, requestBody,
      responseType, group⟩
  | _, _, _ =>
    .error (.invalid .operation
      (Property.textIssue "endpoint" endpoint ++ Property.textIssue "summary" summary ++
        Property.textIssue "group" group))

/-- the parameters of an operation: the list under `parameters`, or none -/
def argumentsOf (location : Location) (operation : Value) : Except Fault (List Parameter) :=
  match operation.field? "parameters" with
  | none => .ok []
  | some given =>
    if !given.isGiven then .ok []
    else match given with
    | .list items => Parameter.listOfRaw location 0 items
    | other => .error (.malformed .parametersNotList other (location.down [.word "parameters"]))

def operationIdOf (raw : Value) : Except Fault String :=
  match raw with
  | .str id => .ok id
  | other => .error (.operationId other.type)

/-- the operation under a method that has a model, with all the metadata that it needs -/
def ofComplete (registry : Registry) (settings : Settings) (path : Value) (tag : MethodTag) (method : Method)
    (operation group : Value) : Run Operation := do
  let location : Location := ⟨"#", [.word "paths", .key path, .word tag.name]⟩
  let arguments ← Run.ofExcept (argumentsOf location operation)
  let requestBody ← if method = .post then
      RequestBody.ofRaw registry settings (location.down [.word "requestBody"])
        ((operation.field? "requestBody").getD .null)
    else pure none
  let operationId ← Run.ofExcept (operationIdOf ((operation.field? "operationId").getD .null))
  let responseType ← Run.ofExcept
    (Response.typeOf settings (location.down [.word "responses"]) ((operation.field? "responses").getD .null))
  Run.ofExcept (ofValues path operationId ((operation.field? "summary").getD .null)
    (Parameter.isGiven operation "deprecated") method arguments requestBody responseType group)

/-- the operation of a path entry, or nothing where the entry is not represented -/
def ofRaw (registry : Registry) (settings : Settings) (path entry : Value) : Run (Option Operation) := do
  let tag := methodTag entry
  match tag.method? with
  | none => do
    Run.report (.skippedMethod tag.label path)
    return none
  | some method =>
    let operation := (entry.field? tag.name).getD .null
    let group := groupOf settings operation
    if group.isNull || !requiredKeys.all operation.hasField then
      Run.report (.skippedMetadata tag.label path)
      return none
    else some <$> ofComplete registry settings path tag method operation group

end Operation

end ApiTypes
