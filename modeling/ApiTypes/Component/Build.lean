/-
Components from raw schemas.

Each property of a component is given its key as name and the component's judgement whether it is required; whatever the
raw property says under these two names is overruled. `PropertyShape.of` then decides how its type is read.

Main statement: `ofProperties_perm`, the two groups of a component hold the properties that it is made of.
-/
import ApiTypes.Component.Basic
import ApiTypes.Run
import ApiTypes.Schema.Normalize

namespace ApiTypes

inductive PropertyShape where
  /-- one of several variants -/
  | oneOf
  /-- an array or object, read as a schema of its own -/
  | composite
  | reference
  | scalar
  deriving DecidableEq, Repr

def PropertyShape.name : PropertyShape → String
  | oneOf => "oneOf"
  | composite => "composite"
  | reference => "reference"
  | scalar => "scalar"

/-- the text under a field, if there is one -/
def Value.textField? (raw : Value) (name : String) : Option String := (raw.field? name).bind Value.text?

/-- does the field hold one of these texts? -/
def Value.fieldAmong (raw : Value) (name : String) (texts : List String) : Bool :=
  match raw.textField? name with
  | some text => texts.contains text
  | none => false

def propertyShapeOf (raw : Value) : Except Refusal PropertyShape :=
  if !raw.isMap then .error .propertyNotMapping
  else match raw.field? "oneOf" with
  | some (.list _) => .ok .oneOf
  | some _ => .error .oneOfNotList
  | none =>
    if raw.fieldAmong "type" ["array", "object"] then .ok .composite
    else if (raw.textField? "$ref").isSome then .ok .reference
    else if (raw.textField? "type").isSome && raw.hasField "name" then .ok .scalar
    else .error .unrecognisedProperty

/-- the shape of the raw property at `location` -/
def PropertyShape.of (raw : Value) (location : Location) : Except Fault PropertyShape :=
  match propertyShapeOf raw with
  | .ok shape => .ok shape
  | .error reason => .error (.malformed reason raw location)

namespace Property

/-- one variant of a property: a type by name or a reference, with its example and default -/
def variantOf (settings : Settings) (location : Location) (raw : Value) : Except Fault Variant :=
  let sample := (raw.field? "example").getD (.str "")
  let standard := (raw.field? "default").getD .null
  if !raw.isMap then .error (.malformed .variantNotMapping raw location)
  else match raw.textField? "type", raw.textField? "$ref" with
  | some type, _ => .ok (.mk (.scalar type) sample standard)
  | none, some ref => .ok (.mk (.component (settings.stripRef ref)) sample standard)
  | none, none => .error (.malformed .untypedVariant raw location)

/-- the variants of a property; `index` counts those before -/
def variantsOf (settings : Settings) (location : Location) (index : Nat) : List Value → Except Fault (List Variant)
  | [] => .ok []
  | raw :: rest => do
    let variant ← variantOf settings (location.down [.word "oneOf", .index index]) raw
    return variant :: (← variantsOf settings location (index + 1) rest)

/-- the raw property without its stamps, which are no part of the schema -/
def schemaPart (raw : Value) : Value :=
  match raw with
  | .map entries => .map (Entries.without entries ["name", "required"])
  | other => other

def typeOf (settings : Settings) (location : Location) (raw : Value) : PropertyShape → Except Fault Node
  | .oneOf => match raw.field? "oneOf" with
    | some (.list items) => do return .oneOf (← variantsOf settings location 0 items)
    | _ => .ok (.oneOf [])
  | .composite => Schema.normalize settings location (schemaPart raw)
  | .reference => .ok (Schema.referenced settings raw)
  | .scalar => .ok (.scalar (Schema.typeName raw))

/-- the text that a field of a record must be; `issue` is what stands against it -/
def textIssue (field : String) (value : Value) : List Record.Issue :=
  match value with
  | .str _ => []
  | _ => [⟨[field], .notText⟩]

/-- what a description says: the value given, or nothing -/
def descriptionOf (raw : Value) : Value :=
  match raw.field? "description" with
  | some v => if v.isGiven then v else .str ""
  | none => .str ""

/-- a property record from raw values; a name or description that is no text is an issue -/
def ofValues (name : Value) (type : Node) (description sample : Value) (required : Bool) : Except Fault Property :=
  match name, description with
  | .str name, .str description => .ok ⟨name, type, description, sample, required⟩
  | _, _ => .error (.invalid .property (textIssue "name" name ++ textIssue "description" description))

/-- is the value the truth value true itself? -/
def isTrue : Option Value → Bool
  | some (.bool b) => b
  | _ => false

/-- a property from a raw schema stamped with `name` and `required` -/
def ofRaw (settings : Settings) (location : Location) (raw : Value) : Except Fault Property := do
  let shape ← PropertyShape.of raw location
  match raw.field? "name" with
  | none => .error (.malformed .unnamedProperty raw location)
  | some name =>
    let type ← typeOf settings location raw shape
    ofValues name type (descriptionOf raw) ((raw.field? "example").getD (.str "")) (isTrue (raw.field? "required"))

end Property

namespace Component

/-- the names that a component requires: the list under `required`, or none -/
def requiredNames (raw : Value) (location : Location) : Except Fault (List Value) :=
  match raw.field? "required" with
  | none => .ok []
  | some given =>
    if !given.isGiven then .ok []
    else match given with
    | .list names =>
      match names.findSome? Value.keyFault with
      | some type => .error (.badKey type)
      | none => .ok names
    | _ => .error (.malformed .requiredNotList raw location)

def isRequired (names : List Value) (key : Value) : Bool := names.any key.same

/-- the required names that are no property, each once, in the order of their texts -/
def unknownNames (names : List Value) (properties : Entries) : List Value :=
  let distinct := names.foldl (fun kept name => if kept.any (·.same name) then kept else kept ++ [name]) []
  (distinct.filter fun name => !Entries.hasKey properties name).mergeSort fun a b => decide (a.display ≤ b.display)

/-- the raw property under its key, with the component's judgement -/
def stamp (names : List Value) (key raw : Value) : Value :=
  match raw with
  | .map entries =>
    .map (Entries.put (Entries.put entries (.str "name") key) (.str "required") (.bool (isRequired names key)))
  | other => other

/-- the properties of a component, in document order -/
def propertiesOf (settings : Settings) (location : Location) (names : List Value) :
    Entries → Except Fault (List Property)
  | [] => .ok []
  | (key, raw) :: rest => do
    let place := location.property key
    if !raw.isMap then throw (.malformed .propertyNotMapping raw place)
    let property ← Property.ofRaw settings place (stamp names key raw)
    return property :: (← propertiesOf settings location names rest)

/-- the two groups of properties -/
def ofProperties (properties : List Property) : Component :=
  ⟨properties.filter (·.required), properties.filter (!·.required)⟩

/-- the place of a component: below the configured root under its key, or the top where the key says nothing -/
def placeOf (settings : Settings) (name : Value) : Location :=
  if name.isGiven then ⟨settings.refPrefix ++ name.display, []⟩ else .top

/-- a component from a raw object schema -/
def ofRaw (settings : Settings) (name raw : Value) : Run Component := do
  let location := placeOf settings name
  if !raw.isMap then throw (.malformed .componentNotMapping raw location)
  match raw.field? "properties" with
  | none =>
    if raw.fieldAmong "type" ["object"] then return {}
    else throw (.malformed .componentNotObject raw location)
  | some (.map properties) => do
    let names ← Run.ofExcept (requiredNames raw location)
    let unknown := unknownNames names properties
    if !unknown.isEmpty then Run.report (.unknownRequired location.text unknown)
    return ofProperties (← Run.ofExcept (propertiesOf settings location names properties))
  | some _ => throw (.malformed .propertiesNotMapping raw location)

theorem ofProperties_perm (properties : List Property) :
    (ofProperties properties).properties.Perm properties := by
  simpa [ofProperties, Component.properties] using List.filter_append_perm (·.required) properties

end Component

end ApiTypes
