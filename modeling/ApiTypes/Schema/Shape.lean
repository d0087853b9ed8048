/-
Shapes of raw schemas.

`Shape.of` looks at the keywords of a raw schema and at the types of their values, and at nothing below them. Fields are
read only after the shape is known.

Main statements: `of_reference` and `of_scalar` say which keywords lead to these shapes.
-/
import ApiTypes.Fault

namespace ApiTypes.Schema

inductive Shape where
  /-- an object with properties -/
  | object
  /-- an array with items -/
  | array
  /-- a reference, whatever stands beside it -/
  | reference
  /-- any other type name -/
  | scalar
  /-- neither a type nor a reference -/
  | opaqueNode
  deriving DecidableEq, Repr

def Shape.name : Shape → String
  | object => "object"
  | array => "array"
  | reference => "reference"
  | scalar => "scalar"
  | opaqueNode => "opaque"

/-- the shape of a schema with the type name `type`; `items` and `properties` may contradict the type -/
def shapeOfType (raw : Value) (type : String) : Except Refusal Shape :=
  if type = "object" ∧ raw.hasField "items" then .error .objectWithItems
  else if type = "array" ∧ raw.hasField "properties" then .error .arrayWithProperties
  else if type = "object" then
    match raw.field? "properties" with
    | none => .ok .scalar
    | some properties => if properties.isMap then .ok .object else .error .propertiesNotMapping
  else if type = "array" ∧ raw.hasField "items" then .ok .array
  else .ok .scalar

/-- the shape of a raw schema, or why it has none -/
def shapeOf (raw : Value) : Except Refusal Shape :=
  if !raw.isMap then .error .schemaNotMapping
  else match raw.field? "$ref" with
  | some (.str _) => .ok .reference
  | some _ => .error .refNotText
  | none =>
    match raw.field? "type" with
    | none => .ok .opaqueNode
    | some (.str type) => shapeOfType raw type
    | some _ => .error .typeNotText

/-- the shape of the raw schema at `location` -/
def Shape.of (raw : Value) (location : Location) : Except Fault Shape :=
  match shapeOf raw with
  | .ok shape => .ok shape
  | .error reason => .error (.malformed reason raw location)

theorem isMap_of_field? {raw v : Value} {name : String} (h : raw.field? name = some v) : raw.isMap = true := by
  cases raw <;> simp_all [Value.field?, Value.isMap, Value.entries?]

theorem of_reference {raw : Value} {ref : String} (location : Location) (h : raw.field? "$ref" = some (.str ref)) :
    Shape.of raw location = .ok .reference := by
  simp [Shape.of, shapeOf, h, isMap_of_field? h]

theorem of_scalar {raw : Value} {type : String} (location : Location) (ref : raw.field? "$ref" = none)
    (typed : raw.field? "type" = some (.str type)) (plain : type ≠ "object" ∧ type ≠ "array") :
    Shape.of raw location = .ok .scalar := by
  simp [Shape.of, shapeOf, shapeOfType, ref, typed, plain.1, plain.2, isMap_of_field? typed]

/-- an array shape has items to read -/
theorem items_of_array {raw : Value} {location : Location} (h : Shape.of raw location = .ok .array) :
    ∃ items, raw.field? "items" = some items := by
  rw [← Option.isSome_iff_exists]
  by_cases hi : raw.hasField "items" = true
  · exact hi
  · simp only [Shape.of, shapeOf, shapeOfType] at h
    grind [Value.hasField]

/-- an object shape has properties to read -/
theorem properties_of_object {raw : Value} {location : Location} (h : Shape.of raw location = .ok .object) :
    ∃ properties, raw.field? "properties" = some (.map properties) := by
  simp only [Shape.of, shapeOf, shapeOfType] at h
  cases hp : raw.field? "properties" with
  | none => grind
  | some properties =>
    cases properties with
    | map entries => exact ⟨entries, rfl⟩
    | _ => grind [Value.isMap, Value.entries?]

end ApiTypes.Schema
