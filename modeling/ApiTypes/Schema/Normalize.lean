/-
Normal forms of raw schemas.

A schema with properties becomes an inline object, one with items an array, any other named type a scalar. A reference
names its component and is accepted below an object or array only; items without a type stand for an object without
fields.

Main statements: `normalize_scalar`, `normalize_reference`; the recursion is on the size of the raw schema.
-/
import ApiTypes.Record.Issue
import ApiTypes.Schema.Node
import ApiTypes.Schema.Shape
import ApiTypes.Settings

namespace ApiTypes.Schema

/-- the component that the reference of a schema names -/
def referenced (settings : Settings) (raw : Value) : Node :=
  match raw.field? "$ref" with
  | some (.str ref) => .component (settings.stripRef ref)
  | _ => .component ""

/-- the type name of a schema -/
def typeName (raw : Value) : String :=
  match raw.field? "type" with
  | some (.str type) => type
  | _ => ""

/-- the properties of an object schema -/
def propertiesOf (raw : Value) : Entries :=
  match raw.field? "properties" with
  | some (.map properties) => properties
  | _ => []

/-- the items of an array schema -/
def itemsOf (raw : Value) : Value := (raw.field? "items").getD .null

theorem sizeOf_itemsOf_lt {raw : Value} {location : Location} (h : Shape.of raw location = .ok .array) :
    sizeOf (itemsOf raw) < sizeOf raw := by
  obtain ⟨items, hi⟩ := items_of_array h
  simpa [itemsOf, hi] using Value.sizeOf_field?_lt hi

theorem sizeOf_propertiesOf_lt {raw : Value} {location : Location} (h : Shape.of raw location = .ok .object) :
    sizeOf (propertiesOf raw) < sizeOf raw := by
  obtain ⟨properties, hp⟩ := properties_of_object h
  have := Value.sizeOf_field?_lt hp
  have hm : sizeOf (Value.map properties) = 1 + sizeOf properties := by simp
  simp only [propertiesOf, hp]
  omega

/-- fields under their names; a name that is no text is an issue of the record -/
def objectOf (fields : List (Value × Node)) : Except Fault Node :=
  let issues := fields.filterMap fun f => match f.1 with
    | .str _ => none
    | key => some ⟨["fields", Record.keyStep key, "[key]"], Record.Complaint.notText⟩
  if issues.isEmpty then
    .ok (.object (fields.filterMap fun f => f.1.text?.map (·, f.2)))
  else .error (.invalid .objectOf issues)

mutual

/-- the normal form of the schema at `location` -/
def normalize (settings : Settings) (location : Location) (raw : Value) : Except Fault Node :=
  match _shaped : Shape.of raw location with
  | .error fault => .error fault
  | .ok .object => do objectOf (← normalizeFields settings location (propertiesOf raw))
  | .ok .array => do return .array (← normalizeItems settings location.items (itemsOf raw))
  | .ok .scalar => .ok (.scalar (typeName raw))
  | .ok shape => .error (.malformed (.cannotNormalize shape.name) raw location)
termination_by (sizeOf raw, 0)
decreasing_by
  · exact Prod.Lex.left _ _ (sizeOf_propertiesOf_lt _shaped)
  · exact Prod.Lex.left _ _ (sizeOf_itemsOf_lt _shaped)

/-- the items of an array: a reference, or any schema; items without a type are objects without fields -/
def normalizeItems (settings : Settings) (location : Location) (raw : Value) : Except Fault Node :=
  match Shape.of raw location with
  | .error fault => .error fault
  | .ok .reference => .ok (referenced settings raw)
  | .ok .opaqueNode => .ok (.object [])
  | .ok _ => normalize settings location raw
termination_by (sizeOf raw, 1)

/-- the properties of an object: references, or schemas with a type -/
def normalizeFields (settings : Settings) (location : Location) (properties : List (Value × Value)) :
    Except Fault (List (Value × Node)) :=
  match properties with
  | [] => .ok []
  | (name, raw) :: rest => do
    let place := location.property name
    let node ← match Shape.of raw place with
      | .error fault => .error fault
      | .ok .reference => .ok (referenced settings raw)
      | .ok .opaqueNode => .error (.malformed .untypedProperty raw place)
      | .ok _ => normalize settings place raw
    return (name, node) :: (← normalizeFields settings location rest)
termination_by (sizeOf properties, 0)

end

theorem normalize_scalar {settings : Settings} {location : Location} {raw : Value}
    (h : Shape.of raw location = .ok .scalar) : normalize settings location raw = .ok (.scalar (typeName raw)) := by
  rw [normalize]
  split <;> simp_all

theorem normalize_reference {settings : Settings} {location : Location} {raw : Value}
    (h : Shape.of raw location = .ok .reference) :
    normalize settings location raw = .error (.malformed (.cannotNormalize "reference") raw location) := by
  rw [normalize]
  split <;> simp_all [Shape.name]

end ApiTypes.Schema
