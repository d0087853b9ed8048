/-
Views: what a record shows of itself.

A view is a tree of named fields, keyed entries, lists and raw values, in the order of the record. Every record has one;
the texts of records are written from views alone.

Main statements: `ofFields_eq_map`, the fields of an object are shown one by one; `fieldValues_eq_map`, a record shows
the values of its fields under their names.
-/
import ApiTypes.Declaration
import ApiTypes.Documentation

namespace ApiTypes.Record

inductive View where
  /-- a raw value, as the document gave it -/
  | value (v : Value)
  | record (fields : List (String × View))
  | mapping (entries : List (Value × View))
  | sequence (items : List View)

namespace View

def text (s : String) : View := .value (.str s)

def flag (b : Bool) : View := .value (.bool b)

/-- the fields of a union member, after its tag -/
def tagged (tag : String) (rest : List (String × View)) : View := .record (("kind", text tag) :: rest)

mutual

def ofNode : Node → View
  | .scalar name => tagged "scalar" [("name", text name)]
  | .array element => tagged "array" [("element", ofNode element)]
  | .object fields => tagged "object" [("fields", .mapping (ofFields fields))]
  | .component name => tagged "component" [("name", text name)]
  | .oneOf variants => tagged "one_of" [("variants", .sequence (ofVariants variants))]

def ofFields : List (String × Node) → List (Value × View)
  | [] => []
  | (name, node) :: rest => (.str name, ofNode node) :: ofFields rest

def ofVariants : List Variant → List View
  | [] => []
  | .mk type sample standard :: rest =>
    .record [("type", ofNode type), ("example", .value sample), ("default", .value standard)] :: ofVariants rest

end

theorem ofFields_eq_map (fields : List (String × Node)) :
    ofFields fields = fields.map fun f => (.str f.1, ofNode f.2) := by
  induction fields with
  | nil => rw [ofFields, List.map_nil]
  | cons f rest ih => rw [ofFields, ih, List.map_cons]

def ofVariant (v : Variant) : View :=
  .record [("type", ofNode v.type), ("example", .value v.sample), ("default", .value v.standard)]

def ofProperty (p : Property) : View :=
  .record [("name", text p.name), ("type", ofNode p.type), ("description", text p.description),
    ("example", .value p.sample), ("required", flag p.required)]

def ofComponent (c : Component) : View :=
  .record [("required_props", .sequence (c.required.map ofProperty)),
    ("optional_props", .sequence (c.optional.map ofProperty))]

def ofParameter (p : Parameter) : View :=
  .record [("name", text p.name), ("location", text p.location), ("type", text p.type), ("example", .value p.sample),
    ("required", flag p.required), ("description", text p.description)]

def ofOption {α : Type} (view : α → View) : Option α → View
  | none => .value .null
  | some a => view a

def ofRequestBody : RequestBody → View
  | .json required contentType schema component =>
    tagged "json" [("required", flag required), ("content_type", text contentType),
      ("request_schema", ofComponent schema),
      ("component", ofOption text component)]
  | .unsupported contentType => tagged "unsupported" [("content_type", text contentType)]

def ofOperation (op : Operation) : View :=
  .record [("endpoint", text op.endpoint), ("name", text op.name), ("operation_id", text op.operationId),
    ("summary", text op.summary), ("deprecated", flag op.deprecated), ("method", text op.method.name),
    ("arguments", .sequence (op.arguments.map ofParameter)), ("request_body", ofOption ofRequestBody op.requestBody),
    ("response_type", ofNode op.responseType), ("group", text op.group)]

def ofRegistry (registry : Registry) : View := .mapping (registry.map fun e => (e.1, ofComponent e.2))

def ofDocumentation (d : Documentation) : View :=
  .record [("components", .mapping (d.components.map fun c => (.str c.1, ofComponent c.2))),
    ("operations", .sequence (d.operations.map ofOperation))]

mutual

def ofDeclaration : Declaration → View
  | .builtin name => tagged "builtin" [("name", text name)]
  | .list item => tagged "list" [("item", ofDeclaration item)]
  | .record fields => tagged "record" [("fields", .mapping (ofDeclarations fields))]
  | .reference component => tagged "reference" [("component", text component)]
  | .any reason => tagged "any" [("reason", text reason)]

def ofDeclarations : List (String × Declaration) → List (Value × View)
  | [] => []
  | (name, declaration) :: rest => (.str name, ofDeclaration declaration) :: ofDeclarations rest

end

def ofField (f : Field) : View :=
  .record [("name", text f.name), ("type", ofDeclaration f.type), ("description", text f.description)]

def ofComponentDeclaration (c : ComponentDeclaration) : View :=
  .record [("name", text c.name), ("required", .sequence (c.required.map ofField)),
    ("optional", .sequence (c.optional.map ofField))]

def ofSettings (s : Settings) : View :=
  .record [("ref_prefix", text s.refPrefix), ("json_content_type", text s.jsonContentType),
    ("group_extension", text s.groupExtension), ("group_field", text s.groupField),
    ("success_status", text s.successStatus), ("tag_groups", flag s.tagGroups)]

/-! ## As a value -/

mutual

/-- the raw value that shows the same fields and entries -/
def toValue : View → Value
  | value v => v
  | record fs => .map (fieldValues fs)
  | mapping es => .map (entryValues es)
  | sequence items => .list (itemValues items)

def fieldValues : List (String × View) → List (Value × Value)
  | [] => []
  | (name, view) :: rest => (.str name, toValue view) :: fieldValues rest

def entryValues : List (Value × View) → List (Value × Value)
  | [] => []
  | (key, view) :: rest => (key, toValue view) :: entryValues rest

def itemValues : List View → List Value
  | [] => []
  | view :: rest => toValue view :: itemValues rest

end

theorem itemValues_eq_map (items : List View) : itemValues items = items.map toValue := by
  induction items with
  | nil => rw [itemValues, List.map_nil]
  | cons view rest ih => rw [itemValues, ih, List.map_cons]

theorem entryValues_eq_map (entries : List (Value × View)) :
    entryValues entries = entries.map fun e => (e.1, e.2.toValue) := by
  induction entries with
  | nil => rw [entryValues, List.map_nil]
  | cons e rest ih => rw [entryValues, ih, List.map_cons]

theorem fieldValues_eq_map (fields : List (String × View)) :
    fieldValues fields = fields.map fun f => (.str f.1, f.2.toValue) := by
  induction fields with
  | nil => rw [fieldValues, List.map_nil]
  | cons f rest ih => rw [fieldValues, ih, List.map_cons]

end View

end ApiTypes.Record
