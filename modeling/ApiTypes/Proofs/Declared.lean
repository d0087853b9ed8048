/-
Declared field names.

A raw schema declares the keys of its `properties` and, at any depth, those of the schemas under its properties, its
items and its variants. Not all of them reach the vocabulary of the documentation: a variant is read by its type name
alone, items without a type hold nothing, and beside a `$ref` nothing is read. What is followed are the properties of
objects and the items of arrays, below the properties of a component that are no choice of variants.

Main statements: `mem_fieldNames_normalize`, the field names of a normal form; `contains_iff_keeps`, the names in a
vocabulary are those that are kept, and those of the operations; `variant_field_undeclared`, a name that is not.
-/
import Mathlib.Data.List.Permutation
import ApiTypes.Proofs.Decoding
import ApiTypes.Proofs.Documentation

namespace ApiTypes

variable {settings : Settings} {location : Location} {name : String}

/-! ## Raw schemas -/

namespace Schema

/-- the name is a key of `properties` in the schema, or in one under its properties, items or variants -/
inductive Declares : Value → String → Prop
  | own {raw sub : Value} {properties : Entries} {name : String} :
      raw.field? "properties" = some (.map properties) → (.str name, sub) ∈ properties → Declares raw name
  | property {raw key sub : Value} {properties : Entries} {name : String} :
      raw.field? "properties" = some (.map properties) → (key, sub) ∈ properties → Declares sub name → Declares raw name
  | items {raw sub : Value} {name : String} : raw.field? "items" = some sub → Declares sub name → Declares raw name
  | variant {raw sub : Value} {variants : List Value} {name : String} :
      raw.field? "oneOf" = some (.list variants) → sub ∈ variants → Declares sub name → Declares raw name

/-- the schema has the type, and no reference beside it -/
def Typed (raw : Value) (type : String) : Prop :=
  raw.field? "$ref" = none ∧ raw.field? "type" = some (.str type)

/-- the name is a key of the properties of an object, through properties of objects and items of arrays -/
inductive Keeps : Value → String → Prop
  | own {raw sub : Value} {properties : Entries} {name : String} : Typed raw "object" →
      raw.field? "properties" = some (.map properties) → (.str name, sub) ∈ properties → Keeps raw name
  | property {raw key sub : Value} {properties : Entries} {name : String} : Typed raw "object" →
      raw.field? "properties" = some (.map properties) → (key, sub) ∈ properties → Keeps sub name → Keeps raw name
  | items {raw sub : Value} {name : String} : Typed raw "array" → raw.field? "items" = some sub → Keeps sub name →
      Keeps raw name

/-- what is kept is declared -/
theorem Keeps.declares {raw : Value} (h : Keeps raw name) : Declares raw name := by
  induction h with
  | own _ found mem => exact .own found mem
  | property _ found mem _ ih => exact .property found mem ih
  | items _ found _ ih => exact .items found ih

theorem Keeps.typed {raw : Value} (h : Keeps raw name) : Typed raw "object" ∨ Typed raw "array" := by
  cases h with
  | own typed => exact Or.inl typed
  | property typed => exact Or.inl typed
  | items typed => exact Or.inr typed

theorem Typed.unique {raw : Value} {type other : String} (h : Typed raw type)
    (h' : raw.field? "type" = some (.str other)) : type = other := by
  simpa [h.2] using h'

/-- a schema with a reference, or with neither of these types, keeps nothing -/
theorem not_keeps {raw : Value} (object : ¬ Typed raw "object") (array : ¬ Typed raw "array") : ¬ Keeps raw name :=
  fun keeps => keeps.typed.elim object array

theorem keeps_of_object {raw : Value} (h : shapeOf raw = .ok .object) :
    Keeps raw name ↔ ∃ e ∈ propertiesOf raw, e.1 = .str name ∨ Keeps e.2 name := by
  obtain ⟨ref, type, properties⟩ := keywords_of_object h
  constructor
  · intro keeps
    cases keeps with
    | own _ found mem =>
      rw [properties] at found
      cases found
      exact ⟨_, mem, Or.inl rfl⟩
    | property _ found mem keeps =>
      rw [properties] at found
      cases found
      exact ⟨_, mem, Or.inr keeps⟩
    | items array => exact absurd (array.unique type) (by decide)
  · rintro ⟨⟨key, sub⟩, mem, own | keeps⟩
    · obtain rfl : key = .str name := own
      exact .own ⟨ref, type⟩ properties mem
    · exact .property ⟨ref, type⟩ properties mem keeps

theorem keeps_of_array {raw : Value} (h : shapeOf raw = .ok .array) :
    Keeps raw name ↔ Keeps (itemsOf raw) name := by
  obtain ⟨ref, type, items⟩ := keywords_of_array h
  constructor
  · intro keeps
    cases keeps with
    | own object => exact absurd (object.unique type) (by decide)
    | property object => exact absurd (object.unique type) (by decide)
    | items _ found keeps =>
      rw [items] at found
      cases found
      exact keeps
  · exact .items ⟨ref, type⟩ items

/-- a typed schema that is read as a scalar has nothing below that could be kept -/
theorem not_keeps_of_scalar {raw : Value} (h : shapeOf raw = .ok .scalar) : ¬ Keeps raw name := by
  have shape {type : String} (typed : Typed raw type) : shapeOfType raw type = .ok .scalar := by
    simpa [shapeOf, isMap_of_field? typed.2, typed.1, typed.2] using h
  have object {properties : Entries} (typed : Typed raw "object")
      (found : raw.field? "properties" = some (.map properties)) : False := by
    have read := shape typed
    simp only [shapeOfType, found] at read
    split at read <;> simp [Value.isMap, Value.entries?] at read
  intro keeps
  cases keeps with
  | own typed found => exact object typed found
  | property typed found => exact object typed found
  | items typed found =>
    have read := shape typed
    simp only [shapeOfType, found, Value.hasField] at read
    simp only [String.reduceEq, false_and, if_false, true_and] at read
    split at read <;> simp at read

theorem not_typed_of_ref {raw v : Value} (h : raw.field? "$ref" = some v) (type : String) : ¬ Typed raw type := by
  intro typed
  rw [typed.1] at h
  cases h

end Schema

/-! ## Normal forms -/

theorem Node.namesOfFields_eq (fields : List (String × Node)) :
    namesOfFields fields = fields.flatMap fun f => f.1 :: f.2.fieldNames := by
  induction fields with
  | nil => simp [namesOfFields]
  | cons f rest ih =>
    obtain ⟨name, node⟩ := f
    simp [namesOfFields, ih]

/-- variants are types by name and references, which have no fields -/
theorem Node.namesOfVariants_eq (variants : List Variant) :
    namesOfVariants variants = variants.flatMap fun v => v.type.fieldNames := by
  induction variants with
  | nil => simp [namesOfVariants]
  | cons v rest ih =>
    cases v
    simp [namesOfVariants, ih, Variant.type]

namespace Schema

theorem mem_fieldNames_propertyNode {raw : Value} {node : Node} (h : propertyNode settings location raw = .ok node)
    (normal : normalize settings location raw = .ok node → (name ∈ node.fieldNames ↔ Keeps raw name)) :
    name ∈ node.fieldNames ↔ Keeps raw name := by
  rcases propertyNode_cases h with ⟨ref, found, rfl⟩ | ⟨-, h⟩
  · have none : ¬ Keeps raw name := not_keeps (not_typed_of_ref found _) (not_typed_of_ref found _)
    simp [Node.fieldNames, none]
  · exact normal h

theorem mem_fieldNames_normalizeItems {raw : Value} {node : Node} (h : normalizeItems settings location raw = .ok node)
    (normal : normalize settings location raw = .ok node → (name ∈ node.fieldNames ↔ Keeps raw name)) :
    name ∈ node.fieldNames ↔ Keeps raw name := by
  rcases normalizeItems_cases h with ⟨ref, found, rfl⟩ | ⟨-, type, rfl⟩ | ⟨-, h⟩
  · have none : ¬ Keeps raw name := not_keeps (not_typed_of_ref found _) (not_typed_of_ref found _)
    simp [Node.fieldNames, none]
  · have untyped : ∀ t, ¬ Typed raw t := fun t typed => by
      rw [typed.2] at type
      cases type
    simp [Node.fieldNames, Node.namesOfFields, not_keeps (untyped _) (untyped _)]
  · exact normal h

/-- **The field names of a normal form are those that its schema keeps.** -/
theorem mem_fieldNames_normalize {raw : Value} {node : Node} (h : normalize settings location raw = .ok node) :
    name ∈ node.fieldNames ↔ Keeps raw name := by
  induction raw using schema_induction generalizing location node with
  | step raw ih =>
    rcases normalize_cases h with ⟨object, fields, made, rfl⟩ | ⟨array, element, made, rfl⟩ | ⟨scalar, rfl⟩
    -- a field is kept for its own name or for a name below it, which is the hypothesis at its schema
    · rw [keeps_of_object object, Node.fieldNames, Node.namesOfFields_eq, List.mem_flatMap]
      refine (exists_iff_of_forall₂ made fun e mem f read => ?_).symm
      obtain ⟨key, read⟩ := read
      rw [key, Value.str.injEq, List.mem_cons, eq_comm]
      exact or_congr_right (mem_fieldNames_propertyNode read (ih e.2 (.property object mem))).symm
    · rw [keeps_of_array array, Node.fieldNames]
      exact mem_fieldNames_normalizeItems made (ih _ (.items array))
    · simp [Node.fieldNames, not_keeps_of_scalar scalar]

end Schema

/-! ## Components -/

/-- the name is that of a property, or kept below one that is no choice of variants -/
def Component.Keeps (raw : Value) (name : String) : Prop :=
  ∃ properties, raw.field? "properties" = some (.map properties) ∧
    ∃ e ∈ properties, e.1 = .str name ∨ (e.2.field? "oneOf" = none ∧ Schema.Keeps e.2 name)

namespace Component

variable {names : List Value}

theorem fieldNames_variantsOf {items : List Value} {variants : List Variant}
    (h : Property.variantsOf settings location 0 items = .ok variants) : Node.namesOfVariants variants = [] := by
  rw [Property.variantsOf_eq_mapM, mapM_eq_ok] at h
  rw [Node.namesOfVariants_eq, List.flatMap_eq_nil_iff]
  intro variant mem
  obtain ⟨e, -, read⟩ := exists_of_mem_results h mem
  rcases Property.variantOf_cases read with ⟨type, -, eq⟩ | ⟨-, ref, -, eq⟩ <;> rw [eq] <;> simp [Node.fieldNames]

theorem mem_fieldNames_propertyType {e : Value × Value} {node : Node}
    (h : propertyType settings location names e = .ok node) :
    name ∈ node.fieldNames ↔ e.2.field? "oneOf" = none ∧ Schema.Keeps e.2 name := by
  -- a property of neither type is read as a reference or by its type name, and has no fields
  have plain (among : e.2.fieldAmong "type" ["array", "object"] = false) : ¬ Schema.Keeps e.2 name := by
    have other (type : String) (mem : type ∈ ["array", "object"]) : ¬ Schema.Typed e.2 type := by
      intro typed
      rw [Value.fieldAmong_iff.2 ⟨type, mem, typed.2⟩] at among
      cases among
    exact Schema.not_keeps (other _ (by simp)) (other _ (by simp))
  rcases propertyType_cases h with ⟨items, variants, found, read, rfl⟩ | ⟨oneOf, -, normal⟩ |
    ⟨-, among, ref, -, rfl⟩ | ⟨-, among, -, type, -, rfl⟩
  · simp [Node.fieldNames, fieldNames_variantsOf read, found]
  · rw [Schema.mem_fieldNames_normalize normal, and_iff_right oneOf]
  · simp [Node.fieldNames, plain among]
  · simp [Node.fieldNames, plain among]

/-- **The field names of a component are those that its raw schema keeps.** -/
theorem mem_fieldNames_ofRaw {key raw : Value} {component : Component}
    (h : (ofRaw settings key raw).result = .ok component) : name ∈ component.fieldNames ↔ Keeps raw name := by
  rcases ofRaw_eq_ok h with ⟨found, -, rfl⟩ | ⟨properties, names, built, from_, rfl⟩
  · simp [fieldNames, Component.properties, Keeps, found]
  · have keeps : Keeps raw name ↔ ∃ e ∈ properties, e.1 = .str name ∨
        (e.2.field? "oneOf" = none ∧ Schema.Keeps e.2 name) := by
      simp [Keeps, from_.found]
    rw [keeps, fieldNames, List.mem_flatMap]
    simp only [mem_properties_ofProperties]
    refine (exists_iff_of_forall₂ from_.built fun e _ p made => ?_).symm
    rw [made.name, Value.str.injEq, List.mem_cons, eq_comm]
    exact or_congr_right (mem_fieldNames_propertyType made.type).symm

end Component

/-! ## Documentations -/

namespace Documentation

variable {document : Value} {d : Documentation}

/-- some component schema of the document declares the name -/
def Declares (document : Value) (name : String) : Prop := ∃ e ∈ Registry.rawSchemas document, Schema.Declares e.2 name

/-- some component schema of the document keeps the name -/
def Keeps (document : Value) (name : String) : Prop := ∃ e ∈ Registry.rawSchemas document, Component.Keeps e.2 name

theorem Keeps.declares (h : Keeps document name) : Declares document name := by
  obtain ⟨e, mem, properties, found, f, inside, own | ⟨-, below⟩⟩ := h
  · obtain ⟨key, sub⟩ := f
    obtain rfl : key = .str name := own
    exact ⟨e, mem, .own found inside⟩
  · exact ⟨e, mem, .property found inside below.declares⟩

theorem mem_fieldNames_iff (built : Built settings document d) :
    name ∈ d.fieldNames ↔ Keeps document name ∨ ∃ op ∈ d.operations, name ∈ op.fieldNames := by
  rw [fieldNames, List.mem_append, List.mem_flatMap, List.mem_flatMap]
  refine or_congr_left (exists_iff_of_forall₂ built.components fun e _ c made => ?_).symm
  exact (Component.mem_fieldNames_ofRaw made.2).symm

end Documentation

/-! ## Vocabularies -/

namespace Vocabulary

/-- names that are held are decoded without a notice, and no key is marked as unknown -/
theorem decode_of_contains {v : Vocabulary} (made : Made v) {response : Value}
    (h : ∀ name ∈ response.textKeys, v.contains name = true) :
    (v.decode response).notices = [] ∧ ∀ text, .unknown text ∉ (v.decode response).value.keys := by
  rw [decode_eq made]
  constructor
  · have none : v.undeclared response.textKeys = [] := by
      rw [undeclared, List.filter_eq_nil_iff]
      intro name mem
      simp [h name mem]
    simp [none]
  · intro text mem
    have held := h text (mem_textKeys_of_unknown response mem)
    have fits : v.contains text = false := fits_marked v response _ mem
    rw [held] at fits
    cases fits

/-- **What is kept of the declared names is never reported as drift.** The vocabulary of an accepted document holds the
names that its component schemas keep, all of which they declare, and beside them only names of its operations; a
payload whose text keys are all kept is decoded without a notice and without an unknown key. -/
theorem contains_iff_keeps (settings : Settings) (document : Value) {d : Documentation}
    (h : (Documentation.ofDocument settings document).result = .ok d) :
    let v := ofDocumentation d
    (∀ name, Documentation.Keeps document name → Documentation.Declares document name) ∧
      (∀ name, v.contains name = true ↔
        Documentation.Keeps document name ∨ ∃ op ∈ d.operations, name ∈ op.fieldNames) ∧
      ∀ response : Value, (∀ name ∈ response.textKeys, Documentation.Keeps document name) →
        (v.decode response).notices = [] ∧ ∀ text, .unknown text ∉ (v.decode response).value.keys := by
  intro v
  have held (name : String) : v.contains name = true ↔
      Documentation.Keeps document name ∨ ∃ op ∈ d.operations, name ∈ op.fieldNames := by
    rw [← Documentation.mem_fieldNames_iff (Documentation.built_of_result h)]
    exact contains_ofTexts d.fieldNames name
  exact ⟨fun _ => Documentation.Keeps.declares, held, fun response kept =>
    decode_of_contains (.documentation d) fun name mem => (held name).2 (Or.inl (kept name mem))⟩

/-- an object with a row of objects, and a choice of variants with an object among them -/
def nestedDocument : Value :=
  let text : Value := .map [(.str "type", .str "string")]
  let object (name : String) (sub : Value) : Value :=
    .map [(.str "type", .str "object"), (.str "properties", .map [(.str name, sub)])]
  let rows : Value := .map [(.str "type", .str "array"), (.str "items", object "price" text)]
  let choice : Value := .map [(.str "oneOf", .list [object "hidden" text])]
  .map [(.str "openapi", .str "3.0.0"), (.str "components", .map [(.str "schemas", .map [
    (.str "Order", .map [(.str "type", .str "object"),
      (.str "properties", .map [(.str "rows", rows), (.str "state", choice)])])])])]

def nestedDocumentation : Documentation :=
  ⟨[("Order", ⟨[], [⟨"rows", .array (.object [("price", .scalar "string")]), "", .str "", false⟩,
    ⟨"state", .oneOf [.mk (.scalar "object") (.str "") .null], "", .str "", false⟩]⟩)], []⟩

theorem nestedDocument_built : (Documentation.ofDocument {} nestedDocument).result = .ok nestedDocumentation := by cbv

theorem nested_row_decoded :
    let response : Value := .map [(.str "rows", .list [.map [(.str "price", .int 2)]])]
    ((ofDocumentation nestedDocumentation).decode response).notices = [] := by
  intro response
  obtain ⟨-, -, decoded⟩ := contains_iff_keeps {} nestedDocument nestedDocument_built
  have rows : Documentation.Keeps nestedDocument "rows" :=
    ⟨_, List.mem_cons_self, _, rfl, _, List.mem_cons_self, Or.inl rfl⟩
  have price : Documentation.Keeps nestedDocument "price" :=
    ⟨_, List.mem_cons_self, _, rfl, _, List.mem_cons_self,
      Or.inr ⟨rfl, .items ⟨rfl, rfl⟩ rfl (.own ⟨rfl, rfl⟩ rfl List.mem_cons_self)⟩⟩
  have kept : ∀ name ∈ response.textKeys, Documentation.Keeps nestedDocument name := by
    have keys : response.textKeys = ["rows", "price"] := by decide
    rw [keys]
    simp [rows, price]
  exact (decoded response kept).1

/-- the field of a variant is declared, but no vocabulary holds it -/
theorem variant_field_undeclared : ¬ ∀ (document : Value) (d : Documentation),
    (Documentation.ofDocument {} document).result = .ok d →
    ∀ name, Documentation.Declares document name → (ofDocumentation d).contains name = true := by
  intro all
  have declares : Documentation.Declares nestedDocument "hidden" :=
    ⟨_, List.mem_cons_self, .property rfl (List.mem_cons_of_mem _ List.mem_cons_self)
      (.variant rfl List.mem_cons_self (.own rfl List.mem_cons_self))⟩
  have held := all nestedDocument nestedDocumentation nestedDocument_built "hidden" declares
  have absent : (ofDocumentation nestedDocumentation).contains "hidden" = false := by decide
  rw [absent] at held
  cases held

end Vocabulary

end ApiTypes
