/-
What the normal form of a raw schema is made of.

`shapeOf_cases` says once which keywords lead to which shape; everything else about shapes follows from it. The fields
of an object are a traversal of its properties (`normalizeFields_eq_mapM`), so that a normal form is accounted for
property by property.

Main statements: `normalize_cases`, the three ways in which a schema has a normal form; `schema_induction`, recursion
from a schema to its properties and items.
-/
import ApiTypes.Proofs.Traversal
import ApiTypes.Schema.Normalize

namespace ApiTypes

/-! ## Raw values -/

theorem Value.isMap_iff {v : Value} : v.isMap = true ↔ ∃ entries, v = .map entries := by
  cases v <;> simp [Value.isMap, Value.entries?]

theorem Value.hasField_eq_false {v : Value} {name : String} : v.hasField name = false ↔ v.field? name = none := by
  simp [Value.hasField]

theorem Value.hasField_iff {v : Value} {name : String} : v.hasField name = true ↔ ∃ w, v.field? name = some w :=
  Option.isSome_iff_exists

theorem Value.eq_str_of_text? {v : Value} (h : v.text? ≠ none) : ∃ text, v = .str text := by
  cases v <;> simp_all [Value.text?]

/-- entries under text keys -/
def keyedBy {α : Type} (named : List (String × α)) : List (Value × α) := named.map fun f => (Value.str f.1, f.2)

theorem exists_keyedBy {α : Type} {fields : List (Value × α)} (h : ∀ f ∈ fields, ∃ name, f.1 = Value.str name) :
    ∃ named, fields = keyedBy named := by
  induction fields with
  | nil => exact ⟨[], rfl⟩
  | cons f rest ih =>
    obtain ⟨name, hf⟩ := h f List.mem_cons_self
    obtain ⟨named, rfl⟩ := ih fun g hg => h g (List.mem_cons_of_mem _ hg)
    exact ⟨(name, f.2) :: named, by simp [keyedBy, ← hf]⟩

namespace Schema

/-! ## Shapes -/

theorem shapeOfType_cases {raw : Value} {type : String} {shape : Shape} (h : shapeOfType raw type = .ok shape) :
    (shape = .object ∧ type = "object" ∧ raw.field? "items" = none ∧
      ∃ entries, raw.field? "properties" = some (.map entries)) ∨
    (shape = .array ∧ type = "array" ∧ raw.field? "properties" = none ∧ ∃ items, raw.field? "items" = some items) ∨
    shape = .scalar := by
  unfold shapeOfType at h
  split_ifs at h with items properties object array
  · split at h
    · cases h
      exact Or.inr (Or.inr rfl)
    · rename_i given found
      split_ifs at h with map
      cases h
      obtain ⟨entries, rfl⟩ := Value.isMap_iff.1 map
      have : raw.hasField "items" = false := by simpa [object] using items
      exact Or.inl ⟨rfl, object, Value.hasField_eq_false.1 this, entries, found⟩
  · cases h
    have : raw.hasField "properties" = false := by simpa [array.1] using properties
    exact Or.inr (Or.inl ⟨rfl, array.1, Value.hasField_eq_false.1 this, Value.hasField_iff.1 array.2⟩)
  · cases h
    exact Or.inr (Or.inr rfl)

theorem shapeOf_cases {raw : Value} {shape : Shape} (h : shapeOf raw = .ok shape) :
    (shape = .reference ∧ ∃ ref, raw.field? "$ref" = some (.str ref)) ∨
    (raw.field? "$ref" = none ∧ raw.field? "type" = none ∧ shape = .opaqueNode) ∨
    (raw.field? "$ref" = none ∧ ∃ type, raw.field? "type" = some (.str type) ∧ shapeOfType raw type = .ok shape) := by
  unfold shapeOf at h
  split_ifs at h
  split at h
  · rename_i ref found
    cases h
    exact Or.inl ⟨rfl, ref, found⟩
  · cases h
  · rename_i ref
    split at h
    · rename_i type
      cases h
      exact Or.inr (Or.inl ⟨ref, type, rfl⟩)
    · rename_i type found
      exact Or.inr (Or.inr ⟨ref, type, found, h⟩)
    · cases h

theorem keywords_of_object {raw : Value} (h : shapeOf raw = .ok .object) :
    raw.field? "$ref" = none ∧ raw.field? "type" = some (.str "object") ∧
      raw.field? "properties" = some (.map (propertiesOf raw)) := by
  rcases shapeOf_cases h with ⟨h, -⟩ | ⟨-, -, h⟩ | ⟨ref, type, typed, h⟩
  · cases h
  · cases h
  · rcases shapeOfType_cases h with ⟨-, rfl, -, entries, found⟩ | ⟨h, -⟩ | h
    · exact ⟨ref, typed, by simp [propertiesOf, found]⟩
    · cases h
    · cases h

theorem keywords_of_array {raw : Value} (h : shapeOf raw = .ok .array) :
    raw.field? "$ref" = none ∧ raw.field? "type" = some (.str "array") ∧ raw.field? "items" = some (itemsOf raw) := by
  rcases shapeOf_cases h with ⟨h, -⟩ | ⟨-, -, h⟩ | ⟨ref, type, typed, h⟩
  · cases h
  · cases h
  · rcases shapeOfType_cases h with ⟨h, -⟩ | ⟨-, rfl, -, items, found⟩ | h
    · cases h
    · exact ⟨ref, typed, by simp [itemsOf, found]⟩
    · cases h

theorem keywords_of_scalar {raw : Value} (h : shapeOf raw = .ok .scalar) :
    raw.field? "$ref" = none ∧ raw.field? "type" = some (.str (typeName raw)) := by
  rcases shapeOf_cases h with ⟨h, -⟩ | ⟨-, -, h⟩ | ⟨ref, type, typed, -⟩
  · cases h
  · cases h
  · exact ⟨ref, by simp [typeName, typed]⟩

theorem keywords_of_reference {raw : Value} (h : shapeOf raw = .ok .reference) :
    ∃ ref, raw.field? "$ref" = some (.str ref) := by
  rcases shapeOf_cases h with ⟨-, h⟩ | ⟨-, -, h⟩ | ⟨-, type, -, h⟩
  · exact h
  · cases h
  · rcases shapeOfType_cases h with ⟨h, -⟩ | ⟨h, -⟩ | h <;> cases h

theorem keywords_of_opaqueNode {raw : Value} (h : shapeOf raw = .ok .opaqueNode) :
    raw.field? "$ref" = none ∧ raw.field? "type" = none := by
  rcases shapeOf_cases h with ⟨h, -⟩ | ⟨ref, type, -⟩ | ⟨-, type, -, h⟩
  · cases h
  · exact ⟨ref, type⟩
  · rcases shapeOfType_cases h with ⟨h, -⟩ | ⟨h, -⟩ | h <;> cases h

theorem referenced_of_ref {settings : Settings} {raw : Value} {ref : String} (h : raw.field? "$ref" = some (.str ref)) :
    referenced settings raw = .component (settings.stripRef ref) := by
  simp [referenced, h]

theorem Shape.of_eq_ok {raw : Value} {location : Location} {shape : Shape} :
    Shape.of raw location = .ok shape ↔ shapeOf raw = .ok shape := by
  unfold Shape.of
  split <;> simp_all

theorem Shape.of_eq_error {raw : Value} {location : Location} {fault : Fault}
    (h : Shape.of raw location = .error fault) : ∃ reason, fault = .malformed reason raw location := by
  unfold Shape.of at h
  split at h
  · cases h
  · rename_i reason _
    cases h
    exact ⟨reason, rfl⟩

/-! ## Keywords -/

/-- two raw schemas that say the same under the keywords of a normal form -/
structure Alike (raw other : Value) : Prop where
  isMap : raw.isMap = other.isMap
  field : ∀ name ∈ ["$ref", "type", "properties", "items"], raw.field? name = other.field? name

namespace Alike

variable {raw other : Value}

theorem symm (h : Alike raw other) : Alike other raw := ⟨h.isMap.symm, fun name hn => (h.field name hn).symm⟩

theorem shapeOf (h : Alike raw other) : shapeOf raw = shapeOf other := by
  have ref := h.field "$ref" (by decide)
  have type := h.field "type" (by decide)
  have properties := h.field "properties" (by decide)
  have items := h.field "items" (by decide)
  have typed : shapeOfType raw = shapeOfType other := by
    funext type
    have hasProperties : raw.hasField "properties" = other.hasField "properties" := congrArg Option.isSome properties
    have hasItems : raw.hasField "items" = other.hasField "items" := congrArg Option.isSome items
    rw [shapeOfType, shapeOfType, hasProperties, hasItems, properties]
  rw [Schema.shapeOf, Schema.shapeOf, h.isMap, ref, type, typed]

theorem propertiesOf (h : Alike raw other) : propertiesOf raw = propertiesOf other := by
  simp only [Schema.propertiesOf, h.field "properties" (by decide)]

theorem itemsOf (h : Alike raw other) : itemsOf raw = itemsOf other := by
  simp only [Schema.itemsOf, h.field "items" (by decide)]

theorem typeName (h : Alike raw other) : typeName raw = typeName other := by
  simp only [Schema.typeName, h.field "type" (by decide)]

end Alike

/-! ## Objects and arrays -/

/-- the node of one property of an object -/
def propertyNode (settings : Settings) (place : Location) (raw : Value) : Except Fault Node :=
  match Shape.of raw place with
  | .error fault => .error fault
  | .ok .reference => .ok (referenced settings raw)
  | .ok .opaqueNode => .error (.malformed .untypedProperty raw place)
  | .ok _ => normalize settings place raw

/-- the node of the property under its key -/
def namedNode (settings : Settings) (location : Location) (e : Value × Value) : Except Fault (Value × Node) :=
  (e.1, ·) <$> propertyNode settings (location.property e.1) e.2

theorem normalizeFields_eq_mapM (settings : Settings) (location : Location) (properties : Entries) :
    normalizeFields settings location properties = properties.mapM (namedNode settings location) := by
  induction properties with
  | nil =>
    rw [normalizeFields]
    rfl
  | cons e rest ih =>
    obtain ⟨name, raw⟩ := e
    rw [normalizeFields, List.mapM_cons, ← ih]
    simp only [namedNode, propertyNode]
    cases Shape.of raw (location.property name) with
    | error fault => rfl
    | ok shape => cases shape <;> simp only [bind_map_left]

theorem normalize_object {settings : Settings} {location : Location} {raw : Value} (h : shapeOf raw = .ok .object) :
    normalize settings location raw =
      (propertiesOf raw).mapM (namedNode settings location) >>= objectOf := by
  rw [normalize, ← normalizeFields_eq_mapM]
  have h : Shape.of raw location = .ok .object := Shape.of_eq_ok.2 h
  split <;> simp_all

theorem normalize_array {settings : Settings} {location : Location} {raw : Value} (h : shapeOf raw = .ok .array) :
    normalize settings location raw = Node.array <$> normalizeItems settings location.items (itemsOf raw) := by
  rw [normalize]
  have h : Shape.of raw location = .ok .array := Shape.of_eq_ok.2 h
  split <;> simp_all

theorem normalize_opaqueNode {settings : Settings} {location : Location} {raw : Value}
    (h : Shape.of raw location = .ok .opaqueNode) :
    normalize settings location raw = .error (.malformed (.cannotNormalize "opaque") raw location) := by
  rw [normalize]
  split <;> simp_all [Shape.name]

theorem normalize_of_error {settings : Settings} {location : Location} {raw : Value} {fault : Fault}
    (h : Shape.of raw location = .error fault) : normalize settings location raw = .error fault := by
  rw [normalize]
  split <;> simp_all

theorem objectOf_keyedBy (named : List (String × Node)) : objectOf (keyedBy named) = .ok (.object named) := by
  simp [objectOf, keyedBy, List.filterMap_map, Value.text?]

theorem objectOf_of_not_text {fields : List (Value × Node)} {f : Value × Node} (hf : f ∈ fields)
    (h : f.1.text? = none) : ∃ issues, objectOf fields = .error (.invalid .objectOf issues) := by
  simp only [objectOf]
  split_ifs with empty
  · rw [List.isEmpty_iff, List.filterMap_eq_nil_iff] at empty
    have := empty f hf
    cases hk : f.1 <;> simp_all [Value.text?]
  · exact ⟨_, rfl⟩

theorem objectOf_eq_ok {fields : List (Value × Node)} {node : Node} :
    objectOf fields = .ok node ↔ ∃ named, fields = keyedBy named ∧ node = .object named := by
  constructor
  · intro h
    have texts : ∀ f ∈ fields, ∃ name, f.1 = Value.str name := by
      intro f hf
      refine Value.eq_str_of_text? fun none => ?_
      obtain ⟨issues, refused⟩ := objectOf_of_not_text hf none
      rw [refused] at h
      cases h
    obtain ⟨named, rfl⟩ := exists_keyedBy texts
    rw [objectOf_keyedBy] at h
    cases h
    exact ⟨named, rfl, rfl⟩
  · rintro ⟨named, rfl, rfl⟩
    exact objectOf_keyedBy named

/-! ## Success -/

/-- the properties of an object with the fields made of them -/
def FieldsOf (settings : Settings) (location : Location) (properties : Entries) (fields : List (String × Node)) :
    Prop :=
  List.Forall₂ (fun e f => e.1 = .str f.1 ∧ propertyNode settings (location.property e.1) e.2 = .ok f.2)
    properties fields

theorem fieldsOf_of_mapM {settings : Settings} {location : Location} {properties : Entries}
    {fields : List (String × Node)} (h : properties.mapM (namedNode settings location) = .ok (keyedBy fields)) :
    FieldsOf settings location properties fields := by
  have h := mapM_eq_ok.1 h
  rw [keyedBy, List.forall₂_map_right_iff] at h
  refine h.imp fun e f he => ?_
  obtain ⟨node, hn, eq⟩ := map_eq_ok.1 he
  obtain ⟨key, rfl⟩ := Prod.mk.inj eq
  exact ⟨key, hn⟩

theorem normalize_cases {settings : Settings} {location : Location} {raw : Value} {node : Node}
    (h : normalize settings location raw = .ok node) :
    (shapeOf raw = .ok .object ∧
      ∃ fields, FieldsOf settings location (propertiesOf raw) fields ∧ node = .object fields) ∨
    (shapeOf raw = .ok .array ∧ ∃ element, normalizeItems settings location.items (itemsOf raw) = .ok element ∧
      node = .array element) ∨
    (shapeOf raw = .ok .scalar ∧ node = .scalar (typeName raw)) := by
  cases shaped : Shape.of raw location with
  | error fault =>
    rw [normalize_of_error shaped] at h
    cases h
  | ok shape =>
    have plain := Shape.of_eq_ok.1 shaped
    cases shape with
    | object =>
      rw [normalize_object plain] at h
      obtain ⟨fields, built, h⟩ := bind_eq_ok.1 h
      obtain ⟨named, rfl, rfl⟩ := objectOf_eq_ok.1 h
      exact Or.inl ⟨plain, named, fieldsOf_of_mapM built, rfl⟩
    | array =>
      rw [normalize_array plain] at h
      obtain ⟨element, built, rfl⟩ := map_eq_ok.1 h
      exact Or.inr (Or.inl ⟨plain, element, built, rfl⟩)
    | scalar =>
      rw [normalize_scalar shaped] at h
      cases h
      exact Or.inr (Or.inr ⟨plain, rfl⟩)
    | reference =>
      rw [normalize_reference shaped] at h
      cases h
    | opaqueNode =>
      rw [normalize_opaqueNode shaped] at h
      cases h

theorem propertyNode_cases {settings : Settings} {place : Location} {raw : Value} {node : Node}
    (h : propertyNode settings place raw = .ok node) :
    (∃ ref, raw.field? "$ref" = some (.str ref) ∧ node = .component (settings.stripRef ref)) ∨
    (raw.field? "$ref" = none ∧ normalize settings place raw = .ok node) := by
  unfold propertyNode at h
  split at h
  · cases h
  · rename_i shaped
    obtain ⟨ref, found⟩ := keywords_of_reference (Shape.of_eq_ok.1 shaped)
    rw [referenced_of_ref found] at h
    cases h
    exact Or.inl ⟨ref, found, rfl⟩
  · cases h
  · rename_i shape shaped _ _
    refine Or.inr ⟨?_, h⟩
    rcases normalize_cases h with ⟨h, -⟩ | ⟨h, -⟩ | ⟨h, -⟩
    · exact (keywords_of_object h).1
    · exact (keywords_of_array h).1
    · exact (keywords_of_scalar h).1

theorem normalizeItems_cases {settings : Settings} {place : Location} {raw : Value} {node : Node}
    (h : normalizeItems settings place raw = .ok node) :
    (∃ ref, raw.field? "$ref" = some (.str ref) ∧ node = .component (settings.stripRef ref)) ∨
    (raw.field? "$ref" = none ∧ raw.field? "type" = none ∧ node = .object []) ∨
    (raw.field? "$ref" = none ∧ normalize settings place raw = .ok node) := by
  rw [normalizeItems] at h
  split at h
  · cases h
  · rename_i shaped
    obtain ⟨ref, found⟩ := keywords_of_reference (Shape.of_eq_ok.1 shaped)
    rw [referenced_of_ref found] at h
    cases h
    exact Or.inl ⟨ref, found, rfl⟩
  · rename_i shaped
    cases h
    obtain ⟨ref, type⟩ := keywords_of_opaqueNode (Shape.of_eq_ok.1 shaped)
    exact Or.inr (Or.inl ⟨ref, type, rfl⟩)
  · rename_i shape shaped _ _
    refine Or.inr (Or.inr ⟨?_, h⟩)
    rcases normalize_cases h with ⟨h, -⟩ | ⟨h, -⟩ | ⟨h, -⟩
    · exact (keywords_of_object h).1
    · exact (keywords_of_array h).1
    · exact (keywords_of_scalar h).1

/-- what is no keyword of a normal form does not matter to it -/
theorem Alike.normalize {settings : Settings} {location : Location} {raw other : Value} {node : Node}
    (alike : Alike raw other) (h : normalize settings location raw = .ok node) :
    normalize settings location other = .ok node := by
  rcases normalize_cases h with ⟨object, -⟩ | ⟨array, -⟩ | ⟨scalar, rfl⟩
  · rw [normalize_object object] at h
    rwa [normalize_object (alike.shapeOf ▸ object), ← alike.propertiesOf]
  · rw [normalize_array array] at h
    rwa [normalize_array (alike.shapeOf ▸ array), ← alike.itemsOf]
  · rw [normalize_scalar (Shape.of_eq_ok.2 (alike.shapeOf ▸ scalar)), alike.typeName]

/-! ## Recursion -/

/-- the schemas that the normal form of `raw` is made of -/
inductive Part : Value → Value → Prop
  | property {raw key sub : Value} : shapeOf raw = .ok .object → (key, sub) ∈ propertiesOf raw → Part raw sub
  | items {raw : Value} : shapeOf raw = .ok .array → Part raw (itemsOf raw)

theorem Part.sizeOf_lt {raw sub : Value} (h : Part raw sub) : sizeOf sub < sizeOf raw := by
  cases h with
  | property object mem =>
    have shaped : Shape.of raw .top = .ok .object := Shape.of_eq_ok.2 object
    have below := sizeOf_propertiesOf_lt shaped
    have inside := Entries.sizeOf_lt_of_mem mem
    omega
  | items array =>
    have shaped : Shape.of raw .top = .ok .array := Shape.of_eq_ok.2 array
    exact sizeOf_itemsOf_lt shaped

/-- induction from the parts of a schema to the schema -/
theorem schema_induction {motive : Value → Prop} (step : ∀ raw, (∀ sub, Part raw sub → motive sub) → motive raw)
    (raw : Value) : motive raw := by
  induction size : sizeOf raw using Nat.strongRecOn generalizing raw with
  | _ n ih =>
    refine step raw fun sub part => ?_
    exact ih (sizeOf sub) (size ▸ part.sizeOf_lt) sub rfl

end Schema

end ApiTypes
