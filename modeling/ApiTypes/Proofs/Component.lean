/-
What a component is made of.

The properties of a component are a traversal of its raw properties, each stamped with its key and the component's
judgement. The stamps change the two fields of these names and no other (`field?_stamp`), so a property is read from the
keywords that the document gives it.

Main statements: `propertyType_cases`, the ways of reading the type of a property; `propertyOf_eq_ok`, what a property
is made of; `ofRaw_eq_ok`, which component a raw schema gives.
-/
import ApiTypes.Component.Build
import ApiTypes.Proofs.Normalization

namespace ApiTypes

/-! ## Stamps -/

namespace Entries

theorem find?_put_of_ne {name other : String} (h : name ≠ other) (entries : Entries) (v : Value) :
    find? (put entries (.str other) v) name = find? entries name := by
  have skip : (Value.str other).isText name = false := by simpa [Value.isText] using h.symm
  induction entries with
  | nil => simp [put, find?, skip]
  | cons e rest ih =>
    obtain ⟨k, w⟩ := e
    simp only [put]
    split_ifs with same
    · obtain rfl := same_str_right same
      simp [find?, skip]
    · simp [find?, ih]

theorem find?_without {names : List String} {name : String} (h : name ∉ names) (entries : Entries) :
    find? (without entries names) name = find? entries name := by
  induction entries with
  | nil => rfl
  | cons e rest ih =>
    obtain ⟨k, w⟩ := e
    have keeps : k.isText name = true → names.any k.isText = false := by
      intro hk
      cases k with
      | str s =>
        obtain rfl : s = name := by simpa [Value.isText] using hk
        simpa [Value.isText] using fun n hn (eq : s = n) => h (eq ▸ hn)
      | _ => simp [Value.isText] at hk
    simp only [without, List.filter_cons] at ih ⊢
    by_cases hk : k.isText name = true
    · simp [find?, hk, keeps hk]
    · split_ifs <;> simp [find?, hk, ih]

end Entries

namespace Component

variable {names : List Value} {key raw : Value}

theorem field?_stamp {name : String} (hn : name ≠ "name") (hr : name ≠ "required") :
    (stamp names key raw).field? name = raw.field? name := by
  cases raw with
  | map entries => simp only [stamp, Value.field?, Entries.find?_put_of_ne hr, Entries.find?_put_of_ne hn]
  | _ => rfl

theorem field?_stamp_name (h : raw.isMap = true) : (stamp names key raw).field? "name" = some key := by
  obtain ⟨entries, rfl⟩ := Value.isMap_iff.1 h
  simp only [stamp, Value.field?]
  rw [Entries.find?_put_of_ne (by decide), Entries.find?_put_self]

theorem field?_stamp_required (h : raw.isMap = true) :
    (stamp names key raw).field? "required" = some (.bool (isRequired names key)) := by
  obtain ⟨entries, rfl⟩ := Value.isMap_iff.1 h
  simp only [stamp, Value.field?]
  rw [Entries.find?_put_self]

theorem field?_schemaPart {name : String} (hn : name ≠ "name") (hr : name ≠ "required") :
    (Property.schemaPart raw).field? name = raw.field? name := by
  cases raw with
  | map entries => exact Entries.find?_without (by simp [hn, hr]) entries
  | _ => rfl

/-- the stamps are no part of the schema, whether the raw property has fields of these names or not -/
theorem field?_schemaPart_stamp {name : String} (hn : name ≠ "name") (hr : name ≠ "required") :
    (Property.schemaPart (stamp names key raw)).field? name = raw.field? name := by
  rw [field?_schemaPart hn hr, field?_stamp hn hr]

theorem alike_schemaPart_stamp : Schema.Alike (Property.schemaPart (stamp names key raw)) raw := by
  constructor
  · cases raw <;> rfl
  · intro name hn
    refine field?_schemaPart_stamp ?_ ?_ <;> rintro rfl <;> revert hn <;> decide

end Component

/-! ## Shapes of properties -/

theorem Value.textField?_eq_some {raw : Value} {name text : String} :
    raw.textField? name = some text ↔ raw.field? name = some (.str text) := by
  unfold textField?
  cases raw.field? name with
  | none => simp
  | some v => cases v <;> simp [text?]

theorem Value.fieldAmong_iff {raw : Value} {name : String} {texts : List String} :
    raw.fieldAmong name texts = true ↔ ∃ text ∈ texts, raw.field? name = some (.str text) := by
  unfold fieldAmong
  cases h : raw.textField? name with
  | none =>
    simp only [Bool.false_eq_true, false_iff, not_exists, not_and]
    intro text _ found
    rw [textField?_eq_some.2 found] at h
    cases h
  | some text =>
    rw [textField?_eq_some] at h
    simp [h]

theorem propertyShapeOf_cases {raw : Value} {shape : PropertyShape} (h : propertyShapeOf raw = .ok shape) :
    (shape = .oneOf ∧ ∃ items, raw.field? "oneOf" = some (.list items)) ∨
    (shape = .composite ∧ raw.field? "oneOf" = none ∧
      (raw.field? "type" = some (.str "array") ∨ raw.field? "type" = some (.str "object"))) ∨
    (shape = .reference ∧ raw.field? "oneOf" = none ∧ raw.fieldAmong "type" ["array", "object"] = false ∧
      ∃ ref, raw.field? "$ref" = some (.str ref)) ∨
    (shape = .scalar ∧ raw.field? "oneOf" = none ∧ raw.fieldAmong "type" ["array", "object"] = false ∧
      raw.textField? "$ref" = none ∧ raw.field? "type" = some (.str (Schema.typeName raw))) := by
  unfold propertyShapeOf at h
  split at h
  · cases h
  split at h
  · rename_i items found
    cases h
    exact Or.inl ⟨rfl, items, found⟩
  · cases h
  · rename_i oneOf
    split_ifs at h with composite reference scalar
    · cases h
      obtain ⟨text, mem, found⟩ := Value.fieldAmong_iff.1 composite
      refine Or.inr (Or.inl ⟨rfl, oneOf, ?_⟩)
      simpa using (List.mem_pair.1 mem).imp (fun e => e ▸ found) (fun e => e ▸ found)
    · cases h
      obtain ⟨ref, found⟩ := Option.isSome_iff_exists.1 reference
      exact Or.inr (Or.inr (Or.inl
        ⟨rfl, oneOf, by simpa using composite, ref, Value.textField?_eq_some.1 found⟩))
    · cases h
      obtain ⟨type, typed⟩ := Option.isSome_iff_exists.1 (Bool.and_eq_true_iff.1 scalar).1
      rw [Value.textField?_eq_some] at typed
      exact Or.inr (Or.inr (Or.inr ⟨rfl, oneOf, by simpa using composite, by simpa using reference,
        by simp [Schema.typeName, typed]⟩))

theorem propertyShapeOf_composite {raw : Value} (oneOf : raw.field? "oneOf" = none)
    (composite : raw.fieldAmong "type" ["array", "object"] = true) : propertyShapeOf raw = .ok .composite := by
  obtain ⟨type, -, typed⟩ := Value.fieldAmong_iff.1 composite
  simp [propertyShapeOf, Schema.isMap_of_field? typed, oneOf, composite]

theorem PropertyShape.of_eq_ok {raw : Value} {location : Location} {shape : PropertyShape} :
    PropertyShape.of raw location = .ok shape ↔ propertyShapeOf raw = .ok shape := by
  unfold PropertyShape.of
  split <;> simp_all

theorem PropertyShape.of_eq_error {raw : Value} {location : Location} {fault : Fault}
    (h : PropertyShape.of raw location = .error fault) : ∃ reason, fault = .malformed reason raw location := by
  unfold PropertyShape.of at h
  split at h
  · cases h
  · rename_i reason _
    cases h
    exact ⟨reason, rfl⟩

namespace Property

/-- the variant at a position -/
def variantAt (settings : Settings) (location : Location) (e : Value × Nat) : Except Fault Variant :=
  variantOf settings (location.down [.word "oneOf", .index e.2]) e.1

theorem variantsOf_eq_mapM (settings : Settings) (location : Location) (index : Nat) (items : List Value) :
    variantsOf settings location index items = (items.zipIdx index).mapM (variantAt settings location) := by
  induction items generalizing index with
  | nil => rfl
  | cons raw rest ih =>
    rw [variantsOf, List.zipIdx_cons, List.mapM_cons, ← ih]
    rfl

/-- a variant is a plain type by its name, or else a reference -/
theorem variantOf_cases {settings : Settings} {location : Location} {raw : Value} {variant : Variant}
    (h : variantOf settings location raw = .ok variant) :
    (∃ type, raw.field? "type" = some (.str type) ∧ variant.type = .scalar type) ∨
    (raw.textField? "type" = none ∧
      ∃ ref, raw.field? "$ref" = some (.str ref) ∧ variant.type = .component (settings.stripRef ref)) := by
  unfold variantOf at h
  simp only at h
  split_ifs at h
  cases typed : raw.textField? "type" with
  | some type =>
    simp only [typed] at h
    cases h
    exact Or.inl ⟨type, Value.textField?_eq_some.1 typed, rfl⟩
  | none =>
    cases found : raw.textField? "$ref" with
    | some ref =>
      simp only [typed, found] at h
      cases h
      exact Or.inr ⟨rfl, ref, Value.textField?_eq_some.1 found, rfl⟩
    | none =>
      simp only [typed, found] at h
      cases h

theorem ofValues_eq_ok {name description sample : Value} {type : Node} {required : Bool} {p : Property} :
    ofValues name type description sample required = .ok p ↔
      name = .str p.name ∧ description = .str p.description ∧ type = p.type ∧ sample = p.sample ∧
        required = p.required := by
  obtain ⟨pname, ptype, pdescription, psample, prequired⟩ := p
  cases name <;> cases description <;> simp [ofValues, eq_comm, and_left_comm]

theorem descriptionOf_stamp {names : List Value} {key raw : Value} :
    descriptionOf (Component.stamp names key raw) = descriptionOf raw := by
  have : (Component.stamp names key raw).field? "description" = raw.field? "description" :=
    Component.field?_stamp (by decide) (by decide)
  simp only [descriptionOf, this]

end Property

namespace Component

/-! ## Properties of a component -/

variable {settings : Settings} {location : Location} {names : List Value}

/-- the property under a key, stamped and read -/
def propertyOf (settings : Settings) (location : Location) (names : List Value) (e : Value × Value) :
    Except Fault Property :=
  if e.2.isMap then Property.ofRaw settings (location.property e.1) (stamp names e.1 e.2)
  else .error (.malformed .propertyNotMapping e.2 (location.property e.1))

theorem propertiesOf_eq_mapM (properties : Entries) :
    propertiesOf settings location names properties = properties.mapM (propertyOf settings location names) := by
  induction properties with
  | nil => rfl
  | cons e rest ih =>
    obtain ⟨key, raw⟩ := e
    rw [propertiesOf, List.mapM_cons, ← ih, propertyOf]
    cases raw.isMap <;> rfl

/-- the type of the property under a key -/
def propertyType (settings : Settings) (location : Location) (names : List Value) (e : Value × Value) :
    Except Fault Node := do
  let shape ← PropertyShape.of (stamp names e.1 e.2) (location.property e.1)
  Property.typeOf settings (location.property e.1) (stamp names e.1 e.2) shape

theorem propertyOf_of_isMap {e : Value × Value} (h : e.2.isMap = true) :
    propertyOf settings location names e = (do
      let type ← propertyType settings location names e
      Property.ofValues e.1 type (Property.descriptionOf e.2) ((e.2.field? "example").getD (.str ""))
        (isRequired names e.1)) := by
  have sample : (stamp names e.1 e.2).field? "example" = e.2.field? "example" :=
    field?_stamp (by decide) (by decide)
  rw [propertyOf, if_pos h, Property.ofRaw, propertyType, bind_assoc]
  simp only [field?_stamp_name h, field?_stamp_required h, Property.descriptionOf_stamp, sample, Property.isTrue]

/-- the four ways of reading the type of a property, from the keywords that the document gives it -/
theorem propertyType_cases {e : Value × Value} {node : Node}
    (h : propertyType settings location names e = .ok node) :
    (∃ items variants, e.2.field? "oneOf" = some (.list items) ∧
      Property.variantsOf settings (location.property e.1) 0 items = .ok variants ∧ node = .oneOf variants) ∨
    (e.2.field? "oneOf" = none ∧ e.2.fieldAmong "type" ["array", "object"] = true ∧
      Schema.normalize settings (location.property e.1) e.2 = .ok node) ∨
    (e.2.field? "oneOf" = none ∧ e.2.fieldAmong "type" ["array", "object"] = false ∧
      ∃ ref, e.2.field? "$ref" = some (.str ref) ∧ node = .component (settings.stripRef ref)) ∨
    (e.2.field? "oneOf" = none ∧ e.2.fieldAmong "type" ["array", "object"] = false ∧
      e.2.textField? "$ref" = none ∧ ∃ type, e.2.field? "type" = some (.str type) ∧ node = .scalar type) := by
  obtain ⟨shape, shaped, typed⟩ := bind_eq_ok.1 h
  have oneOf : (stamp names e.1 e.2).field? "oneOf" = e.2.field? "oneOf" := field?_stamp (by decide) (by decide)
  have ref : (stamp names e.1 e.2).field? "$ref" = e.2.field? "$ref" := field?_stamp (by decide) (by decide)
  have type : (stamp names e.1 e.2).field? "type" = e.2.field? "type" := field?_stamp (by decide) (by decide)
  have cases := propertyShapeOf_cases (PropertyShape.of_eq_ok.1 shaped)
  simp only [Value.fieldAmong, Value.textField?, oneOf, ref, type] at cases
  rcases cases with ⟨rfl, items, found⟩ | ⟨rfl, none, composite⟩ | ⟨rfl, none, plain, ref', found⟩ |
    ⟨rfl, none, plain, noRef, found⟩
  · simp only [Property.typeOf, oneOf, found] at typed
    obtain ⟨variants, read, rfl⟩ := map_eq_ok.1 typed
    exact Or.inl ⟨items, variants, found, read, rfl⟩
  · refine Or.inr (Or.inl ⟨none, ?_, Component.alike_schemaPart_stamp.normalize typed⟩)
    rw [Value.fieldAmong_iff]
    rcases composite with found | found
    · exact ⟨_, by simp, found⟩
    · exact ⟨_, by simp, found⟩
  · refine Or.inr (Or.inr (Or.inl ⟨none, plain, ref', found, ?_⟩))
    rw [Property.typeOf, Schema.referenced_of_ref (ref.trans found)] at typed
    exact (Except.ok.inj typed).symm
  · refine Or.inr (Or.inr (Or.inr ⟨none, plain, noRef, _, found, ?_⟩))
    exact (Except.ok.inj typed).symm

/-- what the property `p` is made of: the key and the raw schema of `e` -/
structure MadeOf (settings : Settings) (location : Location) (names : List Value) (e : Value × Value) (p : Property) :
    Prop where
  isMap : e.2.isMap = true
  name : e.1 = .str p.name
  type : propertyType settings location names e = .ok p.type
  description : Property.descriptionOf e.2 = .str p.description
  sample : p.sample = (e.2.field? "example").getD (.str "")
  required : p.required = isRequired names e.1

theorem propertyOf_eq_ok {e : Value × Value} {p : Property} :
    propertyOf settings location names e = .ok p ↔ MadeOf settings location names e p := by
  constructor
  · intro h
    by_cases map : e.2.isMap = true
    · rw [propertyOf_of_isMap map] at h
      obtain ⟨type, typed, h⟩ := bind_eq_ok.1 h
      obtain ⟨name, description, rfl, sample, required⟩ := Property.ofValues_eq_ok.1 h
      exact ⟨map, name, typed, description, sample.symm, required.symm⟩
    · rw [propertyOf, if_neg map] at h
      cases h
  · intro h
    rw [propertyOf_of_isMap h.isMap]
    refine bind_eq_ok.2 ⟨p.type, h.type, Property.ofValues_eq_ok.2 ?_⟩
    exact ⟨h.name, h.description, rfl, h.sample.symm, h.required.symm⟩

/-! ## Components -/

/-- the properties of a raw component, one by one, and the names that it requires -/
structure BuiltFrom (settings : Settings) (location : Location) (raw : Value) (properties : Entries)
    (names : List Value) (built : List Property) : Prop where
  found : raw.field? "properties" = some (.map properties)
  required : requiredNames raw location = .ok names
  built : List.Forall₂ (MadeOf settings location names) properties built

theorem result_of_properties {name raw : Value} {properties : Entries}
    (found : raw.field? "properties" = some (.map properties)) :
    (ofRaw settings name raw).result = (do
      let names ← requiredNames raw (placeOf settings name)
      ofProperties <$> properties.mapM (propertyOf settings (placeOf settings name) names)) := by
  have map : raw.isMap = true := Schema.isMap_of_field? found
  simp only [ofRaw, map, found, ← propertiesOf_eq_mapM, Bool.not_true, Bool.false_eq_true, ↓reduceIte]
  rw [Run.result_bind, Run.result_ofExcept]
  congr 1
  funext names
  cases (unknownNames names properties).isEmpty <;> simp
  rfl

/-- the three ways in which the reading of a raw component ends -/
theorem ofRaw_cases (settings : Settings) (name raw : Value) :
    (∃ properties, raw.field? "properties" = some (.map properties)) ∨
    (raw.field? "properties" = none ∧ raw.field? "type" = some (.str "object") ∧
      (ofRaw settings name raw).result = .ok {}) ∨
    ∃ reason, (ofRaw settings name raw).result = .error (.malformed reason raw (placeOf settings name)) := by
  cases map : raw.isMap with
  | false => exact Or.inr (Or.inr ⟨.componentNotMapping, by simp [ofRaw, map]⟩)
  | true =>
    cases found : raw.field? "properties" with
    | none =>
      cases object : raw.fieldAmong "type" ["object"] with
      | true =>
        obtain ⟨text, mem, typed⟩ := Value.fieldAmong_iff.1 object
        obtain rfl := List.mem_singleton.1 mem
        exact Or.inr (Or.inl ⟨rfl, typed, by simp [ofRaw, map, found, object]⟩)
      | false => exact Or.inr (Or.inr ⟨.componentNotObject, by simp [ofRaw, map, found, object]⟩)
    | some given =>
      cases given with
      | map properties => exact Or.inl ⟨properties, rfl⟩
      | _ => exact Or.inr (Or.inr ⟨.propertiesNotMapping, by simp [ofRaw, map, found]⟩)

theorem ofRaw_eq_ok {name raw : Value} {c : Component} (h : (ofRaw settings name raw).result = .ok c) :
    (raw.field? "properties" = none ∧ raw.field? "type" = some (.str "object") ∧ c = {}) ∨
    ∃ properties names built,
      BuiltFrom settings (placeOf settings name) raw properties names built ∧ c = ofProperties built := by
  rcases ofRaw_cases settings name raw with ⟨properties, found⟩ | ⟨found, typed, result⟩ | ⟨reason, result⟩
  · rw [result_of_properties found] at h
    obtain ⟨names, required, h⟩ := bind_eq_ok.1 h
    obtain ⟨built, made, rfl⟩ := map_eq_ok.1 h
    refine Or.inr ⟨properties, names, built, ⟨found, required, ?_⟩, rfl⟩
    exact (mapM_eq_ok.1 made).imp fun e p => propertyOf_eq_ok.1
  · rw [result] at h
    cases h
    exact Or.inl ⟨found, typed, rfl⟩
  · rw [result] at h
    cases h

theorem mem_properties_ofProperties {built : List Property} {p : Property} :
    p ∈ (ofProperties built).properties ↔ p ∈ built :=
  (ofProperties_perm built).mem_iff

end Component

end ApiTypes
