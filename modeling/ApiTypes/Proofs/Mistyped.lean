/-
Mistyped documents: where a build ends with a fault that is none of its document's.

Most values of a document are looked at before they are used, and one of the wrong type is refused with its place. A few
are not looked at: the keys that become names, texts that a record holds, entries under `required`, operation ids, the
components section. `Mistyped` says, builder by builder, which values these are. A value counts only where the build
comes to it (`Reaches`), since it ends with the first fault.

Main statements: `strays_ofDocument`, a build ends with a fault outside the document's class exactly for mistyped
documents; `built_or_refused_iff`, every other description is built or refused with a fault that the command line
reports.
-/
import ApiTypes.CommandLine.Plan
import ApiTypes.Proofs.Documentation

namespace ApiTypes

variable {settings : Settings} {location : Location} {registry : Registry}

/-! ## Stray faults -/

/-- a class that holds the faults of records and bare values, and no refusal of a raw node -/
structure Separates (stray : Fault → Prop) : Prop where
  malformed : ∀ reason node location, ¬ stray (.malformed reason node location)
  invalid : ∀ kind issues, stray (.invalid kind issues)
  badKey : ∀ type, stray (.badKey type)
  operationId : ∀ type, stray (.operationId type)
  noEntries : ∀ type, stray (.noEntries type)

/-- faults without a place -/
def Placeless (fault : Fault) : Prop := fault.location? = none

/-- faults that the command line does not report -/
def Unreported (fault : Fault) : Prop := fault.isDocumentFault = false

theorem separates_placeless : Separates Placeless := by
  constructor <;> simp [Placeless, Fault.location?]

theorem separates_unreported : Separates Unreported := by
  constructor <;> simp [Unreported, Fault.isDocumentFault]

/-- a class without references that name no component -/
def Resolved (stray : Fault → Prop) : Prop := ∀ component node location, ¬ stray (.unresolved component node location)

theorem resolved_placeless : Resolved Placeless := by
  simp [Resolved, Placeless, Fault.location?]

theorem resolved_unreported : Resolved Unreported := by
  simp [Resolved, Unreported, Fault.isDocumentFault]

/-- the outcome is a fault of the class -/
def Strays {α : Type} (stray : Fault → Prop) (outcome : Except Fault α) : Prop :=
  ∃ fault, outcome = .error fault ∧ stray fault

section Strays

variable {α β : Type} {stray : Fault → Prop}

@[simp] theorem not_strays_ok (a : α) : ¬ Strays stray (.ok a : Except Fault α) := by
  rintro ⟨fault, h, -⟩
  cases h

@[simp] theorem strays_error {fault : Fault} : Strays stray (.error fault : Except Fault α) ↔ stray fault := by
  simp [Strays]

theorem strays_bind {x : Except Fault α} {f : α → Except Fault β} :
    Strays stray (x >>= f) ↔ Strays stray x ∨ ∃ a, x = .ok a ∧ Strays stray (f a) := by
  cases x with
  | error fault => simp [bind, Except.bind]
  | ok a => simp [bind, Except.bind]

@[simp] theorem strays_map {x : Except Fault α} {f : α → β} : Strays stray (f <$> x) ↔ Strays stray x := by
  cases x with
  | error fault => simp [Functor.map, Except.map]
  | ok a => simp [Functor.map, Except.map]

theorem strays_mapM {check : α → Except Fault β} {items : List α} :
    Strays stray (items.mapM check) ↔ ∃ x, Reaches check items x ∧ Strays stray (check x) := by
  constructor
  · rintro ⟨fault, h, hs⟩
    obtain ⟨x, reached, hx⟩ := mapM_eq_error.1 h
    exact ⟨x, reached, fault, hx, hs⟩
  · rintro ⟨x, reached, fault, hx, hs⟩
    exact ⟨fault, mapM_eq_error.2 ⟨x, reached, hx⟩, hs⟩

end Strays

variable {stray : Fault → Prop}

/-! ## Schemas -/

namespace Schema

/-- an inline object, at any depth, has fields that are all accepted and a key among them that is no text -/
inductive Mistyped (settings : Settings) : Location → Value → Prop
  | key {location raw fields e} : shapeOf raw = .ok .object →
      (propertiesOf raw).mapM (namedNode settings location) = .ok fields → e ∈ propertiesOf raw → e.1.text? = none →
      Mistyped settings location raw
  | property {location raw e} : shapeOf raw = .ok .object →
      Reaches (namedNode settings location) (propertiesOf raw) e → Mistyped settings (location.property e.1) e.2 →
      Mistyped settings location raw
  | items {location raw} : shapeOf raw = .ok .array → Mistyped settings location.items (itemsOf raw) →
      Mistyped settings location raw

theorem strays_propertyNode (separates : Separates stray) {raw : Value} :
    Strays stray (propertyNode settings location raw) ↔ Strays stray (normalize settings location raw) := by
  cases shaped : Shape.of raw location with
  | error fault => simp [propertyNode, shaped, normalize_of_error shaped]
  | ok shape =>
    cases shape with
    | reference => simp [propertyNode, shaped, normalize_reference shaped, separates.malformed]
    | opaqueNode => simp [propertyNode, shaped, normalize_opaqueNode shaped, separates.malformed]
    | _ => simp [propertyNode, shaped]

theorem strays_normalizeItems (separates : Separates stray) {raw : Value} :
    Strays stray (normalizeItems settings location raw) ↔ Strays stray (normalize settings location raw) := by
  rw [normalizeItems]
  cases shaped : Shape.of raw location with
  | error fault => simp [normalize_of_error shaped]
  | ok shape =>
    cases shape with
    | reference => simp [normalize_reference shaped, separates.malformed]
    | opaqueNode => simp [normalize_opaqueNode shaped, separates.malformed]
    | _ => simp

theorem strays_objectOf (separates : Separates stray) {fields : List (Value × Node)} :
    Strays stray (objectOf fields) ↔ ∃ f ∈ fields, f.1.text? = none := by
  constructor
  · intro h
    by_contra texts
    push Not at texts
    obtain ⟨named, rfl⟩ := exists_keyedBy fun f hf => Value.eq_str_of_text? (texts f hf)
    rw [objectOf_keyedBy] at h
    exact not_strays_ok _ h
  · rintro ⟨f, hf, h⟩
    obtain ⟨issues, eq⟩ := objectOf_of_not_text hf h
    rw [eq, strays_error]
    exact separates.invalid _ _

/-- the fields that are read have the keys of the properties -/
theorem exists_key_iff {properties : Entries} {fields : List (Value × Node)}
    (h : properties.mapM (namedNode settings location) = .ok fields) :
    (∃ f ∈ fields, f.1.text? = none) ↔ ∃ e ∈ properties, e.1.text? = none := by
  refine (exists_iff_of_forall₂ (mapM_eq_ok.1 h) fun e he f read => ?_).symm
  obtain ⟨node, -, rfl⟩ := map_eq_ok.1 read
  rfl

theorem strays_normalize (separates : Separates stray) {raw : Value} :
    Strays stray (normalize settings location raw) ↔ Mistyped settings location raw := by
  induction raw using schema_induction generalizing location with
  | step raw ih =>
    constructor
    · intro h
      cases shaped : Shape.of raw location with
      | error fault =>
        obtain ⟨reason, rfl⟩ := Shape.of_eq_error shaped
        rw [normalize_of_error shaped, strays_error] at h
        exact absurd h (separates.malformed _ _ _)
      | ok shape =>
        have plain := Shape.of_eq_ok.1 shaped
        cases shape with
        | object =>
          rw [normalize_object plain, strays_bind, strays_mapM] at h
          rcases h with ⟨e, reached, h⟩ | ⟨fields, read, h⟩
          · rw [namedNode, strays_map, strays_propertyNode separates, ih e.2 (.property plain reached.mem)] at h
            exact .property plain reached h
          · rw [strays_objectOf separates, exists_key_iff read] at h
            obtain ⟨e, mem, key⟩ := h
            exact .key plain read mem key
        | array =>
          rw [normalize_array plain, strays_map, strays_normalizeItems separates, ih _ (.items plain)] at h
          exact .items plain h
        | scalar =>
          rw [normalize_scalar shaped] at h
          exact absurd h (not_strays_ok _)
        | reference =>
          rw [normalize_reference shaped, strays_error] at h
          exact absurd h (separates.malformed _ _ _)
        | opaqueNode =>
          rw [normalize_opaqueNode shaped, strays_error] at h
          exact absurd h (separates.malformed _ _ _)
    · intro h
      cases h with
      | key object read mem key =>
        rw [normalize_object object, strays_bind]
        exact Or.inr ⟨_, read, (strays_objectOf separates).2 ((exists_key_iff read).2 ⟨_, mem, key⟩)⟩
      | property object reached h =>
        rw [normalize_object object, strays_bind, strays_mapM]
        refine Or.inl ⟨_, reached, ?_⟩
        rw [namedNode, strays_map, strays_propertyNode separates]
        exact (ih _ (.property object reached.mem)).2 h
      | items array h =>
        rw [normalize_array array, strays_map, strays_normalizeItems separates]
        exact (ih _ (.items array)).2 h

/-- what is no keyword of a normal form does not matter to its faults either -/
theorem Alike.mistyped {raw other : Value} (alike : Alike raw other) (h : Mistyped settings location raw) :
    Mistyped settings location other := by
  cases h with
  | key object read mem key =>
    rw [alike.propertiesOf] at read mem
    exact .key (alike.shapeOf ▸ object) read mem key
  | property object reached h =>
    rw [alike.propertiesOf] at reached
    exact .property (alike.shapeOf ▸ object) reached h
  | items array h =>
    rw [alike.itemsOf] at h
    exact .items (alike.shapeOf ▸ array) h

end Schema

/-! ## Properties -/

/-- a nested object is mistyped, or the type is read and the key or the description is no text -/
inductive Property.Mistyped (settings : Settings) (location : Location) (names : List Value) (e : Value × Value) : Prop
  | nested : e.2.field? "oneOf" = none → e.2.fieldAmong "type" ["array", "object"] = true →
      Schema.Mistyped settings (location.property e.1) e.2 → Mistyped settings location names e
  | text {node} : e.2.isMap = true → Component.propertyType settings location names e = .ok node →
      e.1.text? = none ∨ (Property.descriptionOf e.2).text? = none → Mistyped settings location names e

namespace Component

variable {names : List Value}

theorem not_strays_shape (separates : Separates stray) {raw : Value} :
    ¬ Strays stray (PropertyShape.of raw location) := by
  rintro ⟨fault, h, hs⟩
  obtain ⟨reason, rfl⟩ := PropertyShape.of_eq_error h
  exact separates.malformed _ _ _ hs

theorem not_strays_variantOf (separates : Separates stray) {raw : Value} :
    ¬ Strays stray (Property.variantOf settings location raw) := by
  unfold Property.variantOf
  simp only
  split_ifs
  · simp [separates.malformed]
  · split <;> simp [separates.malformed]

theorem not_strays_variantsOf (separates : Separates stray) {index : Nat} {items : List Value} :
    ¬ Strays stray (Property.variantsOf settings location index items) := by
  rw [Property.variantsOf_eq_mapM, strays_mapM]
  rintro ⟨e, -, h⟩
  exact not_strays_variantOf separates h

theorem strays_propertyType (separates : Separates stray) {e : Value × Value} :
    Strays stray (propertyType settings location names e) ↔
      e.2.field? "oneOf" = none ∧ e.2.fieldAmong "type" ["array", "object"] = true ∧
        Schema.Mistyped settings (location.property e.1) e.2 := by
  have oneOf : (stamp names e.1 e.2).field? "oneOf" = e.2.field? "oneOf" := field?_stamp (by decide) (by decide)
  have type : (stamp names e.1 e.2).field? "type" = e.2.field? "type" := field?_stamp (by decide) (by decide)
  have among : (stamp names e.1 e.2).fieldAmong "type" = e.2.fieldAmong "type" := by
    funext texts
    simp only [Value.fieldAmong, Value.textField?, type]
  rw [propertyType, strays_bind]
  constructor
  · rintro (h | ⟨shape, shaped, h⟩)
    · exact absurd h (not_strays_shape separates)
    · rcases propertyShapeOf_cases (PropertyShape.of_eq_ok.1 shaped) with ⟨rfl, items, found⟩ | ⟨rfl, none, composite⟩ |
        ⟨rfl, -⟩ | ⟨rfl, -⟩
      · simp only [Property.typeOf, found] at h
        rw [bind_pure_comp, strays_map] at h
        exact absurd h (not_strays_variantsOf separates)
      · refine ⟨oneOf ▸ none, ?_, alike_schemaPart_stamp.mistyped ((Schema.strays_normalize separates).1 h)⟩
        rw [← among, Value.fieldAmong_iff]
        rcases composite with found | found
        · exact ⟨_, by simp, found⟩
        · exact ⟨_, by simp, found⟩
      · exact absurd h (not_strays_ok _)
      · exact absurd h (not_strays_ok _)
  · rintro ⟨none, composite, h⟩
    refine Or.inr ⟨.composite, PropertyShape.of_eq_ok.2 ?_, ?_⟩
    · exact propertyShapeOf_composite (oneOf.trans none) (among ▸ composite)
    · exact (Schema.strays_normalize separates).2 (alike_schemaPart_stamp.symm.mistyped h)

theorem strays_ofValues (separates : Separates stray) {name description sample : Value} {type : Node}
    {required : Bool} :
    Strays stray (Property.ofValues name type description sample required) ↔
      name.text? = none ∨ description.text? = none := by
  unfold Property.ofValues
  split
  · simp [Value.text?]
  · rename_i other
    simp only [strays_error, separates.invalid, true_iff]
    by_contra texts
    push Not at texts
    obtain ⟨n, hn⟩ := Value.eq_str_of_text? texts.1
    obtain ⟨d, hd⟩ := Value.eq_str_of_text? texts.2
    exact other n d hn hd

theorem strays_propertyOf (separates : Separates stray) {e : Value × Value} :
    Strays stray (propertyOf settings location names e) ↔ Property.Mistyped settings location names e := by
  constructor
  · intro h
    by_cases map : e.2.isMap = true
    · rw [propertyOf_of_isMap map, strays_bind] at h
      rcases h with h | ⟨node, typed, h⟩
      · obtain ⟨oneOf, composite, h⟩ := (strays_propertyType separates).1 h
        exact .nested oneOf composite h
      · exact .text map typed ((strays_ofValues separates).1 h)
    · rw [propertyOf, if_neg map, strays_error] at h
      exact absurd h (separates.malformed _ _ _)
  · intro h
    cases h with
    | nested oneOf composite h =>
      obtain ⟨type, -, typed⟩ := Value.fieldAmong_iff.1 composite
      rw [propertyOf_of_isMap (Schema.isMap_of_field? typed), strays_bind]
      exact Or.inl ((strays_propertyType separates).2 ⟨oneOf, composite, h⟩)
    | text map typed h =>
      rw [propertyOf_of_isMap map, strays_bind]
      exact Or.inr ⟨_, typed, (strays_ofValues separates).2 h⟩

end Component

/-! ## Components -/

/-- an entry of `required` is no key, or a property is mistyped -/
inductive Component.Mistyped (settings : Settings) (name raw : Value) : Prop
  | required {properties names n} : raw.field? "properties" = some (.map properties) →
      raw.field? "required" = some (.list names) → n ∈ names → n.keyFault ≠ none → Mistyped settings name raw
  | property {properties names e} : raw.field? "properties" = some (.map properties) →
      Component.requiredNames raw (Component.placeOf settings name) = .ok names →
      Reaches (Component.propertyOf settings (Component.placeOf settings name) names) properties e →
      Property.Mistyped settings (Component.placeOf settings name) names e → Mistyped settings name raw

namespace Component

theorem strays_requiredNames (separates : Separates stray) {raw : Value} :
    Strays stray (requiredNames raw location) ↔
      ∃ names n, raw.field? "required" = some (.list names) ∧ n ∈ names ∧ n.keyFault ≠ none := by
  unfold requiredNames
  cases found : raw.field? "required" with
  | none => simp
  | some given =>
    cases given with
    | list names =>
      cases names with
      | nil => simp [Value.isGiven]
      | cons first rest =>
        cases fault : (first :: rest).findSome? Value.keyFault with
        | none =>
          have clean := List.findSome?_eq_none_iff.1 fault
          simp only [Value.isGiven, List.isEmpty_cons, fault]
          simpa using clean
        | some type =>
          have mem := List.exists_of_findSome?_eq_some fault
          simp only [Value.isGiven, List.isEmpty_cons, fault]
          obtain ⟨n, hn, eq⟩ := mem
          simp only [Bool.not_true, Bool.not_false, Bool.false_eq_true, ↓reduceIte, strays_error, separates.badKey,
            true_iff]
          exact ⟨_, n, rfl, hn, by simp [eq]⟩
    | _ =>
      simp only [reduceCtorEq, Option.some.injEq, false_and, exists_false, iff_false]
      split_ifs <;> simp [separates.malformed]

theorem strays_ofRaw (separates : Separates stray) {name raw : Value} :
    Strays stray (ofRaw settings name raw).result ↔ Mistyped settings name raw := by
  constructor
  · intro h
    rcases ofRaw_cases settings name raw with ⟨properties, found⟩ | ⟨-, -, result⟩ | ⟨reason, result⟩
    · rw [result_of_properties found, strays_bind] at h
      rcases h with h | ⟨names, required, h⟩
      · obtain ⟨names, n, given, mem, fault⟩ := (strays_requiredNames separates).1 h
        exact .required found given mem fault
      · rw [strays_map, strays_mapM] at h
        obtain ⟨e, reached, h⟩ := h
        exact .property found required reached ((strays_propertyOf separates).1 h)
    · rw [result] at h
      exact absurd h (not_strays_ok _)
    · rw [result, strays_error] at h
      exact absurd h (separates.malformed _ _ _)
  · intro h
    cases h with
    | required found given mem fault =>
      rw [result_of_properties found, strays_bind]
      exact Or.inl ((strays_requiredNames separates).2 ⟨_, _, given, mem, fault⟩)
    | property found required reached h =>
      rw [result_of_properties found, strays_bind]
      refine Or.inr ⟨_, required, ?_⟩
      rw [strays_map, strays_mapM]
      exact ⟨_, reached, (strays_propertyOf separates).2 h⟩

end Component

/-! ## Operations -/

/-- a parameter with all that it needs, whose name, place or description is no text -/
inductive Parameter.Mistyped (raw : Value) : Prop
  | text {name place schema} : raw.field? "name" = some name → raw.field? "in" = some place →
      raw.field? "schema" = some schema → schema.textField? "type" ≠ none →
      name.text? = none ∨ place.text? = none ∨ (Property.descriptionOf raw).text? = none → Mistyped raw

theorem Parameter.strays_ofValues (separates : Separates stray) {name place description sample : Value} {type : String}
    {required : Bool} :
    Strays stray (ofValues name place type sample required description) ↔
      name.text? = none ∨ place.text? = none ∨ description.text? = none := by
  unfold ofValues
  split
  · simp [Value.text?]
  · rename_i other
    simp only [strays_error, separates.invalid, true_iff]
    by_contra texts
    push Not at texts
    obtain ⟨n, hn⟩ := Value.eq_str_of_text? texts.1
    obtain ⟨p, hp⟩ := Value.eq_str_of_text? texts.2.1
    obtain ⟨d, hd⟩ := Value.eq_str_of_text? texts.2.2
    exact other n p d hn hp hd

theorem Parameter.strays_ofRaw (separates : Separates stray) {raw : Value} :
    Strays stray (ofRaw location raw) ↔ Mistyped raw := by
  constructor
  · intro h
    unfold ofRaw at h
    split at h
    · rename_i name place schema
      split at h
      · exact absurd (strays_error.1 h) (separates.malformed _ _ _)
      · rename_i type typed
        exact .text name place schema (by simp [typed]) ((strays_ofValues separates).1 h)
    · exact absurd (strays_error.1 h) (separates.malformed _ _ _)
  · rintro ⟨name, place, schema, typed, h⟩
    obtain ⟨type, typed⟩ := Option.ne_none_iff_exists'.1 typed
    simp only [ofRaw, name, place, schema, typed]
    exact (strays_ofValues separates).2 h

/-- the first content type of a foreign body is no text, or an inline schema is mistyped -/
inductive RequestBody.Mistyped (settings : Settings) (raw : Value) : Prop
  | contentType {contentType} : RequestBody.Foreign settings raw contentType → contentType.text? = none →
      Mistyped settings raw
  | schema {schema} : RequestBody.rawSchema? settings raw = some schema → schema.textField? "$ref" = none →
      schema.field? "type" = some (.str "object") → Component.Mistyped settings (.str "") schema → Mistyped settings raw

theorem RequestBody.strays_schemaOfRaw (separates : Separates stray) (resolved : Resolved stray) {schema : Value} :
    Strays stray (schemaOfRaw registry settings location schema).result ↔
      schema.textField? "$ref" = none ∧ schema.field? "type" = some (.str "object") ∧
        Component.Mistyped settings (.str "") schema := by
  constructor
  · intro h
    rcases schemaOfRaw_cases registry settings location schema with ⟨ref, found⟩ | ⟨ref, typed⟩ | ⟨reason, result⟩
    · rw [schemaOfRaw_of_ref found] at h
      split at h
      · exact absurd h (not_strays_ok _)
      · exact absurd (strays_error.1 h) (resolved _ _ _)
    · rw [schemaOfRaw_inline ref typed, strays_map, Component.strays_ofRaw separates] at h
      exact ⟨ref, typed, h⟩
    · rw [result, strays_error] at h
      exact absurd h (separates.malformed _ _ _)
  · rintro ⟨ref, typed, h⟩
    rw [schemaOfRaw_inline ref typed, strays_map]
    exact (Component.strays_ofRaw separates).2 h

theorem RequestBody.strays_ofRaw (separates : Separates stray) (resolved : Resolved stray) {raw : Value} :
    Strays stray (ofRaw registry settings location raw).result ↔ Mistyped settings raw := by
  constructor
  · intro h
    rcases ofRaw_cases registry settings location raw with ⟨-, result⟩ | ⟨contentType, foreign⟩ | ⟨schema, given⟩ |
      ⟨reason, place, result, -⟩
    · rw [result] at h
      exact absurd h (not_strays_ok _)
    · rw [result_of_foreign foreign] at h
      refine .contentType foreign ?_
      cases contentType <;> first | rfl | exact absurd h (not_strays_ok _)
    · rw [result_of_rawSchema given, strays_map, strays_schemaOfRaw separates resolved] at h
      exact .schema given h.1 h.2.1 h.2.2
    · rw [result, strays_error] at h
      exact absurd h (separates.malformed _ _ _)
  · intro h
    cases h with
    | contentType foreign text =>
      rw [result_of_foreign foreign]
      split
      · cases text
      · exact strays_error.2 (separates.invalid _ _)
    | schema given ref typed h =>
      rw [result_of_rawSchema given, strays_map]
      exact (strays_schemaOfRaw separates resolved).2 ⟨ref, typed, h⟩

/-- the first value of a represented operation that is not what its record needs, everything before it being accepted -/
inductive Operation.Mistyped (registry : Registry) (settings : Settings) (path entry : Value) : Prop
  | argument {method operation items e} : Operation.represented? settings entry = some (method, operation) →
      operation.field? "parameters" = some (.list items) →
      Reaches (Parameter.parameterOf (Operation.placeOf path entry)) items.zipIdx e → Parameter.Mistyped e.1 →
      Mistyped registry settings path entry
  | body {operation arguments} : Operation.represented? settings entry = some (.post, operation) →
      Operation.argumentsOf (Operation.placeOf path entry) operation = .ok arguments →
      RequestBody.Mistyped settings (Operation.rawBody operation) →
      Mistyped registry settings path entry
  | operationId {method operation arguments body} :
      Operation.represented? settings entry = some (method, operation) →
      Operation.argumentsOf (Operation.placeOf path entry) operation = .ok arguments →
      Operation.bodyOf registry settings (Operation.placeOf path entry) method operation = .ok body →
      ((operation.field? "operationId").getD .null).text? = none → Mistyped registry settings path entry
  | text {method operation arguments body id type} :
      Operation.represented? settings entry = some (method, operation) →
      Operation.argumentsOf (Operation.placeOf path entry) operation = .ok arguments →
      Operation.bodyOf registry settings (Operation.placeOf path entry) method operation = .ok body →
      (operation.field? "operationId").getD .null = .str id →
      Response.typeOf settings ((Operation.placeOf path entry).down [.word "responses"])
        ((operation.field? "responses").getD .null) = .ok type →
      path.text? = none ∨ ((operation.field? "summary").getD .null).text? = none ∨
        (groupOf settings operation).text? = none →
      Mistyped registry settings path entry

namespace Operation

theorem strays_argumentsOf (separates : Separates stray) {operation : Value} :
    Strays stray (argumentsOf location operation) ↔ ∃ items e, operation.field? "parameters" = some (.list items) ∧
      Reaches (Parameter.parameterOf location) items.zipIdx e ∧ Parameter.Mistyped e.1 := by
  unfold argumentsOf
  cases found : operation.field? "parameters" with
  | none => simp
  | some given =>
    cases given with
    | list items =>
      have list : Strays stray (Parameter.listOfRaw location 0 items) ↔
          ∃ e, Reaches (Parameter.parameterOf location) items.zipIdx e ∧ Parameter.Mistyped e.1 := by
        simp only [Parameter.listOfRaw_eq_mapM, strays_mapM, Parameter.parameterOf, Parameter.strays_ofRaw separates]
      cases items with
      | nil => simp [Value.isGiven, not_reaches_nil]
      | cons first rest => simpa [Value.isGiven] using list
    | _ =>
      simp only [reduceCtorEq, Option.some.injEq, false_and, exists_false, iff_false]
      split_ifs <;> simp [separates.malformed]

theorem strays_bodyOf (separates : Separates stray) (resolved : Resolved stray) {method : Method} {operation : Value} :
    Strays stray (bodyOf registry settings location method operation) ↔
      method = .post ∧ RequestBody.Mistyped settings (Operation.rawBody operation) := by
  cases method with
  | get => simp [bodyOf]
  | post => simp [bodyOf, RequestBody.strays_ofRaw separates resolved]

theorem not_strays_typeOf (separates : Separates stray) {responses : Value} :
    ¬ Strays stray (Response.typeOf settings location responses) := by
  unfold Response.typeOf
  cases responses with
  | map entries =>
    simp only
    split
    · simp [separates.malformed]
    · split
      · split <;> simp [separates.malformed]
      · simp [separates.malformed]
  | _ => simp [separates.malformed]

theorem strays_operationIdOf (separates : Separates stray) {raw : Value} :
    Strays stray (operationIdOf raw) ↔ raw.text? = none := by
  cases raw <;> simp [operationIdOf, Value.text?, separates.operationId]

theorem strays_ofValues (separates : Separates stray) {endpoint summary group : Value} {operationId : String}
    {deprecated : Bool} {method : Method} {arguments : List Parameter} {body : Option RequestBody} {type : Node} :
    Strays stray (ofValues endpoint operationId summary deprecated method arguments body type group) ↔
      endpoint.text? = none ∨ summary.text? = none ∨ group.text? = none := by
  unfold ofValues
  split
  · simp [Value.text?]
  · rename_i other
    simp only [strays_error, separates.invalid, true_iff]
    by_contra texts
    push Not at texts
    obtain ⟨e, he⟩ := Value.eq_str_of_text? texts.1
    obtain ⟨s, hs⟩ := Value.eq_str_of_text? texts.2.1
    obtain ⟨g, hg⟩ := Value.eq_str_of_text? texts.2.2
    exact other e s g he hs hg

theorem strays_ofRaw (separates : Separates stray) (resolved : Resolved stray) {path entry : Value} :
    Strays stray (ofRaw registry settings path entry).result ↔ Mistyped registry settings path entry := by
  rw [result_ofRaw]
  constructor
  · intro h
    split at h
    · exact absurd h (not_strays_ok _)
    · rename_i method operation represented
      rw [strays_map, result_ofComplete, strays_bind] at h
      rcases h with h | ⟨arguments, read, h⟩
      · obtain ⟨items, e, found, reached, h⟩ := (strays_argumentsOf separates).1 h
        exact .argument represented found reached h
      rcases strays_bind.1 h with h | ⟨body, bodied, h⟩
      · obtain ⟨rfl, body⟩ := (strays_bodyOf separates resolved).1 h
        exact .body represented read body
      rcases strays_bind.1 h with h | ⟨id, named, h⟩
      · exact .operationId represented read bodied ((strays_operationIdOf separates).1 h)
      rcases strays_bind.1 h with h | ⟨type, typed, h⟩
      · exact absurd h (not_strays_typeOf separates)
      · exact .text represented read bodied (operationIdOf_eq_ok.1 named) typed ((strays_ofValues separates).1 h)
  · intro h
    cases h with
    | argument represented found reached h =>
      simp only [represented, strays_map, result_ofComplete]
      exact strays_bind.2 (Or.inl ((strays_argumentsOf separates).2 ⟨_, _, found, reached, h⟩))
    | body represented read h =>
      simp only [represented, strays_map, result_ofComplete]
      exact strays_bind.2 (Or.inr ⟨_, read, strays_bind.2 (Or.inl ((strays_bodyOf separates resolved).2 ⟨rfl, h⟩))⟩)
    | operationId represented read bodied h =>
      simp only [represented, strays_map, result_ofComplete]
      refine strays_bind.2 (Or.inr ⟨_, read, strays_bind.2 (Or.inr ⟨_, bodied, strays_bind.2 (Or.inl ?_)⟩)⟩)
      exact (strays_operationIdOf separates).2 h
    | text represented read bodied named typed h =>
      simp only [represented, strays_map, result_ofComplete]
      refine strays_bind.2 (Or.inr ⟨_, read, strays_bind.2 (Or.inr ⟨_, bodied, strays_bind.2 (Or.inr ?_)⟩)⟩)
      refine ⟨_, operationIdOf_eq_ok.2 named, strays_bind.2 (Or.inr ⟨_, typed, ?_⟩)⟩
      exact (strays_ofValues separates).2 h

end Operation

/-! ## Documents -/

/-- the components section is no mapping, or the build comes to a mistyped component, operation or component key -/
inductive Mistyped (settings : Settings) (document : Value) : Prop
  | components : (Registry.componentsOf document).isMap = false → Mistyped settings document
  | component {schemas e} : Registry.schemasOf document = .map schemas →
      Reaches (Registry.componentOf settings) schemas e → Component.Mistyped settings e.1 e.2 →
      Mistyped settings document
  | operation {registry paths e} : (Registry.ofDocument settings document).result = .ok registry →
      Documentation.pathsOf document = .map paths → Reaches (Documentation.operationOf registry settings) paths e →
      Operation.Mistyped registry settings e.1 e.2 → Mistyped settings document
  | key {registry operations e} : (Registry.ofDocument settings document).result = .ok registry →
      (Documentation.operationsOfDocument registry settings document).result = .ok operations → e ∈ registry →
      e.1.text? = none → Mistyped settings document

namespace Registry

theorem strays_ofDocument (separates : Separates stray) {document : Value} (map : document.isMap = true) :
    Strays stray (ofDocument settings document).result ↔ (componentsOf document).isMap = false ∨
      ∃ schemas e, schemasOf document = .map schemas ∧ Reaches (componentOf settings) schemas e ∧
        Component.Mistyped settings e.1 e.2 := by
  rw [result_ofDocument settings map]
  cases components : (componentsOf document).isMap with
  | false => simp [separates.noEntries]
  | true =>
    simp only [↓reduceIte, Bool.true_eq_false, false_or]
    cases schemasOf document with
    | map schemas =>
      rw [strays_mapM]
      simp [componentOf, Component.strays_ofRaw separates]
    | _ => simp [separates.malformed]

theorem strays_keyed (separates : Separates stray) :
    Strays stray registry.keyed ↔ ∃ e ∈ registry, e.1.text? = none := by
  constructor
  · intro h
    by_contra texts
    push Not at texts
    obtain ⟨named, rfl⟩ := exists_keyedBy fun e he => Value.eq_str_of_text? (texts e he)
    rw [keyed_eq_ok.2 rfl] at h
    exact not_strays_ok _ h
  · rintro ⟨e, he, h⟩
    obtain ⟨issues, eq⟩ := keyed_of_not_text he h
    rw [eq, strays_error]
    exact separates.invalid _ _

end Registry

namespace Documentation

theorem strays_operationsOfDocument (separates : Separates stray) (resolved : Resolved stray) {document : Value}
    (map : document.isMap = true) :
    Strays stray (operationsOfDocument registry settings document).result ↔
      ∃ paths e, pathsOf document = .map paths ∧ Reaches (operationOf registry settings) paths e ∧
        Operation.Mistyped registry settings e.1 e.2 := by
  rw [result_operationsOfDocument registry settings map]
  cases pathsOf document with
  | map paths =>
    simp only [strays_map, strays_mapM]
    simp [operationOf, Operation.strays_ofRaw separates resolved]
  | _ => simp [separates.malformed]

/-- **A build ends with a fault outside the document's class exactly for mistyped documents.** -/
theorem strays_ofDocument (separates : Separates stray) (resolved : Resolved stray) {document : Value}
    (map : document.isMap = true) :
    Strays stray (ofDocument settings document).result ↔ Mistyped settings document := by
  rw [result_ofDocument, strays_bind, Registry.strays_ofDocument separates map]
  constructor
  · rintro ((h | ⟨schemas, e, given, reached, h⟩) | ⟨registry, built, h⟩)
    · exact .components h
    · exact .component given reached h
    rcases strays_bind.1 h with h | ⟨operations, read, h⟩
    · obtain ⟨paths, e, given, reached, h⟩ := (strays_operationsOfDocument separates resolved map).1 h
      exact .operation built given reached h
    · rw [bind_pure_comp, strays_map, Registry.strays_keyed separates] at h
      obtain ⟨e, mem, key⟩ := h
      exact .key built read mem key
  · intro h
    cases h with
    | components h => exact Or.inl (Or.inl h)
    | component given reached h => exact Or.inl (Or.inr ⟨_, _, given, reached, h⟩)
    | operation built given reached h =>
      refine Or.inr ⟨_, built, strays_bind.2 (Or.inl ?_)⟩
      exact (strays_operationsOfDocument separates resolved map).2 ⟨_, _, given, reached, h⟩
    | key built read mem key =>
      refine Or.inr ⟨_, built, strays_bind.2 (Or.inr ⟨_, read, ?_⟩)⟩
      rw [bind_pure_comp, strays_map]
      exact (Registry.strays_keyed separates).2 ⟨_, mem, key⟩

end Documentation

/-! ## Command line -/

namespace CommandLine

/-- the bytes that a job reads, with the path under which it names them -/
def Job.input : Job → Path × List UInt8
  | inspect document bytes _ => (document, bytes)
  | generate document bytes _ => (document, bytes)

/-- a job whose document is not built ends with the fault of the build -/
theorem Job.plan_of_error {job : Job} (verbose : Bool) {document : Value} {fault : Fault}
    (read : Description.ofBytes job.input.1.text job.input.2 = .ok document)
    (h : (Documentation.ofDocument settings document).result = .error fault) :
    ∃ before, job.plan settings verbose = refused before fault := by
  have run (path : Path) (bytes : List UInt8) (read : Description.ofBytes path.text bytes = .ok document) :
      (documentation settings path bytes).result = .error fault := by
    rw [documentation, read, Run.result_bind]
    exact h
  cases job with
  | inspect path bytes output => exact ⟨_, by simp only [Job.plan, inspectPlan, run path bytes read]; rfl⟩
  | generate path bytes output => exact ⟨_, by simp only [Job.plan, generatePlan, run path bytes read]; rfl⟩

end CommandLine

/-! ## Outcomes of a build -/

/-- **Every description is built, refused with a fault that names a place, or mistyped.** The first two are all that the
command line expects: it reports the fault and exits with one. A mistyped document ends the program with its fault. -/
theorem built_or_refused_iff (settings : Settings) {document : Value} (description : isDescription document = true) :
    (¬ Mistyped settings document ↔ (∃ d, (Documentation.ofDocument settings document).result = .ok d) ∨
      ∃ fault, (Documentation.ofDocument settings document).result = .error fault ∧
        ((∃ reason node location, fault = .malformed reason node location) ∨
          ∃ component node location, fault = .unresolved component node location)) ∧
    ∀ fault, (Documentation.ofDocument settings document).result = .error fault →
      ∀ (job : CommandLine.Job) (verbose : Bool),
        Description.ofBytes job.input.1.text job.input.2 = .ok document →
          (Mistyped settings document → (job.plan settings verbose).ending = .fault fault) ∧
          (¬ Mistyped settings document → ∃ before, job.plan settings verbose =
            ⟨before ++ [.warn (CommandLine.errorLine fault.message)], .exit 1⟩) := by
  have map := isMap_of_isDescription description
  have placeless : Strays Placeless (Documentation.ofDocument settings document).result ↔ Mistyped settings document :=
    Documentation.strays_ofDocument separates_placeless resolved_placeless map
  have unreported :
      Strays Unreported (Documentation.ofDocument settings document).result ↔ Mistyped settings document :=
    Documentation.strays_ofDocument separates_unreported resolved_unreported map
  refine ⟨⟨fun fine => ?_, ?_⟩, fun fault failed job verbose read => ?_⟩
  · cases result : (Documentation.ofDocument settings document).result with
    | ok d => exact Or.inl ⟨d, rfl⟩
    | error fault =>
      refine Or.inr ⟨fault, rfl, ?_⟩
      rw [result, strays_error] at placeless
      have placed := mt placeless.1 fine
      cases fault with
      | malformed reason node location => exact Or.inl ⟨reason, node, location, rfl⟩
      | unresolved component node location => exact Or.inr ⟨component, node, location, rfl⟩
      | _ => exact absurd rfl placed
  · rintro (⟨d, built⟩ | ⟨fault, failed, h⟩) mistyped
    · rw [built] at placeless
      exact not_strays_ok _ (placeless.2 mistyped)
    · rw [failed, strays_error] at placeless
      rcases h with ⟨reason, node, location, rfl⟩ | ⟨component, node, location, rfl⟩
      · exact separates_placeless.malformed _ _ _ (placeless.2 mistyped)
      · exact resolved_placeless _ _ _ (placeless.2 mistyped)
  · rw [failed, strays_error] at unreported
    obtain ⟨before, plan⟩ := CommandLine.Job.plan_of_error verbose read failed
    rw [plan, CommandLine.refused]
    constructor
    · intro mistyped
      have : fault.isDocumentFault = false := unreported.2 mistyped
      simp [this]
    · intro fine
      have reported : fault.isDocumentFault = true := by simpa [Unreported] using mt unreported.1 fine
      exact ⟨before, if_pos reported⟩

/-- a list where the components section should be is not refused -/
theorem components_list_not_refused :
    isDescription (.map [(.str "openapi", .str "3.0.0"), (.str "components", .list [.int 1])]) = true ∧
    ¬ ((∃ d, (Documentation.ofDocument {} (.map [(.str "openapi", .str "3.0.0"),
        (.str "components", .list [.int 1])])).result = .ok d) ∨
      ∃ fault, (Documentation.ofDocument {} (.map [(.str "openapi", .str "3.0.0"),
          (.str "components", .list [.int 1])])).result = .error fault ∧
        ((∃ reason node location, fault = .malformed reason node location) ∨
          ∃ component node location, fault = .unresolved component node location)) := by
  refine ⟨rfl, fun h => ?_⟩
  exact (built_or_refused_iff {} rfl).1.2 h (.components rfl)

end ApiTypes
