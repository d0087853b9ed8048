/-
Object schemas read as components and inline.

A component and an inline object read their properties by classifiers of their own. They agree property by property
(`endAlike_property`) unless a property has a reference beside a type: the component looks at the type of an array or
object before the reference and at a reference that is no text not at all. A component does not look at a reference or
at items beside its own properties either.

Main statements: `normalize_endAlike`, the place of a schema and what is no keyword in it do not matter to how its
reading ends; `read_alike`, both readings of an object schema end alike where no reference stands beside a type;
`mixed_schemas_differ`, the schemas where they do not.
-/
import Mathlib.Data.List.Forall2
import Mathlib.Data.List.Permutation
import ApiTypes.Proofs.Component

namespace ApiTypes

variable {settings : Settings} {location place : Location}

/-! ## Outcomes -/

/-- a raw node is refused -/
def Refused {α : Type} (outcome : Except Fault α) : Prop :=
  ∃ reason node place, outcome = .error (.malformed reason node place)

/-- two readings end alike: with related results, with a refused node each, or with a record that cannot be made -/
inductive EndAlike {α β : Type} (r : α → β → Prop) : Except Fault α → Except Fault β → Prop
  | ok {a b} : r a b → EndAlike r (.ok a) (.ok b)
  | refused {x y} : Refused x → Refused y → EndAlike r x y
  | invalid {kind issues kind' issues'} : EndAlike r (.error (.invalid kind issues)) (.error (.invalid kind' issues'))

section EndAlike

variable {α β γ δ : Type} {r : α → β → Prop} {s : γ → δ → Prop} {x : Except Fault α} {y : Except Fault β}

theorem Refused.bind (h : Refused x) (f : α → Except Fault γ) : Refused (x >>= f) := by
  obtain ⟨reason, node, place, rfl⟩ := h
  exact ⟨reason, node, place, rfl⟩

theorem EndAlike.bind {f : α → Except Fault γ} {g : β → Except Fault δ} (h : EndAlike r x y)
    (next : ∀ a b, r a b → EndAlike s (f a) (g b)) : EndAlike s (x >>= f) (y >>= g) := by
  cases h with
  | ok related => exact next _ _ related
  | refused hx hy => exact .refused (hx.bind f) (hy.bind g)
  | invalid => exact .invalid

theorem EndAlike.refused_of_refused (h : EndAlike r x y) (refused : Refused y) : Refused x := by
  obtain ⟨reason, node, place, rfl⟩ := refused
  cases h with
  | refused hx _ => exact hx

theorem EndAlike.map {f : α → γ} {g : β → δ} (h : EndAlike r x y) (related : ∀ a b, r a b → s (f a) (g b)) :
    EndAlike s (f <$> x) (g <$> y) := by
  rw [← bind_pure_comp, ← bind_pure_comp]
  exact h.bind fun a b hab => .ok (related a b hab)

/-- traversals whose steps end alike end alike, since both come to the same items -/
theorem endAlike_mapM {ι : Type} {f : ι → Except Fault α} {g : ι → Except Fault β} {items : List ι}
    (h : ∀ e ∈ items, EndAlike r (f e) (g e)) : EndAlike (List.Forall₂ r) (items.mapM f) (items.mapM g) := by
  induction items with
  | nil => exact .ok .nil
  | cons e rest ih =>
    rw [List.mapM_cons, List.mapM_cons]
    refine (h e List.mem_cons_self).bind fun a b first => ?_
    exact (ih fun d hd => h d (List.mem_cons_of_mem _ hd)).bind fun as bs others => .ok (.cons first others)

end EndAlike

/-! ## Normal forms -/

namespace Schema

theorem refused_of_error {α : Type} {raw : Value} {fault : Fault} (h : Shape.of raw location = .error fault) :
    Refused (.error fault : Except Fault α) := by
  obtain ⟨reason, rfl⟩ := Shape.of_eq_error h
  exact ⟨reason, raw, location, rfl⟩

/-- the shapes that the properties of two alike schemas have do not depend on their places -/
theorem shaped_of_alike {raw other : Value} (alike : Alike raw other) (location place : Location) :
    (∃ shape, Shape.of raw location = .ok shape ∧ Shape.of other place = .ok shape) ∨
    (∃ fault fault', Shape.of raw location = .error fault ∧ Shape.of other place = .error fault') := by
  unfold Shape.of
  rw [alike.shapeOf]
  cases shapeOf other with
  | ok shape => exact Or.inl ⟨shape, rfl, rfl⟩
  | error reason => exact Or.inr ⟨_, _, rfl, rfl⟩

theorem Alike.refl (raw : Value) : Alike raw raw := ⟨rfl, fun _ _ => rfl⟩

theorem referenced_of_alike {raw other : Value} (alike : Alike raw other) :
    referenced settings raw = referenced settings other := by
  simp only [referenced, alike.field "$ref" (by decide)]

theorem propertyNode_of_typed {raw : Value} {type : String} (ref : raw.field? "$ref" = none)
    (typed : raw.field? "type" = some (.str type)) :
    propertyNode settings location raw = normalize settings location raw := by
  unfold propertyNode
  cases shaped : Shape.of raw location with
  | error fault => rw [normalize_of_error shaped]
  | ok shape =>
    cases shape with
    | reference =>
      obtain ⟨text, found⟩ := keywords_of_reference (Shape.of_eq_ok.1 shaped)
      rw [ref] at found
      cases found
    | opaqueNode =>
      rw [(keywords_of_opaqueNode (Shape.of_eq_ok.1 shaped)).2] at typed
      cases typed
    | _ => rfl

theorem propertyNode_endAlike {raw other : Value} (alike : Alike raw other)
    (inner : EndAlike Eq (normalize settings location raw) (normalize settings place other)) :
    EndAlike Eq (propertyNode settings location raw) (propertyNode settings place other) := by
  unfold propertyNode
  rcases shaped_of_alike alike location place with ⟨shape, here, there⟩ | ⟨fault, fault', here, there⟩
  · rw [here, there]
    cases shape with
    | reference => exact .ok (referenced_of_alike alike)
    | opaqueNode => exact .refused ⟨_, _, _, rfl⟩ ⟨_, _, _, rfl⟩
    | _ => exact inner
  · rw [here, there]
    exact .refused (refused_of_error here) (refused_of_error there)

theorem normalizeItems_endAlike {raw other : Value} (alike : Alike raw other)
    (inner : EndAlike Eq (normalize settings location raw) (normalize settings place other)) :
    EndAlike Eq (normalizeItems settings location raw) (normalizeItems settings place other) := by
  rw [normalizeItems, normalizeItems]
  rcases shaped_of_alike alike location place with ⟨shape, here, there⟩ | ⟨fault, fault', here, there⟩
  · rw [here, there]
    cases shape with
    | reference => exact .ok (referenced_of_alike alike)
    | opaqueNode => exact .ok rfl
    | _ => exact inner
  · rw [here, there]
    exact .refused (refused_of_error here) (refused_of_error there)

/-- **The place of a schema, and what is no keyword in it, do not matter to how its reading ends.** -/
theorem normalize_endAlike {raw other : Value} (alike : Alike raw other) (location place : Location) :
    EndAlike Eq (normalize settings location raw) (normalize settings place other) := by
  induction raw using schema_induction generalizing other location place with
  | step raw ih =>
    rcases shaped_of_alike alike location place with ⟨shape, here, there⟩ | ⟨fault, fault', here, there⟩
    · have plain := Shape.of_eq_ok.1 here
      cases shape with
      | object =>
        rw [normalize_object plain, normalize_object (Shape.of_eq_ok.1 there), ← alike.propertiesOf]
        have fields : EndAlike (List.Forall₂ Eq) ((propertiesOf raw).mapM (namedNode settings location))
            ((propertiesOf raw).mapM (namedNode settings place)) := by
          refine endAlike_mapM fun e he => ?_
          have inner := fun location place => ih e.2 (.property plain he) (.refl e.2) location place
          exact (propertyNode_endAlike (.refl e.2) (inner _ _)).map fun a b same => congrArg (e.1, ·) same
        refine fields.bind fun named others same => ?_
        obtain rfl := List.forall₂_eq_eq_eq ▸ same
        cases made : objectOf named with
        | ok node => exact .ok rfl
        | error fault =>
          obtain ⟨kind, issues, rfl⟩ : ∃ kind issues, fault = .invalid kind issues := by
            unfold objectOf at made
            dsimp only at made
            split_ifs at made
            exact ⟨_, _, (Except.error.inj made).symm⟩
          exact .invalid
      | array =>
        rw [normalize_array plain, normalize_array (Shape.of_eq_ok.1 there), ← alike.itemsOf]
        have inner := ih (itemsOf raw) (.items plain) (.refl _) location.items place.items
        exact (normalizeItems_endAlike (.refl _) inner).map fun a b same => congrArg Node.array same
      | scalar =>
        rw [normalize_scalar here, normalize_scalar there, alike.typeName]
        exact .ok rfl
      | reference =>
        rw [normalize_reference here, normalize_reference there]
        exact .refused ⟨_, _, _, rfl⟩ ⟨_, _, _, rfl⟩
      | opaqueNode =>
        rw [normalize_opaqueNode here, normalize_opaqueNode there]
        exact .refused ⟨_, _, _, rfl⟩ ⟨_, _, _, rfl⟩
    · rw [normalize_of_error here, normalize_of_error there]
      exact .refused (refused_of_error here) (refused_of_error there)

end Schema

/-! ## Properties -/

/-- the property has a text key, no variants, and a description that is absent, null or a text -/
structure PlainProperty (e : Value × Value) : Prop where
  key : ∃ name, e.1 = .str name
  oneOf : e.2.field? "oneOf" = none
  description : ∀ given, e.2.field? "description" = some given → given = .null ∨ ∃ text, given = .str text

/-- no reference stands beside a type where the two readings would not take the same of them -/
structure Straight (raw : Value) : Prop where
  reference : ∀ ref, raw.field? "$ref" = some (.str ref) → raw.fieldAmong "type" ["array", "object"] = false
  scalar : ∀ type, raw.field? "type" = some (.str type) → raw.fieldAmong "type" ["array", "object"] = false →
    ∀ given, raw.field? "$ref" = some given → ∃ ref, given = .str ref

theorem PlainProperty.descriptionOf {e : Value × Value} (h : PlainProperty e) :
    ∃ text, Property.descriptionOf e.2 = .str text := by
  unfold Property.descriptionOf
  split
  · rename_i given found
    rcases h.description given found with rfl | ⟨text, rfl⟩
    · exact ⟨"", rfl⟩
    · split_ifs
      · exact ⟨text, rfl⟩
      · exact ⟨"", rfl⟩
  · exact ⟨"", rfl⟩

namespace Component

variable {names : List Value} {e : Value × Value}

/-- the type of a property without variants, by the keywords that the document gives it -/
theorem propertyType_eq (map : e.2.isMap = true) (oneOf : e.2.field? "oneOf" = none) :
    propertyType settings location names e =
      if e.2.fieldAmong "type" ["array", "object"] then
        Schema.normalize settings (location.property e.1) (Property.schemaPart (stamp names e.1 e.2))
      else match e.2.textField? "$ref", e.2.textField? "type" with
        | some ref, _ => .ok (.component (settings.stripRef ref))
        | none, some type => .ok (.scalar type)
        | none, none =>
          .error (.malformed .unrecognisedProperty (stamp names e.1 e.2) (location.property e.1)) := by
  have isMap : (stamp names e.1 e.2).isMap = true := Schema.isMap_of_field? (field?_stamp_name map)
  have stamped : (stamp names e.1 e.2).field? "oneOf" = none := (field?_stamp (by decide) (by decide)).trans oneOf
  have ref : (stamp names e.1 e.2).field? "$ref" = e.2.field? "$ref" := field?_stamp (by decide) (by decide)
  have type : (stamp names e.1 e.2).field? "type" = e.2.field? "type" := field?_stamp (by decide) (by decide)
  have named : (stamp names e.1 e.2).hasField "name" = true := by simp [Value.hasField, field?_stamp_name map]
  have among : (stamp names e.1 e.2).fieldAmong "type" = e.2.fieldAmong "type" := by
    funext texts
    simp only [Value.fieldAmong, Value.textField?, type]
  have shape : propertyShapeOf (stamp names e.1 e.2) =
      if e.2.fieldAmong "type" ["array", "object"] then .ok .composite
      else if (e.2.textField? "$ref").isSome then .ok .reference
      else if (e.2.textField? "type").isSome then .ok .scalar else .error .unrecognisedProperty := by
    simp only [propertyShapeOf, isMap, stamped, among, Value.textField?, ref, type, named, Bool.not_true,
      Bool.false_eq_true, ↓reduceIte, Bool.and_true]
    rfl
  unfold propertyType PropertyShape.of
  rw [shape]
  split_ifs with composite reference scalar
  · rfl
  · obtain ⟨text, found⟩ := Option.isSome_iff_exists.1 reference
    have found' := ref.trans (Value.textField?_eq_some.1 found)
    rw [found]
    show Except.ok (Schema.referenced settings (stamp names e.1 e.2)) = _
    rw [Schema.referenced_of_ref found']
  · obtain ⟨text, found⟩ := Option.isSome_iff_exists.1 scalar
    have typed := type.trans (Value.textField?_eq_some.1 found)
    rw [Option.not_isSome_iff_eq_none.1 reference, found]
    show Except.ok (Node.scalar (Schema.typeName (stamp names e.1 e.2))) = _
    simp [Schema.typeName, typed]
  · rw [Option.not_isSome_iff_eq_none.1 reference, Option.not_isSome_iff_eq_none.1 scalar]
    rfl

/-- a reference that is no text is refused inline -/
theorem shapeOf_ref_not_text {raw given : Value} (map : raw.isMap = true) (ref : raw.field? "$ref" = some given)
    (other : ∀ text, given ≠ .str text) (place : Location) :
    Schema.Shape.of raw place = .error (.malformed .refNotText raw place) := by
  unfold Schema.Shape.of Schema.shapeOf
  cases given <;> simp_all

/-- a schema that neither refers to a component nor says its type is refused inline -/
theorem refused_untyped {raw : Value} (map : raw.isMap = true) (ref : raw.field? "$ref" = none)
    (typed : raw.textField? "type" = none) (place : Location) : Refused (Schema.propertyNode settings place raw) := by
  unfold Schema.propertyNode Schema.Shape.of Schema.shapeOf
  rw [map, ref]
  cases given : raw.field? "type" with
  | none => exact ⟨_, _, _, rfl⟩
  | some value =>
    cases value with
    | str text =>
      rw [Value.textField?_eq_some.2 given] at typed
      cases typed
    | _ => exact ⟨_, _, _, rfl⟩

/-- the four ways of reading the type of a property as one of a component and inline end alike -/
theorem endAlike_type {name : String} {raw : Value} (map : raw.isMap = true) (oneOf : raw.field? "oneOf" = none)
    (straight : Straight raw) :
    EndAlike Eq (propertyType settings location names (.str name, raw))
      (Schema.propertyNode settings (place.property (.str name)) raw) := by
  have alike : Schema.Alike (Property.schemaPart (stamp names (.str name) raw)) raw := alike_schemaPart_stamp
  have whole : EndAlike Eq (Schema.normalize settings (location.property (.str name)) _)
      (Schema.normalize settings (place.property (.str name)) raw) := Schema.normalize_endAlike alike _ _
  rw [propertyType_eq map oneOf]
  dsimp only
  cases reference : raw.textField? "$ref" with
  | some ref =>
    have found := Value.textField?_eq_some.1 reference
    have shaped := Schema.of_reference (place.property (.str name)) found
    simp only [straight.reference ref found, Schema.propertyNode, shaped, Schema.referenced_of_ref found,
      Bool.false_eq_true, ↓reduceIte]
    exact .ok rfl
  | none =>
    cases ref : raw.field? "$ref" with
    | some given =>
      -- a reference that is no text is refused inline, and by the component where it looks at the whole schema
      have other : ∀ text, given ≠ .str text := by
        rintro text rfl
        rw [Value.textField?_eq_some.2 ref] at reference
        cases reference
      have shaped := shapeOf_ref_not_text map ref other (place.property (.str name))
      have there : Refused (Schema.propertyNode settings (place.property (.str name)) raw) := by
        simp only [Schema.propertyNode, shaped]
        exact ⟨_, _, _, rfl⟩
      split_ifs with composite
      · rw [Schema.normalize_of_error shaped] at whole
        exact .refused (whole.refused_of_refused ⟨_, _, _, rfl⟩) there
      · cases typed : raw.textField? "type" with
        | some type =>
          have found := Value.textField?_eq_some.1 typed
          obtain ⟨text, rfl⟩ := straight.scalar type found (by simpa using composite) _ ref
          exact absurd rfl (other text)
        | none => exact .refused ⟨_, _, _, rfl⟩ there
    | none =>
      cases typed : raw.textField? "type" with
      | some type =>
        have found := Value.textField?_eq_some.1 typed
        rw [Schema.propertyNode_of_typed ref found]
        split_ifs with composite
        · exact whole
        · have plain : type ≠ "object" ∧ type ≠ "array" := by
            constructor <;> rintro rfl <;> exact composite (Value.fieldAmong_iff.2 ⟨_, by decide, found⟩)
          have shaped := Schema.of_scalar (place.property (.str name)) ref found plain
          rw [Schema.normalize_scalar shaped, Schema.typeName, found]
          exact .ok rfl
      | none =>
        have composite : raw.fieldAmong "type" ["array", "object"] = false := by simp [Value.fieldAmong, typed]
        rw [composite]
        exact .refused ⟨_, _, _, rfl⟩ (refused_untyped map ref typed _)

/-- **A property is read alike as one of a component and inline**, unless a reference stands beside its type -/
theorem endAlike_property (plain : PlainProperty e) (straight : Straight e.2) :
    EndAlike (fun p f => f = (Value.str p.name, p.type)) (propertyOf settings location names e)
      (Schema.namedNode settings place e) := by
  obtain ⟨name, key⟩ := plain.key
  obtain ⟨description, described⟩ := plain.descriptionOf
  have oneOf := plain.oneOf
  obtain ⟨k, raw⟩ := e
  obtain rfl : k = .str name := key
  cases map : raw.isMap with
  | false =>
    have shaped : Schema.Shape.of raw (place.property (.str name)) =
        .error (.malformed .schemaNotMapping raw (place.property (.str name))) := by
      simp [Schema.Shape.of, Schema.shapeOf, map]
    have here : Refused (propertyOf settings location names (.str name, raw)) := by
      simp [propertyOf, map, Refused]
    have there : Refused (Schema.namedNode settings place (.str name, raw)) := by
      simp only [Schema.namedNode, Schema.propertyNode, shaped]
      exact ⟨_, _, _, rfl⟩
    exact .refused here there
  | true =>
    have types : EndAlike Eq (propertyType settings location names (.str name, raw))
        (Schema.propertyNode settings (place.property (.str name)) raw) := endAlike_type map oneOf straight
    rw [propertyOf_of_isMap map, Schema.namedNode, described, ← bind_pure_comp]
    refine types.bind fun type node same => ?_
    subst same
    exact .ok rfl

end Component

/-! ## Object schemas -/

/-- an object schema with properties under text keys, which may require some of them -/
structure ObjectSchema (raw : Value) (properties : Entries) : Prop where
  typed : raw.field? "type" = some (.str "object")
  holds : raw.field? "properties" = some (.map properties)
  required : raw.field? "required" = none ∨
    ∃ names : List String, raw.field? "required" = some (.list (names.map .str))
  plain : ∀ e ∈ properties, PlainProperty e

/-- the component has the fields of the inline object, each with the same node -/
def SameFields (c : Component) (node : Node) : Prop :=
  ∃ fields, node = .object fields ∧ (c.properties.map fun p => (p.name, p.type)).Perm fields

theorem requiredNames_eq_ok {raw : Value} {properties : Entries} (h : ObjectSchema raw properties)
    (location : Location) : ∃ names, Component.requiredNames raw location = .ok names := by
  unfold Component.requiredNames
  rcases h.required with found | ⟨names, found⟩
  · simp [found]
  · have texts : (names.map Value.str).findSome? Value.keyFault = none := by
      simp [List.findSome?_eq_none_iff, Value.keyFault]
    rw [found]
    dsimp only
    split_ifs
    · exact ⟨_, rfl⟩
    · rw [texts]
      exact ⟨_, rfl⟩

/-- **A component and an inline object are read alike** where the schema itself has no reference and no items, and no
reference stands beside the type of a property. They end alike: with the same fields, with a refused node each, or with
a key below a property that is no text -/
theorem read_alike {raw : Value} {properties : Entries} (settings : Settings) (name : Value) (place : Location)
    (h : ObjectSchema raw properties) (ref : raw.field? "$ref" = none) (items : raw.field? "items" = none)
    (straight : ∀ e ∈ properties, Straight e.2) :
    EndAlike SameFields (Component.ofRaw settings name raw).result (Schema.normalize settings place raw) := by
  have shape : Schema.shapeOf raw = .ok .object := by
    have isMap := Schema.isMap_of_field? h.typed
    have given : (Value.map properties).isMap = true := rfl
    simp [Schema.shapeOf, Schema.shapeOfType, isMap, ref, h.typed, Value.hasField, items, h.holds, given]
  have inner : Schema.propertiesOf raw = properties := by simp [Schema.propertiesOf, h.holds]
  obtain ⟨names, required⟩ := requiredNames_eq_ok h (Component.placeOf settings name)
  rw [Component.result_of_properties h.holds, required, Schema.normalize_object shape, inner]
  show EndAlike _ (Component.ofProperties <$> _) _
  rw [← bind_pure_comp]
  have each : EndAlike _ (properties.mapM (Component.propertyOf settings (Component.placeOf settings name) names))
      (properties.mapM (Schema.namedNode settings place)) :=
    endAlike_mapM fun e he => Component.endAlike_property (h.plain e he) (straight e he)
  refine each.bind fun built fields same => ?_
  have named : fields = keyedBy (built.map fun p => (p.name, p.type)) := by
    rw [keyedBy, List.map_map]
    induction same with
    | nil => rfl
    | cons head _ ih => rw [head, ih]; rfl
  rw [named, Schema.objectOf_keyedBy]
  exact .ok ⟨_, rfl, (Component.ofProperties_perm built).map _⟩

/-- the readings agree: both refuse a node, or both succeed with the same fields -/
def Agree (component : Except Fault Component) (node : Except Fault Node) : Prop :=
  (Refused component ∧ Refused node) ∨ ∃ c n, component = .ok c ∧ node = .ok n ∧ SameFields c n

/-- an object schema whose readings as a component and inline do not agree -/
def Differs (raw : Value) : Prop :=
  (∃ properties, ObjectSchema raw properties) ∧
    ¬ Agree (Component.ofRaw {} (.str "") raw).result (Schema.normalize {} .top raw)

/-- an object schema with one property -/
def holding (property : Value) : Value :=
  .map [(.str "type", .str "object"), (.str "properties", .map [(.str "x", property)])]

/-- a reference or items beside the properties of a schema, a reference beside the type of a property, and a key below
a property that is no text -/
def mixedSchemas : List Value := [
  .map [(.str "type", .str "object"), (.str "properties", .map []), (.str "$ref", .str "#/components/schemas/B")],
  .map [(.str "type", .str "object"), (.str "properties", .map []), (.str "items", .map [])],
  holding (.map [(.str "type", .str "object"), (.str "$ref", .str "#/components/schemas/B")]),
  holding (.map [(.str "type", .str "string"), (.str "$ref", .int 5)]),
  holding (.map [(.str "type", .str "object"),
    (.str "properties", .map [(.int 1, .map [(.str "type", .str "string")])])])]

theorem objectSchema_holding {property : Value} (oneOf : property.field? "oneOf" = none)
    (description : property.field? "description" = none) :
    ObjectSchema (holding property) [(.str "x", property)] := by
  refine ⟨rfl, rfl, Or.inl rfl, fun e he => ?_⟩
  obtain rfl := List.mem_singleton.1 he
  refine ⟨⟨"x", rfl⟩, oneOf, fun given found => ?_⟩
  rw [description] at found
  cases found

theorem not_agree_of_isOk {component : Except Fault Component} {node : Except Fault Node}
    (h : component.isOk = !node.isOk) : ¬ Agree component node := by
  rintro (⟨⟨_, _, _, rfl⟩, ⟨_, _, _, rfl⟩⟩ | ⟨c, n, rfl, rfl, -⟩) <;> cases h

/-- **The readings of these schemas do not agree**, each for a reason of its own -/
theorem mixed_schemas_differ : mixedSchemas.Forall Differs := by
  have empty : ∀ e ∈ ([] : Entries), PlainProperty e := by simp
  unfold mixedSchemas
  refine ⟨⟨⟨[], rfl, rfl, Or.inl rfl, empty⟩, ?_⟩, ⟨⟨[], rfl, rfl, Or.inl rfl, empty⟩, ?_⟩,
    ⟨⟨_, objectSchema_holding rfl rfl⟩, ?_⟩, ⟨⟨_, objectSchema_holding rfl rfl⟩, ?_⟩,
    ⟨⟨_, objectSchema_holding rfl rfl⟩, ?_⟩⟩
  · exact not_agree_of_isOk (by cbv)
  · exact not_agree_of_isOk (by cbv)
  · exact not_agree_of_isOk (by cbv)
  · exact not_agree_of_isOk (by cbv)
  · -- both readings end with a key that is no text
    have node : Schema.normalize {} .top (holding (.map [(.str "type", .str "object"),
        (.str "properties", .map [(.int 1, .map [(.str "type", .str "string")])])])) =
        .error (.invalid .objectOf [⟨["fields", "1", "[key]"], .notText⟩]) := by cbv
    rw [node]
    rintro (⟨-, ⟨_, _, _, refused⟩⟩ | ⟨_, _, -, built, -⟩)
    · cases refused
    · cases built

/-- an object schema with a required array of references and a plain property -/
def straightSchema : Value :=
  .map [(.str "type", .str "object"), (.str "required", .list [.str "b"]), (.str "properties", .map [
    (.str "a", .map [(.str "type", .str "string"), (.str "description", .str "A.")]),
    (.str "b", .map [(.str "type", .str "array"),
      (.str "items", .map [(.str "$ref", .str "#/components/schemas/B")])])])]

/-- the required property comes first in the component, and the fields are the same -/
theorem straightSchema_read_alike :
    EndAlike SameFields (Component.ofRaw {} (.str "S") straightSchema).result
      (Schema.normalize {} .top straightSchema) := by
  refine read_alike {} (.str "S") .top (⟨rfl, rfl, Or.inr ⟨["b"], rfl⟩, ?_⟩ : ObjectSchema straightSchema _) rfl rfl ?_
  · intro e he
    simp only [List.mem_cons, List.not_mem_nil, or_false] at he
    rcases he with rfl | rfl
    · exact ⟨⟨"a", rfl⟩, rfl, fun given h => Or.inr ⟨"A.", (Option.some.inj h).symm⟩⟩
    · exact ⟨⟨"b", rfl⟩, rfl, fun given h => by cases h⟩
  · intro e he
    simp only [List.mem_cons, List.not_mem_nil, or_false] at he
    rcases he with rfl | rfl
    · exact ⟨fun ref h => (by cases h), fun type _ _ given h => by cases h⟩
    · exact ⟨fun ref h => (by cases h), fun type _ _ given h => by cases h⟩

end ApiTypes
