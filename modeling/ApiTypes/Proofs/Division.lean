/-
How a component divides its properties.

The properties that a component lists as required are one group, the others the second, and each group keeps the order
of the document. Only the component's own list decides: a name in it that is no property, or that stands there twice,
changes nothing. What a property says about itself under `name` and `required` is overruled before it is read, so it
changes neither its group nor its name nor its type.

Main statements: `requiredNames_eq_ok`, the names that a component lists; `MadeOf.restated`, what a property is made of
besides these two fields; `ofRaw_divides`, the two groups of a component, and the raw components that give the same.
-/
import ApiTypes.Proofs.Component
import ApiTypes.Proofs.Decoding

namespace ApiTypes

namespace Component

variable {settings : Settings} {location : Location} {names names' : List Value} {e e' : Value × Value} {p : Property}

/-! ## Listed names -/

/-- the names that a raw component lists under `required`; nothing there, or an empty value, lists none -/
inductive Lists (raw : Value) : List Value → Prop where
  | names {names : List Value} (found : raw.field? "required" = some (.list names))
      (keys : ∀ name ∈ names, name.keyFault = none) : Lists raw names
  | none (absent : ∀ v, raw.field? "required" = some v → v.isGiven = false) : Lists raw []

theorem requiredNames_eq_ok {raw : Value} : requiredNames raw location = .ok names ↔ Lists raw names := by
  unfold requiredNames
  constructor
  · intro h
    split at h
    · rename_i found
      cases h
      exact .none (by simp [found])
    · rename_i given found
      split_ifs at h with isGiven
      · cases h
        exact .none (by simpa [found] using isGiven)
      · split at h
        · split at h
          · cases h
          · rename_i keys
            cases h
            exact .names found (List.findSome?_eq_none_iff.1 keys)
        · cases h
  · rintro (⟨found, keys⟩ | absent)
    · rw [found]
      dsimp only
      split_ifs with isGiven
      · cases names with
        | nil => rfl
        | cons => simp [Value.isGiven] at isGiven
      · rw [List.findSome?_eq_none_iff.2 keys]
    · cases found : raw.field? "required" with
      | none => rfl
      | some v => simp [absent v found]

theorem isRequired_text {text : String} : isRequired names (.str text) = true ↔ .str text ∈ names := by
  rw [isRequired, List.any_eq_true]
  constructor
  · rintro ⟨name, mem, same⟩
    obtain rfl : name = .str text := by cases name <;> simp_all [Value.same, Value.sameScalar]
    exact mem
  · exact fun mem => ⟨_, mem, by simp [Entries.same_str]⟩

/-! ## Fields that are overruled -/

/-- two raw properties under one key that differ at most in what they say under `name` and `required` -/
structure Restated (e e' : Value × Value) : Prop where
  key : e'.1 = e.1
  isMap : e'.2.isMap = e.2.isMap
  field : ∀ name, name ≠ "name" → name ≠ "required" → e'.2.field? name = e.2.field? name

theorem Restated.field_stamp (h : Restated e e') (names names' : List Value) (name : String) (ne : name ≠ "name")
    (ne' : name ≠ "required") : (stamp names' e'.1 e'.2).field? name = (stamp names e.1 e.2).field? name := by
  rw [field?_stamp ne ne', field?_stamp ne ne', h.field name ne ne']

theorem isMap_stamp (key raw : Value) : (stamp names key raw).isMap = raw.isMap := by
  cases raw <;> rfl

/-- the stamped properties have one shape -/
theorem Restated.shape (h : Restated e e') (map : e.2.isMap = true) :
    propertyShapeOf (stamp names' e'.1 e'.2) = propertyShapeOf (stamp names e.1 e.2) := by
  have oneOf := h.field_stamp names names' "oneOf" (by decide) (by decide)
  have ref := h.field_stamp names names' "$ref" (by decide) (by decide)
  have type := h.field_stamp names names' "type" (by decide) (by decide)
  have name : (stamp names' e'.1 e'.2).field? "name" = (stamp names e.1 e.2).field? "name" := by
    rw [field?_stamp_name map, field?_stamp_name (h.isMap.trans map), h.key]
  unfold propertyShapeOf Value.fieldAmong Value.textField? Value.hasField
  rw [isMap_stamp, isMap_stamp, h.isMap, oneOf, ref, type, name]

/-- the schemas below the stamps say the same under the keywords of a normal form -/
theorem Restated.alike (h : Restated e e') : Schema.Alike e.2 e'.2 := by
  refine ⟨h.isMap.symm, fun name hn => (h.field name ?_ ?_).symm⟩ <;> rintro rfl <;> revert hn <;> decide

theorem Restated.typeOf (h : Restated e e') {shape : PropertyShape} {node : Node}
    (typed : Property.typeOf settings location (stamp names e.1 e.2) shape = .ok node) :
    Property.typeOf settings location (stamp names' e'.1 e'.2) shape = .ok node := by
  cases shape with
  | oneOf =>
    have oneOf := h.field_stamp names names' "oneOf" (by decide) (by decide)
    rwa [Property.typeOf, oneOf]
  | composite =>
    have other : Schema.normalize settings location e'.2 = .ok node :=
      h.alike.normalize (alike_schemaPart_stamp.normalize typed)
    exact alike_schemaPart_stamp.symm.normalize other
  | reference =>
    have ref := h.field_stamp names names' "$ref" (by decide) (by decide)
    rwa [Property.typeOf, Schema.referenced, ref]
  | scalar =>
    have type := h.field_stamp names names' "type" (by decide) (by decide)
    rwa [Property.typeOf, Schema.typeName, type]

/-- **A property is made of what its schema says besides `name` and `required`**, whatever it says there, and whatever
other names the component lists. -/
theorem MadeOf.restated (made : MadeOf settings location names e p) (h : Restated e e')
    (listed : e.1 ∈ names' ↔ e.1 ∈ names) : MadeOf settings location names' e' p where
  isMap := h.isMap.trans made.isMap
  name := h.key.trans made.name
  type := by
    obtain ⟨shape, shaped, typed⟩ := bind_eq_ok.1 made.type
    rw [PropertyShape.of_eq_ok] at shaped
    refine bind_eq_ok.2 ⟨shape, PropertyShape.of_eq_ok.2 ((h.shape made.isMap).trans shaped), ?_⟩
    rw [congrArg location.property h.key]
    exact h.typeOf typed
  description := by
    rw [Property.descriptionOf, h.field "description" (by decide) (by decide)]
    exact made.description
  sample := made.sample.trans (by rw [h.field "example" (by decide) (by decide)])
  required := by
    rw [made.required, h.key, made.name, Bool.eq_iff_iff, isRequired_text, isRequired_text, ← made.name, listed]

theorem made_restated {properties properties' : Entries} {made : List Property}
    (h : List.Forall₂ (MadeOf settings location names) properties made)
    (restated : List.Forall₂ Restated properties properties') (listed : ∀ e ∈ properties, e.1 ∈ names' ↔ e.1 ∈ names) :
    List.Forall₂ (MadeOf settings location names') properties' made := by
  induction restated generalizing made with
  | nil =>
    cases h
    exact .nil
  | cons head _ ih =>
    cases h with
    | cons part parts =>
      refine .cons (part.restated head (listed _ List.mem_cons_self)) ?_
      exact ih parts fun e mem => listed e (List.mem_cons_of_mem _ mem)

/-! ## Groups -/

/-- the two groups of a component, by the names that it lists -/
structure Divides (settings : Settings) (location : Location) (names : List Value) (properties : Entries)
    (c : Component) : Prop where
  /-- together they are the properties, each made of its entry, and each keeps their order -/
  source : ∃ made, List.Forall₂ (MadeOf settings location names) properties made ∧
    (c.required ++ c.optional).Perm made ∧ c.required.Sublist made ∧ c.optional.Sublist made
  /-- no name is in both or twice -/
  once : ((c.required ++ c.optional).map Property.name).Nodup
  listed : ∀ p ∈ c.required ++ c.optional, p ∈ c.required ↔ .str p.name ∈ names
  flag : ∀ p ∈ c.required ++ c.optional, p.required = true ↔ p ∈ c.required

theorem nodup_names {properties : Entries} {made : List Property}
    (h : List.Forall₂ (MadeOf settings location names) properties made) (distinct : Value.DistinctKeys properties) :
    (made.map Property.name).Nodup := by
  rw [List.Nodup, List.pairwise_map]
  induction h with
  | nil => exact .nil
  | @cons e p properties made head tail ih =>
    obtain ⟨apart, distinct⟩ := List.pairwise_cons.1 distinct
    refine List.pairwise_cons.2 ⟨fun q mem same => ?_, ih distinct⟩
    obtain ⟨f, later, part⟩ := exists_of_mem_results tail mem
    have other := apart f later
    rw [head.name, part.name, Entries.same_str, same] at other
    simp at other

/-- properties by whether they are required are divided by the names that their component lists -/
theorem divides_ofProperties {properties : Entries} {made : List Property}
    (h : List.Forall₂ (MadeOf settings location names) properties made) (distinct : Value.DistinctKeys properties) :
    Divides settings location names properties (ofProperties made) where
  source := ⟨made, h, ofProperties_perm made, List.filter_sublist, List.filter_sublist⟩
  once := ((ofProperties_perm made).map Property.name).nodup_iff.2 (nodup_names h distinct)
  listed := by
    intro p mem
    have isMade := (ofProperties_perm made).mem_iff.1 mem
    obtain ⟨e, -, part⟩ := exists_of_mem_results h isMade
    rw [ofProperties, List.mem_filter, part.required, part.name, isRequired_text, and_iff_right isMade]
  flag := by
    intro p mem
    have isMade := (ofProperties_perm made).mem_iff.1 mem
    rw [ofProperties, List.mem_filter, and_iff_right isMade]

/-- **A component divides its properties by the names that it lists.** Its two groups are its properties, each once and
in their order, and a property is in the first group, and is marked as required, exactly when its name is listed. A raw
component with restated properties gives the same component, if it lists the same of their names, and whatever else it
lists. -/
theorem ofRaw_divides (settings : Settings) {name raw : Value} {properties : Entries} {c : Component}
    (found : raw.field? "properties" = some (.map properties)) (distinct : Value.DistinctKeys properties)
    (built : (ofRaw settings name raw).result = .ok c) :
    ∃ names, Lists raw names ∧ Divides settings (placeOf settings name) names properties c ∧
      ∀ raw' properties' names', raw'.field? "properties" = some (.map properties') →
        List.Forall₂ Restated properties properties' → Lists raw' names' →
        (∀ e ∈ properties, e.1 ∈ names' ↔ e.1 ∈ names) → (ofRaw settings name raw').result = .ok c := by
  rw [result_of_properties found] at built
  obtain ⟨names, lists, built⟩ := bind_eq_ok.1 built
  obtain ⟨made, each, rfl⟩ := map_eq_ok.1 built
  have parts : List.Forall₂ (MadeOf settings (placeOf settings name) names) properties made :=
    (mapM_eq_ok.1 each).imp fun e p => propertyOf_eq_ok.1
  refine ⟨names, requiredNames_eq_ok.1 lists, divides_ofProperties parts distinct, ?_⟩
  intro raw' properties' names' found' restated lists' same
  rw [result_of_properties found']
  refine bind_eq_ok.2 ⟨names', requiredNames_eq_ok.2 lists', map_eq_ok.2 ⟨made, ?_, rfl⟩⟩
  exact mapM_eq_ok.2 ((made_restated parts restated same).imp fun e p => propertyOf_eq_ok.2)

/-- properties that speak of themselves -/
def wordyProperties : Entries :=
  [(.str "title", .map [(.str "name", .str "tags"), (.str "type", .str "string"), (.str "required", .bool true)]),
    (.str "tags", .map [(.str "type", .str "array"), (.str "items", .map [(.str "type", .str "string")]),
      (.str "required", .list [.str "title"])]),
    (.str "owner", .map [(.str "$ref", .str "#/components/schemas/User"), (.str "name", .int 5)])]

def plainProperties : Entries :=
  [(.str "title", .map [(.str "type", .str "string")]),
    (.str "tags", .map [(.str "type", .str "array"), (.str "items", .map [(.str "type", .str "string")])]),
    (.str "owner", .map [(.str "$ref", .str "#/components/schemas/User")])]

/-- a component that lists one name twice and one that is no property -/
def wordySchema : Value :=
  .map [(.str "required", .list [.str "tags", .str "ghost", .str "tags"]), (.str "properties", .map wordyProperties)]

def plainSchema : Value := .map [(.str "required", .list [.str "tags"]), (.str "properties", .map plainProperties)]

def divided : Component where
  required := [⟨"tags", .array (.scalar "string"), "", .str "", true⟩]
  optional := [⟨"title", .scalar "string", "", .str "", false⟩, ⟨"owner", .component "User", "", .str "", false⟩]

/-- the same component is built with and without what makes no difference -/
theorem wordy_divided :
    wordySchema.field? "properties" = some (.map wordyProperties) ∧ Value.DistinctKeys wordyProperties ∧
      (ofRaw {} (.str "Page") wordySchema).result = .ok divided ∧
      (ofRaw {} (.str "Page") plainSchema).result = .ok divided := by
  have distinct : Value.DistinctKeys wordyProperties := by
    simp [Value.DistinctKeys, wordyProperties, Entries.same_str]
  have found : wordySchema.field? "properties" = some (.map wordyProperties) := rfl
  have built : (ofRaw {} (.str "Page") wordySchema).result = .ok divided := by cbv
  obtain ⟨names, lists, -, alike⟩ := ofRaw_divides {} found distinct built
  have restated : List.Forall₂ Restated wordyProperties plainProperties := by
    refine .cons ⟨rfl, rfl, ?_⟩ (.cons ⟨rfl, rfl, ?_⟩ (.cons ⟨rfl, rfl, ?_⟩ .nil)) <;> intro name ne ne' <;>
      simp [Value.field?, Entries.find?, Value.isText, ne.symm, ne'.symm]
  have lists' : Lists plainSchema [.str "tags"] := .names rfl (by simp [Value.keyFault])
  refine ⟨found, distinct, built, alike plainSchema _ _ rfl restated lists' ?_⟩
  rcases lists with ⟨found, -⟩ | absent
  · cases found
    simp [wordyProperties]
  · exact absurd (absent _ rfl) (by decide)

end Component

end ApiTypes
