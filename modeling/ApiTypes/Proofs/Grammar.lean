/-
The grammar of raw schemas.

A schema stands at the top, under a property or as the items of an array. A reference stands for a component anywhere
but at the top, and items may say nothing at all; everywhere else a schema names its type. `Derives` is the grammar: it
says which schemas have which normal forms, and nothing about the order in which keywords are looked at, what is looked
at twice, or places. `Reads` says once what the reading of a schema gives where it stands, and `reads` that it does.

Main statements: `nodeAt_eq_ok_iff`, a schema is read as what the grammar derives for it; `normalize_iff_derives`, the
same for normal forms, where every other schema is refused; `catalogue_normalized`, a schema of every kind.
-/
import ApiTypes.Proofs.Declared
import ApiTypes.Proofs.Inline

namespace ApiTypes.Schema

/-! ## Grammar -/

/-- where a schema stands -/
inductive Position where
  | top
  | property
  | items
  deriving DecidableEq, Repr

/-- the keywords beside the type do not contradict it -/
structure Consistent (raw : Value) (type : String) : Prop where
  object : type = "object" →
    raw.field? "items" = none ∧ ∀ given, raw.field? "properties" = some given → given.isMap = true
  array : type = "array" → raw.field? "properties" = none

/-- the keywords of a schema suit the place where it stands; nothing below them is looked at -/
inductive Acceptable : Position → Value → Prop
  | reference {position raw ref} : position ≠ .top → raw.field? "$ref" = some (.str ref) → Acceptable position raw
  | untyped {raw} : raw.isMap = true → raw.field? "$ref" = none → raw.field? "type" = none → Acceptable .items raw
  | typed {position raw type} : Typed raw type → Consistent raw type → Acceptable position raw

/-- the type says all: no keyword makes an object or array of it -/
def Plain (raw : Value) (type : String) : Prop :=
  type = "object" ∨ type = "array" → raw.field? "properties" = none ∧ raw.field? "items" = none

mutual

/-- the schema has this normal form where it stands -/
inductive Derives (settings : Settings) : Position → Value → Node → Prop
  | reference {position raw ref} : position ≠ .top → raw.field? "$ref" = some (.str ref) →
      Derives settings position raw (.component (settings.stripRef ref))
  | untyped {raw} : raw.isMap = true → raw.field? "$ref" = none → raw.field? "type" = none →
      Derives settings .items raw (.object [])
  | object {position raw properties fields} : Typed raw "object" → raw.field? "properties" = some (.map properties) →
      raw.field? "items" = none → DerivesFields settings properties fields →
      Derives settings position raw (.object fields)
  | array {position raw items element} : Typed raw "array" → raw.field? "items" = some items →
      raw.field? "properties" = none → Derives settings .items items element →
      Derives settings position raw (.array element)
  | scalar {position raw type} : Typed raw type → Plain raw type → Derives settings position raw (.scalar type)

/-- the properties have these normal forms, under the same names and in the same order -/
inductive DerivesFields (settings : Settings) : Entries → List (String × Node) → Prop
  | nil : DerivesFields settings [] []
  | cons {name raw node properties fields} : Derives settings .property raw node →
      DerivesFields settings properties fields →
      DerivesFields settings ((.str name, raw) :: properties) ((name, node) :: fields)

end

/-- every property inside the schema, at any depth, has a text for a name -/
inductive TextNamed : Value → Prop
  | intro {raw} :
      (∀ properties, raw.field? "properties" = some (.map properties) → ∀ e ∈ properties, ∃ name, e.1 = .str name) →
      (∀ properties, raw.field? "properties" = some (.map properties) → ∀ e ∈ properties, TextNamed e.2) →
      (∀ items, raw.field? "items" = some items → TextNamed items) → TextNamed raw

/-! ## Reading -/

/-- the node of the schema at `location`, as it is read where it stands -/
def nodeAt (settings : Settings) : Position → Location → Value → Except Fault Node
  | .top => normalize settings
  | .property => propertyNode settings
  | .items => normalizeItems settings

/-- what the reading of a schema gives where it stands -/
inductive Reads (settings : Settings) (location : Location) : Position → Value → Except Fault Node → Prop
  | refused {position raw} (reason : Refusal) : ¬ Acceptable position raw →
      Reads settings location position raw (.error (.malformed reason raw location))
  | reference {position raw ref} : position ≠ .top → raw.field? "$ref" = some (.str ref) →
      Reads settings location position raw (.ok (.component (settings.stripRef ref)))
  | untyped {raw} : raw.isMap = true → raw.field? "$ref" = none → raw.field? "type" = none →
      Reads settings location .items raw (.ok (.object []))
  | object {position raw properties} : Typed raw "object" → raw.field? "properties" = some (.map properties) →
      raw.field? "items" = none →
      Reads settings location position raw (properties.mapM (namedNode settings location) >>= objectOf)
  | array {position raw items} : Typed raw "array" → raw.field? "items" = some items →
      raw.field? "properties" = none →
      Reads settings location position raw (Node.array <$> nodeAt settings .items location.items items)
  | scalar {position raw type} : Typed raw type → Plain raw type →
      Reads settings location position raw (.ok (.scalar type))

variable {settings : Settings} {location : Location} {position : Position} {raw : Value} {type : String}

/-! ## Shapes -/

theorem shapeOf_of_typed (typed : Typed raw type) : shapeOf raw = shapeOfType raw type := by
  simp [shapeOf, isMap_of_field? typed.2, typed.1, typed.2]

theorem shapeOf_object {properties : Entries} (typed : Typed raw "object")
    (found : raw.field? "properties" = some (.map properties)) (items : raw.field? "items" = none) :
    shapeOf raw = .ok .object := by
  simp [shapeOf_of_typed typed, shapeOfType, Value.hasField, found, items, Value.isMap, Value.entries?]

theorem shapeOf_array {items : Value} (typed : Typed raw "array") (found : raw.field? "items" = some items)
    (properties : raw.field? "properties" = none) : shapeOf raw = .ok .array := by
  simp [shapeOf_of_typed typed, shapeOfType, Value.hasField, found, properties]

theorem shapeOf_scalar (typed : Typed raw type) (plain : Plain raw type) : shapeOf raw = .ok .scalar := by
  rw [shapeOf_of_typed typed, shapeOfType]
  by_cases object : type = "object"
  · obtain ⟨properties, items⟩ := plain (Or.inl object)
    simp [object, Value.hasField, properties, items]
  · by_cases array : type = "array"
    · obtain ⟨properties, items⟩ := plain (Or.inr array)
      simp [array, Value.hasField, properties, items]
    · simp [object, array]

theorem consistent_of_shapeOfType {shape : Shape} (h : shapeOfType raw type = .ok shape) : Consistent raw type := by
  unfold shapeOfType at h
  split_ifs at h with items properties object
  · refine ⟨fun _ => ⟨?_, fun given found => ?_⟩, fun array => by simp [object] at array⟩
    · simpa [object, Value.hasField] using items
    · rw [found] at h
      dsimp only at h
      split_ifs at h with map
      exact map
  all_goals
    refine ⟨fun other => absurd other object, fun array => ?_⟩
    simpa [array, Value.hasField] using properties

theorem Consistent.of_object {properties : Entries} (found : raw.field? "properties" = some (.map properties))
    (items : raw.field? "items" = none) : Consistent raw "object" := by
  refine ⟨fun _ => ⟨items, fun given same => ?_⟩, fun other => absurd other (by decide)⟩
  cases found.symm.trans same
  rfl

theorem Consistent.of_array (properties : raw.field? "properties" = none) : Consistent raw "array" :=
  ⟨fun other => absurd other (by decide), fun _ => properties⟩

theorem Plain.consistent (plain : Plain raw type) : Consistent raw type := by
  refine ⟨fun object => ?_, fun array => (plain (Or.inr array)).1⟩
  obtain ⟨properties, items⟩ := plain (Or.inl object)
  exact ⟨items, by simp [properties]⟩

/-- a schema that is consistent with its type is an object, an array or a scalar -/
theorem Consistent.cases (consistent : Consistent raw type) :
    (∃ properties, type = "object" ∧ raw.field? "properties" = some (.map properties) ∧ raw.field? "items" = none) ∨
    (∃ items, type = "array" ∧ raw.field? "items" = some items ∧ raw.field? "properties" = none) ∨ Plain raw type := by
  by_cases object : type = "object"
  · obtain ⟨items, map⟩ := consistent.object object
    cases found : raw.field? "properties" with
    | none => exact Or.inr (Or.inr fun _ => ⟨found, items⟩)
    | some given =>
      obtain ⟨properties, rfl⟩ := Value.isMap_iff.1 (map given found)
      exact Or.inl ⟨properties, object, rfl, items⟩
  · by_cases array : type = "array"
    · have properties := consistent.array array
      cases found : raw.field? "items" with
      | none => exact Or.inr (Or.inr fun _ => ⟨properties, found⟩)
      | some items => exact Or.inr (Or.inl ⟨items, array, rfl, properties⟩)
    · exact Or.inr (Or.inr fun either => absurd either (by simp [object, array]))

theorem part_property {properties : Entries} {e : Value × Value} (typed : Typed raw "object")
    (found : raw.field? "properties" = some (.map properties)) (items : raw.field? "items" = none)
    (mem : e ∈ properties) : Part raw e.2 :=
  .property (shapeOf_object typed found items) (by simpa [propertiesOf, found] using mem)

theorem part_items {items : Value} (typed : Typed raw "array") (found : raw.field? "items" = some items)
    (properties : raw.field? "properties" = none) : Part raw items := by
  have part := Part.items (shapeOf_array typed found properties)
  rwa [itemsOf, found] at part

/-! ## Places -/

theorem nodeAt_of_ref {ref : String} (below : position ≠ .top) (found : raw.field? "$ref" = some (.str ref)) :
    nodeAt settings position location raw = .ok (.component (settings.stripRef ref)) := by
  have shaped := of_reference location found
  cases position with
  | top => exact absurd rfl below
  | property => simp only [nodeAt, propertyNode, shaped, referenced_of_ref found]
  | items => rw [nodeAt, normalizeItems, shaped, ← referenced_of_ref found]

theorem nodeAt_untyped (map : raw.isMap = true) (ref : raw.field? "$ref" = none) (type : raw.field? "type" = none) :
    nodeAt settings .items location raw = .ok (.object []) := by
  have shaped : Shape.of raw location = .ok .opaqueNode := Shape.of_eq_ok.2 (by simp [shapeOf, map, ref, type])
  rw [nodeAt, normalizeItems, shaped]

/-- a schema that names its type is read alike at every place -/
theorem nodeAt_of_typed (typed : Typed raw type) :
    nodeAt settings position location raw = normalize settings location raw := by
  cases position with
  | top => rfl
  | property => exact propertyNode_of_typed typed.1 typed.2
  | items =>
    rw [nodeAt, normalizeItems]
    split
    · rename_i fault shaped
      rw [normalize_of_error shaped]
    · rename_i shaped
      obtain ⟨ref, found⟩ := keywords_of_reference (Shape.of_eq_ok.1 shaped)
      rw [typed.1] at found
      cases found
    · rename_i shaped
      have untyped := (keywords_of_opaqueNode (Shape.of_eq_ok.1 shaped)).2
      rw [typed.2] at untyped
      cases untyped
    · rfl

theorem nodeAt_object {properties : Entries} (typed : Typed raw "object")
    (found : raw.field? "properties" = some (.map properties)) (items : raw.field? "items" = none) :
    nodeAt settings position location raw = properties.mapM (namedNode settings location) >>= objectOf := by
  rw [nodeAt_of_typed typed, normalize_object (shapeOf_object typed found items), propertiesOf, found]

theorem nodeAt_array {items : Value} (typed : Typed raw "array") (found : raw.field? "items" = some items)
    (properties : raw.field? "properties" = none) :
    nodeAt settings position location raw = Node.array <$> nodeAt settings .items location.items items := by
  rw [nodeAt_of_typed typed, normalize_array (shapeOf_array typed found properties), itemsOf, found]
  rfl

theorem nodeAt_scalar (typed : Typed raw type) (plain : Plain raw type) :
    nodeAt settings position location raw = .ok (.scalar type) := by
  have shaped : Shape.of raw location = .ok .scalar := Shape.of_eq_ok.2 (shapeOf_scalar typed plain)
  rw [nodeAt_of_typed typed, normalize_scalar shaped, typeName, typed.2]

/-- a schema that is not acceptable where it stands is refused there -/
theorem nodeAt_of_not_acceptable (h : ¬ Acceptable position raw) :
    ∃ reason, nodeAt settings position location raw = .error (.malformed reason raw location) := by
  cases shaped : Shape.of raw location with
  | error fault =>
    obtain ⟨reason, rfl⟩ := Shape.of_eq_error shaped
    refine ⟨reason, ?_⟩
    cases position with
    | top => exact normalize_of_error shaped
    | property => simp only [nodeAt, propertyNode, shaped]
    | items => rw [nodeAt, normalizeItems, shaped]
  | ok shape =>
    rcases shapeOf_cases (Shape.of_eq_ok.1 shaped) with ⟨rfl, ref, found⟩ | ⟨ref, type, rfl⟩ | ⟨ref, type, found, typed⟩
    · cases position with
      | top => exact ⟨_, normalize_reference shaped⟩
      | _ => exact absurd (.reference (by decide) found) h
    · cases position with
      | top => exact ⟨_, normalize_opaqueNode shaped⟩
      | property => exact ⟨.untypedProperty, by simp only [nodeAt, propertyNode, shaped]⟩
      | items =>
        cases map : raw.isMap with
        | true => exact absurd (.untyped map ref type) h
        | false => simp [Shape.of, shapeOf, map] at shaped
    · exact absurd (.typed ⟨ref, found⟩ (consistent_of_shapeOfType typed)) h

theorem reads (settings : Settings) (location : Location) (position : Position) (raw : Value) :
    Reads settings location position raw (nodeAt settings position location raw) := by
  by_cases acceptable : Acceptable position raw
  · cases acceptable with
    | reference below found =>
      rw [nodeAt_of_ref below found]
      exact .reference below found
    | untyped map ref type =>
      rw [nodeAt_untyped map ref type]
      exact .untyped map ref type
    | typed typed consistent =>
      rcases consistent.cases with ⟨properties, rfl, found, items⟩ | ⟨items, rfl, found, properties⟩ | plain
      · rw [nodeAt_object typed found items]
        exact .object typed found items
      · rw [nodeAt_array typed found properties]
        exact .array typed found properties
      · rw [nodeAt_scalar typed plain]
        exact .scalar typed plain
  · obtain ⟨reason, refused⟩ := nodeAt_of_not_acceptable acceptable
    rw [refused]
    exact .refused reason acceptable

/-! ## Names of properties -/

namespace TextNamed

theorem plain (properties : raw.field? "properties" = none) (items : raw.field? "items" = none) : TextNamed raw :=
  .intro (by simp [properties]) (by simp [properties]) (by simp [items])

theorem object {properties : Entries} (found : raw.field? "properties" = some (.map properties))
    (items : raw.field? "items" = none) (named : ∀ e ∈ properties, (∃ name, e.1 = .str name) ∧ TextNamed e.2) :
    TextNamed raw := by
  refine .intro ?_ ?_ (by simp [items])
  · intro other same
    cases found.symm.trans same
    exact fun e mem => (named e mem).1
  · intro other same
    cases found.symm.trans same
    exact fun e mem => (named e mem).2

theorem array {items : Value} (properties : raw.field? "properties" = none) (found : raw.field? "items" = some items)
    (named : TextNamed items) : TextNamed raw := by
  refine .intro (by simp [properties]) (by simp [properties]) fun other same => ?_
  cases found.symm.trans same
  exact named

end TextNamed

/-! ## What is derived is read -/

mutual

theorem Derives.read {settings : Settings} : ∀ {position raw node}, Derives settings position raw node →
    ∀ location, nodeAt settings position location raw = .ok node
  | _, _, _, .reference below found, _ => nodeAt_of_ref below found
  | _, _, _, .untyped map ref type, _ => nodeAt_untyped map ref type
  | _, _, _, .object typed found items fields, location => by
    rw [nodeAt_object typed found items, fields.read location]
    exact objectOf_keyedBy _
  | _, _, _, .array typed found properties element, location => by
    rw [nodeAt_array typed found properties, element.read location.items]
    rfl
  | _, _, _, .scalar typed plain, _ => nodeAt_scalar typed plain

theorem DerivesFields.read {settings : Settings} : ∀ {properties fields},
    DerivesFields settings properties fields →
    ∀ location, properties.mapM (namedNode settings location) = .ok (keyedBy fields)
  | _, _, .nil, _ => rfl
  | _, _, @DerivesFields.cons _ name raw node _ _ derived fields, location => by
    have first : namedNode settings location (.str name, raw) = .ok (.str name, node) :=
      map_eq_ok.2 ⟨node, derived.read _, rfl⟩
    rw [List.mapM_cons, first, fields.read location]
    rfl

end

/-! ## What is read is derived -/

theorem derivesFields_of_forall₂ {properties : Entries} {fields : List (String × Node)}
    (h : List.Forall₂ (fun e f => e.1 = .str f.1 ∧ Derives settings .property e.2 f.2) properties fields) :
    DerivesFields settings properties fields := by
  induction h with
  | nil => exact .nil
  | @cons e f properties fields head _ ih =>
    obtain ⟨key, raw⟩ := e
    obtain ⟨rfl, node⟩ := head
    exact .cons node ih

/-- **A schema is read as what the grammar derives for it**, wherever it stands. -/
theorem nodeAt_eq_ok_iff {node : Node} :
    nodeAt settings position location raw = .ok node ↔ Derives settings position raw node := by
  refine ⟨fun h => ?_, fun h => h.read location⟩
  induction raw using schema_induction generalizing position location node with
  | step raw ih =>
    have read := reads settings location position raw
    rw [h] at read
    generalize outcome : (Except.ok node : Except Fault Node) = result at read
    cases read with
    | refused reason refused => cases outcome
    | reference below found =>
      cases outcome
      exact .reference below found
    | untyped map ref type =>
      cases outcome
      exact .untyped map ref type
    | object typed found items =>
      obtain ⟨named, built, made⟩ := bind_eq_ok.1 outcome.symm
      obtain ⟨fields, rfl, rfl⟩ := objectOf_eq_ok.1 made
      -- each field comes from its property, for which the hypothesis holds
      have fieldwise := (List.forall₂_and_left _ _).2 ⟨fun e he => he, fieldsOf_of_mapM built⟩
      refine .object typed found items (derivesFields_of_forall₂ (fieldwise.imp fun e f ⟨mem, key, node⟩ => ⟨key, ?_⟩))
      exact ih e.2 (part_property typed found items mem) node
    | array typed found properties =>
      obtain ⟨element, built, rfl⟩ := map_eq_ok.1 outcome.symm
      exact .array typed found properties (ih _ (part_items typed found properties) built)
    | scalar typed plain =>
      cases outcome
      exact .scalar typed plain

/-- a schema with texts for the names of its properties is read or refused -/
theorem TextNamed.ok_or_refused (settings : Settings) (location : Location) (position : Position)
    (named : TextNamed raw) :
    (∃ node, nodeAt settings position location raw = .ok node) ∨ Refused (nodeAt settings position location raw) := by
  induction raw using schema_induction generalizing position location with
  | step raw ih =>
    obtain ⟨texts, properties, items⟩ := named
    generalize outcome : nodeAt settings position location raw = result
    have read := reads settings location position raw
    rw [outcome] at read
    cases read with
    | refused reason refused => exact Or.inr ⟨reason, _, _, rfl⟩
    | object typed found none =>
      rename_i entries
      cases built : entries.mapM (namedNode settings location) with
      | ok fields =>
        have keys : ∀ f ∈ fields, ∃ name, f.1 = Value.str name := by
          intro f mem
          obtain ⟨e, inside, made⟩ := exists_of_mem_results (mapM_eq_ok.1 built) mem
          obtain ⟨node, -, rfl⟩ := map_eq_ok.1 made
          exact texts entries found e inside
        obtain ⟨fields, rfl⟩ := exists_keyedBy keys
        exact Or.inl ⟨_, objectOf_keyedBy fields⟩
      | error fault =>
        obtain ⟨e, reached, failed⟩ := mapM_eq_error.1 built
        have failed : nodeAt settings .property (location.property e.1) e.2 = .error fault := map_eq_error.1 failed
        have part := part_property typed found none reached.mem
        rcases ih e.2 part _ .property (properties entries found e reached.mem) with ⟨node, read⟩ | refused
        · rw [failed] at read
          cases read
        · rw [failed] at refused
          obtain ⟨reason, node, place, eq⟩ := refused
          cases eq
          exact Or.inr ⟨reason, node, place, rfl⟩
    | array typed found none =>
      rcases ih _ (part_items typed found none) location.items .items (items _ found) with
        ⟨element, read⟩ | ⟨reason, node, place, refused⟩
      · exact Or.inl ⟨_, map_eq_ok.2 ⟨element, read, rfl⟩⟩
      · exact Or.inr ⟨reason, node, place, map_eq_error.2 refused⟩
    | _ => exact Or.inl ⟨_, rfl⟩

/-- **Normal forms are exactly what the grammar derives.** A raw schema is normalized to what is derived for it at the
top, whatever its place is, and it is refused where nothing is. -/
theorem normalize_iff_derives (settings : Settings) (location : Location) (named : TextNamed raw) :
    (∀ node, normalize settings location raw = .ok node ↔ Derives settings .top raw node) ∧
      ((¬ ∃ node, Derives settings .top raw node) → Refused (normalize settings location raw)) := by
  have derived (node : Node) : normalize settings location raw = .ok node ↔ Derives settings .top raw node :=
    @nodeAt_eq_ok_iff settings location .top raw node
  refine ⟨derived, fun underivable => ?_⟩
  rcases named.ok_or_refused settings location .top with ⟨node, read⟩ | refused
  · exact absurd ⟨node, (derived node).1 read⟩ underivable
  · exact refused

/-- an object with a reference beside a type, rows of rows of anything, and an object that says nothing more -/
def catalogue : Value :=
  let owner : Value := .map [(.str "$ref", .str "#/components/schemas/Owner"), (.str "type", .str "integer")]
  let row : Value := .map [(.str "type", .str "array"), (.str "items", .map [])]
  .map [(.str "type", .str "object"), (.str "properties", .map [(.str "owner", owner),
    (.str "rows", .map [(.str "type", .str "array"), (.str "items", row)]),
    (.str "extra", .map [(.str "type", .str "object")])])]

/-- an array whose items are objects and have items themselves -/
def contradictory : Value :=
  .map [(.str "type", .str "array"), (.str "items", .map [(.str "type", .str "object"), (.str "items", .map [])])]

theorem textNamed_catalogue : TextNamed catalogue := by
  refine .object rfl rfl fun e mem => ?_
  simp only [List.mem_cons, List.not_mem_nil, or_false] at mem
  rcases mem with rfl | rfl | rfl
  · exact ⟨⟨_, rfl⟩, .plain rfl rfl⟩
  · exact ⟨⟨_, rfl⟩, .array rfl rfl (.array rfl rfl (.plain rfl rfl))⟩
  · exact ⟨⟨_, rfl⟩, .plain rfl rfl⟩

theorem not_derives_contradictory : ¬ ∃ node, Derives {} .top contradictory node := by
  rintro ⟨node, derived⟩
  cases derived with
  | reference _ found => cases found
  | object typed => exact absurd (typed.unique rfl : "object" = "array") (by decide)
  | scalar typed plain =>
    cases typed.2
    cases (plain (Or.inr rfl)).2
  | array _ found _ element =>
    cases found
    cases element with
    | reference _ found => cases found
    | untyped _ _ type => cases type
    | object _ _ items => cases items
    | array typed => exact absurd (typed.unique rfl : "array" = "object") (by decide)
    | scalar typed plain =>
      cases typed.2
      cases (plain (Or.inl rfl)).2

/-- a schema of every kind is normalized to what is derived for it, and one that contradicts itself is refused -/
theorem catalogue_normalized :
    let node : Node := .object [("owner", .component "Owner"), ("rows", .array (.array (.object []))),
      ("extra", .scalar "object")]
    TextNamed catalogue ∧ Derives {} .top catalogue node ∧ normalize {} .top catalogue = .ok node ∧
      Refused (normalize {} .top contradictory) := by
  intro node
  have strip : ({} : Settings).stripRef "#/components/schemas/Owner" = "Owner" := by decide
  have derived : Derives {} .top catalogue node := by
    refine .object ⟨rfl, rfl⟩ rfl rfl (.cons ?_ (.cons ?_ (.cons ?_ .nil)))
    · rw [← strip]
      exact .reference (by decide) rfl
    · exact .array ⟨rfl, rfl⟩ rfl rfl (.array ⟨rfl, rfl⟩ rfl rfl (.untyped rfl rfl rfl))
    · exact .scalar ⟨rfl, rfl⟩ fun _ => ⟨rfl, rfl⟩
  have refused : TextNamed contradictory := .array rfl rfl (.array rfl rfl (.plain rfl rfl))
  exact ⟨textNamed_catalogue, derived, ((normalize_iff_derives {} .top textNamed_catalogue).1 node).2 derived,
    (normalize_iff_derives {} .top refused).2 not_derives_contradictory⟩

end ApiTypes.Schema
