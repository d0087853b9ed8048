/-
Request bodies that carry their schema, and bodies that refer to a component of the same schema.

The place of a raw component only gets into faults and notices, so the schema of a body is built into the same component
whether it stands in the body or in the registry. A stub reads nothing of a body but this component. An inline schema has
to say that it is an object, though, which a component with properties need not.

Main statements: `ofRaw_at`, a component is built alike at every place; `inline_eq_component`, both bodies have the same
schema and their operations the same stub; `untyped_schema_refused`, a schema that is a component but no inline schema.
-/
import ApiTypes.Module.Stub
import ApiTypes.Proofs.Inline
import ApiTypes.Proofs.Operation

namespace ApiTypes

variable {settings : Settings}

/-! ## Places -/

section

variable {α : Type} {x y : Except Fault α} {a : α}

theorem EndAlike.eq_ok (h : EndAlike Eq x y) (ok : x = .ok a) : y = .ok a := by
  cases h with
  | ok same => rw [← same, ok]
  | refused refused =>
    obtain ⟨reason, node, place, eq⟩ := refused
    rw [ok] at eq
    cases eq
  | invalid => cases ok

end

namespace Property

theorem variantOf_endAlike (location place : Location) (raw : Value) :
    EndAlike Eq (variantOf settings location raw) (variantOf settings place raw) := by
  unfold variantOf
  dsimp only
  by_cases map : raw.isMap = true
  · rw [map]
    cases raw.textField? "type" with
    | some type => exact .ok rfl
    | none =>
      cases raw.textField? "$ref" with
      | some ref => exact .ok rfl
      | none => exact .refused ⟨_, _, _, rfl⟩ ⟨_, _, _, rfl⟩
  · rw [Bool.eq_false_of_not_eq_true map]
    exact .refused ⟨_, _, _, rfl⟩ ⟨_, _, _, rfl⟩

theorem variantsOf_endAlike (location place : Location) (items : List Value) :
    EndAlike Eq (variantsOf settings location 0 items) (variantsOf settings place 0 items) := by
  rw [variantsOf_eq_mapM, variantsOf_eq_mapM, ← List.forall₂_eq_eq_eq]
  apply endAlike_mapM
  intro e _
  exact variantOf_endAlike _ _ e.1

theorem typeOf_endAlike (location place : Location) (raw : Value) (shape : PropertyShape) :
    EndAlike Eq (typeOf settings location raw shape) (typeOf settings place raw shape) := by
  cases shape with
  | oneOf =>
    unfold typeOf
    dsimp only
    split
    · exact (variantsOf_endAlike location place _).map fun _ _ same => congrArg Node.oneOf same
    · exact .ok rfl
  | composite => exact Schema.normalize_endAlike (.refl _) location place
  | reference => exact .ok rfl
  | scalar => exact .ok rfl

end Property

namespace Component

variable {names : List Value}

theorem propertyType_endAlike (location place : Location) (e : Value × Value) :
    EndAlike Eq (propertyType settings location names e) (propertyType settings place names e) := by
  have shaped : EndAlike Eq (PropertyShape.of (stamp names e.1 e.2) (location.property e.1))
      (PropertyShape.of (stamp names e.1 e.2) (place.property e.1)) := by
    unfold PropertyShape.of
    cases propertyShapeOf (stamp names e.1 e.2) with
    | ok shape => exact .ok rfl
    | error reason => exact .refused ⟨_, _, _, rfl⟩ ⟨_, _, _, rfl⟩
  apply shaped.bind
  intro shape _ same
  rw [← same]
  exact Property.typeOf_endAlike _ _ _ shape

theorem MadeOf.at {location : Location} {e : Value × Value} {p : Property} (h : MadeOf settings location names e p)
    (place : Location) : MadeOf settings place names e p :=
  { h with type := (propertyType_endAlike location place e).eq_ok h.type }

theorem requiredNames_at {raw : Value} {location : Location} (h : requiredNames raw location = .ok names)
    (place : Location) : requiredNames raw place = .ok names := by
  revert h
  unfold requiredNames
  cases raw.field? "required" with
  | none => exact id
  | some given =>
    dsimp only
    by_cases isGiven : given.isGiven = true
    · rw [isGiven]
      cases given with
      | list => exact id
      | _ => exact nofun
    · rw [Bool.eq_false_of_not_eq_true isGiven]
      exact id

/-- **A component is built alike under every name**, since its place only gets into faults and notices. -/
theorem ofRaw_at {name raw : Value} {c : Component} (h : (ofRaw settings name raw).result = .ok c) (other : Value) :
    (ofRaw settings other raw).result = .ok c := by
  rcases ofRaw_eq_ok h with ⟨absent, object, rfl⟩ | ⟨properties, names, built, from_, rfl⟩
  · have map : raw.isMap = true := Schema.isMap_of_field? object
    have typed : raw.fieldAmong "type" ["object"] = true := Value.fieldAmong_iff.2 ⟨_, List.mem_cons_self, object⟩
    simp [ofRaw, map, absent, typed]
  · have made : properties.mapM (propertyOf settings (placeOf settings other) names) = .ok built := by
      rw [mapM_eq_ok]
      apply from_.built.imp
      intro e p h
      exact propertyOf_eq_ok.2 (h.at _)
    rw [result_of_properties from_.found, requiredNames_at from_.required]
    exact map_eq_ok.2 ⟨built, made, rfl⟩

end Component

/-! ## Bodies -/

namespace RequestBody

variable {registry : Registry} {location : Location} {raw schema : Value} {name : String} {c : Component}

/-- a body with an object schema of its own -/
theorem result_of_inline (carries : rawSchema? settings raw = some schema) (plain : schema.field? "$ref" = none)
    (object : schema.field? "type" = some (.str "object"))
    (built : (Component.ofRaw settings (.str name) schema).result = .ok c) :
    (ofRaw registry settings location raw).result =
      .ok (some (.json (Parameter.isGiven raw "required") settings.jsonContentType c none)) := by
  have noText : schema.textField? "$ref" = none := by simp [Value.textField?, plain]
  rw [result_of_rawSchema carries, schemaOfRaw_inline noText object, Component.ofRaw_at built]
  rfl

/-- a body whose schema refers to a component -/
theorem result_of_reference {ref : String} (carries : rawSchema? settings raw = some schema)
    (refers : schema.field? "$ref" = some (.str ref)) (names : settings.stripRef ref = name)
    (registered : registry.find? name = some c) :
    (ofRaw registry settings location raw).result =
      .ok (some (.json (Parameter.isGiven raw "required") settings.jsonContentType c (some name))) := by
  rw [result_of_rawSchema carries, schemaOfRaw_of_ref refers, names, registered]
  rfl

end RequestBody

namespace Operation

/-- the operation with this request body -/
def withBody (op : Operation) (body : RequestBody) : Operation := { op with requestBody := some body }

end Operation

namespace Module

/-- a stub reads nothing of a body but its schema -/
theorem ofOperation_withBody {body other : RequestBody} (same : body.schema? = other.schema?) (op : Operation) :
    Stub.ofOperation (op.withBody body) = Stub.ofOperation (op.withBody other) := by
  have schemas : (op.withBody body).bodySchema? = (op.withBody other).bodySchema? := same
  have arguments : Argument.ofOperation (op.withBody body) = Argument.ofOperation (op.withBody other) := by
    unfold Argument.ofOperation
    rw [schemas]
    rfl
  unfold Stub.ofOperation
  rw [arguments]
  rfl

end Module

section

variable {registry : Registry} {schema reference inline referring : Value} {name ref : String} {c : Component}

/-- **A schema that stands in a body is built like the component of the same schema.** Where an object schema without a
reference is accepted as a component, a body with this schema and a body that refers to the component both have it for
their schema, at every place; and every operation has the same stub with either body, with the same notices. -/
theorem inline_eq_component (plain : schema.field? "$ref" = none) (object : schema.field? "type" = some (.str "object"))
    (built : (Component.ofRaw settings (.str name) schema).result = .ok c) (registered : registry.find? name = some c)
    (refers : reference.field? "$ref" = some (.str ref)) (names : settings.stripRef ref = name)
    (carries : RequestBody.rawSchema? settings inline = some schema)
    (carries' : RequestBody.rawSchema? settings referring = some reference) (location location' : Location) :
    ∃ own named : RequestBody,
      (RequestBody.ofRaw registry settings location inline).result = .ok (some own) ∧
      (RequestBody.ofRaw registry settings location' referring).result = .ok (some named) ∧
      own = .json (Parameter.isGiven inline "required") settings.jsonContentType c none ∧
      named = .json (Parameter.isGiven referring "required") settings.jsonContentType c (some name) ∧
      ∀ op : Operation, Module.Stub.ofOperation (op.withBody own) = Module.Stub.ofOperation (op.withBody named) := by
  refine ⟨_, _, RequestBody.result_of_inline carries plain object built,
    RequestBody.result_of_reference carries' refers names registered, rfl, rfl, ?_⟩
  intro op
  exact Module.ofOperation_withBody rfl op

end

/-- a schema with properties, one of them required -/
def petSchema (type : Entries) : Value :=
  .map (type ++ [(.str "required", .list [.str "name"]), (.str "properties", .map [
    (.str "tag", .map [(.str "type", .str "string")]), (.str "name", .map [(.str "type", .str "string")])])])

def objectType : Entries := [(.str "type", .str "object")]

/-- a JSON body with this schema -/
def jsonBody (schema : Value) : Value :=
  .map [(.str "content", .map [(.str "application/json", .map [(.str "schema", schema)])])]

def petReference : Value := .map [(.str "$ref", .str "#/components/schemas/Pet")]

def pet : Component :=
  ⟨[⟨"name", .scalar "string", "", .str "", true⟩], [⟨"tag", .scalar "string", "", .str "", false⟩]⟩

theorem pet_inline_eq_component :
    (Component.ofRaw {} (.str "Pet") (petSchema objectType)).result = .ok pet ∧
      ∃ own named : RequestBody,
        (RequestBody.ofRaw [(.str "Pet", pet)] {} .top (jsonBody (petSchema objectType))).result = .ok (some own) ∧
        (RequestBody.ofRaw [(.str "Pet", pet)] {} .top (jsonBody petReference)).result = .ok (some named) ∧
        own = .json false "application/json" pet none ∧ named = .json false "application/json" pet (some "Pet") ∧
        ∀ op : Operation, Module.Stub.ofOperation (op.withBody own) = Module.Stub.ofOperation (op.withBody named) := by
  have built : (Component.ofRaw {} (.str "Pet") (petSchema objectType)).result = .ok pet := by cbv
  exact ⟨built, inline_eq_component rfl rfl built rfl rfl (by decide) rfl rfl _ _⟩

/-- **A schema without a type is a component but no inline schema.** Under its name it is registered and referred to; in
the body itself it is refused. -/
theorem untyped_schema_refused :
    (petSchema []).field? "$ref" = none ∧ (Component.ofRaw {} (.str "Pet") (petSchema [])).result = .ok pet ∧
      (RequestBody.ofRaw [(.str "Pet", pet)] {} .top (jsonBody petReference)).result =
        .ok (some (.json false "application/json" pet (some "Pet"))) ∧
      (RequestBody.ofRaw [(.str "Pet", pet)] {} .top (jsonBody (petSchema []))).result =
        .error (.malformed .untypedBody (petSchema [])
          ⟨"#", [.word "content", .word "application/json", .word "schema"]⟩) := by
  refine ⟨rfl, by cbv, by cbv, by cbv⟩

end ApiTypes
