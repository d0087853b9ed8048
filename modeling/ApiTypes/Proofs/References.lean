/-
References: which components a documentation refers to, and which of these references are looked up.

`Refers` follows a raw document to the `$ref` of a property, a nested property, an array's items, a variant, a response
or an inline request body. None of these is looked up when it is read. The reference of a request body as a whole is
the only one that is, and a build that ends with an unresolved reference ends there.

Main statements: `mem_references_iff`, the references of a documentation are those of its document and those of its
request bodies; `references_closed_iff`, when they all name components, and when a build reports one that does not.
-/
import Mathlib.Data.List.Permutation
import ApiTypes.Proofs.Mistyped

namespace ApiTypes

variable {settings : Settings} {location : Location} {registry : Registry} {c : String}

/-! ## Schemas -/

theorem Node.variantReferences_eq (variants : List Variant) :
    variantReferences variants = variants.flatMap fun v => v.type.references := by
  induction variants with
  | nil => simp [variantReferences]
  | cons v rest ih =>
    cases v
    simp [variantReferences, ih, Variant.type]

namespace Schema

/-- a schema is a reference to the component, or one of its properties or its items refers to it -/
inductive Refers (settings : Settings) : Value → String → Prop
  | ref {raw text} : raw.field? "$ref" = some (.str text) → Refers settings raw (settings.stripRef text)
  | property {raw key sub : Value} {c : String} : shapeOf raw = .ok .object → (key, sub) ∈ propertiesOf raw →
      Refers settings sub c → Refers settings raw c
  | items {raw : Value} {c : String} : shapeOf raw = .ok .array → Refers settings (itemsOf raw) c →
      Refers settings raw c

theorem refers_of_ref {raw : Value} {text : String} (h : raw.field? "$ref" = some (.str text)) :
    Refers settings raw c ↔ c = settings.stripRef text := by
  constructor
  · intro refers
    cases refers with
    | ref found =>
      rw [h] at found
      cases found
      rfl
    | property object =>
      rw [(keywords_of_object object).1] at h
      cases h
    | items array =>
      rw [(keywords_of_array array).1] at h
      cases h
  · rintro rfl
    exact .ref h

theorem refers_of_object {raw : Value} (h : shapeOf raw = .ok .object) :
    Refers settings raw c ↔ ∃ e ∈ propertiesOf raw, Refers settings e.2 c := by
  constructor
  · intro refers
    cases refers with
    | ref found =>
      rw [(keywords_of_object h).1] at found
      cases found
    | property _ mem refers => exact ⟨_, mem, refers⟩
    | items array =>
      rw [h] at array
      cases array
  · rintro ⟨e, mem, refers⟩
    exact .property h mem refers

theorem refers_of_array {raw : Value} (h : shapeOf raw = .ok .array) :
    Refers settings raw c ↔ Refers settings (itemsOf raw) c := by
  constructor
  · intro refers
    cases refers with
    | ref found =>
      rw [(keywords_of_array h).1] at found
      cases found
    | property object =>
      rw [h] at object
      cases object
    | items _ refers => exact refers
  · exact .items h

/-- a schema with neither a reference nor the type of an object or array refers to nothing -/
theorem not_refers {raw : Value} (ref : raw.textField? "$ref" = none)
    (plain : raw.fieldAmong "type" ["array", "object"] = false) : ¬ Refers settings raw c := by
  intro refers
  have not (type : String) (typed : raw.field? "type" = some (.str type)) (h : type ∈ ["array", "object"]) : False := by
    rw [Value.fieldAmong_iff.2 ⟨type, h, typed⟩] at plain
    cases plain
  cases refers with
  | ref found =>
    rw [Value.textField?_eq_some.2 found] at ref
    cases ref
  | property object => exact not _ (keywords_of_object object).2.1 (by simp)
  | items array => exact not _ (keywords_of_array array).2.1 (by simp)

theorem fieldAmong_eq_false {raw : Value} {name : String} {texts : List String}
    (h : ∀ text, raw.field? name = some (.str text) → text ∉ texts) : raw.fieldAmong name texts = false := by
  by_contra among
  rw [Bool.not_eq_false] at among
  obtain ⟨text, mem, found⟩ := Value.fieldAmong_iff.1 among
  exact h text found mem

/-- a node that is a reference, or the normal form of a schema whose references are known -/
theorem mem_references_propertyNode {raw : Value} {node : Node} (h : propertyNode settings location raw = .ok node)
    (normal : normalize settings location raw = .ok node → (c ∈ node.references ↔ Refers settings raw c)) :
    c ∈ node.references ↔ Refers settings raw c := by
  rcases propertyNode_cases h with ⟨text, found, rfl⟩ | ⟨-, h⟩
  · rw [refers_of_ref found, Node.references, List.mem_singleton]
  · exact normal h

theorem mem_references_normalizeItems {raw : Value} {node : Node} (h : normalizeItems settings location raw = .ok node)
    (normal : normalize settings location raw = .ok node → (c ∈ node.references ↔ Refers settings raw c)) :
    c ∈ node.references ↔ Refers settings raw c := by
  rcases normalizeItems_cases h with ⟨text, found, rfl⟩ | ⟨ref, type, rfl⟩ | ⟨-, h⟩
  · rw [refers_of_ref found, Node.references, List.mem_singleton]
  · have noRef : raw.textField? "$ref" = none := by simp [Value.textField?, ref]
    have plain : raw.fieldAmong "type" ["array", "object"] = false := fieldAmong_eq_false (by simp [type])
    simp [Node.references, Node.fieldReferences, not_refers noRef plain]
  · exact normal h

/-- **The references of a normal form are those of its schema.** -/
theorem mem_references_normalize {raw : Value} {node : Node} (h : normalize settings location raw = .ok node) :
    c ∈ node.references ↔ Refers settings raw c := by
  induction raw using schema_induction generalizing location node with
  | step raw ih =>
    rcases normalize_cases h with ⟨object, fields, made, rfl⟩ | ⟨array, element, made, rfl⟩ | ⟨scalar, rfl⟩
    · rw [refers_of_object object, Node.references, Node.fieldReferences_eq, List.mem_flatMap]
      refine (exists_iff_of_forall₂ made fun e mem f read => ?_).symm
      exact (mem_references_propertyNode read.2 (ih e.2 (.property object mem))).symm
    · rw [refers_of_array array, Node.references]
      exact mem_references_normalizeItems made (ih _ (.items array))
    · obtain ⟨ref, type⟩ := keywords_of_scalar scalar
      have noRef : ¬ Refers settings raw c := by
        intro refers
        cases refers with
        | ref found =>
          rw [ref] at found
          cases found
        | property object =>
          rw [scalar] at object
          cases object
        | items array =>
          rw [scalar] at array
          cases array
      simp [Node.references, noRef]

end Schema

/-! ## Components -/

/-- the property's own schema refers to the component, or one of its variants is a reference to it -/
inductive Property.Refers (settings : Settings) (raw : Value) : String → Prop
  | schema {c : String} : raw.field? "oneOf" = none → Schema.Refers settings raw c → Refers settings raw c
  | variant {items v text} : raw.field? "oneOf" = some (.list items) → v ∈ items → v.textField? "type" = none →
      v.field? "$ref" = some (.str text) → Refers settings raw (settings.stripRef text)

theorem Property.refers_of_schema {raw : Value} (h : raw.field? "oneOf" = none) :
    Refers settings raw c ↔ Schema.Refers settings raw c := by
  constructor
  · intro refers
    cases refers with
    | schema _ refers => exact refers
    | variant found =>
      rw [h] at found
      cases found
  · exact .schema h

/-- some property of the component refers to the other -/
def Component.Refers (settings : Settings) (raw : Value) (c : String) : Prop :=
  ∃ properties, raw.field? "properties" = some (.map properties) ∧ ∃ e ∈ properties, Property.Refers settings e.2 c

namespace Component

variable {names : List Value}

theorem mem_references_variantsOf {items : List Value} {variants : List Variant}
    (h : Property.variantsOf settings location 0 items = .ok variants) :
    c ∈ Node.variantReferences variants ↔ ∃ v ∈ items, v.textField? "type" = none ∧
      ∃ text, v.field? "$ref" = some (.str text) ∧ c = settings.stripRef text := by
  rw [Property.variantsOf_eq_mapM, mapM_eq_ok] at h
  have read : List.Forall₂ (fun v variant => ∃ place, Property.variantOf settings place v = .ok variant)
      items variants := by
    rw [← List.zipIdx_map_fst 0 items, List.forall₂_map_left_iff]
    exact h.imp fun e variant read => ⟨_, read⟩
  rw [Node.variantReferences_eq, List.mem_flatMap]
  refine (exists_iff_of_forall₂ read fun v _ variant hv => ?_).symm
  obtain ⟨place, hv⟩ := hv
  rcases Property.variantOf_cases hv with ⟨type, typed, eq⟩ | ⟨untyped, text, found, eq⟩
  · simp [eq, Node.references, Value.textField?_eq_some.2 typed]
  · simp [eq, Node.references, untyped, found]

theorem mem_references_propertyType {e : Value × Value} {node : Node}
    (h : propertyType settings location names e = .ok node) :
    c ∈ node.references ↔ Property.Refers settings e.2 c := by
  rcases propertyType_cases h with ⟨items, variants, found, read, rfl⟩ | ⟨oneOf, -, normal⟩ |
    ⟨oneOf, -, text, found, rfl⟩ | ⟨oneOf, plain, ref, type, -, rfl⟩
  · rw [Node.references, mem_references_variantsOf read]
    constructor
    · rintro ⟨v, mem, untyped, text, ref, rfl⟩
      exact .variant found mem untyped ref
    · intro refers
      cases refers with
      | schema oneOf =>
        rw [found] at oneOf
        cases oneOf
      | variant found' mem untyped ref =>
        rw [found] at found'
        cases found'
        exact ⟨_, mem, untyped, _, ref, rfl⟩
  · rw [Property.refers_of_schema oneOf]
    exact Schema.mem_references_normalize normal
  · rw [Property.refers_of_schema oneOf, Schema.refers_of_ref found, Node.references, List.mem_singleton]
  · rw [Property.refers_of_schema oneOf]
    simp [Node.references, Schema.not_refers ref plain]

/-- **The references of a component are those of its raw schema.** -/
theorem mem_references_ofRaw {name raw : Value} {component : Component}
    (h : (ofRaw settings name raw).result = .ok component) :
    c ∈ component.references ↔ Refers settings raw c := by
  rcases ofRaw_eq_ok h with ⟨found, -, rfl⟩ | ⟨properties, names, built, from_, rfl⟩
  · simp [references, Component.properties, Refers, found]
  · have refers : Refers settings raw c ↔ ∃ e ∈ properties, Property.Refers settings e.2 c := by
      simp [Refers, from_.found]
    rw [refers, references, List.mem_flatMap]
    simp only [mem_properties_ofProperties]
    refine (exists_iff_of_forall₂ from_.built fun e _ p made => ?_).symm
    exact (mem_references_propertyType made.type).symm

end Component

/-! ## Operations -/

/-- the schema of the success response is a reference to the component -/
def Response.Refers (settings : Settings) (responses : Value) (c : String) : Prop :=
  ∃ schema text, Response.rawSchema? settings responses = some schema ∧ schema.field? "$ref" = some (.str text) ∧
    c = settings.stripRef text

theorem Response.mem_references_typeOf {responses : Value} {node : Node}
    (h : Response.typeOf settings location responses = .ok node) :
    c ∈ node.references ↔ Response.Refers settings responses c := by
  obtain ⟨schema, given, typed⟩ := typeOf_eq_ok h
  have refers : Refers settings responses c ↔
      ∃ text, schema.field? "$ref" = some (.str text) ∧ c = settings.stripRef text := by
    simp [Refers, given]
  rw [refers]
  rcases node?_cases typed with ⟨text, ref, rfl⟩ | ⟨ref, type, -, rfl⟩
  · simp [Node.references, ref]
  · simp only [Node.references, List.not_mem_nil, false_iff, not_exists, not_and]
    intro text found
    rw [Value.textField?_eq_some.2 found] at ref
    cases ref

/-- the components that a body refers to: the one that is its schema, and those inside the schema -/
def RequestBody.references : RequestBody → List String
  | json _ _ schema component => component.toList ++ schema.references
  | unsupported _ => []

/-- the component that is the schema of a body -/
def RequestBody.component? : RequestBody → Option String
  | json _ _ _ component => component
  | unsupported _ => none

/-- the components that an operation refers to -/
def Operation.references (op : Operation) : List String :=
  (op.requestBody.elim [] RequestBody.references) ++ op.responseType.references

/-- the component that is the schema of an operation's body -/
def Operation.bodyComponent? (op : Operation) : Option String := op.requestBody.bind RequestBody.component?

/-- the response or the inline schema of the request body refers to the component -/
inductive Operation.Refers (settings : Settings) (entry : Value) : String → Prop
  | response {method operation} {c : String} : Operation.represented? settings entry = some (method, operation) →
      Response.Refers settings ((operation.field? "responses").getD .null) c → Refers settings entry c
  | inline {operation schema} {c : String} : Operation.represented? settings entry = some (.post, operation) →
      RequestBody.rawSchema? settings (Operation.rawBody operation) = some schema → schema.textField? "$ref" = none →
      Component.Refers settings schema c → Refers settings entry c

/-- an operation that is left out, since its request body has no model -/
def Operation.Dropped (settings : Settings) (entry : Value) : Prop :=
  ∃ operation contentType, Operation.represented? settings entry = some (.post, operation) ∧
    RequestBody.Foreign settings (Operation.rawBody operation) contentType

namespace RequestBody

theorem rawSchema?_of_foreign {raw contentType : Value} (h : Foreign settings raw contentType) :
    rawSchema? settings raw = none := by
  obtain ⟨media, rest, content, absent⟩ := h
  simp [rawSchema?, content, absent]

/-- the two ways in which a JSON body has its schema -/
theorem schemaOfRaw_eq_ok {schema : Value} {found : Component} {component : Option String}
    (h : (schemaOfRaw registry settings location schema).result = .ok (found, component)) :
    (∃ text, schema.field? "$ref" = some (.str text) ∧ component = some (settings.stripRef text) ∧
      registry.find? (settings.stripRef text) = some found) ∨
    (schema.textField? "$ref" = none ∧ component = none ∧
      (Component.ofRaw settings (.str "") schema).result = .ok found) := by
  rcases schemaOfRaw_cases registry settings location schema with ⟨text, ref⟩ | ⟨ref, typed⟩ | ⟨reason, result⟩
  · rw [schemaOfRaw_of_ref ref] at h
    split at h
    · rename_i known
      cases h
      exact Or.inl ⟨text, ref, rfl, known⟩
    · cases h
  · rw [schemaOfRaw_inline ref typed] at h
    obtain ⟨built, read, same⟩ := map_eq_ok.1 h
    cases same
    exact Or.inr ⟨ref, rfl, read⟩
  · rw [result] at h
    cases h

/-- the ways in which the reading of a body succeeds -/
theorem ofRaw_eq_ok {raw : Value} {body : Option RequestBody}
    (h : (ofRaw registry settings location raw).result = .ok body) :
    (raw = .null ∧ body = none) ∨
    (∃ contentType, Foreign settings raw (.str contentType) ∧ body = some (.unsupported contentType)) ∨
    (∃ schema found component, rawSchema? settings raw = some schema ∧
      (schemaOfRaw registry settings (schemaPlace settings location) schema).result = .ok (found, component) ∧
      body = some (.json (Parameter.isGiven raw "required") settings.jsonContentType found component)) := by
  rcases ofRaw_cases registry settings location raw with ⟨null, result⟩ | ⟨contentType, foreign⟩ | ⟨schema, given⟩ |
    ⟨reason, place, result, -⟩
  · rw [result] at h
    cases h
    exact Or.inl ⟨null, rfl⟩
  · rw [result_of_foreign foreign] at h
    cases contentType with
    | str contentType =>
      cases h
      exact Or.inr (Or.inl ⟨contentType, foreign, rfl⟩)
    | _ => cases h
  · rw [result_of_rawSchema given] at h
    obtain ⟨⟨found, component⟩, read, rfl⟩ := map_eq_ok.1 h
    exact Or.inr (Or.inr ⟨schema, found, component, given, read, rfl⟩)
  · rw [result] at h
    cases h

end RequestBody

namespace Operation

variable {path entry operation : Value} {op : Operation}

/-- an operation is supported unless it is one of those that are left out -/
theorem isSupported_iff_not_dropped (made : MadeOf registry settings path entry operation op) :
    op.isSupported = true ↔ ¬ Dropped settings entry := by
  have body := made.body
  constructor
  · rintro supported ⟨operation', contentType, represented, foreign⟩
    have same := made.represented.symm.trans represented
    rw [Option.some.injEq, Prod.mk.injEq] at same
    obtain ⟨post, rfl⟩ := same
    rw [bodyOf, if_pos post] at body
    rcases RequestBody.ofRaw_eq_ok body with ⟨null, -⟩ | ⟨contentType, -, unsupported⟩ | ⟨schema, -, -, given, -⟩
    · rw [null] at foreign
      obtain ⟨media, rest, content, -⟩ := foreign
      cases content
    · exact (isSupported_iff op).1 supported contentType unsupported
    · rw [RequestBody.rawSchema?_of_foreign foreign] at given
      cases given
  · intro kept
    refine (isSupported_iff op).2 fun contentType unsupported => kept ?_
    by_cases post : op.method = .post
    · rw [bodyOf, if_pos post, unsupported] at body
      rcases RequestBody.ofRaw_eq_ok body with ⟨-, none⟩ | ⟨contentType, foreign, -⟩ |
        ⟨schema, found, component, given, read, json⟩
      · cases none
      · exact ⟨operation, _, post ▸ made.represented, foreign⟩
      · cases json
    · rw [bodyOf, if_neg post, unsupported] at body
      cases body

/-- the body of an operation, where it has a JSON body -/
theorem body_of_madeOf (made : MadeOf registry settings path entry operation op) {body : RequestBody}
    (h : op.requestBody = some body) (supported : op.isSupported = true) :
    op.method = .post ∧ ∃ schema found component, RequestBody.rawSchema? settings (rawBody operation) = some schema ∧
      (RequestBody.schemaOfRaw registry settings
        (RequestBody.schemaPlace settings ((placeOf path entry).down [.word "requestBody"])) schema).result =
          .ok (found, component) ∧
      body.references = component.toList ++ found.references ∧ body.component? = component := by
  have read := made.body
  rw [h] at read
  by_cases post : op.method = .post
  · rw [bodyOf, if_pos post] at read
    refine ⟨post, ?_⟩
    rcases RequestBody.ofRaw_eq_ok read with ⟨-, none⟩ | ⟨contentType, -, unsupported⟩ |
      ⟨schema, found, component, given, resolved, json⟩
    · cases none
    · cases unsupported
      exact absurd h ((isSupported_iff op).1 supported contentType)
    · cases json
      exact ⟨schema, found, component, given, resolved, rfl, rfl⟩
  · rw [bodyOf, if_neg post] at read
    cases read

theorem mem_references_of_refers (made : MadeOf registry settings path entry operation op)
    (refers : Refers settings entry c) : c ∈ op.references := by
  rw [references, List.mem_append]
  cases refers with
  | response represented refers =>
    have same := made.represented.symm.trans represented
    rw [Option.some.injEq, Prod.mk.injEq] at same
    obtain ⟨-, rfl⟩ := same
    exact Or.inr ((Response.mem_references_typeOf made.response).2 refers)
  | inline represented given ref refers =>
    have same := made.represented.symm.trans represented
    rw [Option.some.injEq, Prod.mk.injEq] at same
    obtain ⟨post, rfl⟩ := same
    have read := made.body
    rw [bodyOf, if_pos post, RequestBody.result_of_rawSchema given] at read
    obtain ⟨⟨found, component⟩, read, body⟩ := map_eq_ok.1 read
    rcases RequestBody.schemaOfRaw_eq_ok read with ⟨text, found, -⟩ | ⟨-, -, built⟩
    · rw [Value.textField?_eq_some.2 found] at ref
      cases ref
    · refine Or.inl ?_
      rw [← body]
      simp [RequestBody.references, (Component.mem_references_ofRaw built).2 refers]

theorem refers_of_mem_references (made : MadeOf registry settings path entry operation op)
    (supported : op.isSupported = true) (h : c ∈ op.references) :
    Refers settings entry c ∨ ∃ name found, op.bodyComponent? = some name ∧ registry.find? name = some found ∧
      (c = name ∨ c ∈ found.references) := by
  rw [references, List.mem_append] at h
  rcases h with h | h
  · cases body : op.requestBody with
    | none => simp [body] at h
    | some b =>
      obtain ⟨post, schema, found, component, given, read, refs, comp⟩ := body_of_madeOf made body supported
      simp only [body, Option.elim_some, refs, List.mem_append, Option.mem_toList] at h
      rcases RequestBody.schemaOfRaw_eq_ok read with ⟨text, -, rfl, known⟩ | ⟨ref, rfl, built⟩
      · refine Or.inr ⟨_, found, by rw [bodyComponent?, body, Option.bind_some, comp], known, ?_⟩
        rcases h with h | h
        · exact Or.inl (Option.some.inj h).symm
        · exact Or.inr h
      · rcases h with h | h
        · cases h
        · exact Or.inl (.inline (post ▸ made.represented) given ref ((Component.mem_references_ofRaw built).1 h))
  · exact Or.inl (.response made.represented ((Response.mem_references_typeOf made.response).1 h))

/-- a body that names a component holds what the registry has under this name -/
theorem MadeOf.find?_of_body (made : MadeOf registry settings path entry operation op) {required : Bool}
    {contentType name : String} {schema : Component}
    (body : op.requestBody = some (.json required contentType schema (some name))) :
    registry.find? name = some schema := by
  have read := made.body
  by_cases post : op.method = .post
  · rw [bodyOf, if_pos post, body] at read
    rcases RequestBody.ofRaw_eq_ok read with ⟨-, none⟩ | ⟨contentType, -, unsupported⟩ |
      ⟨raw, found, component, -, resolved, json⟩
    · cases none
    · cases unsupported
    · cases json
      rcases RequestBody.schemaOfRaw_eq_ok resolved with ⟨text, -, same, known⟩ | ⟨-, none, -⟩
      · cases same
        exact known
      · cases none
  · rw [bodyOf, if_neg post, body] at read
    cases read

end Operation

/-! ## Documentations -/

namespace Documentation

variable {document : Value} {d : Documentation}

/-- the components that a documentation refers to, wherever they stand in it -/
def references (d : Documentation) : List String :=
  d.components.flatMap (·.2.references) ++ d.operations.flatMap Operation.references

/-- the components that are schemas of request bodies -/
def bodyComponents (d : Documentation) : List String := d.operations.filterMap Operation.bodyComponent?

/-- a raw schema refers to the component, or an operation does that is not left out -/
inductive Refers (settings : Settings) (document : Value) : String → Prop
  | component {key raw : Value} {c : String} : (key, raw) ∈ Registry.rawSchemas document →
      Component.Refers settings raw c → Refers settings document c
  | operation {path entry : Value} {c : String} : (path, entry) ∈ rawPaths document →
      ¬ Operation.Dropped settings entry → Operation.Refers settings entry c → Refers settings document c

theorem mem_of_find? {components : List (String × Component)} {name : String} {found : Component}
    (h : Registry.find? (keyedBy components) name = some found) : (name, found) ∈ components := by
  have mem := Registry.find?_mem h
  simpa [keyedBy] using mem

theorem refers_of_component (built : Built settings document d) {name : String} {component : Component}
    (h : (name, component) ∈ d.components) (refers : c ∈ component.references) : Refers settings document c := by
  obtain ⟨raw, mem, result⟩ := built.schema_of_mem h
  exact .component mem ((Component.mem_references_ofRaw result).1 refers)

/-- **The references of a documentation are those of its document and those of its request bodies.** -/
theorem mem_references_iff (built : Built settings document d) :
    c ∈ d.references ↔ Refers settings document c ∨ c ∈ d.bodyComponents := by
  rw [references, List.mem_append, List.mem_flatMap, List.mem_flatMap]
  constructor
  · rintro (⟨⟨name, component⟩, mem, refers⟩ | ⟨op, mem, refers⟩)
    · exact Or.inl (refers_of_component built mem refers)
    · obtain ⟨path, entry, operation, given, made, supported⟩ := built.entry_of_mem mem
      rcases Operation.refers_of_mem_references made supported refers with refers | ⟨name, found, body, known, refers⟩
      · exact Or.inl (.operation given ((Operation.isSupported_iff_not_dropped made).1 supported) refers)
      · rcases refers with rfl | refers
        · exact Or.inr (List.mem_filterMap.2 ⟨op, mem, body⟩)
        · exact Or.inl (refers_of_component built (mem_of_find? known) refers)
  · rintro (refers | body)
    · cases refers with
      | component mem refers =>
        obtain ⟨name, component, -, mem, result⟩ := built.component_of_mem mem
        exact Or.inl ⟨_, mem, (Component.mem_references_ofRaw result).2 refers⟩
      | operation mem kept refers =>
        obtain ⟨method, operation, represented⟩ : ∃ method operation,
            Operation.represented? settings _ = some (method, operation) := by
          cases refers with
          | response represented => exact ⟨_, _, represented⟩
          | inline represented => exact ⟨_, _, represented⟩
        obtain ⟨op, made, keep⟩ := built.operation_of_mem mem represented
        have supported := (Operation.isSupported_iff_not_dropped made).2 kept
        exact Or.inr ⟨op, keep supported, Operation.mem_references_of_refers made refers⟩
    · obtain ⟨op, mem, body⟩ := List.mem_filterMap.1 body
      refine Or.inr ⟨op, mem, ?_⟩
      obtain ⟨b, given, component⟩ := Option.bind_eq_some_iff.1 body
      cases b with
      | json required contentType schema name =>
        obtain rfl : name = some c := component
        simp [Operation.references, given, RequestBody.references]
      | unsupported contentType => cases component

/-- a body that is a component holds the component that was built under this name -/
theorem mem_components_of_body (built : Built settings document d) {op : Operation} (h : op ∈ d.operations)
    {required : Bool} {contentType name : String} {schema : Component}
    (body : op.requestBody = some (.json required contentType schema (some name))) : (name, schema) ∈ d.components := by
  obtain ⟨path, entry, operation, -, made, -⟩ := built.entry_of_mem h
  exact mem_of_find? (made.find?_of_body body)

/-! ## References that are looked up -/

/-- the build comes to a request body whose schema is a reference, and no schema of the document has its name -/
inductive Dangling (settings : Settings) (document : Value) : String → Value → Location → Prop
  | body {registry paths e operation arguments schema text} :
      (Registry.ofDocument settings document).result = .ok registry → pathsOf document = .map paths →
      Reaches (operationOf registry settings) paths e →
      Operation.represented? settings e.2 = some (.post, operation) →
      Operation.argumentsOf (Operation.placeOf e.1 e.2) operation = .ok arguments →
      RequestBody.rawSchema? settings (Operation.rawBody operation) = some schema →
      schema.field? "$ref" = some (.str text) →
      (∀ raw, (.str (settings.stripRef text), raw) ∉ Registry.rawSchemas document) →
      Dangling settings document (settings.stripRef text) schema
        (RequestBody.schemaPlace settings ((Operation.placeOf e.1 e.2).down [.word "requestBody"]))

end Documentation

variable {node : Value} {place : Location}

/-- where every class of stray faults gives the same condition, no reference is looked up -/
theorem not_unresolved {α : Type} {x : Except Fault α} {p : Prop}
    (h : ∀ {stray}, Separates stray → (Strays stray x ↔ p)) : x ≠ .error (.unresolved c node place) := by
  intro failed
  have separates : Separates fun fault => Placeless fault ∨ fault = .unresolved c node place := by
    constructor <;> simp [Placeless, Fault.location?]
  have strays : p := (h separates).1 ⟨_, failed, Or.inr rfl⟩
  have placeless := (h separates_placeless).2 strays
  rw [failed, strays_error] at placeless
  exact resolved_placeless _ _ _ placeless

theorem RequestBody.schemaOfRaw_eq_unresolved {schema : Value} :
    (schemaOfRaw registry settings location schema).result = .error (.unresolved c node place) ↔
      ∃ text, schema.field? "$ref" = some (.str text) ∧ registry.find? (settings.stripRef text) = none ∧
        c = settings.stripRef text ∧ node = schema ∧ place = location := by
  constructor
  · intro h
    rcases schemaOfRaw_cases registry settings location schema with ⟨text, ref⟩ | ⟨ref, typed⟩ | ⟨reason, result⟩
    · rw [schemaOfRaw_of_ref ref] at h
      split at h
      · cases h
      · rename_i unknown
        cases h
        exact ⟨text, ref, unknown, rfl, rfl, rfl⟩
    · rw [schemaOfRaw_inline ref typed, map_eq_error] at h
      exact absurd h (not_unresolved fun separates => Component.strays_ofRaw separates)
    · rw [result] at h
      cases h
  · rintro ⟨text, ref, unknown, rfl, rfl, rfl⟩
    rw [schemaOfRaw_of_ref ref, unknown]

theorem RequestBody.ofRaw_eq_unresolved {raw : Value} :
    (ofRaw registry settings location raw).result = .error (.unresolved c node place) ↔
      ∃ schema text, rawSchema? settings raw = some schema ∧ schema.field? "$ref" = some (.str text) ∧
        registry.find? (settings.stripRef text) = none ∧ c = settings.stripRef text ∧ node = schema ∧
        place = schemaPlace settings location := by
  constructor
  · intro h
    rcases ofRaw_cases registry settings location raw with ⟨-, result⟩ | ⟨contentType, foreign⟩ | ⟨schema, given⟩ |
      ⟨reason, place, result, -⟩
    · rw [result] at h
      cases h
    · rw [result_of_foreign foreign] at h
      cases contentType <;> cases h
    · rw [result_of_rawSchema given, map_eq_error, schemaOfRaw_eq_unresolved] at h
      obtain ⟨text, h⟩ := h
      exact ⟨schema, text, given, h⟩
    · rw [result] at h
      cases h
  · rintro ⟨schema, text, given, h⟩
    rw [result_of_rawSchema given, map_eq_error, schemaOfRaw_eq_unresolved]
    exact ⟨text, h⟩

theorem Operation.ofRaw_eq_unresolved {path entry : Value} :
    (ofRaw registry settings path entry).result = .error (.unresolved c node place) ↔
      ∃ operation arguments schema text, represented? settings entry = some (.post, operation) ∧
        argumentsOf (placeOf path entry) operation = .ok arguments ∧
        RequestBody.rawSchema? settings (rawBody operation) = some schema ∧
        schema.field? "$ref" = some (.str text) ∧ registry.find? (settings.stripRef text) = none ∧
        c = settings.stripRef text ∧ node = schema ∧
        place = RequestBody.schemaPlace settings ((placeOf path entry).down [.word "requestBody"]) := by
  rw [result_ofRaw]
  constructor
  · intro h
    split at h
    · cases h
    · rename_i method operation represented
      rw [map_eq_error, result_ofComplete] at h
      rcases bind_eq_error.1 h with h | ⟨arguments, read, h⟩
      · exact absurd h (not_unresolved fun separates => strays_argumentsOf separates)
      rcases bind_eq_error.1 h with h | ⟨body, -, h⟩
      · by_cases post : method = .post
        · rw [bodyOf, if_pos post, RequestBody.ofRaw_eq_unresolved] at h
          obtain ⟨schema, text, h⟩ := h
          exact ⟨operation, arguments, schema, text, post ▸ represented, read, h⟩
        · rw [bodyOf, if_neg post] at h
          cases h
      rcases bind_eq_error.1 h with h | ⟨id, -, h⟩
      · exact absurd h (not_unresolved fun separates => strays_operationIdOf separates)
      rcases bind_eq_error.1 h with h | ⟨type, -, h⟩
      · exact absurd h (not_unresolved fun separates => iff_false_intro (not_strays_typeOf separates))
      · exact absurd h (not_unresolved fun separates => strays_ofValues separates)
  · rintro ⟨operation, arguments, schema, text, represented, read, h⟩
    simp only [represented, map_eq_error, result_ofComplete]
    refine bind_eq_error.2 (Or.inr ⟨arguments, read, bind_eq_error.2 (Or.inl ?_)⟩)
    rw [bodyOf, if_pos rfl, RequestBody.ofRaw_eq_unresolved]
    exact ⟨schema, text, h⟩

namespace Documentation

variable {document : Value} {d : Documentation}

/-- a finished registry has the names of the raw schemas -/
theorem find?_eq_none_iff (map : document.isMap = true)
    (built : (Registry.ofDocument settings document).result = .ok registry) :
    registry.find? c = none ↔ ∀ raw, (.str c, raw) ∉ Registry.rawSchemas document := by
  have made := Registry.built_of_result map built
  rw [Registry.find?_eq_none_iff]
  constructor
  · intro absent raw mem
    obtain ⟨⟨key, component⟩, inside, rfl, -⟩ := exists_of_mem_items made mem
    exact absent component inside
  · intro absent component mem
    obtain ⟨⟨key, raw⟩, inside, rfl, -⟩ := exists_of_mem_results made mem
    exact absent raw inside

/-- **A build reports an unresolved reference exactly where it comes to a dangling request body.** -/
theorem unresolved_iff_dangling :
    (ofDocument settings document).result = .error (.unresolved c node place) ↔
      Dangling settings document c node place := by
  by_cases map : document.isMap = true
  · rw [result_ofDocument]
    constructor
    · intro h
      rcases bind_eq_error.1 h with h | ⟨registry, built, h⟩
      · exact absurd h (not_unresolved fun separates => Registry.strays_ofDocument separates map)
      rcases bind_eq_error.1 h with h | ⟨operations, -, h⟩
      · rw [result_operationsOfDocument registry settings map] at h
        split at h
        · rename_i paths given
          rw [map_eq_error, mapM_eq_error] at h
          obtain ⟨e, reached, h⟩ := h
          obtain ⟨operation, arguments, schema, text, represented, read, body, ref, unknown, rfl, rfl, rfl⟩ :=
            Operation.ofRaw_eq_unresolved.1 h
          exact .body built given reached represented read body ref ((find?_eq_none_iff map built).1 unknown)
        · cases h
      · rw [bind_pure_comp, map_eq_error] at h
        exact absurd h (not_unresolved fun separates => Registry.strays_keyed separates)
    · rintro ⟨built, given, reached, represented, read, body, ref, unknown⟩
      refine bind_eq_error.2 (Or.inr ⟨_, built, bind_eq_error.2 (Or.inl ?_)⟩)
      rw [result_operationsOfDocument _ settings map, given]
      rw [map_eq_error, mapM_eq_error]
      refine ⟨_, reached, Operation.ofRaw_eq_unresolved.2 ?_⟩
      exact ⟨_, _, _, _, represented, read, body, ref, (find?_eq_none_iff map built).2 unknown, rfl, rfl, rfl⟩
  · rw [result_of_not_map (Bool.eq_false_iff.2 map)]
    constructor
    · intro h
      cases h
    · rintro ⟨built, -⟩
      rw [Registry.result_of_not_map (Bool.eq_false_iff.2 map)] at built
      cases built

/-- the components of a documentation have the names of the raw schemas -/
theorem mem_names_iff (built : Built settings document d) :
    c ∈ d.components.map Prod.fst ↔ ∃ raw, (.str c, raw) ∈ Registry.rawSchemas document := by
  rw [List.mem_map]
  constructor
  · rintro ⟨⟨name, component⟩, mem, rfl⟩
    obtain ⟨raw, given, -⟩ := built.schema_of_mem mem
    exact ⟨raw, given⟩
  · rintro ⟨raw, given⟩
    obtain ⟨name, component, same, mem, -⟩ := built.component_of_mem given
    cases same
    exact ⟨_, mem, rfl⟩

/-- every body that is a component names one -/
theorem bodyComponents_closed (built : Built settings document d) (h : c ∈ d.bodyComponents) :
    c ∈ d.components.map Prod.fst := by
  obtain ⟨op, mem, body⟩ := List.mem_filterMap.1 h
  obtain ⟨b, given, component⟩ := Option.bind_eq_some_iff.1 body
  cases b with
  | json required contentType schema name =>
    obtain rfl : name = some c := component
    exact List.mem_map.2 ⟨_, mem_components_of_body built mem given, rfl⟩
  | unsupported contentType => cases component

/-- **References are closed exactly when those that are not looked up name schemas.** Bodies that are components always
name one, and only for these does a build report an unresolved reference. -/
theorem references_closed_iff (settings : Settings) (document : Value) :
    (∀ d, (ofDocument settings document).result = .ok d →
      ((∀ c ∈ d.references, c ∈ d.components.map Prod.fst) ↔
        ∀ c, Refers settings document c → ∃ raw, (.str c, raw) ∈ Registry.rawSchemas document) ∧
      ∀ op ∈ d.operations, ∀ required contentType schema name,
        op.requestBody = some (.json required contentType schema (some name)) → (name, schema) ∈ d.components) ∧
    ∀ c node place, (ofDocument settings document).result = .error (.unresolved c node place) ↔
      Dangling settings document c node place := by
  refine ⟨fun d result => ?_, fun c node place => unresolved_iff_dangling⟩
  have built := built_of_result result
  refine ⟨⟨fun closed c refers => ?_, fun named c mem => ?_⟩, ?_⟩
  · exact (mem_names_iff built).1 (closed c ((mem_references_iff built).2 (Or.inl refers)))
  · rcases (mem_references_iff built).1 mem with refers | body
    · exact (mem_names_iff built).2 (named c refers)
    · exact bodyComponents_closed built body
  · intro op mem required contentType schema name body
    exact mem_components_of_body built mem body

/-- a document with one component, whose only property refers to another that is missing -/
def danglingDocument : Value :=
  .map [(.str "openapi", .str "3.0.0"), (.str "components", .map [(.str "schemas", .map [(.str "A", .map [
    (.str "type", .str "object"), (.str "properties", .map [
      (.str "b", .map [(.str "$ref", .str "#/components/schemas/Missing")])])])])])]

/-- a dangling reference in a property is built, and the reference stays open -/
theorem dangling_property_built : ∃ d, (ofDocument {} danglingDocument).result = .ok d ∧
    ¬ (∀ c ∈ d.references, c ∈ d.components.map Prod.fst) := by
  have built : (ofDocument {} danglingDocument).result =
      .ok ⟨[("A", ⟨[], [⟨"b", .component "Missing", "", .str "", false⟩]⟩)], []⟩ := by cbv
  refine ⟨_, built, fun closed => ?_⟩
  have closed := ((references_closed_iff {} danglingDocument).1 _ built).1.1 closed
  have names : ({} : Settings).stripRef "#/components/schemas/Missing" = "Missing" := by decide
  have refers : Refers {} danglingDocument "Missing" := by
    rw [← names]
    exact .component List.mem_cons_self ⟨_, rfl, _, List.mem_cons_self, .schema rfl (.ref rfl)⟩
  obtain ⟨raw, mem⟩ := closed "Missing" refers
  have keys : (Registry.rawSchemas danglingDocument).map Prod.fst = [.str "A"] := rfl
  have key := List.mem_map_of_mem (f := Prod.fst) mem
  simp [keys] at key

end Documentation

end ApiTypes
