/-
What an operation is made of.

`represented?` is the part of a path entry that has a model, with all the metadata that it needs. The result of reading
such an operation is the result of its parts, read in order: parameters, request body, operation id, response, record.

Main statements: `result_ofRaw` and `result_ofComplete`, the result of a path entry and of an operation; `ofRaw_cases`,
the ways in which the reading of a request body ends.
-/
import ApiTypes.Operation.Build
import ApiTypes.Proofs.Component

namespace ApiTypes

variable {registry : Registry} {settings : Settings} {location : Location}

/-! ## Parameters -/

namespace Parameter

/-- the parameter at a position -/
def parameterOf (location : Location) (e : Value × Nat) : Except Fault Parameter :=
  ofRaw (location.down [.word "parameters", .index e.2]) e.1

theorem listOfRaw_eq_mapM (index : Nat) (items : List Value) :
    listOfRaw location index items = (items.zipIdx index).mapM (parameterOf location) := by
  induction items generalizing index with
  | nil => rfl
  | cons raw rest ih =>
    rw [listOfRaw, List.zipIdx_cons, List.mapM_cons, ← ih]
    rfl

end Parameter

/-! ## Request bodies -/

namespace RequestBody

/-- the raw schema of a JSON body, where the body has one -/
def rawSchema? (settings : Settings) (raw : Value) : Option Value := do
  let content ← raw.mapField? "content"
  let media ← content.find? settings.jsonContentType
  let schema ← media.field? "schema"
  if schema.isMap then some schema else none

/-- the place of the schema of a body at `location` -/
def schemaPlace (settings : Settings) (location : Location) : Location :=
  location.down [.word "content", .word settings.jsonContentType, .word "schema"]

/-- a body whose content has no entry of the configured type; `contentType` is the first of those that it has -/
def Foreign (settings : Settings) (raw contentType : Value) : Prop :=
  ∃ media rest, raw.mapField? "content" = some ((contentType, media) :: rest) ∧
    Entries.find? ((contentType, media) :: rest) settings.jsonContentType = none

/-- a body whose entry of the configured type has no schema that is a mapping -/
def Schemaless (settings : Settings) (raw : Value) : Prop :=
  ∃ content media, raw.mapField? "content" = some content ∧ content.find? settings.jsonContentType = some media ∧
    ∀ schema, media.field? "schema" = some schema → schema.isMap = false

theorem schemaOfRaw_of_ref {schema : Value} {ref : String} (h : schema.field? "$ref" = some (.str ref)) :
    (schemaOfRaw registry settings location schema).result =
      match registry.find? (settings.stripRef ref) with
      | some found => .ok (found, some (settings.stripRef ref))
      | none => .error (.unresolved (settings.stripRef ref) schema location) := by
  rw [schemaOfRaw, Value.textField?_eq_some.2 h]
  cases found : registry.find? (settings.stripRef ref) <;> simp [found]

theorem schemaOfRaw_inline {schema : Value} (ref : schema.textField? "$ref" = none)
    (typed : schema.field? "type" = some (.str "object")) :
    (schemaOfRaw registry settings location schema).result =
      (·, none) <$> (Component.ofRaw settings (.str "") schema).result := by
  have object : schema.fieldAmong "type" ["object"] = true := Value.fieldAmong_iff.2 ⟨_, by simp, typed⟩
  simp [schemaOfRaw, ref, object]

/-- the ways in which the reading of the schema of a body ends -/
theorem schemaOfRaw_cases (registry : Registry) (settings : Settings) (location : Location) (schema : Value) :
    (∃ ref, schema.field? "$ref" = some (.str ref)) ∨
    (schema.textField? "$ref" = none ∧ schema.field? "type" = some (.str "object")) ∨
    ∃ reason, (schemaOfRaw registry settings location schema).result = .error (.malformed reason schema location) := by
  cases ref : schema.textField? "$ref" with
  | some ref' => exact Or.inl ⟨ref', Value.textField?_eq_some.1 ref⟩
  | none =>
    cases object : schema.fieldAmong "type" ["object"] with
    | true =>
      obtain ⟨text, mem, typed⟩ := Value.fieldAmong_iff.1 object
      obtain rfl := List.mem_singleton.1 mem
      exact Or.inr (Or.inl ⟨rfl, typed⟩)
    | false => exact Or.inr (Or.inr ⟨.untypedBody, by simp [schemaOfRaw, ref, object]⟩)

theorem result_of_foreign {raw contentType : Value} (h : Foreign settings raw contentType) :
    (ofRaw registry settings location raw).result =
      match contentType with
      | .str contentType => .ok (some (.unsupported contentType))
      | _ => .error (.invalid .unsupportedBody [⟨["content_type"], .notText⟩]) := by
  obtain ⟨media, rest, content, absent⟩ := h
  have body : (ofRaw registry settings location raw).result =
      some <$> (ofContent registry settings location raw ((contentType, media) :: rest) contentType).result := by
    cases raw <;> simp_all [ofRaw, Value.mapField?, Value.field?]
  rw [body]
  cases contentType <;> simp [ofContent, absent]

theorem result_of_rawSchema {raw schema : Value} (h : rawSchema? settings raw = some schema) :
    (ofRaw registry settings location raw).result =
      (fun s => some (.json (Parameter.isGiven raw "required") settings.jsonContentType s.1 s.2)) <$>
        (schemaOfRaw registry settings (schemaPlace settings location) schema).result := by
  simp only [rawSchema?, Option.bind_eq_bind, Option.bind_eq_some_iff, Option.ite_none_right_eq_some] at h
  obtain ⟨content, found, media, json, given, schemaFound, map, same⟩ := h
  obtain ⟨entries, rfl⟩ := Value.isMap_iff.1 map
  cases same
  cases content with
  | nil => cases json
  | cons e rest =>
    obtain ⟨first, firstMedia⟩ := e
    have body : (ofRaw registry settings location raw).result =
        some <$> (ofContent registry settings location raw ((first, firstMedia) :: rest) first).result := by
      cases raw <;> simp_all [ofRaw, Value.mapField?, Value.field?]
    rw [body]
    simp [ofContent, json, schemaFound, schemaPlace]

/-- the ways in which the reading of a request body ends -/
theorem ofRaw_cases (registry : Registry) (settings : Settings) (location : Location) (raw : Value) :
    (raw = .null ∧ (ofRaw registry settings location raw).result = .ok none) ∨
    (∃ contentType, Foreign settings raw contentType) ∨ (∃ schema, rawSchema? settings raw = some schema) ∨
    ∃ reason place, (ofRaw registry settings location raw).result = .error (.malformed reason raw place) ∧
      (place = location ∨ place = schemaPlace settings location ∧ Schemaless settings raw) := by
  by_cases null : raw = .null
  · subst null
    exact Or.inl ⟨rfl, rfl⟩
  refine Or.inr ?_
  cases content : raw.mapField? "content" with
  | none =>
    exact Or.inr (Or.inr ⟨.bodyWithoutContent, location, by simp [ofRaw, content], Or.inl rfl⟩)
  | some entries =>
    cases entries with
    | nil => exact Or.inr (Or.inr ⟨.bodyWithoutContent, location, by simp [ofRaw, content], Or.inl rfl⟩)
    | cons e rest =>
      obtain ⟨first, firstMedia⟩ := e
      cases found : Entries.find? ((first, firstMedia) :: rest) settings.jsonContentType with
      | none => exact Or.inl ⟨first, firstMedia, rest, content, found⟩
      | some media =>
        refine Or.inr ?_
        have refused (h : ∀ schema, media.field? "schema" = some schema → schema.isMap = false) :
            ∃ reason place, (ofRaw registry settings location raw).result = .error (.malformed reason raw place) ∧
              (place = location ∨ place = schemaPlace settings location ∧ Schemaless settings raw) := by
          refine ⟨.bodyWithoutSchema, schemaPlace settings location, ?_, Or.inr ⟨rfl, _, media, content, found, h⟩⟩
          cases schema : media.field? "schema" with
          | none => simp [ofRaw, ofContent, content, found, schema, schemaPlace]
          | some given =>
            have := h given schema
            cases given <;> simp_all [ofRaw, ofContent, schemaPlace, Value.isMap, Value.entries?]
        cases schema : media.field? "schema" with
        | none => exact Or.inr (refused (by simp [schema]))
        | some given =>
          cases map : given.isMap with
          | true => exact Or.inl ⟨given, by simp [rawSchema?, content, found, schema, map]⟩
          | false => exact Or.inr (refused (by simp [schema, map]))

end RequestBody

/-! ## Responses -/

namespace Response

/-- the raw schema of the success response, where its content has a first entry -/
def rawSchema? (settings : Settings) (responses : Value) : Option Value := do
  let entries ← responses.entries?
  let success ← success? settings entries
  let content ← success.2.mapField? "content"
  let first ← content.head?
  return (first.2.field? "schema").getD .null

theorem typeOf_eq_ok {responses : Value} {node : Node} (h : typeOf settings location responses = .ok node) :
    ∃ schema, rawSchema? settings responses = some schema ∧ node? settings schema = some node := by
  unfold typeOf at h
  split at h
  · split at h
    · cases h
    · rename_i success
      split at h
      · rename_i content
        dsimp only at h
        split at h
        · rename_i typed
          cases h
          exact ⟨_, by simp [rawSchema?, Value.entries?, success, content], typed⟩
        · cases h
      · cases h
  · cases h

/-- a response is a reference, or else a plain type by its name -/
theorem node?_cases {schema : Value} {node : Node} (h : node? settings schema = some node) :
    (∃ text, schema.field? "$ref" = some (.str text) ∧ node = .component (settings.stripRef text)) ∨
    (schema.textField? "$ref" = none ∧ ∃ type, schema.field? "type" = some (.str type) ∧ node = .scalar type) := by
  unfold node? at h
  cases ref : schema.textField? "$ref" with
  | some text =>
    simp only [ref] at h
    cases h
    exact Or.inl ⟨text, Value.textField?_eq_some.1 ref, rfl⟩
  | none =>
    cases type : schema.textField? "type" with
    | some name =>
      simp only [ref, type] at h
      cases h
      exact Or.inr ⟨rfl, name, Value.textField?_eq_some.1 type, rfl⟩
    | none =>
      simp only [ref, type] at h
      cases h

end Response

/-! ## Operations -/

namespace Operation

/-- the method and operation of a path entry that has a model and all the metadata that it needs -/
def represented? (settings : Settings) (entry : Value) : Option (Method × Value) := do
  let method ← (methodTag entry).method?
  let operation := (entry.field? (methodTag entry).name).getD .null
  if (groupOf settings operation).isNull || !requiredKeys.all operation.hasField then none
  else some (method, operation)

/-- the place of the operation of a path entry -/
def placeOf (path entry : Value) : Location := ⟨"#", [.word "paths", .key path, .word (methodTag entry).name]⟩

/-- the raw request body of an operation, null where there is none -/
def rawBody (operation : Value) : Value := (operation.field? "requestBody").getD .null

/-- the request body of an operation; only a post has one -/
def bodyOf (registry : Registry) (settings : Settings) (place : Location) (method : Method) (operation : Value) :
    Except Fault (Option RequestBody) :=
  if method = .post then
    (RequestBody.ofRaw registry settings (place.down [.word "requestBody"]) (rawBody operation)).result
  else .ok none

theorem result_ofComplete (path operation group : Value) (tag : MethodTag) (method : Method) :
    (ofComplete registry settings path tag method operation group).result = (do
      let place : Location := ⟨"#", [.word "paths", .key path, .word tag.name]⟩
      let arguments ← argumentsOf place operation
      let body ← bodyOf registry settings place method operation
      let operationId ← operationIdOf ((operation.field? "operationId").getD .null)
      let responseType ← Response.typeOf settings (place.down [.word "responses"])
        ((operation.field? "responses").getD .null)
      ofValues path operationId ((operation.field? "summary").getD .null) (Parameter.isGiven operation "deprecated")
        method arguments body responseType group) := by
  simp only [ofComplete, Run.result_bind, Run.result_ofExcept, bodyOf, rawBody]
  congr 1
  funext arguments
  split_ifs <;> simp only [Run.result_bind, Run.result_ofExcept, Run.result_pure]

theorem result_ofRaw (path entry : Value) :
    (ofRaw registry settings path entry).result =
      match represented? settings entry with
      | none => .ok none
      | some (method, operation) => some <$> (ofComplete registry settings path (methodTag entry) method operation
          (groupOf settings operation)).result := by
  simp only [ofRaw, represented?]
  cases (methodTag entry).method? with
  | none => rfl
  | some method =>
    simp only [Option.bind_eq_bind, Option.bind_some]
    split_ifs
    · rfl
    · simp

theorem operationIdOf_eq_ok {raw : Value} {id : String} : operationIdOf raw = .ok id ↔ raw = .str id := by
  cases raw <;> simp [operationIdOf]

/-- what an operation is made of -/
structure MadeOf (registry : Registry) (settings : Settings) (path entry operation : Value) (op : Operation) :
    Prop where
  represented : represented? settings entry = some (op.method, operation)
  arguments : argumentsOf (placeOf path entry) operation = .ok op.arguments
  body : bodyOf registry settings (placeOf path entry) op.method operation = .ok op.requestBody
  response : Response.typeOf settings ((placeOf path entry).down [.word "responses"])
    ((operation.field? "responses").getD .null) = .ok op.responseType

theorem madeOf_of_result {path entry : Value} {op : Operation}
    (h : (ofRaw registry settings path entry).result = .ok (some op)) :
    ∃ operation, MadeOf registry settings path entry operation op := by
  rw [result_ofRaw] at h
  split at h
  · cases h
  · rename_i method operation represented
    obtain ⟨op', h, same⟩ := map_eq_ok.1 h
    cases same
    rw [result_ofComplete] at h
    obtain ⟨arguments, read, h⟩ := bind_eq_ok.1 h
    obtain ⟨body, bodied, h⟩ := bind_eq_ok.1 h
    obtain ⟨id, -, h⟩ := bind_eq_ok.1 h
    obtain ⟨type, typed, h⟩ := bind_eq_ok.1 h
    unfold ofValues at h
    split at h
    · cases h
      exact ⟨operation, represented, read, bodied, typed⟩
    · cases h

theorem represented_of_result {path entry : Value} {outcome : Option Operation} {method : Method} {operation : Value}
    (h : (ofRaw registry settings path entry).result = .ok outcome)
    (represented : represented? settings entry = some (method, operation)) :
    ∃ op, outcome = some op ∧ op.method = method ∧ MadeOf registry settings path entry operation op := by
  cases outcome with
  | none =>
    rw [result_ofRaw, represented] at h
    obtain ⟨op, -, same⟩ := map_eq_ok.1 h
    cases same
  | some op =>
    obtain ⟨operation', made⟩ := madeOf_of_result h
    have same := made.represented.symm.trans represented
    cases same
    exact ⟨op, rfl, rfl, made⟩

end Operation

end ApiTypes
