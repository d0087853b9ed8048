/-
Path entries accounted for.

A path entry of an accepted document becomes an operation, or it is left out with one notice that names its path: it is
skipped if its method has no model or its metadata is incomplete, whatever else it holds, and dropped if it is a
complete post whose body has no model.

Main statements: `quiet_ofComplete`, to read an operation reports nothing about a path entry; `operationsOf_cons`, what
one entry adds to the operations and to the notices; `entries_accounted`, what all of them do.
-/
import ApiTypes.Proofs.References

namespace ApiTypes

variable {registry : Registry} {settings : Settings} {location : Location}

/-- does the notice say that a path entry is left out? -/
def Notice.leavesOut : Notice → Bool
  | skippedMethod .. => true
  | skippedMetadata .. => true
  | droppedBody .. => true
  | _ => false

/-! ## Quiet runs -/

namespace Run

variable {α β : Type}

/-- the notices of a run that leave out a path entry, oldest first -/
def leftOut (x : Run α) : List Notice := x.notices.filter Notice.leavesOut

/-- the run leaves out no path entry -/
def Quiet (x : Run α) : Prop := x.leftOut = []

theorem notices_bind (x : Run α) (f : α → Run β) : (x >>= f).notices = x.notices ++
    match x.result with
    | .ok a => (f a).notices
    | .error _ => [] := by
  show (ExceptT.run (x >>= f)).notices = _
  rw [ExceptT.run_bind, Noted.bind_notices]
  simp only [notices, result]
  cases (ExceptT.run x).value <;> rfl

theorem leftOut_bind {x : Run α} {a : α} (h : x.result = .ok a) (f : α → Run β) :
    (x >>= f).leftOut = x.leftOut ++ (f a).leftOut := by
  simp only [leftOut, notices_bind, h, List.filter_append]

theorem leftOut_map (x : Run α) (f : α → β) : (f <$> x).leftOut = x.leftOut := by
  rw [← bind_pure_comp, leftOut, notices_bind]
  cases x.result <;> simp [leftOut, notices, pure, ExceptT.pure, ExceptT.mk, ExceptT.run]

theorem quiet_pure (a : α) : Quiet (pure a : Run α) := rfl

theorem quiet_throw (fault : Fault) : Quiet (throw fault : Run α) := rfl

theorem quiet_ofExcept (x : Except Fault α) : Quiet (ofExcept x) := rfl

theorem quiet_report {notice : Notice} (h : notice.leavesOut = false) : Quiet (report notice) := by
  show [notice].filter Notice.leavesOut = []
  rw [List.filter_cons, h]
  rfl

theorem Quiet.bind {x : Run α} {f : α → Run β} (h : x.Quiet) (next : ∀ a, (f a).Quiet) : (x >>= f).Quiet := by
  cases result : x.result with
  | ok a => rw [Quiet, leftOut_bind result, h, next a, List.append_nil]
  | error fault => simpa [Quiet, leftOut, notices_bind, result] using h

theorem Quiet.map {x : Run α} (h : x.Quiet) (f : α → β) : (f <$> x).Quiet := by
  rw [Quiet, leftOut_map, h]

end Run

open Run

/-- to read a component reports at most names that it requires but does not define -/
theorem Component.quiet_ofRaw (settings : Settings) (name raw : Value) : (ofRaw settings name raw).Quiet := by
  unfold ofRaw
  dsimp only
  cases raw.isMap
  · exact quiet_throw _
  cases raw.field? "properties" with
  | none =>
    cases raw.fieldAmong "type" ["object"]
    · exact quiet_throw _
    · exact quiet_pure _
  | some given =>
    cases given with
    | map properties =>
      have rest (names : List Value) : Quiet (do
          return ofProperties (← Run.ofExcept (propertiesOf settings (placeOf settings name) names properties))) :=
        (quiet_ofExcept _).bind fun _ => quiet_pure _
      refine Quiet.bind (quiet_ofExcept _) fun names => ?_
      split
      · exact (quiet_report rfl).bind fun _ => rest names
      · exact rest names
    | _ => exact quiet_throw _

namespace RequestBody

theorem quiet_schemaOfRaw (registry : Registry) (settings : Settings) (location : Location) (schema : Value) :
    (schemaOfRaw registry settings location schema).Quiet := by
  unfold schemaOfRaw
  split
  · dsimp only
    split
    · exact quiet_pure _
    · exact quiet_throw _
  · split
    · exact (Component.quiet_ofRaw _ _ _).bind fun _ => quiet_pure _
    · exact quiet_throw _

theorem quiet_ofRaw (registry : Registry) (settings : Settings) (location : Location) (raw : Value) :
    (ofRaw registry settings location raw).Quiet := by
  unfold ofRaw
  split
  · exact quiet_pure _
  · split
    · refine Quiet.map ?_ _
      unfold ofContent
      split
      · split
        · exact quiet_pure _
        · exact quiet_throw _
      · dsimp only
        split
        · exact (quiet_schemaOfRaw _ _ _ _).bind fun _ => quiet_pure _
        · exact quiet_throw _
    · exact quiet_throw _

end RequestBody

namespace Operation

/-- to read an operation with all its metadata reports nothing about its path entry -/
theorem quiet_ofComplete (registry : Registry) (settings : Settings) (path : Value) (tag : MethodTag) (method : Method)
    (operation group : Value) : (ofComplete registry settings path tag method operation group).Quiet := by
  have rest (arguments : List Parameter) (body : Option RequestBody) (location : Location) :
      Quiet (do
        let operationId ← Run.ofExcept (operationIdOf ((operation.field? "operationId").getD .null))
        let responseType ← Run.ofExcept
          (Response.typeOf settings (location.down [.word "responses"]) ((operation.field? "responses").getD .null))
        Run.ofExcept (ofValues path operationId ((operation.field? "summary").getD .null)
          (Parameter.isGiven operation "deprecated") method arguments body responseType group)) :=
    (quiet_ofExcept _).bind fun _ => (quiet_ofExcept _).bind fun _ => quiet_ofExcept _
  refine (quiet_ofExcept _).bind fun arguments => ?_
  split
  · exact (RequestBody.quiet_ofRaw _ _ _ _).bind fun body => rest arguments body _
  · exact Quiet.bind (quiet_pure _) fun body => rest arguments body _

end Operation

namespace Registry

theorem quiet_ofSchemas (settings : Settings) (schemas : Entries) : (ofSchemas settings schemas).Quiet := by
  induction schemas with
  | nil => exact quiet_pure _
  | cons e rest ih => exact (Component.quiet_ofRaw _ _ _).bind fun _ => ih.bind fun _ => quiet_pure _

theorem quiet_sectionOf (raw : Value) (name : String) : (sectionOf raw name).Quiet := by
  cases raw <;> first | exact quiet_pure _ | exact quiet_throw _

/-- to read the components of a document reports nothing about a path entry -/
theorem quiet_ofDocument (settings : Settings) (document : Value) : (ofDocument settings document).Quiet := by
  refine (quiet_sectionOf _ _).bind fun components => (quiet_sectionOf _ _).bind fun schemas => ?_
  cases schemas with
  | map schemas =>
    exact (quiet_ofSchemas _ _).bind fun _ => (quiet_report rfl).bind fun _ => quiet_pure _
  | _ => exact quiet_throw _

end Registry

/-! ## Skipped entries -/

theorem Value.isNull_iff {v : Value} : v.isNull = true ↔ v = .null := by
  cases v <;> simp [isNull]

namespace Operation

/-- the entry has no method that has a model, or its operation is no mapping, has no group or lacks a key -/
def Skipped (settings : Settings) (entry : Value) : Prop :=
  methodTag entry = .delete ∨ methodTag entry = .other ∨
    ∃ operation, entry.field? (methodTag entry).name = some operation ∧
      (operation.isMap = false ∨ groupOf settings operation = .null ∨
        ∃ key ∈ requiredKeys, operation.hasField key = false)

/-- the notice that an entry is skipped -/
def skipNotice (path entry : Value) : Notice :=
  match (methodTag entry).method? with
  | none => .skippedMethod (methodTag entry).label path
  | some _ => .skippedMetadata (methodTag entry).label path

theorem groupOf_of_not_map {operation : Value} (h : operation.isMap = false) : groupOf settings operation = .null := by
  cases operation <;> first | rfl | cases h

theorem operation_of_method {entry : Value} {method : Method} (h : (methodTag entry).method? = some method) :
    ∃ operation, entry.field? (methodTag entry).name = some operation := by
  unfold methodTag at h ⊢
  split_ifs at h ⊢ with post delete get
  · exact Value.hasField_iff.1 post
  · cases h
  · exact Value.hasField_iff.1 get
  · cases h

theorem method?_eq_none_iff {tag : MethodTag} : tag.method? = none ↔ tag = .delete ∨ tag = .other := by
  cases tag <;> simp [MethodTag.method?]

/-- the entries that are skipped are those that are not represented -/
theorem skipped_iff {entry : Value} : Skipped settings entry ↔ represented? settings entry = none := by
  cases tag : (methodTag entry).method? with
  | none =>
    have unmodelled := method?_eq_none_iff.1 tag
    simp only [represented?, tag, Option.bind_eq_bind, Option.bind_none, iff_true]
    exact unmodelled.imp_right Or.inl
  | some method =>
    have modelled : ¬ (methodTag entry = .delete ∨ methodTag entry = .other) := by
      rw [← method?_eq_none_iff, tag]
      simp
    obtain ⟨operation, found⟩ := operation_of_method tag
    have lacking : represented? settings entry = none ↔
        (groupOf settings operation = .null ∨ ∃ key ∈ requiredKeys, operation.hasField key = false) := by
      rw [← Value.isNull_iff]
      cases null : (groupOf settings operation).isNull <;> simp [represented?, tag, found, null]
    rw [lacking, Skipped, ← or_assoc, or_iff_right modelled]
    simp only [found, Option.some.injEq, exists_eq_left']
    exact or_iff_right_of_imp fun plain => Or.inl (groupOf_of_not_map plain)

theorem leftOut_of_skipped {path entry : Value} (h : represented? settings entry = none) :
    (ofRaw registry settings path entry).leftOut = [skipNotice path entry] := by
  simp only [ofRaw, represented?, skipNotice] at h ⊢
  cases tag : (methodTag entry).method? with
  | none => rfl
  | some method =>
    simp only [tag, Option.bind_eq_bind, Option.bind_some] at h ⊢
    split_ifs at h ⊢
    rfl

theorem quiet_of_represented (registry : Registry) (path : Value) {entry operation : Value} {method : Method}
    (h : represented? settings entry = some (method, operation)) :
    (ofRaw registry settings path entry).Quiet := by
  simp only [ofRaw, represented?] at h ⊢
  cases tag : (methodTag entry).method? with
  | none => simp [tag] at h
  | some method =>
    simp only [tag, Option.bind_eq_bind, Option.bind_some] at h ⊢
    split_ifs at h ⊢
    exact (quiet_ofComplete _ _ _ _ _ _ _).map _

theorem skipNotice_level (path entry : Value) : (skipNotice path entry).level = .debug := by
  unfold skipNotice
  split <;> rfl

theorem skipNotice_message (path entry : Value) : ∃ reason, (skipNotice path entry).message =
    "Skipping " ++ (methodTag entry).label ++ " " ++ path.display ++ reason := by
  unfold skipNotice
  split
  · exact ⟨": method not modelled", rfl⟩
  · exact ⟨": incomplete operation metadata", rfl⟩

/-! ## Operations of entries -/

/-- what an operation owes to its path entry, and its request body to the components -/
structure Presents (components : List (String × Component)) (settings : Settings) (path entry : Value)
    (op : Operation) : Prop where
  endpoint : path = .str op.endpoint
  source : ∃ operation, represented? settings entry = some (op.method, operation) ∧
    operation.field? "operationId" = some (.str op.operationId) ∧
    operation.field? "summary" = some (.str op.summary) ∧ groupOf settings operation = .str op.group
  name : op.name = Text.snakeCase op.operationId
  supported : op.isSupported = true
  bodiless : op.method = .get → op.requestBody = none
  body : ∀ required contentType schema c, op.requestBody = some (.json required contentType schema (some c)) →
    components.lookup c = some schema

theorem field?_of_getD {raw : Value} {name text : String} (h : (raw.field? name).getD .null = .str text) :
    raw.field? name = some (.str text) := by
  cases found : raw.field? name with
  | none =>
    rw [found] at h
    cases h
  | some v => simpa [found] using h

theorem ofValues_eq_ok {endpoint summary group : Value} {operationId : String} {deprecated : Bool} {method : Method}
    {arguments : List Parameter} {body : Option RequestBody} {type : Node} {op : Operation}
    (h : ofValues endpoint operationId summary deprecated method arguments body type group = .ok op) :
    endpoint = .str op.endpoint ∧ summary = .str op.summary ∧ group = .str op.group ∧
      op.operationId = operationId ∧ op.name = Text.snakeCase operationId ∧ op.method = method := by
  unfold ofValues at h
  split at h
  · cases h
    exact ⟨rfl, rfl, rfl, rfl, rfl, rfl⟩
  · cases h

end Operation

theorem Registry.find?_keyedBy (components : List (String × Component)) (name : String) :
    find? (keyedBy components) name = components.lookup name := by
  induction components with
  | nil => rfl
  | cons c rest ih =>
    obtain ⟨other, component⟩ := c
    have here : keyedBy ((other, component) :: rest) = (.str other, component) :: keyedBy rest := rfl
    rw [here, find?, List.lookup_cons, ih, Value.isText, Bool.beq_comm]
    cases name == other <;> rfl

namespace Operation

theorem presents_of_result {components : List (String × Component)} {path entry : Value} {op : Operation}
    (h : (ofRaw (keyedBy components) settings path entry).result = .ok (some op)) (supported : op.isSupported = true) :
    Presents components settings path entry op := by
  obtain ⟨operation, made⟩ := madeOf_of_result h
  rw [result_ofRaw, made.represented] at h
  obtain ⟨op', h, same⟩ := map_eq_ok.1 h
  cases same
  rw [result_ofComplete] at h
  obtain ⟨arguments, -, h⟩ := bind_eq_ok.1 h
  obtain ⟨body, bodied, h⟩ := bind_eq_ok.1 h
  obtain ⟨id, named, h⟩ := bind_eq_ok.1 h
  obtain ⟨type, -, h⟩ := bind_eq_ok.1 h
  obtain ⟨endpoint, summary, group, rfl, name, -⟩ := ofValues_eq_ok h
  refine ⟨endpoint, ⟨operation, made.represented, field?_of_getD (operationIdOf_eq_ok.1 named),
    field?_of_getD summary, group⟩, name, supported, fun get => ?_, fun required contentType schema c given => ?_⟩
  · have read := made.body
    rw [bodyOf, get, if_neg (by decide)] at read
    exact (Except.ok.inj read).symm
  · rw [← Registry.find?_keyedBy]
    exact made.find?_of_body given

end Operation

/-! ## The walk over the path entries -/

namespace Documentation

/-- what becomes of a path entry -/
inductive Outcome where
  | presented (op : Operation)
  | skipped (notice : Notice)
  | dropped (notice : Notice)

def Outcome.operation? : Outcome → Option Operation
  | presented op => some op
  | _ => none

def Outcome.notice? : Outcome → Option Notice
  | presented _ => none
  | skipped notice => some notice
  | dropped notice => some notice

/-- what becomes of a path entry, and why -/
structure Accounts (components : List (String × Component)) (settings : Settings) (path entry : Value)
    (outcome : Outcome) : Prop where
  presents : ∀ op, outcome = .presented op → Operation.Presents components settings path entry op
  skipped_iff : (∃ notice, outcome = .skipped notice) ↔ Operation.Skipped settings entry
  skips : ∀ notice, outcome = .skipped notice → notice.level = .debug ∧ ∃ reason,
    notice.message = "Skipping " ++ (methodTag entry).label ++ " " ++ path.display ++ reason
  dropped_iff : (∃ notice, outcome = .dropped notice) ↔ Operation.Dropped settings entry
  drops : ∀ notice, outcome = .dropped notice → notice.level = .info ∧ ∃ contentType,
    notice.message = "Dropping POST " ++ path.display ++ ": unsupported request body " ++ contentType

variable {components : List (String × Component)}

theorem accounts_skipped {path entry : Value} (h : Operation.represented? settings entry = none) :
    Accounts components settings path entry (.skipped (Operation.skipNotice path entry)) := by
  constructor
  · rintro op ⟨⟩
  · exact iff_of_true ⟨_, rfl⟩ (Operation.skipped_iff.2 h)
  · rintro notice ⟨⟩
    exact ⟨Operation.skipNotice_level path entry, Operation.skipNotice_message path entry⟩
  · refine iff_of_false (by simp) ?_
    rintro ⟨operation, contentType, represented, -⟩
    rw [h] at represented
    cases represented
  · rintro notice ⟨⟩

theorem accounts_presented {path entry : Value} {op : Operation}
    (h : (Operation.ofRaw (keyedBy components) settings path entry).result = .ok (some op))
    (supported : op.isSupported = true) : Accounts components settings path entry (.presented op) := by
  obtain ⟨operation, made⟩ := Operation.madeOf_of_result h
  constructor
  · rintro op ⟨⟩
    exact Operation.presents_of_result h supported
  · refine iff_of_false (by simp) fun skipped => ?_
    have none := Operation.skipped_iff.1 skipped
    rw [made.represented] at none
    cases none
  · rintro notice ⟨⟩
  · exact iff_of_false (by simp) ((Operation.isSupported_iff_not_dropped made).1 supported)
  · rintro notice ⟨⟩

theorem accounts_dropped {path entry : Value} {op : Operation} {contentType : String}
    (h : (Operation.ofRaw (keyedBy components) settings path entry).result = .ok (some op))
    (body : op.requestBody = some (.unsupported contentType)) :
    Accounts components settings path entry (.dropped (.droppedBody op.method.name path contentType)) := by
  obtain ⟨operation, made⟩ := Operation.madeOf_of_result h
  have dropped : Operation.Dropped settings entry := by
    by_contra kept
    exact (Operation.isSupported_iff op).1 ((Operation.isSupported_iff_not_dropped made).2 kept) contentType body
  constructor
  · rintro op ⟨⟩
  · refine iff_of_false (by simp) fun skipped => ?_
    have none := Operation.skipped_iff.1 skipped
    rw [made.represented] at none
    cases none
  · rintro notice ⟨⟩
  · exact iff_of_true ⟨_, rfl⟩ dropped
  · rintro notice ⟨⟩
    obtain ⟨operation', foreign, represented, -⟩ := dropped
    rw [made.represented, Option.some.injEq, Prod.mk.injEq] at represented
    rw [represented.1]
    exact ⟨rfl, contentType, rfl⟩

/-- **One entry.** Where the walk goes on behind it, an entry has one outcome, which adds an operation or a notice. -/
theorem operationsOf_cons {path entry : Value} {rest : Entries} {operations : List Operation}
    (h : (operationsOf (keyedBy components) settings ((path, entry) :: rest)).result = .ok operations) :
    ∃ outcome more, Accounts components settings path entry outcome ∧
      (operationsOf (keyedBy components) settings rest).result = .ok more ∧
      operations = outcome.operation?.toList ++ more ∧
      (operationsOf (keyedBy components) settings ((path, entry) :: rest)).leftOut =
        outcome.notice?.toList ++ (operationsOf (keyedBy components) settings rest).leftOut := by
  rw [operationsOf] at h ⊢
  rw [Run.result_bind] at h
  obtain ⟨found, read, h⟩ := bind_eq_ok.1 h
  rw [leftOut_bind read]
  -- the entry has given nothing, an operation whose body has no model, or one that is supported
  cases found with
  | none =>
    have skipped : Operation.represented? settings entry = none := by
      cases represented : Operation.represented? settings entry with
      | none => rfl
      | some given =>
        obtain ⟨op, same, -⟩ := Operation.represented_of_result read represented
        cases same
    rw [Operation.leftOut_of_skipped skipped]
    exact ⟨_, _, accounts_skipped skipped, h, rfl, rfl⟩
  | some op =>
    obtain ⟨operation, made⟩ := Operation.madeOf_of_result read
    rw [Operation.quiet_of_represented _ _ made.represented]
    dsimp only at h ⊢
    split at h
    · rename_i contentType body
      exact ⟨_, _, accounts_dropped read body, h, rfl, rfl⟩
    · rename_i body
      have supported := (Operation.isSupported_iff op).2 body
      rw [Run.result_bind] at h
      obtain ⟨more, tail, h⟩ := bind_eq_ok.1 h
      cases h
      refine ⟨.presented op, more, accounts_presented read supported, tail, rfl, ?_⟩
      rw [leftOut_bind tail]
      simp [leftOut, Outcome.notice?, notices]

/-- **The walk.** The outcomes of the entries, in order, hold all operations and all notices that leave out an entry. -/
theorem operationsOf_accounted {paths : Entries} {operations : List Operation}
    (h : (operationsOf (keyedBy components) settings paths).result = .ok operations) :
    ∃ outcomes, List.Forall₂ (fun e outcome => Accounts components settings e.1 e.2 outcome) paths outcomes ∧
      operations = outcomes.filterMap Outcome.operation? ∧
      (operationsOf (keyedBy components) settings paths).leftOut = outcomes.filterMap Outcome.notice? := by
  induction paths generalizing operations with
  | nil =>
    cases h
    exact ⟨[], .nil, rfl, rfl⟩
  | cons e rest ih =>
    obtain ⟨path, entry⟩ := e
    obtain ⟨outcome, more, accounts, tail, rfl, left⟩ := operationsOf_cons h
    obtain ⟨outcomes, all, rfl, later⟩ := ih tail
    refine ⟨outcome :: outcomes, .cons accounts all, ?_, ?_⟩
    · cases outcome <;> rfl
    · rw [left, later]
      cases outcome <;> rfl

/-! ## Documents -/

/-- a skipped entry does not matter to whether the walk succeeds, and to what it gives -/
theorem result_operationsOf_of_skipped (registry : Registry) {path entry : Value}
    (h : Operation.Skipped settings entry) (before after : Entries) :
    (operationsOf registry settings (before ++ (path, entry) :: after)).result =
      (operationsOf registry settings (before ++ after)).result := by
  have none : operationOf registry settings (path, entry) = .ok none := by
    rw [operationOf, Operation.result_ofRaw, Operation.skipped_iff.1 h]
  simp only [result_operationsOf, List.mapM_append, List.mapM_cons, none]
  cases before.mapM (operationOf registry settings) with
  | error fault => rfl
  | ok found =>
    cases after.mapM (operationOf registry settings) with
    | error fault => rfl
    | ok more =>
      show Except.ok (kept (found ++ Option.none :: more)) = Except.ok (kept (found ++ more))
      simp [kept]

/-- the document with other path entries -/
def withPaths (document paths : Entries) : Value := .map (Entries.put document (.str "paths") (.map paths))

theorem pathsOf_withPaths (document paths : Entries) : pathsOf (withPaths document paths) = .map paths := by
  rw [pathsOf, Value.givenField, withPaths, Value.field?, Entries.find?_put_self]
  cases paths <;> rfl

theorem componentsOf_withPaths (document paths : Entries) :
    Registry.componentsOf (withPaths document paths) = Registry.componentsOf (.map document) := by
  have same : (withPaths document paths).field? "components" = (Value.map document).field? "components" :=
    Entries.find?_put_of_ne (by decide) _ _
  simp only [Registry.componentsOf, Value.givenField, same]

theorem result_withPaths (settings : Settings) (document paths : Entries) :
    (ofDocument settings (withPaths document paths)).result = (do
      let registry ← (Registry.ofDocument settings (.map document)).result
      let operations ← (operationsOf registry settings paths).result
      let components ← registry.keyed
      return ⟨components, operations⟩) := by
  have registries : (Registry.ofDocument settings (withPaths document paths)).result =
      (Registry.ofDocument settings (.map document)).result := by
    rw [Registry.result_ofDocument settings rfl, Registry.result_ofDocument settings rfl]
    simp only [Registry.schemasOf, componentsOf_withPaths]
  rw [result_ofDocument, registries]
  congr 1
  funext registry
  rw [result_operationsOfDocument registry settings rfl, pathsOf_withPaths, result_operationsOf]

/-- the operations of a document are those of a walk over its path entries -/
theorem operationsOfDocument_eq_ok {document : Value} {operations : List Operation} (map : document.isMap = true)
    (h : (operationsOfDocument registry settings document).result = .ok operations) :
    (operationsOf registry settings (rawPaths document)).result = .ok operations ∧
      (operationsOfDocument registry settings document).leftOut =
        (operationsOf registry settings (rawPaths document)).leftOut := by
  have read : (Registry.sectionOf document "paths").result = .ok (pathsOf document) := by
    rw [Registry.result_sectionOf, if_pos map, pathsOf]
  rw [operationsOfDocument, Run.result_bind, read] at h
  rw [operationsOfDocument, leftOut_bind read, Registry.quiet_sectionOf, List.nil_append, rawPaths]
  cases found : pathsOf document with
  | map paths =>
    rw [found] at h
    exact ⟨h, rfl⟩
  | _ =>
    rw [found] at h
    cases h

/-- the walk of a build that succeeds, and its notices that leave out an entry -/
theorem walk_of_result {document : Value} {d : Documentation} (h : (ofDocument settings document).result = .ok d) :
    (operationsOf (keyedBy d.components) settings (rawPaths document)).result = .ok d.operations ∧
      (ofDocument settings document).leftOut =
        (operationsOf (keyedBy d.components) settings (rawPaths document)).leftOut := by
  have map := isMap_of_result h
  rw [result_ofDocument] at h
  obtain ⟨registry, built, h⟩ := bind_eq_ok.1 h
  obtain ⟨operations, read, h⟩ := bind_eq_ok.1 h
  obtain ⟨components, keyed, h⟩ := bind_eq_ok.1 h
  cases h
  obtain rfl := Registry.keyed_eq_ok.1 keyed
  obtain ⟨walked, left⟩ := operationsOfDocument_eq_ok map read
  refine ⟨walked, ?_⟩
  have rest : Quiet (do
      Run.report (.parsed (keyedBy components).length operations.length)
      return (⟨← Run.ofExcept (Registry.keyed (keyedBy components)), operations⟩ : Documentation)) :=
    (quiet_report rfl).bind fun _ => (quiet_ofExcept _).bind fun _ => quiet_pure _
  rw [ofDocument, leftOut_bind built, Registry.quiet_ofDocument, List.nil_append, leftOut_bind read, left, rest,
    List.append_nil]

/-- **Every path entry is accounted for exactly once.** Where a document is accepted, its path entries have one outcome
each, in order: the operations are exactly those presented, and the notices that leave out an entry exactly those of the
skipped and dropped ones. A skipped entry never decides whether a document is accepted, whatever it holds. -/
theorem entries_accounted (settings : Settings) :
    (∀ document d, (ofDocument settings document).result = .ok d →
      ∃ outcomes, List.Forall₂ (fun e outcome => Accounts d.components settings e.1 e.2 outcome)
          (rawPaths document) outcomes ∧
        d.operations = outcomes.filterMap Outcome.operation? ∧
        (ofDocument settings document).notices.filter Notice.leavesOut = outcomes.filterMap Outcome.notice?) ∧
    ∀ document before path entry after, Operation.Skipped settings entry →
      (ofDocument settings (withPaths document (before ++ (path, entry) :: after))).result =
        (ofDocument settings (withPaths document (before ++ after))).result := by
  constructor
  · intro document d h
    obtain ⟨walked, left⟩ := walk_of_result h
    obtain ⟨outcomes, all, operations, notices⟩ := operationsOf_accounted walked
    exact ⟨outcomes, all, operations, left.trans notices⟩
  · intro document before path entry after skipped
    simp only [result_withPaths, result_operationsOf_of_skipped _ skipped]

/-- a post with the metadata that it needs, and a body of this type -/
def postOf (operationId contentType : String) : Value :=
  let schema : Value := .map [(.str "schema", .map [(.str "$ref", .str "#/components/schemas/Order")])]
  .map [(.str "post", .map [
    (.str "x-oaiMeta", .map [(.str "group", .str "orders")]),
    (.str "operationId", .str operationId), (.str "summary", .str ""),
    (.str "requestBody", .map [(.str "content", .map [(.str contentType, schema)])]),
    (.str "responses", .map [(.str "200", .map [(.str "content", .map [(.str "application/json", schema)])])])])]

/-- an operation that is kept, one whose body has no model, and a method that has none -/
def shop : Entries :=
  [(.str "openapi", .str "3.0.0"),
    (.str "components", .map [(.str "schemas", .map [(.str "Order", .map [(.str "type", .str "object")])])]),
    (.str "paths", .map [(.str "/orders", postOf "createOrder" "application/json"),
      (.str "/files", postOf "createFile" "multipart/form-data"), (.str "/old", .map [(.str "delete", .null)])])]

def shopDocumentation : Documentation where
  components := [("Order", {})]
  operations :=
    [{ endpoint := "/orders", name := "create_order", operationId := "createOrder", summary := "", method := .post,
       requestBody := some (.json false "application/json" {} (some "Order")), responseType := .component "Order",
       group := "orders" }]

theorem shop_entries_accounted :
    (∃ outcomes, List.Forall₂ (fun e outcome => Accounts shopDocumentation.components {} e.1 e.2 outcome)
        (rawPaths (.map shop)) outcomes ∧
      shopDocumentation.operations = outcomes.filterMap Outcome.operation? ∧
      [.droppedBody "POST" (.str "/files") "multipart/form-data", .skippedMethod "DELETE" (.str "/old")] =
        outcomes.filterMap Outcome.notice?) ∧
    (ofDocument {} (withPaths shop [(.str "/old", .map [(.str "delete", .null)])])).result =
      (ofDocument {} (withPaths shop [])).result := by
  obtain ⟨accounted, ignored⟩ := entries_accounted {}
  have log : (ofDocument {} (.map shop)).notices.filter Notice.leavesOut =
      [.droppedBody "POST" (.str "/files") "multipart/form-data", .skippedMethod "DELETE" (.str "/old")] := rfl
  rw [← log]
  exact ⟨accounted (.map shop) shopDocumentation rfl, ignored shop [] (.str "/old") _ [] (Or.inl rfl)⟩

end Documentation

end ApiTypes
