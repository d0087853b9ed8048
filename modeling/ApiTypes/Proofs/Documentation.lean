/-
What a documentation is made of.

The raw schemas and the path entries of a document are the two lists that a build goes through, in this order. Its
result is the result of the two traversals, and of the check that every component has a text for a name.

Main statements: `result_ofDocument`, the result of a build; `built_of_result`, what a documentation owes to its
document, entry by entry.
-/
import ApiTypes.Documentation
import ApiTypes.Proofs.Operation

namespace ApiTypes

/-! ## Sections -/

/-- the field of a mapping, an empty mapping where it holds nothing -/
def Value.givenField (raw : Value) (name : String) : Value :=
  let given := (raw.field? name).getD .null
  if given.isGiven then given else .map []

theorem isMap_of_isDescription {document : Value} (h : isDescription document = true) : document.isMap = true := by
  rcases Bool.or_eq_true_iff.1 h with h | h <;> obtain ⟨v, found⟩ := Value.hasField_iff.1 h
  · exact Schema.isMap_of_field? found
  · exact Schema.isMap_of_field? found

namespace Registry

theorem result_sectionOf (raw : Value) (name : String) :
    (sectionOf raw name).result = if raw.isMap then .ok (raw.givenField name) else .error (.noEntries raw.type) := by
  cases raw <;> rfl

/-- the components section of a document -/
def componentsOf (document : Value) : Value := document.givenField "components"

/-- the schemas section of a document -/
def schemasOf (document : Value) : Value := (componentsOf document).givenField "schemas"

/-- the component of a schema, under its key -/
def componentOf (settings : Settings) (e : Value × Value) : Except Fault (Value × Component) :=
  (e.1, ·) <$> (Component.ofRaw settings e.1 e.2).result

theorem result_ofSchemas (settings : Settings) (schemas : Entries) :
    (ofSchemas settings schemas).result = schemas.mapM (componentOf settings) := by
  induction schemas with
  | nil => rfl
  | cons e rest ih =>
    obtain ⟨name, raw⟩ := e
    rw [ofSchemas, List.mapM_cons, ← ih]
    simp only [Run.result_bind, Run.result_pure, componentOf, bind_map_left]
    rfl

theorem result_ofDocument (settings : Settings) {document : Value} (h : document.isMap = true) :
    (ofDocument settings document).result =
      if (componentsOf document).isMap then
        match schemasOf document with
        | .map schemas => schemas.mapM (componentOf settings)
        | other => .error (.malformed .schemasNotMapping other ⟨"#", [.word "components", .word "schemas"]⟩)
      else .error (.noEntries (componentsOf document).type) := by
  have components : (sectionOf document "components").result = .ok (componentsOf document) := by
    rw [result_sectionOf, if_pos h, componentsOf]
  rw [ofDocument, Run.result_bind, components]
  show (sectionOf (componentsOf document) "schemas" >>= _).result = _
  rw [Run.result_bind, result_sectionOf]
  split_ifs
  · show Run.result (match schemasOf document with | .map _ => _ | _ => _) = _
    cases schemasOf document with
    | map schemas =>
      simp only [Run.result_bind, Run.result_report, Run.result_pure, result_ofSchemas]
      cases schemas.mapM (componentOf settings) <;> rfl
    | _ => rfl
  · rfl

/-- the raw schemas of a document; none where the section is no mapping -/
def rawSchemas (document : Value) : Entries := (schemasOf document).entries?.getD []

theorem result_of_not_map {settings : Settings} {document : Value} (h : document.isMap = false) :
    (ofDocument settings document).result = .error (.noEntries document.type) := by
  rw [ofDocument, Run.result_bind, result_sectionOf, h]
  rfl

/-- a registry holds the components of the raw schemas, under their keys -/
theorem built_of_result {settings : Settings} {document : Value} {registry : Registry} (map : document.isMap = true)
    (h : (ofDocument settings document).result = .ok registry) :
    List.Forall₂ (fun e r => e.1 = r.1 ∧ (Component.ofRaw settings e.1 e.2).result = .ok r.2)
      (rawSchemas document) registry := by
  rw [result_ofDocument settings map] at h
  split_ifs at h
  split at h
  · rename_i schemas eq
    simp only [rawSchemas, eq, Value.entries?, Option.getD_some]
    refine (mapM_eq_ok.1 h).imp fun e r he => ?_
    obtain ⟨component, result, rfl⟩ := map_eq_ok.1 he
    exact ⟨rfl, result⟩
  · cases h

theorem find?_eq_none_iff {registry : Registry} {name : String} :
    registry.find? name = none ↔ ∀ c, (.str name, c) ∉ registry := by
  induction registry with
  | nil => simp [find?]
  | cons e rest ih =>
    obtain ⟨k, component⟩ := e
    simp only [find?]
    split_ifs with same
    · obtain rfl : k = .str name := by cases k <;> simp_all [Value.isText]
      simp only [false_iff, not_forall, not_not]
      exact ⟨component, List.mem_cons_self⟩
    · have other : k ≠ .str name := by
        rintro rfl
        simp [Value.isText] at same
      simp [ih, other.symm]

theorem keyed_of_not_text {registry : Registry} {e : Value × Component} (he : e ∈ registry) (h : e.1.text? = none) :
    ∃ issues, keyed registry = .error (.invalid .documentation issues) := by
  simp only [keyed]
  split_ifs with empty
  · rw [List.isEmpty_iff, List.filterMap_eq_nil_iff] at empty
    have := empty e he
    cases hk : e.1 <;> simp_all [Value.text?]
  · exact ⟨_, rfl⟩

theorem keyed_eq_ok {registry : Registry} {components : List (String × Component)} :
    keyed registry = .ok components ↔ registry = keyedBy components := by
  constructor
  · intro h
    have texts : ∀ e ∈ registry, ∃ name, e.1 = Value.str name := by
      intro e he
      refine Value.eq_str_of_text? fun none => ?_
      obtain ⟨issues, refused⟩ := keyed_of_not_text he none
      rw [refused] at h
      cases h
    obtain ⟨named, rfl⟩ := exists_keyedBy texts
    rw [keyedBy, keyed_map] at h
    cases h
    rfl
  · rintro rfl
    exact keyed_map components

end Registry

namespace Documentation

/-- the paths section of a document -/
def pathsOf (document : Value) : Value := document.givenField "paths"

/-- the operation of a path entry, if it is represented -/
def operationOf (registry : Registry) (settings : Settings) (e : Value × Value) : Except Fault (Option Operation) :=
  (Operation.ofRaw registry settings e.1 e.2).result

/-- the operations that are represented and supported -/
def kept (outcomes : List (Option Operation)) : List Operation := outcomes.filterMap (·.filter Operation.isSupported)

theorem kept_cons (outcome : Option Operation) (outcomes : List (Option Operation)) :
    kept (outcome :: outcomes) = (outcome.filter Operation.isSupported).toList ++ kept outcomes := by
  cases h : outcome.filter Operation.isSupported <;> simp [kept, h]

theorem result_operationsOf (registry : Registry) (settings : Settings) (paths : Entries) :
    (operationsOf registry settings paths).result = kept <$> paths.mapM (operationOf registry settings) := by
  induction paths with
  | nil => rfl
  | cons e rest ih =>
    obtain ⟨path, entry⟩ := e
    rw [operationsOf, List.mapM_cons, Run.result_bind, map_bind]
    show operationOf registry settings (path, entry) >>= _ = _
    congr 1
    funext outcome
    rw [bind_pure_comp, ← comp_map]
    cases outcome with
    | none => simpa [kept_cons, Function.comp_def] using ih
    | some op =>
      simp only
      split
      · rename_i contentType body
        have dropped : op.isSupported = false := by simp [Operation.isSupported, body]
        simp only [Run.result_bind, Run.result_report, ih, Function.comp_def, kept_cons, Option.filter_some, dropped]
        rfl
      · rename_i body
        have supported : op.isSupported = true := (Operation.isSupported_iff op).2 body
        simp only [Run.result_bind, Run.result_pure, ih, Function.comp_def, kept_cons, Option.filter_some, supported]
        cases rest.mapM (operationOf registry settings) <;> rfl

theorem result_operationsOfDocument (registry : Registry) (settings : Settings) {document : Value}
    (h : document.isMap = true) :
    (operationsOfDocument registry settings document).result =
      match pathsOf document with
      | .map paths => kept <$> paths.mapM (operationOf registry settings)
      | other => .error (.malformed .pathsNotMapping other ⟨"#", [.word "paths"]⟩) := by
  have paths : (Registry.sectionOf document "paths").result = .ok (pathsOf document) := by
    rw [Registry.result_sectionOf, if_pos h, pathsOf]
  rw [operationsOfDocument, Run.result_bind, paths]
  show Run.result (match pathsOf document with | .map _ => _ | _ => _) = _
  cases pathsOf document with
  | map paths => exact result_operationsOf registry settings paths
  | _ => rfl

theorem result_ofDocument (settings : Settings) (document : Value) :
    (ofDocument settings document).result = (do
      let registry ← (Registry.ofDocument settings document).result
      let operations ← (operationsOfDocument registry settings document).result
      let components ← registry.keyed
      return ⟨components, operations⟩) := by
  simp only [ofDocument, Run.result_bind, Run.result_report, Run.result_ofExcept, Run.result_pure]
  rfl

/-! ## Success -/

/-- the path entries of a document; none where the section is no mapping -/
def rawPaths (document : Value) : Entries := (pathsOf document).entries?.getD []

/-- what a documentation owes to its document: each component to a schema, each operation to a path entry -/
structure Built (settings : Settings) (document : Value) (d : Documentation) : Prop where
  components : List.Forall₂ (fun e c => e.1 = .str c.1 ∧ (Component.ofRaw settings e.1 e.2).result = .ok c.2)
    (Registry.rawSchemas document) d.components
  operations : ∃ outcomes, (rawPaths document).mapM (operationOf (keyedBy d.components) settings) = .ok outcomes ∧
    d.operations = kept outcomes

theorem result_of_not_map {settings : Settings} {document : Value} (h : document.isMap = false) :
    (ofDocument settings document).result = .error (.noEntries document.type) := by
  rw [result_ofDocument, Registry.result_of_not_map h]
  rfl

theorem isMap_of_result {settings : Settings} {document : Value} {d : Documentation}
    (result : (ofDocument settings document).result = .ok d) : document.isMap = true := by
  by_contra map
  rw [result_of_not_map (Bool.eq_false_iff.2 map)] at result
  cases result

theorem built_of_result {settings : Settings} {document : Value} {d : Documentation}
    (result : (ofDocument settings document).result = .ok d) : Built settings document d := by
  have h := isMap_of_result result
  rw [result_ofDocument] at result
  obtain ⟨registry, built, result⟩ := bind_eq_ok.1 result
  obtain ⟨operations, read, result⟩ := bind_eq_ok.1 result
  obtain ⟨components, keyed, result⟩ := bind_eq_ok.1 result
  cases result
  obtain rfl := Registry.keyed_eq_ok.1 keyed
  rw [result_operationsOfDocument _ settings h] at read
  constructor
  · have made := Registry.built_of_result h built
    rw [keyedBy, List.forall₂_map_right_iff] at made
    exact made
  · split at read
    · rename_i paths eq
      obtain ⟨outcomes, ran, rfl⟩ := map_eq_ok.1 read
      exact ⟨outcomes, by simpa [rawPaths, eq, Value.entries?] using ran, rfl⟩
    · cases read

theorem mem_kept {outcomes : List (Option Operation)} {op : Operation} :
    op ∈ kept outcomes ↔ some op ∈ outcomes ∧ op.isSupported = true := by
  simp only [kept, List.mem_filterMap, Option.filter_eq_some_iff]
  constructor
  · rintro ⟨outcome, mem, rfl, supported⟩
    exact ⟨mem, supported⟩
  · rintro ⟨mem, supported⟩
    exact ⟨some op, mem, rfl, supported⟩

namespace Built

variable {settings : Settings} {document : Value} {d : Documentation}

/-- every component comes from a raw schema -/
theorem schema_of_mem (built : Built settings document d) {name : String} {component : Component}
    (h : (name, component) ∈ d.components) :
    ∃ raw, (.str name, raw) ∈ Registry.rawSchemas document ∧
      (Component.ofRaw settings (.str name) raw).result = .ok component := by
  obtain ⟨⟨key, raw⟩, mem, rfl, result⟩ := exists_of_mem_results built.components h
  exact ⟨raw, mem, result⟩

/-- every raw schema gives a component -/
theorem component_of_mem (built : Built settings document d) {key raw : Value}
    (h : (key, raw) ∈ Registry.rawSchemas document) :
    ∃ name component, key = .str name ∧ (name, component) ∈ d.components ∧
      (Component.ofRaw settings (.str name) raw).result = .ok component := by
  obtain ⟨⟨name, component⟩, mem, rfl, result⟩ := exists_of_mem_items built.components h
  exact ⟨name, component, rfl, mem, result⟩

/-- every operation comes from a path entry -/
theorem entry_of_mem (built : Built settings document d) {op : Operation} (h : op ∈ d.operations) :
    ∃ path entry operation, (path, entry) ∈ rawPaths document ∧
      Operation.MadeOf (keyedBy d.components) settings path entry operation op ∧ op.isSupported = true := by
  obtain ⟨outcomes, read, kept⟩ := built.operations
  rw [kept, mem_kept] at h
  obtain ⟨⟨path, entry⟩, mem, result⟩ := exists_of_mem_results (mapM_eq_ok.1 read) h.1
  obtain ⟨operation, made⟩ := Operation.madeOf_of_result result
  exact ⟨path, entry, operation, mem, made, h.2⟩

/-- every represented path entry gives an operation, which is kept if it is supported -/
theorem operation_of_mem (built : Built settings document d) {path entry operation : Value} {method : Method}
    (h : (path, entry) ∈ rawPaths document)
    (represented : Operation.represented? settings entry = some (method, operation)) :
    ∃ op, Operation.MadeOf (keyedBy d.components) settings path entry operation op ∧
      (op.isSupported = true → op ∈ d.operations) := by
  obtain ⟨outcomes, read, kept⟩ := built.operations
  obtain ⟨outcome, mem, result⟩ := exists_of_mem_items (mapM_eq_ok.1 read) h
  obtain ⟨op, rfl, -, made⟩ := Operation.represented_of_result result represented
  refine ⟨op, made, fun supported => ?_⟩
  rw [kept, mem_kept]
  exact ⟨mem, supported⟩

end Built

end Documentation

end ApiTypes
