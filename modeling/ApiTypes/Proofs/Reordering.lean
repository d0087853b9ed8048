/-
Documents in another order.

A build goes through the schemas and path entries of a document one by one, up to the first fault. What becomes of a
schema depends on that schema alone, and what becomes of a path entry depends on the finished registry only through the
components that it looks up under their names. So the order of both sections decides nothing but the order of the
results, also where several entries are faulty.

Main statements: `result_eq_ok_iff`, a build goes through when each entry does; `Built.of_perm`, the entries in another
order; `reordered_alike`, both builds go through or none does, and what they have in common.
-/
import ApiTypes.Proofs.Accounting
import ApiTypes.Proofs.Decoding

namespace ApiTypes

variable {settings : Settings} {document : Value}

/-! ## Documents -/

namespace Value

/-- the mapping with another value under a text key, where it has one -/
def modify (name : String) (f : Value → Value) : Value → Value
  | map entries => .map (entries.map fun e => if e.1.isText name then (e.1, f e.2) else e)
  | v => v

/-- a mapping of these entries in the place of a mapping -/
def withEntries (entries : Entries) : Value → Value
  | map _ => .map entries
  | v => v

theorem field?_modify_self (raw : Value) (name : String) (f : Value → Value) :
    (raw.modify name f).field? name = (raw.field? name).map f := by
  cases raw with
  | map entries =>
    show Entries.find? (entries.map _) name = (Entries.find? entries name).map f
    induction entries with
    | nil => rfl
    | cons e rest ih =>
      rw [List.map_cons, Entries.find?, Entries.find?]
      by_cases own : e.1.isText name = true
      · simp [own]
      · simpa [own] using ih
  | _ => rfl

theorem field?_modify_of_ne {name other : String} (ne : other ≠ name) (raw : Value) (f : Value → Value) :
    (raw.modify name f).field? other = raw.field? other := by
  cases raw with
  | map entries =>
    show Entries.find? (entries.map _) other = Entries.find? entries other
    induction entries with
    | nil => rfl
    | cons e rest ih =>
      rw [List.map_cons, Entries.find?, Entries.find?, ih]
      by_cases own : e.1.isText name = true
      · have apart : e.1.isText other = false := by
          cases key : e.1 <;> simp_all [isText]
          exact fun same => ne same.symm
        simp [own, apart]
      · simp [own]
  | _ => rfl

@[simp] theorem isMap_modify (raw : Value) (name : String) (f : Value → Value) :
    (raw.modify name f).isMap = raw.isMap := by
  cases raw <;> rfl

@[simp] theorem isGiven_modify (raw : Value) (name : String) (f : Value → Value) :
    (raw.modify name f).isGiven = raw.isGiven := by
  cases raw with
  | map entries => simp [modify, isGiven]
  | _ => rfl

@[simp] theorem isMap_withEntries (raw : Value) (entries : Entries) : (raw.withEntries entries).isMap = raw.isMap := by
  cases raw <;> rfl

theorem entries?_withEntries {raw : Value} {entries : Entries} (perm : entries.Perm (raw.entries?.getD [])) :
    (raw.withEntries entries).entries?.getD [] = entries := by
  cases raw with
  | map others => rfl
  | _ => exact (List.Perm.eq_nil perm).symm

theorem givenField_modify_of_ne {name other : String} (ne : other ≠ name) (raw : Value) (f : Value → Value) :
    (raw.modify name f).givenField other = raw.givenField other := by
  rw [givenField, field?_modify_of_ne ne, givenField]

/-- a change of a value that stays given, or not given, is a change of the section -/
theorem givenField_modify {raw : Value} {name : String} {f : Value → Value}
    (empty : raw.givenField name = .map [] → f (.map []) = .map [])
    (given : ∀ v, raw.field? name = some v → (f v).isGiven = v.isGiven) :
    (raw.modify name f).givenField name = f (raw.givenField name) := by
  rw [givenField] at empty
  rw [givenField, field?_modify_self, givenField]
  cases found : raw.field? name with
  | none =>
    rw [found] at empty
    exact (empty rfl).symm
  | some v =>
    simp only [found, Option.getD_some] at empty
    simp only [Option.map_some, Option.getD_some, given v found]
    split_ifs with isGiven
    · rfl
    · exact (empty (if_neg isGiven)).symm

theorem givenField_of_map {raw : Value} {name : String} {entries : Entries}
    (found : raw.field? name = some (.map entries)) : raw.givenField name = .map entries := by
  rw [givenField, found]
  cases entries <;> rfl

/-- a section with its entries in another order -/
theorem givenField_withEntries {raw : Value} {name : String} {entries : Entries}
    (perm : entries.Perm ((raw.givenField name).entries?.getD [])) :
    (raw.modify name (·.withEntries entries)).givenField name = (raw.givenField name).withEntries entries := by
  refine givenField_modify (fun empty => ?_) (fun v found => ?_)
  · rw [empty] at perm
    rw [List.Perm.eq_nil perm]
    rfl
  · cases v with
    | map others =>
      rw [givenField_of_map found] at perm
      show (!entries.isEmpty) = !others.isEmpty
      rw [List.Perm.isEmpty_eq perm]
      rfl
    | _ => rfl

end Value

namespace Documentation

open Registry

/-- the document with these schemas and path entries in the place of its own -/
def reordered (schemas paths : Entries) (document : Value) : Value :=
  (document.modify "components" (·.modify "schemas" (·.withEntries schemas))).modify "paths" (·.withEntries paths)

variable {schemas paths : Entries}

theorem isMap_reordered : (reordered schemas paths document).isMap = document.isMap := by
  simp [reordered]

theorem componentsOf_reordered : componentsOf (reordered schemas paths document) =
    (componentsOf document).modify "schemas" (·.withEntries schemas) := by
  rw [componentsOf, reordered, Value.givenField_modify_of_ne (by decide)]
  exact Value.givenField_modify (fun _ => rfl) (fun v _ => Value.isGiven_modify v _ _)

theorem schemasOf_reordered (perm : schemas.Perm (rawSchemas document)) :
    schemasOf (reordered schemas paths document) = (schemasOf document).withEntries schemas := by
  rw [schemasOf, componentsOf_reordered]
  exact Value.givenField_withEntries perm

theorem pathsOf_reordered (perm : paths.Perm (rawPaths document)) :
    pathsOf (reordered schemas paths document) = (pathsOf document).withEntries paths := by
  have same := Value.givenField_modify_of_ne (by decide : "paths" ≠ "components") document
    (·.modify "schemas" (·.withEntries schemas))
  rw [rawPaths, pathsOf, ← same] at perm
  rw [pathsOf, reordered, Value.givenField_withEntries perm, same, pathsOf]

theorem rawSchemas_reordered (perm : schemas.Perm (rawSchemas document)) :
    rawSchemas (reordered schemas paths document) = schemas := by
  rw [rawSchemas, schemasOf_reordered perm]
  exact Value.entries?_withEntries perm

theorem rawPaths_reordered (perm : paths.Perm (rawPaths document)) :
    rawPaths (reordered schemas paths document) = paths := by
  rw [rawPaths, pathsOf_reordered perm]
  exact Value.entries?_withEntries perm

/-! ## Builds -/

/-- the sections of a document are mappings -/
@[mk_iff]
structure Sectioned (document : Value) : Prop where
  top : document.isMap = true
  components : (componentsOf document).isMap = true
  schemas : (schemasOf document).isMap = true
  paths : (pathsOf document).isMap = true

theorem sectioned_reordered (schemas' : schemas.Perm (rawSchemas document)) (paths' : paths.Perm (rawPaths document)) :
    Sectioned (reordered schemas paths document) ↔ Sectioned document := by
  simp only [sectioned_iff, isMap_reordered, componentsOf_reordered, schemasOf_reordered schemas',
    pathsOf_reordered paths', Value.isMap_modify, Value.isMap_withEntries]

theorem sectioned_of_result {d : Documentation} (result : (ofDocument settings document).result = .ok d) :
    Sectioned document := by
  have map := isMap_of_result result
  rw [result_ofDocument] at result
  obtain ⟨registry, built, result⟩ := bind_eq_ok.1 result
  obtain ⟨operations, read, -⟩ := bind_eq_ok.1 result
  rw [Registry.result_ofDocument settings map] at built
  rw [result_operationsOfDocument registry settings map] at read
  split_ifs at built with components
  refine ⟨map, components, ?_, ?_⟩
  · split at built
    · rename_i schemas eq
      rw [eq]
      rfl
    · cases built
  · split at read
    · rename_i paths eq
      rw [eq]
      rfl
    · cases read

/-- a build goes through when the sections are mappings and each entry is accepted -/
theorem result_eq_ok_iff {d : Documentation} :
    (ofDocument settings document).result = .ok d ↔ Sectioned document ∧ Built settings document d := by
  refine ⟨fun result => ⟨sectioned_of_result result, built_of_result result⟩, ?_⟩
  rintro ⟨sectioned, built⟩
  obtain ⟨schemas, schemas'⟩ := Value.isMap_iff.1 sectioned.schemas
  obtain ⟨paths, paths'⟩ := Value.isMap_iff.1 sectioned.paths
  obtain ⟨outcomes, read, operations⟩ := built.operations
  have components := built.components
  rw [rawSchemas, schemas'] at components
  rw [rawPaths, paths'] at read
  have registry : (Registry.ofDocument settings document).result = .ok (keyedBy d.components) := by
    rw [Registry.result_ofDocument settings sectioned.top, if_pos sectioned.components, schemas']
    refine mapM_eq_ok.2 (List.forall₂_map_right_iff.2 (components.imp fun e c made => ?_))
    rw [componentOf, made.2, made.1]
    rfl
  have walked : (operationsOfDocument (keyedBy d.components) settings document).result = .ok d.operations := by
    rw [result_operationsOfDocument _ settings sectioned.top, paths', operations]
    exact map_eq_ok.2 ⟨outcomes, read, rfl⟩
  rw [result_ofDocument]
  exact bind_eq_ok.2 ⟨_, registry, bind_eq_ok.2 ⟨_, walked, bind_eq_ok.2 ⟨_, Registry.keyed_eq_ok.2 rfl, rfl⟩⟩⟩

/-! ## Independence -/

/-- a registry is asked for its components only, so that one with the same components will do -/
theorem operationOf_congr {registry other : Registry} (same : ∀ name, registry.find? name = other.find? name)
    (e : Value × Value) : operationOf registry settings e = operationOf other settings e := by
  have schema (location : Location) (raw : Value) : RequestBody.schemaOfRaw registry settings location raw =
      RequestBody.schemaOfRaw other settings location raw := by
    simp only [RequestBody.schemaOfRaw, same]
  have body (location : Location) (raw : Value) :
      RequestBody.ofRaw registry settings location raw = RequestBody.ofRaw other settings location raw := by
    simp only [RequestBody.ofRaw, RequestBody.ofContent, schema]
  simp only [operationOf, Operation.ofRaw, Operation.ofComplete, body]

/-- the operation of a path entry that is kept, where there is one -/
def descriptorOf (registry : Registry) (settings : Settings) (e : Value × Value) : Option Operation :=
  (operationOf registry settings e).toOption.join.filter Operation.isSupported

theorem descriptorOf_congr {registry other : Registry} (same : ∀ name, registry.find? name = other.find? name) :
    descriptorOf registry settings = descriptorOf other settings := by
  funext e
  rw [descriptorOf, descriptorOf, operationOf_congr same]

theorem kept_eq_filterMap {registry : Registry} {outcomes : List (Option Operation)}
    (walked : List.Forall₂ (fun e outcome => operationOf registry settings e = .ok outcome) paths outcomes) :
    kept outcomes = paths.filterMap (descriptorOf registry settings) := by
  induction walked with
  | nil => rfl
  | @cons e outcome paths outcomes head _ ih =>
    have here : descriptorOf registry settings e = outcome.filter Operation.isSupported := by
      rw [descriptorOf, head]
      rfl
    rw [kept_cons, ih, List.filterMap_cons, here]
    cases outcome.filter Operation.isSupported <;> rfl

theorem Built.operations_eq {d : Documentation} (built : Built settings document d) :
    d.operations = (rawPaths document).filterMap (descriptorOf (keyedBy d.components) settings) := by
  obtain ⟨outcomes, read, operations⟩ := built.operations
  rw [operations, kept_eq_filterMap (mapM_eq_ok.1 read)]

/-- the components have different names, where the schemas have different keys, in whatever order -/
theorem Built.nodup {d : Documentation} (built : Built settings document d) (distinct : Value.DistinctKeys schemas)
    (perm : schemas.Perm (rawSchemas document)) : (d.components.map Prod.fst).Nodup := by
  obtain ⟨named, made, same⟩ := List.perm_comp_forall₂ perm built.components
  rw [← (same.map Prod.fst).nodup_iff, List.Nodup, List.pairwise_map]
  clear same perm
  induction made with
  | nil => exact .nil
  | @cons e c schemas named head tail ih =>
    obtain ⟨apart, distinct⟩ := List.pairwise_cons.1 distinct
    refine List.pairwise_cons.2 ⟨fun c' mem same => ?_, ih distinct⟩
    obtain ⟨e', later, key, -⟩ := exists_of_mem_results tail mem
    have other := apart e' later
    rw [head.1, key, Entries.same_str, same] at other
    simp at other

/-- where names are different, their order does not matter to what is found -/
theorem lookup_perm {α : Type} {fields others : List (String × α)} (perm : fields.Perm others)
    (nodup : (fields.map Prod.fst).Nodup) (name : String) : fields.lookup name = others.lookup name := by
  induction perm with
  | nil => rfl
  | cons f _ ih => rw [List.lookup_cons, List.lookup_cons, ih (List.nodup_cons.1 nodup).2]
  | swap f g rest =>
    rw [List.map_cons, List.map_cons, List.nodup_cons] at nodup
    have apart : g.1 ≠ f.1 := fun same => nodup.1 (same ▸ List.mem_cons_self)
    rw [List.lookup_cons, List.lookup_cons, List.lookup_cons, List.lookup_cons]
    cases first : name == f.1 with
    | false => rfl
    | true =>
      obtain rfl := eq_of_beq first
      rw [beq_false_of_ne apart.symm]
  | trans first _ ih ih' => exact (ih nodup).trans (ih' ((first.map Prod.fst).nodup_iff.1 nodup))

/-- **Entries in another order are built as well**, and give the same components. -/
theorem Built.of_perm {other : Value} {d : Documentation} (built : Built settings document d)
    (nodup : (d.components.map Prod.fst).Nodup) (schemas : (rawSchemas other).Perm (rawSchemas document))
    (paths : (rawPaths other).Perm (rawPaths document)) :
    ∃ d', Built settings other d' ∧ d'.components.Perm d.components := by
  obtain ⟨outcomes, read, -⟩ := built.operations
  obtain ⟨components, made, perm⟩ := List.perm_comp_forall₂ schemas built.components
  obtain ⟨outcomes', walked, -⟩ := List.perm_comp_forall₂ paths (mapM_eq_ok.1 read)
  -- the path entries were read against the components in the first order
  have same (e : Value × Value) :
      operationOf (keyedBy components) settings e = operationOf (keyedBy d.components) settings e := by
    refine operationOf_congr (fun name => ?_) e
    rw [Registry.find?_keyedBy, Registry.find?_keyedBy, lookup_perm perm.symm nodup]
  refine ⟨⟨components, kept outcomes'⟩, ⟨made, outcomes', mapM_eq_ok.2 ?_, rfl⟩, perm⟩
  exact walked.imp fun e outcome h => (same e).trans h

/-- two documentations of the same entries in two orders -/
structure Alike (settings : Settings) (paths paths' : Entries) (d d' : Documentation) : Prop where
  components : d'.components.Perm d.components
  lookup : ∀ name, d'.components.lookup name = d.components.lookup name
  operations : d.operations = paths.filterMap (descriptorOf (keyedBy d.components) settings)
  operations' : d'.operations = paths'.filterMap (descriptorOf (keyedBy d.components) settings)
  names : ∀ name, (Vocabulary.ofDocumentation d').contains name = (Vocabulary.ofDocumentation d).contains name

theorem mem_fieldNames_of_perm {d d' : Documentation} (components : d'.components.Perm d.components)
    (operations : d'.operations.Perm d.operations) (name : String) : name ∈ d'.fieldNames ↔ name ∈ d.fieldNames := by
  simp only [fieldNames, List.mem_append, List.mem_flatMap, components.mem_iff, operations.mem_iff]

theorem Built.alike {other : Value} {d d' : Documentation} (built : Built settings document d)
    (built' : Built settings other d') (components : d'.components.Perm d.components)
    (nodup : (d.components.map Prod.fst).Nodup) (paths : (rawPaths other).Perm (rawPaths document)) :
    Alike settings (rawPaths document) (rawPaths other) d d' := by
  have lookup (name : String) : d'.components.lookup name = d.components.lookup name :=
    (lookup_perm components.symm nodup name).symm
  have descriptors : descriptorOf (keyedBy d'.components) settings = descriptorOf (keyedBy d.components) settings := by
    refine descriptorOf_congr fun name => ?_
    rw [Registry.find?_keyedBy, Registry.find?_keyedBy, lookup]
  have operations' := built'.operations_eq
  rw [descriptors] at operations'
  refine ⟨components, lookup, built.operations_eq, operations', fun name => ?_⟩
  have operations : d'.operations.Perm d.operations := by
    rw [operations', built.operations_eq]
    exact paths.filterMap _
  rw [Bool.eq_iff_iff]
  exact (Vocabulary.contains_ofTexts _ name).trans
    ((mem_fieldNames_of_perm components operations name).trans (Vocabulary.contains_ofTexts _ name).symm)

/-- **The order of a document decides the order of what is built, and nothing else.** With its schemas and its path
entries in any order, a document is built if and only if it is built as it stands; its registry holds the same
component under every name, each path entry gives the operation that it gave, and the vocabularies hold the same
names. -/
theorem reordered_alike (settings : Settings) {document : Value} {schemas paths : Entries}
    (distinct : Value.DistinctKeys (rawSchemas document)) (schemas' : schemas.Perm (rawSchemas document))
    (paths' : paths.Perm (rawPaths document)) :
    ((∃ d', (ofDocument settings (reordered schemas paths document)).result = .ok d') ↔
      ∃ d, (ofDocument settings document).result = .ok d) ∧
    ∀ d d', (ofDocument settings document).result = .ok d →
      (ofDocument settings (reordered schemas paths document)).result = .ok d' →
      Alike settings (rawPaths document) paths d d' := by
  have sections := sectioned_reordered schemas' paths'
  have rawPaths' : rawPaths (reordered schemas paths document) = paths := rawPaths_reordered paths'
  rw [← rawSchemas_reordered schemas'] at schemas'
  rw [← rawPaths'] at paths'
  refine ⟨⟨?_, ?_⟩, fun d d' result result' => ?_⟩
  · rintro ⟨d', result'⟩
    obtain ⟨sectioned', built'⟩ := result_eq_ok_iff.1 result'
    obtain ⟨d, built, -⟩ := built'.of_perm (built'.nodup distinct schemas'.symm) schemas'.symm paths'.symm
    exact ⟨d, result_eq_ok_iff.2 ⟨sections.1 sectioned', built⟩⟩
  · rintro ⟨d, result⟩
    obtain ⟨sectioned, built⟩ := result_eq_ok_iff.1 result
    obtain ⟨d', built', -⟩ := built.of_perm (built.nodup distinct (.refl _)) schemas' paths'
    exact ⟨d', result_eq_ok_iff.2 ⟨sections.2 sectioned, built'⟩⟩
  · obtain ⟨sectioned, built⟩ := result_eq_ok_iff.1 result
    have nodup := built.nodup distinct (.refl _)
    obtain ⟨d'', built', components⟩ := built.of_perm nodup schemas' paths'
    have same := result'.symm.trans (result_eq_ok_iff.2 ⟨sections.2 sectioned, built'⟩)
    cases same
    rw [← rawPaths']
    exact built.alike built' components nodup paths'

/-- two components, and two operations with a body of the first around one whose body has no model -/
def market : Value :=
  .map [(.str "openapi", .str "3.0.0"),
    (.str "components", .map [(.str "schemas", .map [(.str "Order", .map [(.str "type", .str "object")]),
      (.str "Refund", .map [(.str "type", .str "object")])])]),
    (.str "paths", .map [(.str "/orders", postOf "createOrder" "application/json"),
      (.str "/files", postOf "createFile" "multipart/form-data"),
      (.str "/refunds", postOf "createRefund" "application/json")])]

def marketOperation (endpoint name operationId : String) : Operation :=
  { endpoint, name, operationId, summary := "", method := .post,
    requestBody := some (.json false "application/json" {} (some "Order")), responseType := .component "Order",
    group := "orders" }

def marketDocumentation : Documentation where
  components := [("Order", {}), ("Refund", {})]
  operations := [marketOperation "/orders" "create_order" "createOrder",
    marketOperation "/refunds" "create_refund" "createRefund"]

/-- read backwards, the market has the same components, and its operations backwards -/
theorem market_reversed :
    (ofDocument {} market).result = .ok marketDocumentation ∧ Value.DistinctKeys (rawSchemas market) ∧
    ∃ d', (ofDocument {} (reordered (rawSchemas market).reverse (rawPaths market).reverse market)).result = .ok d' ∧
      d'.operations = marketDocumentation.operations.reverse ∧
      ∀ name, d'.components.lookup name = marketDocumentation.components.lookup name := by
  have built : (ofDocument {} market).result = .ok marketDocumentation := by rfl
  have distinct : Value.DistinctKeys (rawSchemas market) := by
    show Value.DistinctKeys [(.str "Order", _), (.str "Refund", _)]
    simp [Value.DistinctKeys, Entries.same_str]
  obtain ⟨iff, alike⟩ := reordered_alike {} distinct (List.reverse_perm _) (List.reverse_perm (rawPaths market))
  obtain ⟨d', built'⟩ := iff.2 ⟨_, built⟩
  obtain ⟨-, lookup, operations, operations', -⟩ := alike _ d' built built'
  refine ⟨built, distinct, d', built', ?_, lookup⟩
  rw [operations', operations, List.filterMap_reverse]

end Documentation

end ApiTypes
