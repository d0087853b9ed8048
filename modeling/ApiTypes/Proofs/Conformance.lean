/-
Conforming responses.

A payload conforms to a node when it is built as the node says: references stand for the components that they name, the
keys of a mapping are names of fields, the items of a list conform to the element, and a choice is one of its variants.
A scalar names a type and says nothing of what is below, so that no mapping stands there; `deep` asks this of the items
of lists in such a place as well.

The vocabulary of a documentation is collected from the components and request bodies, without following references.
It needs no more: what is reached through a reference is a field of a component, whose names are collected where the
component stands.

Main statements: `Conforms.recognizes`, by induction on the conformance; `conforming_decoded`, the responses of an
operation; `shallow_conforming_reported`, a list of mappings in the place of a scalar.
-/
import ApiTypes.Proofs.Declared

namespace ApiTypes

/-- the items of a list or tuple -/
def Value.items? : Value → Option (List Value)
  | .list items => some items
  | .tuple items => some items
  | _ => none

/-- the names and types of the properties -/
def Component.fields (c : Component) : List (String × Node) := c.properties.map fun p => (p.name, p.type)

/-- the payload is built as the node says -/
inductive Conforms (deep : Bool) (components : List (String × Component)) : Value → Node → Prop
  | scalar {v type} : v.isMap = false →
      (deep = true → ∀ items, v.items? = some items → ∀ w ∈ items, Conforms deep components w (.scalar type)) →
      Conforms deep components v (.scalar type)
  | array {v items element} : v.items? = some items → (∀ w ∈ items, Conforms deep components w element) →
      Conforms deep components v (.array element)
  /-- every key is the name of a field, and its value conforms to the type of the field -/
  | object {entries fields} : (∀ e ∈ entries, ∃ name node, e.1 = .str name ∧ fields.lookup name = some node) →
      (∀ e ∈ entries, ∀ name node, e.1 = .str name → fields.lookup name = some node →
        Conforms deep components e.2 node) → Conforms deep components (.map entries) (.object fields)
  | component {v name component} : components.lookup name = some component →
      Conforms deep components v (.object component.fields) → Conforms deep components v (.component name)
  | oneOf {v variants variant} : variant ∈ variants → Conforms deep components v variant.type →
      Conforms deep components v (.oneOf variants)

/-! ## Names below a node -/

theorem mem_of_lookup {α : Type} {fields : List (String × α)} {name : String} {a : α}
    (h : fields.lookup name = some a) : (name, a) ∈ fields := by
  obtain ⟨before, after, rfl, -⟩ := List.lookup_eq_some_iff.1 h
  simp

namespace Node

theorem mem_fieldNames_of_lookup {fields : List (String × Node)} {name : String} {node : Node}
    (h : fields.lookup name = some node) :
    name ∈ (object fields).fieldNames ∧ node.fieldNames ⊆ (object fields).fieldNames := by
  have mem := mem_of_lookup h
  rw [fieldNames, namesOfFields_eq]
  refine ⟨List.mem_flatMap.2 ⟨_, mem, List.mem_cons_self⟩, fun inner below => ?_⟩
  exact List.mem_flatMap.2 ⟨_, mem, List.mem_cons_of_mem _ below⟩

theorem fieldNames_variant {variants : List Variant} {variant : Variant} (h : variant ∈ variants) :
    variant.type.fieldNames ⊆ (oneOf variants).fieldNames := by
  rw [fieldNames, namesOfVariants_eq]
  exact fun name below => List.mem_flatMap.2 ⟨variant, h, below⟩

end Node

theorem Component.fieldNames_fields (c : Component) : (Node.object c.fields).fieldNames = c.fieldNames := by
  rw [Node.fieldNames, Node.namesOfFields_eq, fields, List.flatMap_map]
  rfl

/-- the names of a component are collected where it stands -/
theorem Documentation.fieldNames_of_lookup {d : Documentation} {name : String} {component : Component}
    (h : d.components.lookup name = some component) : component.fieldNames ⊆ d.fieldNames := by
  intro inner below
  exact List.mem_append_left _ (List.mem_flatMap.2 ⟨_, mem_of_lookup h, below⟩)

/-- a response is typed by a component or by a plain type name, and has no names of its own -/
theorem Documentation.Built.fieldNames_responseType {settings : Settings} {document : Value} {d : Documentation}
    (built : Built settings document d) {op : Operation} (h : op ∈ d.operations) : op.responseType.fieldNames = [] := by
  obtain ⟨path, entry, operation, -, made, -⟩ := built.entry_of_mem h
  obtain ⟨schema, -, typed⟩ := Response.typeOf_eq_ok made.response
  rcases Response.node?_cases typed with ⟨ref, -, eq⟩ | ⟨-, type, -, eq⟩ <;> rw [eq, Node.fieldNames]

/-! ## Recognized payloads -/

namespace Vocabulary

variable {v : Vocabulary}

/-- every key of the payload becomes a known one -/
def Recognizes (v : Vocabulary) (p : Value) : Prop := ∀ key ∈ (v.marked p).keys, ∃ text, key = .known text

theorem recognizes_of_items {p : Value} {items : List Value} (sequence : p.items? = some items)
    (h : ∀ item ∈ items, v.Recognizes item) : v.Recognizes p := by
  have keys : (v.marked p).keys = Payload.itemKeys (v.markedItems items) := by
    cases p <;> cases sequence <;> rw [marked, Payload.keys]
  intro key mem
  rw [keys] at mem
  clear sequence keys
  induction items with
  | nil => simp [markedItems, Payload.itemKeys] at mem
  | cons item rest ih =>
    rw [markedItems, Payload.itemKeys, List.mem_append] at mem
    rcases mem with first | behind
    · exact h item List.mem_cons_self key first
    · exact ih (fun item later => h item (List.mem_cons_of_mem _ later)) behind

theorem recognizes_map {entries : Entries} (named : ∀ e ∈ entries, ∃ name, e.1 = .str name ∧ v.contains name = true)
    (h : ∀ e ∈ entries, v.Recognizes e.2) : v.Recognizes (.map entries) := by
  intro key mem
  rw [marked, Payload.keys] at mem
  induction entries with
  | nil => simp [markedEntries, Payload.entryKeys] at mem
  | cons e rest ih =>
    obtain ⟨name, held, contained⟩ := named e List.mem_cons_self
    rw [markedEntries, Payload.entryKeys, List.mem_cons, List.mem_append] at mem
    rcases mem with own | below | behind
    · exact ⟨name, by rw [own, held, mark, if_pos contained]⟩
    · exact h e List.mem_cons_self key below
    · have later (f : Value × Value) (inside : f ∈ rest) : f ∈ e :: rest := List.mem_cons_of_mem _ inside
      exact ih (fun f inside => named f (later f inside)) (fun f inside => h f (later f inside)) behind

theorem recognizes_of_alone {p : Value} (map : p.isMap = false) (alone : p.items? = none) : v.Recognizes p := by
  intro key mem
  cases p <;> simp_all [Value.items?, Value.isMap, Value.entries?, marked, Payload.keys]

mutual

/-- a text key of the payload is marked in the decoded one -/
theorem mark_mem_keys {name : String} :
    (p : Value) → name ∈ p.textKeys → v.mark (.str name) ∈ (v.marked p).keys
  | .list items, h => by
    rw [Value.textKeys] at h
    rw [marked, Payload.keys]
    exact mark_mem_itemKeys items h
  | .tuple items, h => by
    rw [Value.textKeys] at h
    rw [marked, Payload.keys]
    exact mark_mem_itemKeys items h
  | .map entries, h => by
    rw [Value.textKeys] at h
    rw [marked, Payload.keys]
    exact mark_mem_entryKeys entries h
  | .null, h | .bool _, h | .int _, h | .float _, h | .str _, h | .date _, h | .moment _, h => by
    simp [Value.textKeys] at h

theorem mark_mem_itemKeys {name : String} : (items : List Value) →
    name ∈ Value.itemKeys items → v.mark (.str name) ∈ Payload.itemKeys (v.markedItems items)
  | [], h => by simp [Value.itemKeys] at h
  | item :: rest, h => by
    rw [Value.itemKeys, List.mem_append] at h
    rw [markedItems, Payload.itemKeys, List.mem_append]
    exact h.imp (mark_mem_keys item) (mark_mem_itemKeys rest)

theorem mark_mem_entryKeys {name : String} : (entries : List (Value × Value)) →
    name ∈ Value.entryKeys entries → v.mark (.str name) ∈ Payload.entryKeys (v.markedEntries entries)
  | [], h => by simp [Value.entryKeys] at h
  | (key, value) :: rest, h => by
    rw [Value.entryKeys, List.mem_append, List.mem_append] at h
    rw [markedEntries, Payload.entryKeys, List.mem_cons, List.mem_append]
    rcases h with (own | below) | behind
    · obtain rfl : key = .str name := by cases key <;> simp_all [Value.text?]
      exact Or.inl rfl
    · exact Or.inr (Or.inl (mark_mem_keys value below))
    · exact Or.inr (Or.inr (mark_mem_entryKeys rest behind))

end

theorem Recognizes.contains {p : Value} (h : v.Recognizes p) {name : String} (mem : name ∈ p.textKeys) :
    v.contains name = true := by
  obtain ⟨text, known⟩ := h _ (mark_mem_keys p mem)
  by_contra absent
  rw [mark, if_neg absent] at known
  cases known

/-- the payload is decoded into itself, with lists for tuples: every key is known, and none is reported -/
structure DecodesKnown (v : Vocabulary) (p : Value) : Prop where
  kept : (v.decode p).value.toValue = p.listed
  known : ∀ key ∈ (v.decode p).value.keys, ∃ text, key = .known text
  quiet : (v.decode p).notices = []

theorem Recognizes.decodesKnown {p : Value} (h : v.Recognizes p) (made : Made v) : v.DecodesKnown p := by
  have eq := decode_eq made p
  refine ⟨?_, ?_, (decode_of_contains made fun _ => h.contains).1⟩
  · rw [eq, toValue_marked]
  · rw [eq]
    exact h

end Vocabulary

/-! ## Conformance -/

/-- **A payload that conforms to a node is recognized**, where the names of the node are held. Behind a reference it is
the component that holds them. -/
theorem Conforms.recognizes {d : Documentation} {v : Value} {node : Node}
    (conforms : Conforms true d.components v node) (names : node.fieldNames ⊆ d.fieldNames) :
    (Vocabulary.ofDocumentation d).Recognizes v := by
  induction conforms with
  | @scalar v type map _ ih =>
    cases sequence : v.items? with
    | some items => exact Vocabulary.recognizes_of_items sequence fun w mem => ih rfl items sequence w mem names
    | none => exact Vocabulary.recognizes_of_alone map sequence
  | array sequence _ ih => exact Vocabulary.recognizes_of_items sequence fun w mem => ih w mem names
  | object named _ ih =>
    refine Vocabulary.recognizes_map (fun e mem => ?_) (fun e mem => ?_)
    · obtain ⟨name, node, key, field⟩ := named e mem
      exact ⟨name, key, (Vocabulary.contains_ofTexts _ name).2 (names (Node.mem_fieldNames_of_lookup field).1)⟩
    · obtain ⟨name, node, key, field⟩ := named e mem
      exact ih e mem name node key field fun _ below => names ((Node.mem_fieldNames_of_lookup field).2 below)
  | component found _ ih =>
    refine ih ?_
    rw [Component.fieldNames_fields]
    exact Documentation.fieldNames_of_lookup found
  | oneOf mem _ ih => exact ih fun _ below => names (Node.fieldNames_variant mem below)

namespace Vocabulary

/-- **Conforming responses are decoded without drift**, through components to any depth: every key becomes a known one,
and nothing is reported. -/
theorem conforming_decoded (settings : Settings) {document : Value} {d : Documentation}
    (result : (Documentation.ofDocument settings document).result = .ok d) {op : Operation} (mem : op ∈ d.operations)
    {v : Value} (conforms : Conforms true d.components v op.responseType) : (ofDocumentation d).DecodesKnown v := by
  have names := (Documentation.built_of_result result).fieldNames_responseType mem
  exact (conforms.recognizes (by simp [names])).decodesKnown (.documentation d)

/-- an operation whose response has this schema -/
def getWith (schema : Value) : Value :=
  .map [(.str "get", .map [
    (.str "operationId", .str "list"), (.str "summary", .str ""), (.str "x-oaiMeta", .map [(.str "group", .str "")]),
    (.str "responses", .map [(.str "200", .map [(.str "content", .map [(.str "application/json", .map [
      (.str "schema", schema)])])])])])]

/-- trees, each with a label and the trees below it -/
def forestDocument : Value :=
  .map [(.str "openapi", .str "3.0.0"),
    (.str "components", .map [(.str "schemas", .map [(.str "Tree", .map [(.str "type", .str "object"),
      (.str "properties", .map [(.str "label", .map [(.str "type", .str "string")]),
        (.str "below", .map [(.str "type", .str "array"),
          (.str "items", .map [(.str "$ref", .str "#/components/schemas/Tree")])])])])])]),
    (.str "paths", .map [(.str "/tree", getWith (.map [(.str "$ref", .str "#/components/schemas/Tree")]))])]

def forest : Documentation where
  components := [("Tree", ⟨[], [⟨"label", .scalar "string", "", .str "", false⟩,
    ⟨"below", .array (.component "Tree"), "", .str "", false⟩]⟩)]
  operations :=
    [{ endpoint := "/tree", name := "list", operationId := "list", summary := "", method := .get,
       requestBody := none, responseType := .component "Tree", group := "" }]

theorem forestDocument_built : (Documentation.ofDocument {} forestDocument).result = .ok forest := by cbv

/-- a tree below another; its label is a list -/
def sapling : Value :=
  let leaf : Value := .map [(.str "below", .list []), (.str "label", .list [.null])]
  .map [(.str "label", .str "a"), (.str "below", .list [leaf])]

theorem conforms_tree {entries : Entries}
    (h : ∀ e ∈ entries, e.1 = .str "label" ∧ Conforms true forest.components e.2 (.scalar "string") ∨
      e.1 = .str "below" ∧ Conforms true forest.components e.2 (.array (.component "Tree"))) :
    Conforms true forest.components (.map entries) (.component "Tree") := by
  refine .component rfl (.object (fun e mem => ?_) (fun e mem name node key found => ?_))
  · rcases h e mem with ⟨key, -⟩ | ⟨key, -⟩
    · exact ⟨"label", _, key, rfl⟩
    · exact ⟨"below", _, key, rfl⟩
  · rcases h e mem with ⟨own, conforms⟩ | ⟨own, conforms⟩
    · cases own.symm.trans key
      cases found
      exact conforms
    · cases own.symm.trans key
      cases found
      exact conforms

theorem conforms_sapling : Conforms true forest.components sapling (.component "Tree") := by
  refine conforms_tree fun e mem => ?_
  rcases List.mem_pair.1 mem with rfl | rfl
  · exact Or.inl ⟨rfl, .scalar rfl fun _ _ sequence => by cases sequence⟩
  refine Or.inr ⟨rfl, .array rfl fun leaf mem => ?_⟩
  obtain rfl := List.mem_singleton.1 mem
  refine conforms_tree fun e mem => ?_
  rcases List.mem_pair.1 mem with rfl | rfl
  · exact Or.inr ⟨rfl, .array rfl (by simp)⟩
  · refine Or.inl ⟨rfl, .scalar rfl fun _ items sequence w mem => ?_⟩
    cases sequence
    obtain rfl := List.mem_singleton.1 mem
    exact .scalar rfl fun _ _ none => by cases none

/-- a tree of two is recognized, although no names are collected behind the reference to it -/
theorem sapling_decoded : (Documentation.ofDocument {} forestDocument).result = .ok forest ∧
    Conforms true forest.components sapling (.component "Tree") ∧ (ofDocumentation forest).DecodesKnown sapling :=
  ⟨forestDocument_built, conforms_sapling,
    conforming_decoded {} forestDocument_built List.mem_cons_self conforms_sapling⟩

/-- an operation that returns an array of anything -/
def listingDocument : Value :=
  .map [(.str "openapi", .str "3.0.0"),
    (.str "paths", .map [(.str "/list", getWith (.map [(.str "type", .str "array")]))])]

def listing : Documentation where
  operations :=
    [{ endpoint := "/list", name := "list", operationId := "list", summary := "", method := .get,
       requestBody := none, responseType := .scalar "array", group := "" }]

/-- with lists of anything in the place of a scalar, conforming responses are reported -/
theorem shallow_conforming_reported : ¬ ∀ (settings : Settings) (document : Value) (d : Documentation),
    (Documentation.ofDocument settings document).result = .ok d → ∀ op ∈ d.operations, ∀ v : Value,
    Conforms false d.components v op.responseType → (ofDocumentation d).DecodesKnown v := by
  intro all
  have built : (Documentation.ofDocument {} listingDocument).result = .ok listing := by rfl
  have conforms : Conforms false listing.components (.list [.map [(.str "id", .int 1)]]) (.scalar "array") :=
    .scalar rfl (by simp)
  have quiet := (all {} _ _ built _ List.mem_cons_self _ conforms).quiet
  have reported : ((ofDocumentation listing).decode (.list [.map [(.str "id", .int 1)]])).notices =
      [notice "id"] := by rfl
  rw [reported] at quiet
  cases quiet

end Vocabulary

end ApiTypes
