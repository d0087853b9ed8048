/-
Payloads: the values that a raw schema admits, and those that a declaration holds.

A reading says which values each raw schema admits. It is sound when every judgement that it makes follows from the
keywords of the schema and from its own judgements about smaller values and about components. A value is valid when
some sound reading admits it, so that schemas that refer to each other need no special care. Only the keywords that a
build knows are read.

On the other side, `Inhabits` unfolds references through the components of the documentation.

Main statement: `emitted_types_sound`, every payload that is valid for a raw schema inhabits the declaration of the
component that is built from it. The proof is by induction on the payload, since the schemas may be recursive.
-/
import Mathlib.Data.List.Permutation
import ApiTypes.Proofs.Declaration
import ApiTypes.Proofs.Documentation

namespace ApiTypes

/-! ## Valid payloads -/

/-- is the value of the type that a schema names? Names without a meaning admit anything -/
def hasType (name : String) (v : Value) : Bool :=
  match name with
  | "string" => v.type = .str
  | "integer" => v.type = .int
  | "number" => v.type = .int ∨ v.type = .float
  | "boolean" => v.type = .bool
  | "array" => v.type = .list
  | "object" => v.type = .map
  | _ => true

/-- which values the raw schemas of a document admit -/
structure Reading where
  /-- a schema below a component -/
  schema : Value → Value → Prop
  /-- the schema of a component -/
  component : Value → Value → Prop

/-- the keywords of a schema, `$ref` apart, admit the value -/
structure Reading.Keywords (reading : Reading) (raw v : Value) : Prop where
  type : ∀ name, raw.field? "type" = some (.str name) → hasType name v = true
  properties : ∀ properties key sub w, raw.field? "properties" = some (.map properties) → (.str key, sub) ∈ properties →
    v.field? key = some w → reading.schema sub w
  items : ∀ sub items, raw.field? "items" = some sub → v = .list items → ∀ w ∈ items, reading.schema sub w
  required : ∀ names key, raw.field? "required" = some (.list names) → .str key ∈ names → v.isMap = true →
    ∃ w, v.field? key = some w
  oneOf : ∀ variants, raw.field? "oneOf" = some (.list variants) → ∃ variant ∈ variants, reading.schema variant v

/-- every judgement of the reading is justified. A reference stands alone, for the component that it names; `aliases`
says whether it also does at the top of a component -/
structure Reading.Sound (aliases : Bool) (settings : Settings) (schemas : Entries) (reading : Reading) : Prop where
  ref : ∀ raw v text, reading.schema raw v → raw.field? "$ref" = some (.str text) →
    ∃ target, schemas.find? (settings.stripRef text) = some target ∧ reading.component target v
  keywords : ∀ raw v, reading.schema raw v → raw.textField? "$ref" = none → reading.Keywords raw v
  aliased : ∀ raw v text, aliases = true → reading.component raw v → raw.field? "$ref" = some (.str text) →
    ∃ target, schemas.find? (settings.stripRef text) = some target ∧ reading.component target v
  object : ∀ raw v, reading.component raw v → (aliases = true → raw.textField? "$ref" = none) →
    v.isMap = true ∧ reading.Keywords raw v

/-- the payload is valid for the raw schema of a component -/
def ValidComponent (aliases : Bool) (settings : Settings) (schemas : Entries) (raw v : Value) : Prop :=
  ∃ reading : Reading, reading.Sound aliases settings schemas ∧ reading.component raw v

/-! ## Inhabited declarations -/

/-- is the value of this type of the language? An integer counts as a float -/
def isInstance (name : String) (v : Value) : Bool :=
  match name with
  | "str" => v.type = .str
  | "int" => v.type = .int
  | "float" => v.type = .int ∨ v.type = .float
  | "bool" => v.type = .bool
  | "list" => v.type = .list
  | "dict" => v.type = .map
  | _ => false

mutual

/-- the value is of the declared type. No field of a record need be present, and others may be -/
inductive Inhabits (components : List (String × Component)) : Value → Declaration → Prop
  | builtin {v name} : isInstance name v = true → Inhabits components v (.builtin name)
  | list {items item} : (∀ v ∈ items, Inhabits components v item) → Inhabits components (.list items) (.list item)
  | record {v fields} : v.isMap = true →
      (∀ f ∈ fields, ∀ w, v.field? f.1 = some w → Inhabits components w f.2) → Inhabits components v (.record fields)
  | reference {v name component} : components.lookup name = some component →
      InhabitsComponent components v (ComponentDeclaration.ofComponent name component).value →
      Inhabits components v (.reference name)
  | any {v reason} : Inhabits components v (.any reason)

/-- the value has every required field, and the declared fields that it has are of their types -/
inductive InhabitsComponent (components : List (String × Component)) : Value → ComponentDeclaration → Prop
  | fields {v declaration} : v.isMap = true → (∀ f ∈ declaration.required, ∃ w, v.field? f.name = some w) →
      (∀ f ∈ declaration.required ++ declaration.optional, ∀ w, v.field? f.name = some w →
        Inhabits components w f.type) →
      InhabitsComponent components v declaration

end

/-- a type of the language holds what the schema type that it stands for admits -/
theorem isInstance_of_hasType {name type : String} {v : Value} (h : Declaration.builtinFor? name = some type)
    (valid : hasType name v = true) : isInstance type v = true := by
  unfold Declaration.builtinFor? at h
  split at h <;> cases h <;> exact valid

/-! ## Items with a type -/

/-- the schemas inside a schema, through properties and items -/
inductive Beneath : Value → Value → Prop
  | refl {raw} : Beneath raw raw
  | property {raw properties key sub other} : raw.field? "properties" = some (.map properties) →
      (key, sub) ∈ properties → Beneath sub other → Beneath raw other
  | items {raw sub other} : raw.field? "items" = some sub → Beneath sub other → Beneath raw other

/-- every array inside the schema says what its items are: by a type or a reference -/
def ItemsTyped (raw : Value) : Prop :=
  ∀ array items, Beneath raw array → array.field? "type" = some (.str "array") → array.field? "items" = some items →
    items.hasField "type" = true ∨ items.hasField "$ref" = true

namespace ItemsTyped

variable {raw : Value}

theorem property {properties : Entries} {key sub : Value} (typed : ItemsTyped raw)
    (found : raw.field? "properties" = some (.map properties)) (mem : (key, sub) ∈ properties) : ItemsTyped sub :=
  fun array items beneath => typed array items (.property found mem beneath)

theorem items {sub : Value} (typed : ItemsTyped raw) (found : raw.field? "items" = some sub) : ItemsTyped sub :=
  fun array items beneath => typed array items (.items found beneath)

end ItemsTyped

/-! ## Soundness -/

section Soundness

variable {settings : Settings} {location : Location} {schemas : Entries} {components : List (String × Component)}
  {reading : Reading}

/-- every raw schema is built, and its arrays say what their items are -/
structure Covered (settings : Settings) (schemas : Entries) (components : List (String × Component)) : Prop where
  built : List.Forall₂ (fun e c => e.1 = .str c.1 ∧ (Component.ofRaw settings e.1 e.2).result = .ok c.2)
    schemas components
  typed : ∀ e ∈ schemas, ItemsTyped e.2

/-- what a reference names on the one side, it names on the other -/
theorem lookup_of_find? {r : Value × Value → String × Component → Prop} {name : String} {raw : Value}
    (h : List.Forall₂ (fun e c => e.1 = .str c.1 ∧ r e c) schemas components)
    (found : Entries.find? schemas name = some raw) :
    ∃ component, components.lookup name = some component ∧ (.str name, raw) ∈ schemas ∧
      r (.str name, raw) (name, component) := by
  induction h with
  | nil => cases found
  | @cons e c schemas components head tail ih =>
    obtain ⟨key, raw'⟩ := e
    obtain ⟨name', component⟩ := c
    obtain ⟨rfl, made⟩ := head
    simp only [Entries.find?, Value.isText, beq_iff_eq] at found
    by_cases same : name' = name
    · subst same
      rw [if_pos rfl] at found
      cases found
      exact ⟨component, by simp, List.mem_cons_self, made⟩
    · rw [if_neg same] at found
      obtain ⟨component', known, mem, made'⟩ := ih found
      refine ⟨component', ?_, List.mem_cons_of_mem _ mem, made'⟩
      rw [List.lookup_cons, beq_false_of_ne (Ne.symm same)]
      exact known

/-- what is shown of a payload, from the smaller payloads inside it: a schema that admits it has a normal form whose
declaration holds it, and so does a component -/
structure SoundAt (settings : Settings) (schemas : Entries) (components : List (String × Component)) (reading : Reading)
    (v : Value) : Prop where
  schema : ∀ raw node location, Schema.normalize settings location raw = .ok node → ItemsTyped raw →
    reading.schema raw v → Inhabits components v (Declaration.ofNode node).value
  component : ∀ name raw component, (.str name, raw) ∈ schemas →
    (Component.ofRaw settings (.str name) raw).result = .ok component → reading.component raw v →
    InhabitsComponent components v (ComponentDeclaration.ofComponent name component).value

theorem inhabits_of_ref {raw v : Value} {text : String} (sound : reading.Sound false settings schemas)
    (covered : Covered settings schemas components) (here : SoundAt settings schemas components reading v)
    (ref : raw.field? "$ref" = some (.str text)) (valid : reading.schema raw v) :
    Inhabits components v (Declaration.ofNode (.component (settings.stripRef text))).value := by
  obtain ⟨target, named, valid⟩ := sound.ref raw v text valid ref
  obtain ⟨component, known, mem, made⟩ := lookup_of_find? covered.built named
  rw [Declaration.ofNode_component]
  exact .reference known (here.component _ target component mem made valid)

theorem inhabits_of_scalar {v : Value} {name : String} (valid : hasType name v = true) :
    Inhabits components v (Declaration.ofNode (.scalar name)).value := by
  rw [Declaration.ofNode_scalar]
  rcases Declaration.ofScalar_cases name with ⟨type, found, eq⟩ | ⟨-, reason, eq⟩
  · rw [eq]
    exact .builtin (isInstance_of_hasType found valid)
  · rw [eq]
    exact .any

/-- the payload of a normal form; the fields and items of the payload are smaller than it -/
theorem inhabits_of_normalize {raw v : Value} {node : Node} (sound : reading.Sound false settings schemas)
    (covered : Covered settings schemas components)
    (below : ∀ w, sizeOf w < sizeOf v → SoundAt settings schemas components reading w)
    (normal : Schema.normalize settings location raw = .ok node) (typed : ItemsTyped raw)
    (valid : reading.schema raw v) : Inhabits components v (Declaration.ofNode node).value := by
  rcases Schema.normalize_cases normal with ⟨object, fields, made, rfl⟩ | ⟨array, element, made, rfl⟩ | ⟨scalar, rfl⟩
  · obtain ⟨ref, type, properties⟩ := Schema.keywords_of_object object
    have keywords := sound.keywords raw v valid (by simp [Value.textField?, ref])
    have map : v.type = .map := by simpa [hasType] using keywords.type _ type
    rw [Declaration.ofNode_object]
    refine .record (by cases v <;> simp_all [Value.type, Value.isMap, Value.entries?]) ?_
    intro f hf w found
    obtain ⟨⟨name, field⟩, mem, rfl⟩ := List.mem_map.1 hf
    obtain ⟨⟨key, sub⟩, inside, rfl, read⟩ := exists_of_mem_results made mem
    have admitted := keywords.properties _ name sub w properties inside found
    have smaller := below w (Value.sizeOf_field?_lt found)
    rcases Schema.propertyNode_cases read with ⟨text, ref, rfl⟩ | ⟨-, normal⟩
    · exact inhabits_of_ref sound covered smaller ref admitted
    · exact smaller.schema sub field _ normal (typed.property properties inside) admitted
  · obtain ⟨ref, type, items⟩ := Schema.keywords_of_array array
    have keywords := sound.keywords raw v valid (by simp [Value.textField?, ref])
    have list : v.type = .list := by simpa [hasType] using keywords.type _ type
    obtain ⟨elements, rfl⟩ : ∃ elements, v = .list elements := by cases v <;> simp_all [Value.type]
    rw [Declaration.ofNode_array]
    refine .list fun w hw => ?_
    have admitted := keywords.items _ elements items rfl w hw
    have smaller := below w (by have := List.sizeOf_lt_of_mem hw; simp; omega)
    rcases Schema.normalizeItems_cases made with ⟨text, ref, rfl⟩ | ⟨noRef, noType, -⟩ | ⟨-, normal⟩
    · exact inhabits_of_ref sound covered smaller ref admitted
    · have known := typed raw _ .refl type items
      simp [Value.hasField, noRef, noType] at known
    · exact smaller.schema _ element _ normal (typed.items items) admitted
  · obtain ⟨ref, type⟩ := Schema.keywords_of_scalar scalar
    have keywords := sound.keywords raw v valid (by simp [Value.textField?, ref])
    exact inhabits_of_scalar (keywords.type _ type)

theorem inhabits_of_propertyType {names : List Value} {e : Value × Value} {v : Value} {node : Node}
    (sound : reading.Sound false settings schemas) (covered : Covered settings schemas components)
    (here : SoundAt settings schemas components reading v)
    (read : Component.propertyType settings location names e = .ok node) (typed : ItemsTyped e.2)
    (valid : reading.schema e.2 v) : Inhabits components v (Declaration.ofNode node).value := by
  rcases Component.propertyType_cases read with ⟨items, variants, -, -, rfl⟩ | ⟨-, -, normal⟩ | ⟨-, -, text, ref, rfl⟩ |
    ⟨-, -, ref, type, found, rfl⟩
  · rw [Declaration.ofNode_oneOf]
    exact .any
  · exact here.schema e.2 node _ normal typed valid
  · exact inhabits_of_ref sound covered here ref valid
  · exact inhabits_of_scalar ((sound.keywords e.2 v valid ref).type type found)

/-- the names that a component requires are those of a list under `required` -/
theorem mem_required_of_isRequired {raw : Value} {names : List Value} {key : String}
    (read : Component.requiredNames raw location = .ok names) (h : Component.isRequired names (.str key) = true) :
    ∃ given, raw.field? "required" = some (.list given) ∧ .str key ∈ given := by
  obtain ⟨name, mem, same⟩ := List.any_eq_true.1 h
  obtain rfl : name = .str key := by cases name <;> simp_all [Value.same, Value.sameScalar]
  unfold Component.requiredNames at read
  split at read
  · cases read
    cases mem
  · rename_i given found
    split_ifs at read
    · cases read
      cases mem
    · split at read
      · split at read
        · cases read
        · cases read
          exact ⟨_, found, mem⟩
      · cases read

theorem inhabits_of_component {raw v : Value} {name : String} {component : Component}
    (sound : reading.Sound false settings schemas) (covered : Covered settings schemas components)
    (below : ∀ w, sizeOf w < sizeOf v → SoundAt settings schemas components reading w)
    (mem : (.str name, raw) ∈ schemas) (made : (Component.ofRaw settings (.str name) raw).result = .ok component)
    (valid : reading.component raw v) :
    InhabitsComponent components v (ComponentDeclaration.ofComponent name component).value := by
  obtain ⟨map, keywords⟩ := sound.object raw v valid (by simp)
  rw [ComponentDeclaration.ofComponent_value]
  rcases Component.ofRaw_eq_ok made with ⟨-, -, rfl⟩ | ⟨properties, names, built, parts, rfl⟩
  · exact .fields map (by simp) (by simp)
  · refine .fields map ?_ ?_
    · intro f hf
      obtain ⟨p, hp, rfl⟩ := List.mem_map.1 hf
      obtain ⟨hp, needed⟩ := List.mem_filter.1 hp
      obtain ⟨e, -, part⟩ := exists_of_mem_results parts.built hp
      rw [part.required, part.name] at needed
      obtain ⟨given, found, listed⟩ := mem_required_of_isRequired parts.required needed
      exact keywords.required given p.name found listed map
    · intro f hf w found
      rw [← List.map_append, ← Component.properties] at hf
      obtain ⟨p, hp, rfl⟩ := List.mem_map.1 hf
      rw [Component.mem_properties_ofProperties] at hp
      obtain ⟨⟨key, sub⟩, inside, part⟩ := exists_of_mem_results parts.built hp
      obtain rfl : key = .str p.name := part.name
      have admitted := keywords.properties _ _ _ w parts.found inside found
      have typed := (covered.typed _ mem).property parts.found inside
      exact inhabits_of_propertyType sound covered (below w (Value.sizeOf_field?_lt found)) part.type typed admitted

/-- every payload is treated soundly -/
theorem soundAt (sound : reading.Sound false settings schemas) (covered : Covered settings schemas components)
    (v : Value) : SoundAt settings schemas components reading v := by
  induction size : sizeOf v using Nat.strongRecOn generalizing v with
  | _ n ih =>
    have below : ∀ w, sizeOf w < sizeOf v → SoundAt settings schemas components reading w :=
      fun w smaller => ih (sizeOf w) (size ▸ smaller) w rfl
    constructor
    · intro raw node location normal typed valid
      exact inhabits_of_normalize sound covered below normal typed valid
    · intro name raw component mem made valid
      exact inhabits_of_component sound covered below mem made valid

end Soundness

/-! ## Simple schemas -/

/-- a schema without properties and items has no arrays inside -/
theorem itemsTyped_of_plain {raw : Value} (properties : raw.field? "properties" = none)
    (items : raw.field? "items" = none) : ItemsTyped raw := by
  intro array inner beneath type found
  cases beneath with
  | refl =>
    rw [items] at found
    cases found
  | property given =>
    rw [properties] at given
    cases given
  | items given =>
    rw [items] at given
    cases given

theorem itemsTyped_of_properties {raw : Value} {properties : Entries}
    (found : raw.field? "properties" = some (.map properties)) (items : raw.field? "items" = none)
    (typed : ∀ e ∈ properties, ItemsTyped e.2) : ItemsTyped raw := by
  intro array inner beneath type given
  cases beneath with
  | refl =>
    rw [items] at given
    cases given
  | property same mem beneath =>
    rw [found] at same
    cases same
    exact typed _ mem array inner beneath type given
  | items same =>
    rw [items] at same
    cases same

theorem itemsTyped_of_items {raw items : Value} (properties : raw.field? "properties" = none)
    (found : raw.field? "items" = some items) (known : items.hasField "type" = true ∨ items.hasField "$ref" = true)
    (typed : ItemsTyped items) : ItemsTyped raw := by
  intro array inner beneath type given
  cases beneath with
  | refl =>
    rw [found] at given
    cases given
    exact known
  | property same =>
    rw [properties] at same
    cases same
  | items same beneath =>
    rw [found] at same
    cases same
    exact typed array inner beneath type given

/-- a schema that only names a type admits the values of this type -/
theorem keywords_of_type {reading : Reading} {name : String} {v : Value} (has : hasType name v = true) :
    reading.Keywords (.map [(.str "type", .str name)]) v := by
  constructor
  · intro name' found
    cases found
    exact has
  · intro properties key sub w found
    cases found
  · intro sub items found
    cases found
  · intro names key found
    cases found
  · intro variants found
    cases found

/-- a schema that only names its type -/
def ofType (name : String) : Value := .map [(.str "type", .str name)]

/-- an object schema with one property -/
def objectWith (name : String) (sub : Value) : Value :=
  .map [(.str "type", .str "object"), (.str "properties", .map [(.str name, sub)])]

/-- a document with these component schemas -/
def withSchemas (schemas : Entries) : Value :=
  .map [(.str "openapi", .str "3.0.0"), (.str "components", .map [(.str "schemas", .map schemas)])]

/-! ## Documents -/

/-- every payload that is valid for a raw schema inhabits the declaration of its component -/
def TypesSound (aliases : Bool) (settings : Settings) (document : Value) (d : Documentation) : Prop :=
  List.Forall₂ (fun e c => e.1 = .str c.1 ∧ ∀ v, ValidComponent aliases settings (Registry.rawSchemas document) e.2 v →
      InhabitsComponent d.components v (ComponentDeclaration.ofComponent c.1 c.2).value)
    (Registry.rawSchemas document) d.components

/-- **The emitted types are sound.** Where the arrays of a document say what their items are, every payload that is
valid for a raw schema inhabits the declaration of the component that is built from it. A reference at the top of a
component is not read. -/
theorem emitted_types_sound (settings : Settings) {document : Value} {d : Documentation}
    (result : (Documentation.ofDocument settings document).result = .ok d)
    (typed : ∀ e ∈ Registry.rawSchemas document, ItemsTyped e.2) : TypesSound false settings document d := by
  have built := (Documentation.built_of_result result).components
  have covered : Covered settings (Registry.rawSchemas document) d.components := ⟨built, typed⟩
  have inside := (List.forall₂_and_left _ _).2 ⟨fun e (he : e ∈ Registry.rawSchemas document) => he, built⟩
  refine inside.imp fun e c ⟨mem, key, made⟩ => ⟨key, fun v => ?_⟩
  rintro ⟨reading, sound, valid⟩
  obtain ⟨_, raw⟩ := e
  obtain rfl := key
  exact (soundAt sound covered v).component c.1 raw c.2 mem made valid

/-- a reference alone -/
def referenceTo (text : String) : Value := .map [(.str "$ref", .str text)]

def arrayOf (items : Value) : Value := .map [(.str "type", .str "array"), (.str "items", items)]

/-- an array schema admits the lists whose items are valid -/
theorem keywords_of_items {reading : Reading} {sub : Value} {items : List Value}
    (valid : ∀ w ∈ items, reading.schema sub w) : reading.Keywords (arrayOf sub) (.list items) := by
  constructor
  · intro name found
    cases found
    rfl
  · intro properties key sub w found
    cases found
  · intro sub' items' found same
    cases found
    cases same
    exact valid
  · intro names key found
    cases found
  · intro variants found
    cases found

/-- a tree with a number and further trees below it, as a component that refers to itself -/
def treeSchema : Value :=
  .map [(.str "type", .str "object"), (.str "required", .list [.str "value"]),
    (.str "properties", .map [(.str "value", ofType "integer"),
      (.str "children", arrayOf (referenceTo "#/components/schemas/Tree"))])]

/-- a tree as a payload -/
def tree (value : Int) (children : List Value) : Value :=
  .map [(.str "value", .int value), (.str "children", .list children)]

/-- the tree of two numbers, one below the other -/
def treeReading : Reading where
  schema raw v := (raw = ofType "integer" ∧ v.type = .int) ∨
    (raw = arrayOf (referenceTo "#/components/schemas/Tree") ∧ (v = .list [tree 2 []] ∨ v = .list [])) ∨
    (raw = referenceTo "#/components/schemas/Tree" ∧ v = tree 2 [])
  component raw v := raw = treeSchema ∧ (v = tree 1 [tree 2 []] ∨ v = tree 2 [])

theorem sound_treeReading : treeReading.Sound false {} [(.str "Tree", treeSchema)] := by
  have strip : ({} : Settings).stripRef "#/components/schemas/Tree" = "Tree" := by decide
  constructor
  · rintro raw v text (⟨rfl, -⟩ | ⟨rfl, -⟩ | ⟨rfl, rfl⟩) found
    · cases found
    · cases found
    · cases found
      exact ⟨_, by rw [strip]; rfl, rfl, Or.inr rfl⟩
  · rintro raw v (⟨rfl, int⟩ | ⟨rfl, list⟩ | ⟨rfl, -⟩) alone
    · exact keywords_of_type (by simpa [hasType] using int)
    · rcases list with rfl | rfl
      · exact keywords_of_items fun w mem => Or.inr (Or.inr ⟨rfl, List.mem_singleton.1 mem⟩)
      · exact keywords_of_items fun w mem => absurd mem List.not_mem_nil
    · cases alone
  · rintro raw v text aliases
    cases aliases
  · rintro raw v ⟨rfl, payload⟩ -
    refine ⟨by rcases payload with rfl | rfl <;> rfl, ?_, ?_, ?_, ?_, ?_⟩
    · intro name found
      cases found
      rcases payload with rfl | rfl <;> rfl
    · intro properties key sub w found mem field
      cases found
      rcases List.mem_pair.1 mem with same | same
      · cases same
        rcases payload with rfl | rfl <;> cases field <;> exact Or.inl ⟨rfl, rfl⟩
      · cases same
        rcases payload with rfl | rfl <;> cases field
        · exact Or.inr (Or.inl ⟨rfl, Or.inl rfl⟩)
        · exact Or.inr (Or.inl ⟨rfl, Or.inr rfl⟩)
    · intro sub items found
      cases found
    · intro names key found mem map
      cases found
      obtain same := List.mem_singleton.1 mem
      cases same
      rcases payload with rfl | rfl
      · exact ⟨.int 1, rfl⟩
      · exact ⟨.int 2, rfl⟩
    · intro variants found
      cases found

theorem itemsTyped_treeSchema : ItemsTyped treeSchema := by
  refine itemsTyped_of_properties rfl rfl fun e mem => ?_
  rcases List.mem_pair.1 mem with rfl | rfl
  · exact itemsTyped_of_plain rfl rfl
  · refine itemsTyped_of_items rfl rfl (Or.inr rfl) (itemsTyped_of_plain rfl rfl)

/-- a tree inhabits the declaration of its component -/
theorem tree_inhabits : ∃ d component,
    (Documentation.ofDocument {} (withSchemas [(.str "Tree", treeSchema)])).result = .ok d ∧
    (∀ e ∈ Registry.rawSchemas (withSchemas [(.str "Tree", treeSchema)]), ItemsTyped e.2) ∧
    d.components.lookup "Tree" = some component ∧
    InhabitsComponent d.components (tree 1 [tree 2 []]) (ComponentDeclaration.ofComponent "Tree" component).value := by
  have built : (Documentation.ofDocument {} (withSchemas [(.str "Tree", treeSchema)])).result = .ok
      ⟨[("Tree", ⟨[⟨"value", .scalar "integer", "", .str "", true⟩],
        [⟨"children", .array (.component "Tree"), "", .str "", false⟩]⟩)], []⟩ := by cbv
  have typed : ∀ e ∈ Registry.rawSchemas (withSchemas [(.str "Tree", treeSchema)]), ItemsTyped e.2 := by
    intro e mem
    obtain rfl := List.mem_singleton.1 mem
    exact itemsTyped_treeSchema
  refine ⟨_, _, built, typed, rfl, ?_⟩
  have sound := emitted_types_sound {} built typed
  cases sound with
  | cons first rest => exact first.2 _ ⟨treeReading, sound_treeReading, rfl, Or.inl rfl⟩

/-- a component schema that stands for another, and has a property of its own of another type than there -/
def aliasSchema : Value :=
  .map [(.str "$ref", .str "#/components/schemas/B"), (.str "properties", .map [(.str "x", ofType "string")])]

def aliasSchemas : Entries := [(.str "A", aliasSchema), (.str "B", objectWith "x" (ofType "integer"))]

/-- the payload `x: 1` of both components -/
def aliasReading : Reading where
  schema raw v := raw = ofType "integer" ∧ v = .int 1
  component raw v := (raw = aliasSchema ∨ raw = objectWith "x" (ofType "integer")) ∧ v = .map [(.str "x", .int 1)]

theorem sound_aliasReading : aliasReading.Sound true {} aliasSchemas := by
  have strip : ({} : Settings).stripRef "#/components/schemas/B" = "B" := by decide
  constructor
  · rintro raw v text ⟨rfl, rfl⟩ found
    cases found
  · rintro raw v ⟨rfl, rfl⟩ -
    exact keywords_of_type rfl
  · rintro raw v text - ⟨rfl | rfl, rfl⟩ found
    · cases found
      exact ⟨_, by rw [strip]; rfl, Or.inr rfl, rfl⟩
    · cases found
  · rintro raw v ⟨rfl | rfl, rfl⟩ alone
    · cases alone rfl
    · refine ⟨rfl, ?_, ?_, ?_, ?_, ?_⟩
      · intro name found
        cases found
        rfl
      · intro properties key sub w found mem field
        cases found
        cases mem with
        | head =>
          cases field
          exact ⟨rfl, rfl⟩
        | tail _ mem => cases mem
      · intro sub items found
        cases found
      · intro names key found
        cases found
      · intro variants found
        cases found

/-- with references that stand alone at the top of a component as well, the emitted types are not sound -/
theorem aliased_types_unsound : ¬ ∀ (settings : Settings) (document : Value) (d : Documentation),
    (Documentation.ofDocument settings document).result = .ok d →
    (∀ e ∈ Registry.rawSchemas document, ItemsTyped e.2) → TypesSound true settings document d := by
  intro all
  have built : (Documentation.ofDocument {} (withSchemas aliasSchemas)).result = .ok
      ⟨[("A", ⟨[], [⟨"x", .scalar "string", "", .str "", false⟩]⟩),
        ("B", ⟨[], [⟨"x", .scalar "integer", "", .str "", false⟩]⟩)], []⟩ := by cbv
  have typed : ∀ e ∈ Registry.rawSchemas (withSchemas aliasSchemas), ItemsTyped e.2 := by
    intro e mem
    rcases List.mem_pair.1 mem with rfl | rfl
    · refine itemsTyped_of_properties rfl rfl fun e mem => ?_
      obtain rfl := List.mem_singleton.1 mem
      exact itemsTyped_of_plain rfl rfl
    · refine itemsTyped_of_properties rfl rfl fun e mem => ?_
      obtain rfl := List.mem_singleton.1 mem
      exact itemsTyped_of_plain rfl rfl
  have sound := all {} _ _ built typed
  cases sound with
  | cons first rest =>
    obtain ⟨-, inhabits⟩ := first
    have inhabits := inhabits _ ⟨aliasReading, sound_aliasReading, Or.inl rfl, rfl⟩
    cases inhabits with
    | fields map present fields =>
      have declared : (ComponentDeclaration.ofComponent "A"
          ⟨[], [⟨"x", .scalar "string", "", .str "", false⟩]⟩).value = ⟨"A", [], [⟨"x", .builtin "str", ""⟩]⟩ := by cbv
      rw [declared] at fields
      have held := fields ⟨"x", .builtin "str", ""⟩ List.mem_cons_self (.int 1) rfl
      cases held with
      | builtin text => cases text

end ApiTypes
