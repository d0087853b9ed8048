/-
What a declaration is made of.

Notices apart, the declaration of a node is a function of the node alone: fields are declared one by one, and the fields
of a component are those of its properties, group by group.

Main statements: `ofNode_object`, `ofComponent_value`; `ofScalar_cases`, a scalar type is a type of the language or
anything.
-/
import ApiTypes.Declaration

namespace ApiTypes

namespace Declaration

theorem ofFields_value (fields : List (String × Node)) :
    (ofFields fields).value = fields.map fun f => (f.1, (ofNode f.2).value) := by
  induction fields with
  | nil => simp [ofFields]
  | cons f rest ih =>
    obtain ⟨name, node⟩ := f
    simp [ofFields, ih]

theorem ofNode_object (fields : List (String × Node)) :
    (ofNode (.object fields)).value = .record (fields.map fun f => (f.1, (ofNode f.2).value)) := by
  simp [ofNode, ofFields_value]

theorem ofNode_component (name : String) : (ofNode (.component name)).value = .reference name := by
  simp [ofNode]

theorem ofNode_oneOf (variants : List Variant) : (ofNode (.oneOf variants)).value = .any "oneOf" := by
  simp [ofNode]

theorem ofNode_scalar (name : String) : (ofNode (.scalar name)).value = (ofScalar name).value := by
  simp [ofNode]

theorem ofScalar_cases (name : String) :
    (∃ type, builtinFor? name = some type ∧ (ofScalar name).value = .builtin type) ∨
    (builtinFor? name = none ∧ ∃ reason, (ofScalar name).value = .any reason) := by
  unfold ofScalar
  split
  · rename_i type found
    exact Or.inl ⟨type, found, rfl⟩
  · rename_i absent
    exact Or.inr ⟨absent, _, rfl⟩

/-! ## Records -/

mutual

/-- the records inside a declaration, each behind those inside it -/
def records : Declaration → List (List (String × Declaration))
  | builtin _ => []
  | list item => records item
  | record fields => fieldRecords fields ++ [fields]
  | reference _ => []
  | any _ => []

def fieldRecords : List (String × Declaration) → List (List (String × Declaration))
  | [] => []
  | (_, declaration) :: rest => records declaration ++ fieldRecords rest

end

mutual

/-- the declaration without the reasons for anything, a list of unknown items being a list of anything -/
def canonical : Declaration → Declaration
  | builtin name => if name = "list" then .list (.any "") else .builtin name
  | list item => .list (canonical item)
  | record fields => .record (canonicalFields fields)
  | reference component => .reference component
  | any _ => .any ""

def canonicalFields : List (String × Declaration) → List (String × Declaration)
  | [] => []
  | (name, declaration) :: rest => (name, canonical declaration) :: canonicalFields rest

end

theorem fieldRecords_eq (fields : List (String × Declaration)) :
    fieldRecords fields = fields.flatMap fun f => records f.2 := by
  induction fields with
  | nil => simp [fieldRecords]
  | cons f rest ih =>
    obtain ⟨name, declaration⟩ := f
    simp [fieldRecords, ih]

theorem canonicalFields_eq (fields : List (String × Declaration)) :
    canonicalFields fields = fields.map fun f => (f.1, canonical f.2) := by
  induction fields with
  | nil => simp [canonicalFields]
  | cons f rest ih =>
    obtain ⟨name, declaration⟩ := f
    simp [canonicalFields, ih]

/-- the types of the language that a declaration may consist of -/
def builtins : List String := ["str", "int", "float", "bool", "list", "dict"]

/-- a declaration that is made of a node whose references name these components -/
inductive Emitted (components : List String) : Declaration → Prop
  | builtin {name} : name ∈ builtins → Emitted components (.builtin name)
  | list {item} : Emitted components item → Emitted components (.list item)
  | record {fields} : (∀ f ∈ fields, Emitted components f.2) → Emitted components (.record fields)
  | reference {name} : name ∈ components → Emitted components (.reference name)
  | any {reason} : Emitted components (.any reason)

mutual

theorem emitted_ofNode {components : List String} : (node : Node) → (∀ c ∈ node.references, c ∈ components) →
    Emitted components (ofNode node).value
  | .scalar name, _ => by
    rw [ofNode_scalar]
    rcases ofScalar_cases name with ⟨type, found, eq⟩ | ⟨-, reason, eq⟩
    · rw [eq]
      refine .builtin ?_
      unfold builtinFor? at found
      split at found <;> cases found <;> decide
    · rw [eq]
      exact .any
  | .array element, h => by
    rw [ofNode_array]
    exact .list (emitted_ofNode element (by simpa [Node.references] using h))
  | .object fields, h => by
    rw [ofNode_object]
    refine .record fun f hf => ?_
    obtain ⟨g, hg, rfl⟩ := List.mem_map.1 hf
    exact emitted_ofFields fields (by simpa [Node.references] using h) g hg
  | .component name, h => by
    rw [ofNode_component]
    exact .reference (h name (by simp [Node.references]))
  | .oneOf variants, _ => by
    rw [ofNode_oneOf]
    exact .any

theorem emitted_ofFields {components : List String} : (fields : List (String × Node)) →
    (∀ c ∈ Node.fieldReferences fields, c ∈ components) → ∀ f ∈ fields, Emitted components (ofNode f.2).value
  | [], _ => by simp
  | (name, node) :: rest, h => by
    have here : ∀ c ∈ node.references, c ∈ components := fun c hc => h c (by simp [Node.fieldReferences, hc])
    have there : ∀ c ∈ Node.fieldReferences rest, c ∈ components := fun c hc => h c (by simp [Node.fieldReferences, hc])
    intro f hf
    rcases List.mem_cons.1 hf with rfl | hf
    · exact emitted_ofNode node here
    · exact emitted_ofFields rest there f hf

end

end Declaration

/-- the declared field of a property -/
def Field.declared (p : Property) : Field := ⟨p.name, (Declaration.ofNode p.type).value, p.description⟩

theorem Field.ofProperties_value (properties : List Property) :
    (ofProperties properties).value = properties.map declared := by
  induction properties with
  | nil => rfl
  | cons p rest ih => simp [ofProperties, ofProperty, ih, declared]

/-- a component is declared property by property -/
theorem ComponentDeclaration.ofComponent_value (name : String) (schema : Component) :
    (ofComponent name schema).value =
      ⟨name, schema.required.map Field.declared, schema.optional.map Field.declared⟩ := by
  simp [ofComponent, Field.ofProperties_value]

end ApiTypes
