/-
Printed modules are legible.

A block shows the fields that it is drawn for, and a stub the nodes of its operation. So a name in them is the class of
a component, perhaps with a suffix behind it, or an identifier, and a type has as many levels of list as its node has
arrays directly inside each other. Variants of a choice are printed as anything, so that nothing is asked of them.

Main statements: `legible_of_mem_table`, the blocks of a printable documentation are legible; `legible_ofOperation`, so
are its stubs.
-/
import ApiTypes.Proofs.Denotation
import ApiTypes.Proofs.PrintedStub

namespace ApiTypes

/-! ## Arrays inside each other -/

namespace Node

/-- the arrays around a node that is no array -/
def levels : Node → Nat
  | array element => levels element + 1
  | _ => 0

mutual

/-- the most arrays directly inside each other that stand in a node, variants apart -/
def arrayDepth : Node → Nat
  | scalar _ => 0
  | array element => max (levels element + 1) (arrayDepth element)
  | object fields => fieldsDepth fields
  | component _ => 0
  | oneOf _ => 0

def fieldsDepth : List (String × Node) → Nat
  | [] => 0
  | (_, node) :: rest => max (arrayDepth node) (fieldsDepth rest)

end

end Node

namespace Declaration

/-- the levels of list around a declaration that is no list -/
def levels : Declaration → Nat
  | list item => levels item + 1
  | _ => 0

/-- lists stand directly inside each other up to the limit, wherever they stand -/
inductive Shallow (limit : Nat) : Declaration → Prop
  | builtin {name} : Shallow limit (.builtin name)
  | list {item} : item.levels < limit → Shallow limit item → Shallow limit (.list item)
  | record {fields} : (∀ f ∈ fields, Shallow limit f.2) → Shallow limit (.record fields)
  | reference {name} : Shallow limit (.reference name)
  | any {reason} : Shallow limit (.any reason)

variable {limit : Nat} {names : List String}

theorem Shallow.levels_le {d : Declaration} (h : Shallow limit d) : d.levels ≤ limit := by
  cases h with
  | list below _ => exact below
  | _ => exact Nat.zero_le limit

theorem levels_ofNode (node : Node) : (ofNode node).value.levels = node.levels := by
  induction node using Node.levels.induct with
  | case1 element ih => rw [ofNode_array, levels, ih, Node.levels]
  | case2 node other =>
    cases node with
    | array element => exact absurd rfl (other element)
    | scalar name =>
      rw [ofNode_scalar]
      rcases ofScalar_cases name with ⟨type, -, eq⟩ | ⟨-, reason, eq⟩ <;> rw [eq] <;> rfl
    | object fields =>
      rw [ofNode_object]
      rfl
    | component name =>
      rw [ofNode_component]
      rfl
    | oneOf variants =>
      rw [ofNode_oneOf]
      rfl

mutual

theorem shallow_ofNode : (node : Node) → node.arrayDepth ≤ limit → Shallow limit (ofNode node).value
  | .scalar name, _ => by
    rw [ofNode_scalar]
    rcases ofScalar_cases name with ⟨type, -, eq⟩ | ⟨-, reason, eq⟩ <;> rw [eq]
    · exact .builtin
    · exact .any
  | .array element, h => by
    rw [Node.arrayDepth] at h
    rw [ofNode_array]
    refine .list ?_ (shallow_ofNode element (by omega))
    rw [levels_ofNode]
    omega
  | .object fields, h => by
    rw [Node.arrayDepth] at h
    rw [ofNode_object]
    refine .record fun f hf => ?_
    obtain ⟨g, hg, rfl⟩ := List.mem_map.1 hf
    exact shallow_ofFields fields h g hg
  | .component name, _ => by
    rw [ofNode_component]
    exact .reference
  | .oneOf variants, _ => by
    rw [ofNode_oneOf]
    exact .any

theorem shallow_ofFields : (fields : List (String × Node)) → Node.fieldsDepth fields ≤ limit →
    ∀ f ∈ fields, Shallow limit (ofNode f.2).value
  | [], _ => by simp
  | (name, node) :: rest, h => by
    rw [Node.fieldsDepth] at h
    intro f hf
    rcases List.mem_cons.1 hf with rfl | hf
    · exact shallow_ofNode node (by omega)
    · exact shallow_ofFields rest (by omega) f hf

end

/-- what stands in it by itself or through lists is among what it refers to -/
theorem Emitted.listed {d : Declaration} (h : Emitted names d) : ∀ c ∈ d.listed, c ∈ names := by
  induction h with
  | list _ ih => exact ih
  | reference known => exact List.forall_mem_singleton.2 known
  | _ => simp [Declaration.listed]

/-! ## Declarations that can be printed -/

/-- the declaration refers to these components, and its lists stay within the limit -/
structure Fine (names : List String) (limit : Nat) (d : Declaration) : Prop where
  emitted : Emitted names d
  shallow : Shallow limit d

theorem Fine.item {item : Declaration} (h : Fine names limit (.list item)) : Fine names limit item := by
  obtain ⟨emitted, shallow⟩ := h
  cases emitted with
  | list emitted =>
    cases shallow with
    | list _ shallow => exact ⟨emitted, shallow⟩

theorem Fine.field {fields : List (String × Declaration)} (h : Fine names limit (.record fields)) :
    ∀ f ∈ fields, Fine names limit f.2 := by
  obtain ⟨emitted, shallow⟩ := h
  cases emitted with
  | record emitted =>
    cases shallow with
    | record shallow => exact fun f hf => ⟨emitted f hf, shallow f hf⟩

mutual

/-- the fields of the records inside it are fine as well -/
theorem Fine.record : (d : Declaration) → Fine names limit d → ∀ fields ∈ d.records, ∀ f ∈ fields, Fine names limit f.2
  | .builtin _, _ => by simp [records]
  | .list item, h => by
    rw [records]
    exact Fine.record item h.item
  | .record fields, h => by
    intro inner mem
    rw [records, List.mem_append, List.mem_singleton] at mem
    rcases mem with mem | rfl
    · exact Fine.fieldRecord fields h.field inner mem
    · exact h.field
  | .reference _, _ => by simp [records]
  | .any _, _ => by simp [records]

theorem Fine.fieldRecord : (fields : List (String × Declaration)) → (∀ f ∈ fields, Fine names limit f.2) →
    ∀ inner ∈ fieldRecords fields, ∀ f ∈ inner, Fine names limit f.2
  | [], _ => by simp [fieldRecords]
  | (name, d) :: rest, h => by
    intro inner mem
    rw [fieldRecords, List.mem_append] at mem
    rcases mem with mem | mem
    · exact Fine.record d (h (name, d) List.mem_cons_self) inner mem
    · exact Fine.fieldRecord rest (fun f hf => h f (List.mem_cons_of_mem _ hf)) inner mem

end

theorem Fine.ofNode {node : Node} (closed : ∀ c ∈ node.references, c ∈ names) (depth : node.arrayDepth ≤ limit) :
    Fine names limit (ofNode node).value :=
  ⟨emitted_ofNode node closed, shallow_ofNode node depth⟩

end Declaration

/-! ## Documentations that can be printed -/

/-- the nodes of a documentation: the types of properties, in components and in request bodies, and of responses -/
def Operation.nodes (op : Operation) : List Node :=
  (op.bodySchema?.elim [] fun schema => schema.properties.map Property.type) ++ [op.responseType]

def Documentation.nodes (d : Documentation) : List Node :=
  (d.components.flatMap fun c => c.2.properties.map Property.type) ++ d.operations.flatMap Operation.nodes

open ApiTypes.Module in
/-- what a documentation has to keep to so that valid modules are printed for it -/
structure Documentation.Printable (d : Documentation) : Prop where
  classes : ∀ c ∈ d.components, isPlainField (className c.1) = true
  closed : ∀ node ∈ d.nodes, ∀ c ∈ node.references, c ∈ d.components.map Prod.fst
  descriptions : ∀ c ∈ d.components, ∀ p ∈ c.2.properties, '\x00' ∉ p.description.toList
  operations : ∀ op ∈ d.operations, '\x00' ∉ op.summary.toList ∧ '\x00' ∉ op.endpoint.toList
  depths : ∀ node ∈ d.nodes, node.arrayDepth ≤ 100

theorem Documentation.Printable.fine {d : Documentation} (h : d.Printable) {node : Node} (mem : node ∈ d.nodes) :
    (Declaration.ofNode node).value.Fine (d.components.map Prod.fst) 100 :=
  .ofNode (h.closed node mem) (h.depths node mem)

namespace Module

open ApiTypes.Text ApiTypes.Source Declaration

/-! ## Blocks -/

/-- the fields that a block is drawn for -/
def Printed.fields : Printed → List Field
  | .component c => c.required ++ c.optional
  | .record fields => recordFields fields

/-- a field whose type and description can be printed -/
structure FineField (names : List String) (limit : Nat) (f : Field) : Prop where
  type : f.type.Fine names limit
  description : '\x00' ∉ f.description.toList

section

variable {d : Documentation} {names : List String} {table : List Entry}

theorem classes_plain (h : d.Printable) : ∀ c ∈ d.components.map Prod.fst, isPlainField (className c) = true := by
  intro c hc
  obtain ⟨e, he, rfl⟩ := List.mem_map.1 hc
  exact h.classes e he

/-- what is printed for components, where their properties can be printed -/
theorem fine_of_mem_printedNodes {components : List (String × Component)} {limit : Nat}
    (h : ∀ c ∈ components, ∀ p ∈ c.2.properties, FineField names limit (Field.declared p)) {node : Printed}
    (mem : node ∈ printedNodes components) : ∀ f ∈ node.fields, FineField names limit f := by
  obtain ⟨c, hc, mem⟩ := List.mem_flatMap.1 mem
  have declared := h c hc
  rw [ComponentDeclaration.ofComponent_value, printedFor, List.mem_append, List.mem_singleton, ← List.map_append] at mem
  rcases mem with mem | rfl
  · obtain ⟨fields, hfields, rfl⟩ := List.mem_map.1 mem
    obtain ⟨f, hf, inside⟩ := List.mem_flatMap.1 hfields
    obtain ⟨p, hp, rfl⟩ := List.mem_map.1 hf
    intro g hg
    obtain ⟨e, he, rfl⟩ := List.mem_map.1 hg
    exact ⟨(declared p hp).type.record _ fields inside e he, by simp⟩
  · intro f hf
    rw [Printed.fields, ← List.map_append] at hf
    obtain ⟨p, hp, rfl⟩ := List.mem_map.1 hf
    exact declared p hp

/-- the properties of a printable documentation can be printed -/
theorem fine_of_property (h : d.Printable) : ∀ c ∈ d.components, ∀ p ∈ c.2.properties,
    FineField (d.components.map Prod.fst) 100 (Field.declared p) := fun c hc p hp =>
  ⟨h.fine (List.mem_append_left _ (List.mem_flatMap.2 ⟨c, hc, List.mem_map_of_mem hp⟩)), h.descriptions c hc p hp⟩

/-- each line of a drawn block is that of one of the fields -/
theorem Drawn.line {e : Entry} (h : Drawn table e) {l : Line} (hl : l ∈ e.1.lines) :
    ∃ f ∈ e.2.fields, ∃ required, LineShows table required l f := by
  have shown {required : Bool} {lines : List Line} {fields : List Field}
      (h : List.Forall₂ (LineShows table required) lines fields) (hl : l ∈ lines) :
      ∃ f ∈ fields, LineShows table required l f := by
    induction h with
    | nil => cases hl
    | cons line _ ih =>
      rcases List.mem_cons.1 hl with rfl | hl
      · exact ⟨_, List.mem_cons_self, line⟩
      · obtain ⟨f, hf, line⟩ := ih hl
        exact ⟨f, List.mem_cons_of_mem _ hf, line⟩
  obtain ⟨block, component | fields⟩ := e
  · obtain ⟨-, required, optional, eq, first, second⟩ := h
    rw [eq, List.mem_append] at hl
    rcases hl with hl | hl
    · obtain ⟨f, hf, line⟩ := shown first hl
      exact ⟨f, List.mem_append_left _ hf, true, line⟩
    · obtain ⟨f, hf, line⟩ := shown second hl
      exact ⟨f, List.mem_append_right _ hf, false, line⟩
  · obtain ⟨f, hf, line⟩ := shown h hl
    exact ⟨f, hf, false, line⟩

/-- what shows a declaration is legible when the classes are -/
theorem Shows.legible {type : TypeExpr} {d : Declaration} (h : Shows table type d) (emitted : Emitted names d)
    (classes : ∀ c ∈ names, isPlainField (className c) = true)
    (records : ∀ e ∈ table, isPlainField e.1.name = true) : type.Legible ∧ type.levels = d.levels := by
  induction h with
  | builtin =>
    cases emitted with
    | builtin known => exact ⟨.builtin known, rfl⟩
  | list _ ih =>
    cases emitted with
    | list emitted =>
      obtain ⟨legible, levels⟩ := ih emitted
      exact ⟨.list legible, by rw [TypeExpr.levels, levels, Declaration.levels]⟩
  | record mem => exact ⟨.record (records _ mem), rfl⟩
  | reference =>
    cases emitted with
    | reference known => exact ⟨.component (classes _ known), rfl⟩
  | any => exact ⟨.any, rfl⟩

/-- the name of a block is the class of a component or has one in front -/
theorem Tabled.isPlainField {s : Sheet} (h : Tabled names s table)
    (classes : ∀ c ∈ names, isPlainField (className c) = true) {e : Entry} (he : e ∈ table) :
    isPlainField e.1.name = true := by
  have drawn := h.drawn e he
  rcases h.named e he with ⟨c, eq, isName⟩ | ⟨-, c, isName, suffix, isSuffix, ne, eq⟩
  · rw [Drawn, eq] at drawn
    rw [drawn.1]
    exact classes c.name isName
  · rw [eq]
    exact isPlainField_append (classes c isName) isSuffix ne

/-- **The blocks of a printable documentation are legible.** -/
theorem legible_of_mem_table (h : d.Printable) {e : Entry} (he : e ∈ printedTable d) : e.1.Legible := by
  obtain ⟨tabled, nodes⟩ := printedTable_tabled d
  have classes := classes_plain h
  have plain : ∀ e ∈ printedTable d, isPlainField e.1.name = true := fun e he => tabled.isPlainField classes he
  have printed : e.2 ∈ printedNodes d.components := by
    rw [← nodes]
    exact List.mem_map_of_mem he
  refine ⟨plain e he, fun l hl => ?_, fun l hl => ?_⟩ <;>
    obtain ⟨f, hf, required, line⟩ := (tabled.drawn e he).line hl <;>
    have fine := fine_of_mem_printedNodes (fine_of_property h) printed f hf
  · obtain ⟨legible, levels⟩ := line.type.legible fine.type.emitted classes plain
    exact ⟨legible, levels ▸ fine.type.shallow.levels_le⟩
  · rw [line.description]
    exact fine.description

/-! ## Stubs -/

/-- an argument whose name can be printed, and whose type is of this kind -/
structure FineArgument (kind : Declaration → Prop) (a : Argument) : Prop where
  name : isPlainField a.name = true
  type : kind a.type

section

variable {kind : Declaration → Prop} {arguments : List Argument} {operation : String}

theorem fine_accept {name : String} {type : Declaration} {required : Bool} (h : ∀ a ∈ arguments, FineArgument kind a)
    (fine : kind type) : ∀ a ∈ (Argument.accept operation name type required arguments).value,
      FineArgument kind a := by
  have plain := isPlainField_identifier name
  unfold Argument.accept
  -- the identifier is not to be computed
  generalize identifier name = own at plain ⊢
  split
  · exact h
  · rw [Noted.pure_value, List.forall_mem_append, List.forall_mem_singleton]
    exact ⟨h, plain, fine⟩

theorem fine_acceptParameters (scalars : ∀ name, kind (Declaration.ofNode (.scalar name)).value)
    (parameters : List Parameter) (h : ∀ a ∈ arguments, FineArgument kind a) :
    ∀ a ∈ (Argument.acceptParameters operation parameters arguments).value, FineArgument kind a := by
  induction parameters generalizing arguments with
  | nil => exact h
  | cons p rest ih =>
    rw [Argument.acceptParameters, Noted.bind_value, Noted.bind_value]
    exact ih (fine_accept h (scalars p.type))

theorem fine_acceptProperties (required : Bool) {properties : List Property} (h : ∀ a ∈ arguments, FineArgument kind a)
    (types : ∀ p ∈ properties, kind (Declaration.ofNode p.type).value) :
    ∀ a ∈ (Argument.acceptProperties operation required properties arguments).value, FineArgument kind a := by
  induction properties generalizing arguments with
  | nil => exact h
  | cons p rest ih =>
    rw [Argument.acceptProperties, Noted.bind_value, Noted.bind_value]
    exact ih (fine_accept h (types p List.mem_cons_self)) fun q hq => types q (List.mem_cons_of_mem _ hq)

theorem fine_ofOperation {op : Operation} (scalars : ∀ name, kind (Declaration.ofNode (.scalar name)).value)
    (types : ∀ node ∈ op.nodes, kind (Declaration.ofNode node).value) :
    ∀ a ∈ (Argument.ofOperation op).value, FineArgument kind a := by
  have parameters : ∀ a ∈ (Argument.acceptParameters op.name op.arguments []).value, FineArgument kind a :=
    fine_acceptParameters scalars op.arguments (by simp)
  unfold Argument.ofOperation
  rw [Noted.bind_value]
  cases body : op.bodySchema? with
  | none => exact parameters
  | some schema =>
    have inside : ∀ p ∈ schema.properties, kind (Declaration.ofNode p.type).value := by
      intro p hp
      refine types p.type (List.mem_append_left _ ?_)
      rw [body]
      exact List.mem_map_of_mem hp
    refine fine_acceptProperties false (fine_acceptProperties true parameters ?_) ?_
    · exact fun p hp => inside p (List.mem_append_left _ hp)
    · exact fun p hp => inside p (List.mem_append_right _ hp)

end

/-- a type in a signature is legible when the classes in it are, and has no more levels than its declaration -/
theorem legible_flat {d : Declaration} (emitted : Emitted names d)
    (classes : ∀ c ∈ d.listed, isPlainField (className c) = true) :
    (TypeExpr.flat d).Legible ∧ (TypeExpr.flat d).levels = d.levels := by
  induction emitted with
  | builtin known => exact ⟨.builtin known, rfl⟩
  | list _ ih =>
    obtain ⟨legible, levels⟩ := ih classes
    exact ⟨.list legible, by rw [TypeExpr.flat, TypeExpr.levels, levels, Declaration.levels]⟩
  | record => exact ⟨.dictionary, rfl⟩
  | reference => exact ⟨.component (classes _ List.mem_cons_self), rfl⟩
  | any => exact ⟨.any, rfl⟩

theorem not_mem_linesOf {op : Operation} (summary : '\x00' ∉ op.summary.toList)
    (endpoint : '\x00' ∉ op.endpoint.toList) : ∀ line ∈ Stub.linesOf op, '\x00' ∉ line.toList := by
  have method : '\x00' ∉ (op.method.name ++ " ").toList := by
    cases op.method <;> decide
  have called : '\x00' ∉ (op.method.name ++ " " ++ op.endpoint).toList := by
    rw [String.toList_append, List.mem_append]
    exact fun mem => mem.elim method endpoint
  have first : ∀ line ∈ [Text.oneLine op.summary, "", op.method.name ++ " " ++ op.endpoint], '\x00' ∉ line.toList :=
    List.forall_mem_cons.2 ⟨(clean_oneLine summary).1.2, List.forall_mem_cons.2 ⟨by simp, by simpa using called⟩⟩
  intro line mem
  rw [Stub.linesOf, List.mem_append] at mem
  rcases mem with mem | mem
  · exact first line mem
  · split_ifs at mem
    · rw [List.mem_singleton.1 mem]
      decide
    · cases mem

theorem ofOperation_value (op : Operation) : (Stub.ofOperation op).value =
    ⟨identifier op.name, (Argument.ofOperation op).value, (Declaration.ofNode op.responseType).value,
      Stub.linesOf op⟩ := by
  rw [Stub.ofOperation, Noted.bind_value, Noted.bind_value, Noted.pure_value]

/-- the nodes of an operation of a printable documentation can be printed -/
theorem fine_of_mem_nodes (h : d.Printable) {op : Operation} (hop : op ∈ d.operations) :
    ∀ node ∈ op.nodes, (Declaration.ofNode node).value.Fine (d.components.map Prod.fst) 100 := fun _ mem =>
  h.fine (List.mem_append_right _ (List.mem_flatMap.2 ⟨op, hop, mem⟩))

theorem fine_scalar (names : List String) (name : String) : (ofNode (.scalar name)).value.Fine names 100 :=
  .ofNode (by simp [Node.references]) (by simp [Node.arrayDepth])

/-- the types of a signature refer to components, and can be printed -/
theorem fine_of_mem_types (h : d.Printable) {op : Operation} (hop : op ∈ d.operations) :
    ∀ type ∈ (Stub.ofOperation op).value.types, type.Fine (d.components.map Prod.fst) 100 := by
  have types := fine_of_mem_nodes h hop
  rw [ofOperation_value, Stub.types, List.forall_mem_append, List.forall_mem_singleton]
  refine ⟨fun type mem => ?_, types op.responseType (List.mem_append_right _ List.mem_cons_self)⟩
  obtain ⟨a, ha, rfl⟩ := List.mem_map.1 mem
  exact (fine_ofOperation (fine_scalar _) types a ha).type

/-- **The stubs of a printable documentation are legible.** -/
theorem legible_ofOperation (h : d.Printable) {op : Operation} (hop : op ∈ d.operations) :
    (Stub.ofOperation op).value.Legible := by
  have types := fine_of_mem_nodes h hop
  have classes {d' : Declaration} (emitted : d'.Emitted (d.components.map Prod.fst)) :
      ∀ c ∈ d'.listed, isPlainField (className c) = true := fun c hc => classes_plain h c (emitted.listed c hc)
  have response := types op.responseType (List.mem_append_right _ List.mem_cons_self)
  obtain ⟨legible, levels⟩ := legible_flat response.emitted (classes response.emitted)
  have arguments : ∀ a ∈ (Argument.ofOperation op).value, a.Legible := by
    intro a ha
    obtain ⟨plain, fine⟩ := fine_ofOperation (fine_scalar _) types a ha
    obtain ⟨legible, levels⟩ := legible_flat fine.emitted (classes fine.emitted)
    exact ⟨plain, legible, levels ▸ fine.shallow.levels_le⟩
  obtain ⟨summary, endpoint⟩ := h.operations op hop
  have plain := isPlainField_identifier op.name
  rw [ofOperation_value]
  generalize identifier op.name = own at plain ⊢
  exact ⟨plain, arguments, legible, levels ▸ response.shallow.levels_le, List.cons_ne_nil _ _,
    not_mem_linesOf summary endpoint⟩

end

end Module

end ApiTypes
