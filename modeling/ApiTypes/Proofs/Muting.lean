/-
Free texts do not shape what is printed.

A documentation is muted by emptying its free texts: descriptions, examples and defaults, and of operations the summary,
the endpoint, the group, the operation id and where parameters stand. A muted documentation is printed as the same blocks
without descriptions and as the same stubs but for their documentation, because names, types and what is required are all
that the printer looks at otherwise.

Main statements: `mute_printedBlocks`, the blocks of a muted documentation; `ofOperation_mute`, the stubs of a muted
operation.
-/
import ApiTypes.Proofs.Validity

namespace ApiTypes

/-! ## Documentations without free texts -/

mutual

/-- the node without the examples and defaults of its variants -/
def Node.mute : Node → Node
  | .scalar name => .scalar name
  | .array element => .array (mute element)
  | .object fields => .object (muteFields fields)
  | .component name => .component name
  | .oneOf variants => .oneOf (muteVariants variants)

def Node.muteFields : List (String × Node) → List (String × Node)
  | [] => []
  | (name, node) :: rest => (name, mute node) :: muteFields rest

def Node.muteVariants : List Variant → List Variant
  | [] => []
  | .mk type _ _ :: rest => .mk (mute type) .null .null :: muteVariants rest

end

def Property.mute (p : Property) : Property := { p with type := p.type.mute, description := "", sample := .null }

def Component.mute (c : Component) : Component := ⟨c.required.map Property.mute, c.optional.map Property.mute⟩

def Parameter.mute (p : Parameter) : Parameter := { p with location := "", sample := .null, description := "" }

def RequestBody.mute : RequestBody → RequestBody
  | json required contentType schema component => json required contentType schema.mute component
  | unsupported contentType => unsupported contentType

def Operation.mute (op : Operation) : Operation :=
  { op with
    endpoint := "", operationId := "", summary := "", arguments := op.arguments.map Parameter.mute,
    requestBody := op.requestBody.map RequestBody.mute, responseType := op.responseType.mute, group := "" }

/-- the documentation without its free texts -/
def Documentation.mute (d : Documentation) : Documentation :=
  ⟨d.components.map fun c => (c.1, c.2.mute), d.operations.map Operation.mute⟩

/-! ## Declarations -/

namespace Declaration

mutual

theorem ofNode_mute : (node : Node) → ofNode node.mute = ofNode node
  | .scalar name => by rw [Node.mute]
  | .array element => by rw [Node.mute, ofNode, ofNode, ofNode_mute element]
  | .object fields => by rw [Node.mute, ofNode, ofNode, ofFields_mute fields]
  | .component name => by rw [Node.mute]
  | .oneOf variants => by rw [Node.mute, ofNode, ofNode]

theorem ofFields_mute : (fields : List (String × Node)) → ofFields (Node.muteFields fields) = ofFields fields
  | [] => by rw [Node.muteFields]
  | (name, node) :: rest => by rw [Node.muteFields, ofFields, ofFields, ofNode_mute node, ofFields_mute rest]

end

end Declaration

namespace Module

/-! ## Blocks -/

def Line.mute (l : Line) : Line := { l with description := "" }

def Block.mute (b : Block) : Block := { b with lines := b.lines.map Line.mute }

def Sheet.mute (s : Sheet) : Sheet := { s with blocks := s.blocks.map Block.mute }

end Module

def Field.mute (f : Field) : Field := { f with description := "" }

/-- the declaration without what is said about its fields -/
def ComponentDeclaration.mute (c : ComponentDeclaration) : ComponentDeclaration :=
  ⟨c.name, c.required.map Field.mute, c.optional.map Field.mute⟩

theorem Field.declared_mute (p : Property) : declared p.mute = (declared p).mute := by
  rw [declared, Property.mute, Declaration.ofNode_mute]
  rfl

namespace Module

open Text

section

variable {s : Sheet} {name : String}

theorem mute_use : s.mute.use name = (s.use name).mute := by
  unfold Sheet.use
  split_ifs <;> first | rfl | contradiction

theorem mute_addTo (b : Block) : addTo s.mute b.mute = (addTo s b).mute := by
  rw [addTo, addTo, Sheet.mute, Sheet.mute, List.map_append, List.map_singleton]

/-- the printer adds the same for a declaration on a muted sheet, and prints the same of it -/
def AnnotatesMuted (owner : String) (d : Declaration) (s : Sheet) : Prop :=
  Sheet.annotate owner d s.mute = ((Sheet.annotate owner d s).1, (Sheet.annotate owner d s).2.mute)

theorem mute_fieldLines (owner : String) (required : Bool) {fields : List Field}
    (h : ∀ f ∈ fields, ∀ s, AnnotatesMuted (owner ++ pascalCase f.name) f.type s) :
    Sheet.fieldLines owner required (fields.map Field.mute) s.mute =
      ((Sheet.fieldLines owner required fields s).1.map Line.mute, (Sheet.fieldLines owner required fields s).2.mute) := by
  induction fields generalizing s with
  | nil => rfl
  | cons f rest ih =>
    have first : Sheet.annotate (owner ++ pascalCase f.name) f.type s.mute = _ := h f List.mem_cons_self s
    rw [List.map_cons, fieldLines_cons, fieldLines_cons, Field.mute]
    dsimp only
    rw [first, ih fun g hg => h g (List.mem_cons_of_mem _ hg)]
    rfl

end

theorem mute_recordFields (fields : List (String × Declaration)) :
    (recordFields fields).map Field.mute = recordFields fields := by
  rw [recordFields, List.map_map]
  rfl

/-- nothing is said about the fields of a record -/
theorem mute_lines_of_record (owner : String) {fields : List (String × Declaration)} {s : Sheet}
    (h : ∀ f ∈ fields, ∀ s, AnnotatesMuted (owner ++ pascalCase f.1) f.2 s) :
    Sheet.annotateFields owner fields s.mute =
      ((Sheet.annotateFields owner fields s).1.map Line.mute, (Sheet.annotateFields owner fields s).2.mute) := by
  have each : ∀ f ∈ recordFields fields, ∀ s, AnnotatesMuted (owner ++ pascalCase f.name) f.type s := by
    intro f hf
    obtain ⟨g, hg, rfl⟩ := List.mem_map.1 hf
    exact h g hg
  have lines := mute_fieldLines owner false each (s := s)
  rwa [mute_recordFields, ← annotateFields_eq, ← annotateFields_eq] at lines

mutual

theorem mute_annotate : (d : Declaration) → ∀ owner s, AnnotatesMuted owner d s
  | .builtin name, owner, s => rfl
  | .list item, owner, s => by
    have inner : Sheet.annotate (owner ++ "Item") item s.mute = _ := mute_annotate item (owner ++ "Item") s
    unfold AnnotatesMuted
    rw [annotate_list, annotate_list]
    dsimp only
    rw [inner]
  | .record fields, owner, s => by
    have lines (name : String) := mute_lines_of_record name (s := s.use name)
      fun f hf s => mute_annotateFields fields f hf (name ++ pascalCase f.1) s
    unfold AnnotatesMuted
    rw [annotate_record_eq, annotate_record_eq]
    dsimp only
    rw [mute_use, lines, ← mute_addTo]
    rfl
  | .reference component, owner, s => rfl
  | .any reason, owner, s => rfl

theorem mute_annotateFields : (fields : List (String × Declaration)) → ∀ f ∈ fields, ∀ owner s,
    AnnotatesMuted owner f.2 s
  | [] => fun f hf => absurd hf List.not_mem_nil
  | (name, d) :: rest => by
    intro f hf owner s
    rcases List.mem_cons.1 hf with rfl | hf
    · exact mute_annotate d owner s
    · exact mute_annotateFields rest f hf owner s

end

/-! ## Components -/

theorem mute_addComponent (c : ComponentDeclaration) (s : Sheet) :
    (Sheet.addComponent c.mute s.mute).2 = (Sheet.addComponent c s).2.mute := by
  have lines (required : Bool) (fields : List Field) (s : Sheet) :=
    mute_fieldLines (className c.name) required (s := s) fun f (_ : f ∈ fields) s =>
      mute_annotate f.type (className c.name ++ pascalCase f.name) s
  rw [addComponent_eq, addComponent_eq, ComponentDeclaration.mute]
  dsimp only
  rw [mute_use, lines, lines, ← mute_addTo, Block.mute, List.map_append]

theorem ofComponent_mute (name : String) (schema : Component) :
    (ComponentDeclaration.ofComponent name schema.mute).value = (ComponentDeclaration.ofComponent name schema).value.mute := by
  rw [ComponentDeclaration.ofComponent_value, ComponentDeclaration.ofComponent_value, ComponentDeclaration.mute,
    Component.mute, List.map_map, List.map_map, List.map_map, List.map_map]
  have same : Field.declared ∘ Property.mute = Field.mute ∘ Field.declared := funext Field.declared_mute
  rw [same]

theorem mute_addAll (components : List (String × Component)) (s : Sheet) :
    (Sheet.addAll s.mute (components.map fun c => (c.1, c.2.mute))).value = (Sheet.addAll s components).value.mute := by
  induction components generalizing s with
  | nil => rfl
  | cons c rest ih =>
    obtain ⟨name, schema⟩ := c
    rw [List.map_cons, addAll_cons, addAll_cons, ofComponent_mute, mute_addComponent, ih]

/-- **The blocks of a muted documentation are those of the documentation without descriptions.** -/
theorem mute_printedBlocks (d : Documentation) : printedBlocks d.mute = (printedBlocks d).map Block.mute := by
  have names : d.mute.components.map Prod.fst = d.components.map Prod.fst := by
    rw [Documentation.mute, List.map_map]
    rfl
  have reserved : (Sheet.reserve (d.components.map Prod.fst) {}).mute = Sheet.reserve (d.components.map Prod.fst) {} := by
    obtain ⟨none, -, -⟩ := reserve_taken (d.components.map Prod.fst) {}
    rw [Sheet.mute, none]
    cases eq : Sheet.reserve (d.components.map Prod.fst) {}
    simp_all
  have added := mute_addAll d.components (Sheet.reserve (d.components.map Prod.fst) {})
  rw [reserved] at added
  rw [printedBlocks, Sheet.ofComponents, names]
  exact congrArg Sheet.blocks added

/-! ## Stubs -/

theorem acceptParameters_mute (operation : String) (parameters : List Parameter) (arguments : List Argument) :
    Argument.acceptParameters operation (parameters.map Parameter.mute) arguments =
      Argument.acceptParameters operation parameters arguments := by
  induction parameters generalizing arguments with
  | nil => rfl
  | cons p rest ih =>
    rw [List.map_cons, Argument.acceptParameters, Argument.acceptParameters, Parameter.mute]
    simp only [ih]

theorem acceptProperties_mute (operation : String) (required : Bool) (properties : List Property)
    (arguments : List Argument) :
    Argument.acceptProperties operation required (properties.map Property.mute) arguments =
      Argument.acceptProperties operation required properties arguments := by
  induction properties generalizing arguments with
  | nil => rfl
  | cons p rest ih =>
    rw [List.map_cons, Argument.acceptProperties, Argument.acceptProperties, Property.mute, Declaration.ofNode_mute]
    simp only [ih]

theorem bodySchema?_mute (op : Operation) : op.mute.bodySchema? = op.bodySchema?.map Component.mute := by
  unfold Operation.bodySchema? Operation.mute
  dsimp only
  cases op.requestBody with
  | none => rfl
  | some body => cases body <;> rfl

theorem arguments_mute (op : Operation) : Argument.ofOperation op.mute = Argument.ofOperation op := by
  unfold Argument.ofOperation
  rw [bodySchema?_mute]
  have parameters : Argument.acceptParameters op.mute.name op.mute.arguments [] =
      Argument.acceptParameters op.name op.arguments [] := acceptParameters_mute op.name op.arguments []
  have name : op.mute.name = op.name := rfl
  rw [parameters, name]
  cases op.bodySchema? with
  | none => rfl
  | some schema => simp only [Option.map_some, Component.mute, acceptProperties_mute]

/-- **The stub of a muted operation differs from that of the operation in its documentation only.** -/
theorem ofOperation_mute (op : Operation) : (Stub.ofOperation op.mute).value =
    { (Stub.ofOperation op).value with lines := Stub.linesOf op.mute } := by
  have response : Declaration.ofNode op.mute.responseType = Declaration.ofNode op.responseType :=
    Declaration.ofNode_mute op.responseType
  have name : op.mute.name = op.name := rfl
  rw [ofOperation_value, ofOperation_value, arguments_mute, response, name]

end Module

end ApiTypes
