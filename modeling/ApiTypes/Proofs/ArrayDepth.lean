/-
Arrays inside each other.

However deep the items of a property's arrays stand, every level of array is one level in its node, one in its
declaration, and one pair of brackets in what is printed for it, in either module. The innermost items are read, declared
and printed as they are inside a single array; only the name of a record's owner has one word more for each level. Each of
the four recursions has its step (`nodeAt_array`, `ofNode_array`, `annotate_list`, `TypeExpr.flat`), which is iterated here.

Main statements: `Nested.derives`, the levels of the node; `annotate_lists`, what is printed; `array_depth_kept`, both for
a property, and what the blocks of a documentation that holds it show.
-/
import Mathlib.Logic.Function.Iterate
import ApiTypes.Proofs.Denotation
import ApiTypes.Proofs.Grammar

namespace ApiTypes

namespace Schema

/-! ## Levels of a schema -/

/-- so many arrays around a schema, one the items of the other; what else they say does not matter -/
inductive Nested (leaf : Value) : Nat → Value → Prop
  | leaf : Nested leaf 0 leaf
  | array {depth raw items} : Typed raw "array" → raw.field? "items" = some items → raw.field? "properties" = none →
    Nested leaf depth items → Nested leaf (depth + 1) raw

/-- one array that says nothing else -/
def arrayOf (items : Value) : Value := .map [(.str "type", .str "array"), (.str "items", items)]

variable {settings : Settings} {leaf raw : Value} {element : Node} {depth : Nat}

/-- so many arrays around a schema have so many levels around its node, as items of another array -/
theorem Nested.derives (nested : Nested leaf depth raw) (derived : Derives settings .items leaf element) :
    Derives settings .items raw (Node.array^[depth] element) := by
  induction nested with
  | leaf => exact derived
  | array typed found properties _ ih =>
    rw [Function.iterate_succ_apply']
    exact .array typed found properties ih

/-- one array at least is read alike at every place -/
theorem Nested.derives_at (nested : Nested leaf depth raw) (deep : 0 < depth)
    (derived : Derives settings .items leaf element) (position : Position) :
    Derives settings position raw (Node.array^[depth] element) := by
  cases nested with
  | leaf => exact absurd deep (Nat.lt_irrefl 0)
  | array typed found properties inner =>
    rw [Function.iterate_succ_apply']
    exact .array typed found properties (inner.derives derived)

theorem nested_arrayOf (items : Value) : Nested items 1 (arrayOf items) :=
  .array ⟨rfl, rfl⟩ rfl rfl .leaf

/-- the stamps of a property are no part of its arrays -/
theorem Nested.schemaPart (nested : Nested leaf depth raw) (deep : 0 < depth) :
    Nested leaf depth (Property.schemaPart raw) := by
  cases nested with
  | leaf => exact absurd deep (Nat.lt_irrefl 0)
  | array typed found properties inner =>
    have same {name : String} (other : name ≠ "name" ∧ name ≠ "required") :
        (Property.schemaPart raw).field? name = raw.field? name := Component.field?_schemaPart other.1 other.2
    refine .array ⟨(same (by decide)).trans typed.1, (same (by decide)).trans typed.2⟩ ?_ ?_ inner
    · exact (same (by decide)).trans found
    · exact (same (by decide)).trans properties

end Schema

/-! ## Properties -/

/-- the raw property is an array with a name: it offers no variants, and what it gives for a description is a text -/
structure ArrayProperty (raw : Value) (name : String) : Prop where
  named : raw.field? "name" = some (.str name)
  oneOf : raw.field? "oneOf" = none
  described : ∀ given, raw.field? "description" = some given → given.isGiven = true → ∃ text, given = .str text

theorem ArrayProperty.descriptionOf {raw : Value} {name : String} (h : ArrayProperty raw name) :
    ∃ text, Property.descriptionOf raw = .str text := by
  unfold Property.descriptionOf
  split
  · rename_i given found
    split_ifs with isGiven
    · exact h.described given found isGiven
    · exact ⟨"", rfl⟩
  · exact ⟨"", rfl⟩

/-- the property of so many arrays has so many levels around the node of the innermost items -/
theorem ArrayProperty.built {settings : Settings} {leaf raw : Value} {element : Node} {depth : Nat} {name : String}
    (h : ArrayProperty raw name) (nested : Schema.Nested leaf depth raw) (deep : 0 < depth)
    (derived : Schema.Derives settings .items leaf element) (location : Location) :
    ∃ p, Property.ofRaw settings location raw = .ok p ∧ p.name = name ∧ p.type = Node.array^[depth] element := by
  obtain ⟨description, described⟩ := h.descriptionOf
  have node : Schema.normalize settings location (Property.schemaPart raw) = .ok (Node.array^[depth] element) :=
    ((nested.schemaPart deep).derives_at deep derived .top).read location
  have typed : raw.field? "type" = some (.str "array") := by
    cases nested with
    | leaf => exact absurd deep (Nat.lt_irrefl 0)
    | array typed _ _ _ => exact typed.2
  have among : raw.fieldAmong "type" ["array", "object"] = true := Value.fieldAmong_iff.2 ⟨_, by decide, typed⟩
  have shape : PropertyShape.of raw location = .ok .composite :=
    PropertyShape.of_eq_ok.2 (propertyShapeOf_composite h.oneOf among)
  have type : Property.typeOf settings location raw .composite = .ok (Node.array^[depth] element) := node
  refine ⟨⟨name, _, description, (raw.field? "example").getD (.str ""), Property.isTrue (raw.field? "required")⟩, ?_, rfl,
    rfl⟩
  rw [Property.ofRaw, shape]
  simp only [bind, Except.bind, h.named, type, described]
  rfl

/-! ## Declarations -/

theorem Declaration.ofNode_arrays (depth : Nat) (element : Node) :
    ofNode (Node.array^[depth] element) = Declaration.list^[depth] <$> ofNode element := by
  induction depth with
  | zero => simp
  | succ depth ih =>
    have step (node : Node) : ofNode (.array node) = Declaration.list <$> ofNode node := by
      rw [ofNode, map_eq_pure_bind]
    rw [Function.iterate_succ_apply', step, ih, Functor.map_map, Function.iterate_succ']
    rfl

namespace Module

/-! ## What is printed -/

/-- the owner of what is inside one list more -/
def itemOwner (owner : String) : String := owner ++ "Item"

/-- the text of a list of what is written so -/
def listText (item : String) : String := "list[" ++ item ++ "]"

/-- **Printing so many lists is printing what is innermost**, with the same blocks, and as many lists around it -/
theorem annotate_lists (depth : Nat) (owner : String) (d : Declaration) (s : Sheet) :
    Sheet.annotate owner (Declaration.list^[depth] d) s =
      let type := Sheet.annotate (itemOwner^[depth] owner) d s
      (TypeExpr.list^[depth] type.1, type.2) := by
  induction depth generalizing owner with
  | zero => rfl
  | succ depth ih =>
    rw [Function.iterate_succ_apply', annotate_list, ih (owner ++ "Item")]
    dsimp only
    rw [Function.iterate_succ_apply' TypeExpr.list]
    rfl

theorem flat_lists (depth : Nat) (d : Declaration) :
    TypeExpr.flat (Declaration.list^[depth] d) = TypeExpr.list^[depth] (TypeExpr.flat d) :=
  Function.Semiconj.iterate_right (f := TypeExpr.flat) (fun _ => rfl) depth d

theorem text_lists (depth : Nat) (type : TypeExpr) : (TypeExpr.list^[depth] type).text = listText^[depth] type.text :=
  Function.Semiconj.iterate_right (f := TypeExpr.text) (fun _ => rfl) depth type

/-- an annotation that shows so many lists has them around one that shows what is innermost -/
theorem Shows.lists {table : List Entry} {depth : Nat} {type : TypeExpr} {d : Declaration}
    (h : Shows table type (Declaration.list^[depth] d)) : ∃ inner, type = TypeExpr.list^[depth] inner ∧ Shows table inner d := by
  induction depth generalizing type with
  | zero => exact ⟨type, rfl, h⟩
  | succ depth ih =>
    rw [Function.iterate_succ_apply'] at h
    cases h with
    | list item =>
      obtain ⟨inner, rfl, shows⟩ := ih item
      exact ⟨inner, (Function.iterate_succ_apply' _ _ _).symm, shows⟩

variable {d : Documentation}

/-- a block that is printed for a record is the only one of its name -/
theorem blocks_of_record {block : Block} {fields : List (String × Declaration)}
    (mem : (block, Printed.record fields) ∈ printedTable d) :
    (printedBlocks d).filter (fun b => b.name == block.name) = [block] := by
  have alone := drawnAs_record mem rfl
  have table : printedBlocks d = (printedTable d).map Prod.fst := (printedTable_tabled d).1.blocks
  obtain ⟨e, single, -⟩ := List.map_eq_singleton_iff.1 alone
  have own : (block, Printed.record fields) ∈ (printedTable d).filter fun e => e.1.name == block.name :=
    List.mem_filter.2 ⟨mem, beq_self_eq_true _⟩
  rw [single, List.mem_singleton] at own
  have filtered : (printedBlocks d).filter (fun b => b.name == block.name) =
      ((printedTable d).filter fun e => e.1.name == block.name).map Prod.fst := by
    rw [table, List.filter_map]
    rfl
  rw [filtered, single, ← own]
  rfl

/-- the block of the component shows the field as so many lists around an annotation of what is innermost; if that is a
record, there is exactly one block of its name, and it shows the fields of the record -/
def ShownInLists (d : Documentation) (c : String × Component) (field : String) (depth : Nat) (innermost : Declaration) :
    Prop :=
  ∃ block, (block, Printed.ofComponent c) ∈ printedTable d ∧ ∃ l ∈ block.lines, l.field = field ∧
    ∃ type, l.type = TypeExpr.list^[depth] type ∧ Shows (printedTable d) type innermost ∧
      ∀ fields, innermost = .record fields → ∃ own, type = .record own.name ∧
        (printedBlocks d).filter (fun b => b.name == own.name) = [own] ∧
        List.Forall₂ (LineShows (printedTable d) false) own.lines (recordFields fields)

/-- the block of a component has a line that shows the property -/
theorem exists_line {c : String × Component} (hc : c ∈ d.components) {p : Property} (hp : p ∈ c.2.properties) :
    ∃ block, (block, Printed.ofComponent c) ∈ printedTable d ∧ ∃ l ∈ block.lines, l.field = p.name ∧
      Shows (printedTable d) l.type (Declaration.ofNode p.type).value := by
  obtain ⟨tabled, nodes⟩ := printedTable_tabled d
  have printed : Printed.ofComponent c ∈ (printedTable d).map Prod.snd := by
    rw [nodes]
    exact List.mem_flatMap.2 ⟨c, hc, List.mem_append_right _ List.mem_cons_self⟩
  obtain ⟨⟨block, node⟩, mem, eq⟩ := List.mem_map.1 printed
  obtain rfl : node = Printed.ofComponent c := eq
  have drawn := tabled.drawn _ mem
  rw [Printed.ofComponent, ComponentDeclaration.ofComponent_value] at drawn
  obtain ⟨-, required, optional, lines, first, second⟩ := drawn
  refine ⟨block, mem, ?_⟩
  rw [lines]
  rcases List.mem_append.1 hp with inFirst | inSecond
  · obtain ⟨l, hl, line⟩ := exists_of_mem_results first (List.mem_map_of_mem inFirst)
    exact ⟨l, List.mem_append_left _ hl, line.field, line.type⟩
  · obtain ⟨l, hl, line⟩ := exists_of_mem_results second (List.mem_map_of_mem inSecond)
    exact ⟨l, List.mem_append_right _ hl, line.field, line.type⟩

theorem shownInLists {c : String × Component} (hc : c ∈ d.components) {p : Property} (hp : p ∈ c.2.properties)
    {depth : Nat} {innermost : Declaration}
    (declared : (Declaration.ofNode p.type).value = Declaration.list^[depth] innermost) :
    ShownInLists d c p.name depth innermost := by
  obtain ⟨block, mem, l, hl, field, shows⟩ := exists_line hc hp
  rw [declared] at shows
  obtain ⟨type, lists, shows⟩ := shows.lists
  refine ⟨block, mem, l, hl, field, type, lists, shows, ?_⟩
  rintro fields rfl
  cases shows with
  | @record own _ printed =>
    exact ⟨own, rfl, blocks_of_record printed, (printedTable_tabled d).1.drawn _ printed⟩

/-- **The depth of arrays is kept.** Take a schema that the grammar gives a normal form as the items of an array, and a
property of so many arrays around it. The node of the property has as many levels of array around that normal form, which
a single array has for its element; its declaration has as many levels of list around that of the normal form, and reports
what that reports. Beside a field, and in a signature, the declaration is printed as what is innermost is printed there,
with one pair of brackets for each level and no blocks more. And the block of every component that has the property shows
it so, where an innermost record has exactly one block, and the page is made of the blocks with what they show. -/
theorem array_depth_kept {settings : Settings} {leaf raw : Value} {element : Node} {depth : Nat} {name : String}
    (derived : Schema.Derives settings .items leaf element) (nested : Schema.Nested leaf depth raw) (deep : 0 < depth)
    (property : ArrayProperty raw name) (location : Location) :
    Schema.normalize settings location (Schema.arrayOf leaf) = .ok (.array element) ∧
    ∃ p, Property.ofRaw settings location raw = .ok p ∧ p.name = name ∧ p.type = Node.array^[depth] element ∧
      Declaration.ofNode p.type = Declaration.list^[depth] <$> Declaration.ofNode element ∧
      (∀ owner s, Sheet.annotate owner (Declaration.ofNode p.type).value s =
        let type := Sheet.annotate (itemOwner^[depth] owner) (Declaration.ofNode element).value s
        (TypeExpr.list^[depth] type.1, type.2)) ∧
      TypeExpr.flat (Declaration.ofNode p.type).value =
        TypeExpr.list^[depth] (TypeExpr.flat (Declaration.ofNode element).value) ∧
      (∀ type, (TypeExpr.list^[depth] type).text = listText^[depth] type.text) ∧
      ∀ (d : Documentation) (c : String × Component), c ∈ d.components → p ∈ c.2.properties →
        ShownInLists d c name depth (Declaration.ofNode element).value ∧
        Pages (printedBlocks d) (componentsText d).value := by
  have single := ((Schema.nested_arrayOf leaf).derives_at Nat.one_pos derived .top).read location
  obtain ⟨p, built, rfl, type⟩ := property.built nested deep derived location
  have declaration := Declaration.ofNode_arrays depth element
  have value : (Declaration.ofNode (Node.array^[depth] element)).value =
      Declaration.list^[depth] (Declaration.ofNode element).value := by
    rw [declaration, Noted.map_value]
  refine ⟨single, p, built, rfl, type, by rw [type, declaration], fun owner s => ?_, ?_, text_lists depth, fun d c hc hp => ?_⟩
  · rw [type, value, annotate_lists]
  · rw [type, value, flat_lists]
  · have declared : (Declaration.ofNode p.type).value = Declaration.list^[depth] (Declaration.ofNode element).value := by
      rw [type, value]
    exact ⟨shownInLists hc hp declared, pages_componentsText d⟩

/-- a cell of a cube -/
def cell : Value :=
  .map [(.str "type", .str "object"),
    (.str "properties", .map [(.str "x", .map [(.str "type", .str "integer")])])]

/-- a property of three arrays; the outer one is described, and the next one says something that is not read -/
def cube : Value :=
  .map [(.str "name", .str "cube"), (.str "description", .str "by layer"), (.str "type", .str "array"),
    (.str "items", .map [(.str "type", .str "array"), (.str "minItems", .bool true),
      (.str "items", Schema.arrayOf cell)])]

/-- a documentation of one component with the property -/
def board (p : Property) : Documentation where
  components := [("Board", ⟨[p], []⟩)]

/-- three arrays around an object: three levels in the component's block, and one block for the object -/
theorem cube_kept :
    let element : Node := .object [("x", .scalar "integer")]
    Schema.Derives {} .items cell element ∧ Schema.Nested cell 3 cube ∧ ArrayProperty cube "cube" ∧
      ∃ p, Property.ofRaw {} .top cube = .ok p ∧ p.type = .array (.array (.array element)) ∧
        ShownInLists (board p) ("Board", ⟨[p], []⟩) "cube" 3 (.record [("x", .builtin "int")]) ∧
        Pages (printedBlocks (board p)) (componentsText (board p)).value := by
  intro element
  have derived : Schema.Derives {} .items cell element :=
    .object ⟨rfl, rfl⟩ rfl rfl (.cons (.scalar ⟨rfl, rfl⟩ (by simp [Schema.Plain])) .nil)
  have nested : Schema.Nested cell 3 cube :=
    .array ⟨rfl, rfl⟩ rfl rfl (.array ⟨rfl, rfl⟩ rfl rfl (Schema.nested_arrayOf cell))
  have property : ArrayProperty cube "cube" := by
    refine ⟨rfl, rfl, fun given found _ => ⟨"by layer", ?_⟩⟩
    exact (Option.some.inj found).symm
  obtain ⟨-, p, built, -, type, -, -, -, -, shown⟩ := array_depth_kept derived nested (by decide) property .top
  have declared : (Declaration.ofNode element).value = .record [("x", .builtin "int")] := by
    rw [Declaration.ofNode_object]
    rfl
  rw [declared] at shown
  exact ⟨derived, nested, property, p, built, type, shown (board p) _ List.mem_cons_self List.mem_cons_self⟩

example : (printedBlocks (board ⟨"cube", Node.array^[3] (.object [("x", .scalar "integer")]), "", .null, true⟩)).map
    (fun b => (b.name, b.lines.map fun l => (l.field, l.type.text))) =
      [("BoardCubeItemItemItem", [("x", "int")]), ("Board", [("cube", "list[list[list[BoardCubeItemItemItem]]]")])] := by
  decide

end Module

end ApiTypes
