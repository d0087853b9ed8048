/-
What the classes of the generated modules stand for.

The blocks of the components module are drawn in order, each for a component or for a record inside one. A class name
stands for what the last block of that name is drawn for: a later class takes the name away from an earlier one. No two
blocks of records share a name, and none takes the name of a component. Components do share names: different names may
have one class name, and nothing tells their classes apart.

Main statements: `addComponent_grows`, what the printer adds for one component; `addAll_tabled`, by induction, for all
of them; `class_denotes_component_iff`, a class stands for its own component, for all components, exactly when the class
names are distinct.
-/
import ApiTypes.Module.Generated
import ApiTypes.Proofs.Hoisting

namespace ApiTypes.Module

open ApiTypes.Text

/-! ## Drawn blocks -/

/-- a block, and what it is printed for -/
abbrev Entry := Block × Printed

/-- the annotation is that of the declaration: a reference is shown as the class of its component, a record as the
class of a block that is printed for its fields -/
inductive Shows (table : List Entry) : TypeExpr → Declaration → Prop
  | builtin {name} : Shows table (.builtin name) (.builtin name)
  | list {type item} : Shows table type item → Shows table (.list type) (.list item)
  | record {block : Block} {fields} : (block, .record fields) ∈ table →
    Shows table (.record block.name) (.record fields)
  | reference {component} : Shows table (.component (className component)) (.reference component)
  | any {reason} : Shows table .any (.any reason)

/-- the line is that of the field -/
structure LineShows (table : List Entry) (required : Bool) (l : Line) (f : Field) : Prop where
  field : l.field = f.name
  required : l.required = required
  description : l.description = f.description
  type : Shows table l.type f.type

/-- the lines of the block are those of the fields that it is printed for, and a component has the block of its class -/
def Drawn (table : List Entry) (e : Entry) : Prop :=
  match e.2 with
  | .component c => e.1.name = className c.name ∧ ∃ required optional, e.1.lines = required ++ optional ∧
      List.Forall₂ (LineShows table true) required c.required ∧
      List.Forall₂ (LineShows table false) optional c.optional
  | .record fields => List.Forall₂ (LineShows table false) e.1.lines (recordFields fields)

section

variable {table other : List Entry}

theorem Shows.mono {type : TypeExpr} {d : Declaration} (h : Shows table type d) (sub : table ⊆ other) :
    Shows other type d := by
  induction h with
  | builtin => exact .builtin
  | list _ ih => exact .list ih
  | record mem => exact .record (sub mem)
  | reference => exact .reference
  | any => exact .any

theorem LineShows.mono {required : Bool} {l : Line} {f : Field} (h : LineShows table required l f)
    (sub : table ⊆ other) : LineShows other required l f :=
  ⟨h.field, h.required, h.description, h.type.mono sub⟩

theorem lines_mono {required : Bool} {lines : List Line} {fields : List Field}
    (h : List.Forall₂ (LineShows table required) lines fields) (sub : table ⊆ other) :
    List.Forall₂ (LineShows other required) lines fields :=
  h.imp fun _ _ line => line.mono sub

theorem Drawn.mono {e : Entry} (h : Drawn table e) (sub : table ⊆ other) : Drawn other e := by
  obtain ⟨block, component | fields⟩ := e
  · obtain ⟨name, required, optional, eq, first, second⟩ := h
    exact ⟨name, required, optional, eq, lines_mono first sub, lines_mono second sub⟩
  · exact lines_mono h sub

end

/-! ## What one step adds -/

/-- the later sheet has these blocks more, each of them drawn; their names are new and made from `root` -/
structure Grows (root : String) (s s' : Sheet) (added : List Entry) : Prop where
  blocks : s'.blocks = s.blocks ++ added.map Prod.fst
  taken : s.taken ⊆ s'.taken
  free : ∀ e ∈ added, e.1.name ∉ s.taken
  used : ∀ e ∈ added, e.1.name ∈ s'.taken
  distinct : (added.map fun e => e.1.name).Nodup
  named : ∀ e ∈ added, ∃ suffix, IsSuffix suffix ∧ suffix ≠ "" ∧ e.1.name = root ++ suffix
  drawn : ∀ e ∈ added, Drawn added e

/-- the blocks for the records of a declaration are added, and the annotation shows it -/
def AnnotationGrows (owner suffix : String) (d : Declaration) (s : Sheet) : Prop :=
  ∃ added, Grows owner s (Sheet.annotate (owner ++ suffix) d s).2 added ∧
    added.map Prod.snd = d.records.map .record ∧ Shows added (Sheet.annotate (owner ++ suffix) d s).1 d

/-- the blocks for the records in the fields are added, and the lines show the fields -/
def LinesGrow (owner : String) (required : Bool) (fields : List Field) (s : Sheet) : Prop :=
  ∃ added, Grows owner s (Sheet.fieldLines owner required fields s).2 added ∧
    added.map Prod.snd = (fields.flatMap fun f => f.type.records).map .record ∧
    List.Forall₂ (LineShows added required) (Sheet.fieldLines owner required fields s).1 fields

section

variable {root owner suffix : String} {s s' s'' : Sheet} {added more : List Entry}

theorem Grows.refl (root : String) (s : Sheet) : Grows root s s [] :=
  ⟨by simp, List.Subset.refl _, by simp, by simp, by simp, by simp, by simp⟩

theorem Grows.trans (h : Grows root s s' added) (h' : Grows root s' s'' more) :
    Grows root s s'' (added ++ more) := by
  refine ⟨?_, fun name used => h'.taken (h.taken used), ?_, ?_, ?_, ?_, ?_⟩
  · rw [h'.blocks, h.blocks, List.map_append, List.append_assoc]
  · intro e he
    rcases List.mem_append.1 he with he | he
    · exact h.free e he
    · exact fun used => h'.free e he (h.taken used)
  · intro e he
    rcases List.mem_append.1 he with he | he
    · exact h'.taken (h.used e he)
    · exact h'.used e he
  · rw [List.map_append, List.nodup_append]
    refine ⟨h.distinct, h'.distinct, fun name hname other hother same => ?_⟩
    obtain ⟨e, he, rfl⟩ := List.mem_map.1 hname
    obtain ⟨e', he', rfl⟩ := List.mem_map.1 hother
    have earlier : e'.1.name ∈ s'.taken := same ▸ h.used e he
    exact h'.free e' he' earlier
  · intro e he
    exact (List.mem_append.1 he).elim (h.named e) (h'.named e)
  · intro e he
    rcases List.mem_append.1 he with he | he
    · exact (h.drawn e he).mono (List.subset_append_left _ _)
    · exact (h'.drawn e he).mono (List.subset_append_right _ _)

/-- names made from a name that is itself made from `root` are made from `root` -/
theorem Grows.reroot (h : Grows (root ++ suffix) s s' added) (isSuffix : IsSuffix suffix) : Grows root s s' added := by
  refine ⟨h.blocks, h.taken, h.free, h.used, h.distinct, fun e he => ?_, h.drawn⟩
  obtain ⟨rest, isRest, ne, eq⟩ := h.named e he
  refine ⟨suffix ++ rest, isSuffix.append isRest, fun empty => ne ?_, by rw [eq, String.append_assoc]⟩
  have chars := congrArg String.toList empty
  rw [String.toList_append] at chars
  exact String.toList_eq_nil_iff.1 (List.append_eq_nil_iff.1 chars).2

/-- the fields of a block, when each of them is printed so -/
theorem fieldLines_grow (required : Bool) {fields : List Field}
    (types : ∀ f ∈ fields, ∀ s, owner ∈ s.taken → AnnotationGrows owner (pascalCase f.name) f.type s)
    (used : owner ∈ s.taken) : LinesGrow owner required fields s := by
  induction fields generalizing s with
  | nil => exact ⟨[], Grows.refl owner s, rfl, .nil⟩
  | cons f rest ih =>
    obtain ⟨first, grows, records, shows⟩ := types f List.mem_cons_self s used
    obtain ⟨later, grows', records', lines⟩ :=
      ih (fun g hg => types g (List.mem_cons_of_mem _ hg)) (grows.taken used)
    refine ⟨first ++ later, grows.trans grows', ?_, .cons ⟨rfl, rfl, rfl, ?_⟩ ?_⟩
    · rw [List.map_append, records, records', List.flatMap_cons, List.map_append]
    · exact shows.mono (List.subset_append_left _ _)
    · exact lines_mono lines (List.subset_append_right _ _)

/-- a block is added whose name came into use in front of those inside it -/
theorem Grows.addTo {name : String} {fields : List (String × Declaration)} {lines : List Line}
    (inner : Grows root (s.use name) s' added) (free : name ∉ s.taken)
    (named : ∃ suffix, IsSuffix suffix ∧ suffix ≠ "" ∧ name = root ++ suffix)
    (drawn : List.Forall₂ (LineShows added false) lines (recordFields fields)) :
    Grows root s (addTo s' ⟨name, lines⟩) (added ++ [(⟨name, lines⟩, .record fields)]) := by
  obtain ⟨earlier, same⟩ := use_extends s name
  have claimed : name ∈ (s.use name).taken := Sheet.mem_use name s
  refine ⟨?_, fun n used => inner.taken (earlier used), ?_, ?_, ?_, ?_, ?_⟩
  · rw [addTo_blocks, inner.blocks, same, List.map_append, List.append_assoc]
    rfl
  · intro e he
    rcases List.mem_append.1 he with he | he
    · exact fun used => inner.free e he (earlier used)
    · rwa [List.mem_singleton.1 he]
  · intro e he
    rcases List.mem_append.1 he with he | he
    · exact inner.used e he
    · rw [List.mem_singleton.1 he]
      exact inner.taken claimed
  · rw [List.map_append, List.nodup_append]
    refine ⟨inner.distinct, by simp, fun n hn other hother same => ?_⟩
    obtain ⟨e, he, rfl⟩ := List.mem_map.1 hn
    have own : other = name := by simpa using hother
    exact inner.free e he (same ▸ own ▸ claimed)
  · intro e he
    rcases List.mem_append.1 he with he | he
    · exact inner.named e he
    · rwa [List.mem_singleton.1 he]
  · intro e he
    rcases List.mem_append.1 he with he | he
    · exact (inner.drawn e he).mono (List.subset_append_left _ _)
    · rw [List.mem_singleton.1 he]
      exact lines_mono drawn (List.subset_append_left _ _)

/-- a record takes a name that was free, made from the name of its owner -/
theorem annotate_record_grows {fields : List (String × Declaration)} (proper : IsClassName owner)
    (used : owner ∈ s.taken) (h : IsSuffix suffix)
    (lines : ∀ name s, IsClassName name → name ∈ s.taken → LinesGrow name false (recordFields fields) s) :
    AnnotationGrows owner suffix (.record fields) s := by
  have nonempty : owner ++ suffix ≠ "" := (proper.append h).ne_empty
  have free := fresh_not_mem s.taken (className (owner ++ suffix))
  obtain ⟨more, isSuffix, ne, eq⟩ := claimed_suffix proper used h
  rw [eq] at free
  have claimed : owner ++ more ∈ (s.use (owner ++ more)).taken := Sheet.mem_use _ s
  obtain ⟨added, grows, records, shown⟩ := lines _ _ (proper.append isSuffix) claimed
  unfold AnnotationGrows
  rw [annotate_record nonempty, eq, records_record]
  dsimp only
  refine ⟨_, (grows.reroot isSuffix).addTo free ⟨more, isSuffix, ne, rfl⟩ shown, ?_, ?_⟩
  · rw [List.map_append, records, List.map_append]
    rfl
  · exact Shows.record (List.mem_append_right _ List.mem_cons_self)

mutual

/-- **What the printer adds for a declaration**, whatever it refers to. The owner is a class name in use: a list adds to
the suffix, and a record takes a class name of its own for its fields. -/
theorem annotate_grows : (d : Declaration) → ∀ owner suffix s, IsClassName owner → owner ∈ s.taken →
    IsSuffix suffix → AnnotationGrows owner suffix d s
  | .builtin name, owner, suffix, s, _, _, _ => ⟨[], Grows.refl owner s, rfl, .builtin⟩
  | .list item, owner, suffix, s, proper, used, h => by
    obtain ⟨added, grows, records, shows⟩ :=
      annotate_grows item owner (suffix ++ "Item") s proper used (h.append isSuffix_item)
    rw [← String.append_assoc] at grows shows
    refine ⟨added, ?_, records, ?_⟩ <;> rw [annotate_list]
    · exact grows
    · exact shows.list
  | .record fields, owner, suffix, s, proper, used, h => by
    refine annotate_record_grows proper used h fun name s proper used => ?_
    refine fieldLines_grow false (fun f hf s used => ?_) used
    obtain ⟨g, hg, rfl⟩ := List.mem_map.1 hf
    exact annotateFields_grow fields g hg name (pascalCase g.1) s proper used (isSuffix_pascalCase g.1)
  | .reference component, owner, suffix, s, _, _, _ => ⟨[], Grows.refl owner s, rfl, .reference⟩
  | .any reason, owner, suffix, s, _, _, _ => ⟨[], Grows.refl owner s, rfl, .any⟩

theorem annotateFields_grow : (fields : List (String × Declaration)) → ∀ f ∈ fields, ∀ owner suffix s,
    IsClassName owner → owner ∈ s.taken → IsSuffix suffix → AnnotationGrows owner suffix f.2 s
  | [] => fun f hf => absurd hf List.not_mem_nil
  | (name, d) :: rest => by
    intro f hf owner suffix s proper used h
    rcases List.mem_cons.1 hf with rfl | hf
    · exact annotate_grows d owner suffix s proper used h
    · exact annotateFields_grow rest f hf owner suffix s proper used h

end

/-! ## All components -/

def Printed.isRecord : Printed → Bool
  | .component _ => false
  | .record _ => true

/-- the blocks of the sheet are those of the table, each of them drawn; a block for a record has a name of its own -/
structure Tabled (names : List String) (s : Sheet) (table : List Entry) : Prop where
  blocks : s.blocks = table.map Prod.fst
  classes : ∀ c ∈ names, className c ∈ s.taken
  used : ∀ e ∈ table, e.1.name ∈ s.taken
  drawn : ∀ e ∈ table, Drawn table e
  named : ∀ e ∈ table, (∃ c, e.2 = .component c ∧ c.name ∈ names) ∨ (e.1.name ∉ names.map className ∧
    ∃ c ∈ names, ∃ suffix, IsSuffix suffix ∧ suffix ≠ "" ∧ e.1.name = className c ++ suffix)
  alone : table.Pairwise fun e e' => e.1.name = e'.1.name → e.2.isRecord = false ∧ e'.2.isRecord = false

theorem use_of_mem {name : String} {s : Sheet} (h : name ∈ s.taken) : s.use name = s := by
  unfold Sheet.use
  exact if_pos (List.contains_iff_mem.2 h)

/-- before the block of a component, those of the records inside it are added -/
theorem addComponent_grows {c : ComponentDeclaration} {s : Sheet} (used : className c.name ∈ s.taken) :
    ∃ s' inner block, (Sheet.addComponent c s).2 = addTo s' block ∧ Grows (className c.name) s s' inner ∧
      (inner ++ [(block, Printed.component c)]).map Prod.snd = printedFor c ∧ Drawn inner (block, .component c) := by
  have proper := isClassName_className c.name
  have types : ∀ f : Field, ∀ s, className c.name ∈ s.taken →
      AnnotationGrows (className c.name) (pascalCase f.name) f.type s := fun f s used =>
    annotate_grows f.type _ _ s proper used (isSuffix_pascalCase f.name)
  rw [addComponent_eq, use_of_mem used]
  dsimp only
  obtain ⟨first, grows, records, lines⟩ := fieldLines_grow true (fun f (_ : f ∈ c.required) => types f) used
  generalize Sheet.fieldLines (className c.name) true c.required s = r at grows lines ⊢
  obtain ⟨second, grows', records', lines'⟩ :=
    fieldLines_grow false (fun f (_ : f ∈ c.optional) => types f) (grows.taken used)
  generalize Sheet.fieldLines (className c.name) false c.optional r.2 = r' at grows' lines' ⊢
  refine ⟨_, first ++ second, _, rfl, grows.trans grows', ?_, rfl, r.1, r'.1, rfl, ?_, ?_⟩
  · rw [List.map_append, List.map_append, records, records', printedFor, List.flatMap_append, List.map_append]
    rfl
  · exact lines_mono lines (List.subset_append_left _ _)
  · exact lines_mono lines' (List.subset_append_right _ _)

section Adding

variable {names : List String} {s s' : Sheet} {table inner : List Entry} {c : ComponentDeclaration} {block : Block}

theorem entry_cases {e last : Entry} (h : e ∈ table ++ (inner ++ [last])) : e ∈ table ∨ e ∈ inner ∨ e = last := by
  simpa using h

/-- two blocks of one name can only be those of two components -/
theorem Tabled.alone_addTo (h : Tabled names s table) (isName : c.name ∈ names)
    (grows : Grows (className c.name) s s' inner) (own : block.name = className c.name) :
    (table ++ (inner ++ [(block, Printed.component c)])).Pairwise fun e e' =>
      e.1.name = e'.1.name → e.2.isRecord = false ∧ e'.2.isRecord = false := by
  have apart : ∀ e ∈ inner, e.1.name ≠ block.name := by
    intro e he same
    have before : e.1.name ∈ s.taken := by rw [same, own]; exact h.classes _ isName
    exact grows.free e he before
  rw [List.pairwise_append, List.pairwise_append]
  refine ⟨h.alone, ⟨?_, List.pairwise_singleton _ _, ?_⟩, ?_⟩
  · have distinct : inner.Pairwise fun e e' => e.1.name ≠ e'.1.name := List.pairwise_map.1 grows.distinct
    exact distinct.imp fun ne same => absurd same ne
  · intro e he e' he' same
    rw [List.mem_singleton.1 he'] at same
    exact absurd same (apart e he)
  · intro e he e' he' same
    rcases List.mem_append.1 he' with he' | he'
    · exact absurd (same ▸ h.used e he) (grows.free e' he')
    · rw [List.mem_singleton.1 he'] at same ⊢
      rcases h.named e he with ⟨d, eq, -⟩ | ⟨absent, -⟩
      · exact ⟨by rw [eq]; rfl, rfl⟩
      · exact absurd (List.mem_map.2 ⟨c.name, isName, (same.trans own).symm⟩) absent

/-- the table with the blocks of one component more -/
theorem Tabled.addTo (h : Tabled names s table) (isName : c.name ∈ names)
    (grows : Grows (className c.name) s s' inner) (drawn : Drawn inner (block, .component c)) :
    Tabled names (addTo s' block) (table ++ (inner ++ [(block, .component c)])) := by
  have own : block.name = className c.name := drawn.1
  -- no name is both new and the class of a component
  have hoisted : ∀ e ∈ inner, e.1.name ∉ names.map className := by
    intro e he mem
    obtain ⟨d, hd, eq⟩ := List.mem_map.1 mem
    exact grows.free e he (eq ▸ h.classes d hd)
  have sub : inner ⊆ table ++ (inner ++ [(block, .component c)]) := fun e he =>
    List.mem_append_right _ (List.mem_append_left _ he)
  refine ⟨?_, fun d hd => grows.taken (h.classes d hd), ?_, ?_, ?_, h.alone_addTo isName grows own⟩
  · rw [addTo_blocks, grows.blocks, h.blocks]
    simp
  · intro e he
    rcases entry_cases he with he | he | rfl
    · exact grows.taken (h.used e he)
    · exact grows.used e he
    · exact grows.taken (own ▸ h.classes _ isName)
  · intro e he
    rcases entry_cases he with he | he | rfl
    · exact (h.drawn e he).mono (List.subset_append_left _ _)
    · exact (grows.drawn e he).mono sub
    · exact drawn.mono sub
  · intro e he
    rcases entry_cases he with he | he | rfl
    · exact h.named e he
    · exact Or.inr ⟨hoisted e he, c.name, isName, grows.named e he⟩
    · exact Or.inl ⟨c, rfl, isName⟩

end Adding

/-- **All components.** Each adds its blocks to the table, whatever their names and references are. -/
theorem addAll_tabled {names : List String} {components : List (String × Component)} {s : Sheet} {table : List Entry}
    (closed : ∀ c ∈ components, c.1 ∈ names) (h : Tabled names s table) :
    ∃ added, Tabled names (Sheet.addAll s components).value (table ++ added) ∧
      added.map Prod.snd = printedNodes components := by
  induction components generalizing s table with
  | nil =>
    rw [← List.append_nil table] at h
    exact ⟨[], h, rfl⟩
  | cons c rest ih =>
    obtain ⟨name, schema⟩ := c
    have isName : name ∈ names := closed _ List.mem_cons_self
    have named : (ComponentDeclaration.ofComponent name schema).value.name = name := by
      rw [ComponentDeclaration.ofComponent_value]
    rw [addAll_cons, printedNodes, List.flatMap_cons]
    dsimp only
    generalize (ComponentDeclaration.ofComponent name schema).value = c at named ⊢
    subst named
    obtain ⟨s', inner, block, eq, grows, nodes, drawn⟩ := addComponent_grows (h.classes _ isName)
    rw [eq]
    have step := h.addTo isName grows drawn
    obtain ⟨later, tabled, nodes'⟩ := ih (fun d hd => closed d (List.mem_cons_of_mem _ hd)) step
    rw [List.append_assoc] at tabled
    refine ⟨_, tabled, ?_⟩
    rw [List.map_append, nodes, nodes']
    rfl

/-- the blocks that are printed for a documentation, each with what it is printed for -/
def printedTable (d : Documentation) : List Entry := (printedBlocks d).zip (printedNodes d.components)

theorem printedTable_tabled (d : Documentation) :
    Tabled (d.components.map Prod.fst) (Sheet.ofComponents d.components).value (printedTable d) ∧
      (printedTable d).map Prod.snd = printedNodes d.components := by
  obtain ⟨blank, -, reserved⟩ := reserve_taken (d.components.map Prod.fst) {}
  have start : Tabled (d.components.map Prod.fst) (Sheet.reserve (d.components.map Prod.fst) {}) [] :=
    ⟨blank, reserved, by simp, by simp, by simp, .nil⟩
  obtain ⟨added, tabled, nodes⟩ := addAll_tabled (fun c hc => List.mem_map_of_mem hc) start
  rw [List.nil_append] at tabled
  have eq : printedTable d = added := by
    have blocks : printedBlocks d = added.map Prod.fst := tabled.blocks
    rw [printedTable, blocks, ← nodes, List.zip_map', List.map_id']
  rw [eq]
  exact ⟨tabled, nodes⟩

/-! ## What a name stands for -/

/-- the declaration that is emitted for a component, as what a block is printed for -/
def Printed.ofComponent (c : String × Component) : Printed :=
  .component (ComponentDeclaration.ofComponent c.1 c.2).value

/-- the node is a component of this class -/
def Printed.hasClass (name : String) : Printed → Bool
  | .component c => className c.name == name
  | .record _ => false

/-- what the blocks of this name are drawn for, in order; the last of them is what the name stands for -/
def drawnAs (d : Documentation) (name : String) : List Printed :=
  ((printedTable d).filter fun e => e.1.name == name).map Prod.snd

theorem hasClass_ofComponent (name : String) (c : String × Component) :
    (Printed.ofComponent c).hasClass name = (className c.1 == name) := by
  rw [Printed.ofComponent, ComponentDeclaration.ofComponent_value]
  rfl

/-- the nodes of one class are the components of that class -/
theorem filter_printedNodes (name : String) (components : List (String × Component)) :
    (printedNodes components).filter (Printed.hasClass name) =
      (components.filter fun c => className c.1 == name).map Printed.ofComponent := by
  have records : ∀ fields : List (List (String × Declaration)),
      (fields.map Printed.record).filter (Printed.hasClass name) = [] := by
    intro fields
    rw [List.filter_eq_nil_iff]
    intro node mem
    obtain ⟨record, -, rfl⟩ := List.mem_map.1 mem
    exact Bool.false_ne_true
  induction components with
  | nil => rfl
  | cons c rest ih =>
    have own : (printedFor (ComponentDeclaration.ofComponent c.1 c.2).value).filter (Printed.hasClass name) =
        [Printed.ofComponent c].filter (Printed.hasClass name) := by
      rw [printedFor, List.filter_append, records, List.nil_append]
      rfl
    rw [printedNodes, List.flatMap_cons, List.filter_append, own, List.filter_cons, List.filter_cons,
      hasClass_ofComponent]
    have later := ih
    rw [printedNodes] at later
    rw [later]
    cases className c.1 == name <;> rfl

/-- the blocks of a component's class are those of the components of that class, and no others -/
theorem drawnAs_class {d : Documentation} {name : String} (h : name ∈ d.components.map fun c => className c.1) :
    drawnAs d name = (d.components.filter fun c => className c.1 == name).map Printed.ofComponent := by
  obtain ⟨tabled, nodes⟩ := printedTable_tabled d
  have same : ∀ e ∈ printedTable d, (e.1.name == name) = e.2.hasClass name := by
    intro e he
    have drawn := tabled.drawn e he
    have named := tabled.named e he
    obtain ⟨block, component | fields⟩ := e
    · have own : block.name = className component.name := drawn.1
      rw [own]
      rfl
    · rcases named with ⟨c, eq, -⟩ | ⟨absent, -⟩
      · cases eq
      · have other : block.name ≠ name := by
          rintro rfl
          rw [List.map_map] at absent
          exact absent h
        exact beq_eq_false_iff_ne.2 other
  have filtered : (printedTable d).filter (fun e => e.1.name == name) =
      (printedTable d).filter (Printed.hasClass name ∘ Prod.snd) := List.filter_congr same
  rw [drawnAs, filtered, ← List.filter_map, nodes, filter_printedNodes]

/-- a record has the only block of its name -/
theorem drawnAs_record {d : Documentation} {e : Entry} (he : e ∈ printedTable d) (isRecord : e.2.isRecord = true) :
    drawnAs d e.1.name = [e.2] := by
  obtain ⟨before, after, split⟩ := List.append_of_mem he
  have alone := (printedTable_tabled d).1.alone
  rw [split, List.pairwise_append, List.pairwise_cons] at alone
  obtain ⟨-, ⟨later, -⟩, earlier⟩ := alone
  have none_before : before.filter (fun e' => e'.1.name == e.1.name) = [] := by
    rw [List.filter_eq_nil_iff]
    intro e' he' same
    have both := earlier e' he' e List.mem_cons_self (beq_iff_eq.1 same)
    exact absurd (both.2.symm.trans isRecord) Bool.false_ne_true
  have none_after : after.filter (fun e' => e'.1.name == e.1.name) = [] := by
    rw [List.filter_eq_nil_iff]
    intro e' he' same
    have both := later e' he' (beq_iff_eq.1 same).symm
    exact absurd (both.1.symm.trans isRecord) Bool.false_ne_true
  have own : (e.1.name == e.1.name) = true := beq_self_eq_true _
  rw [drawnAs, split, List.filter_append, List.filter_cons, own, none_before, none_after]
  rfl

/-- the components of one class are one component exactly when the class names are distinct -/
theorem class_nodup_iff (components : List (String × Component)) :
    (components.map fun c => className c.1).Nodup ↔
      ∀ c ∈ components, (components.filter fun e => className e.1 == className c.1) = [c] := by
  constructor
  · intro distinct c hc
    obtain ⟨before, after, rfl⟩ := List.append_of_mem hc
    rw [List.map_append, List.map_cons, List.nodup_middle, List.nodup_cons, ← List.map_append] at distinct
    have others : ∀ e ∈ before ++ after, ¬ (className e.1 == className c.1) = true := by
      intro e he same
      exact distinct.1 (List.mem_map.2 ⟨e, he, beq_iff_eq.1 same⟩)
    have none_before : before.filter (fun e => className e.1 == className c.1) = [] :=
      List.filter_eq_nil_iff.2 fun e he => others e (List.mem_append_left _ he)
    have none_after : after.filter (fun e => className e.1 == className c.1) = [] :=
      List.filter_eq_nil_iff.2 fun e he => others e (List.mem_append_right _ he)
    have own : (className c.1 == className c.1) = true := beq_self_eq_true _
    rw [List.filter_append, List.filter_cons, own, none_before, none_after]
    rfl
  · intro single
    rw [List.nodup_iff_count_eq_one]
    intro name mem
    obtain ⟨c, hc, rfl⟩ := List.mem_map.1 mem
    rw [List.count, List.countP_map, List.countP_eq_length_filter]
    have length := congrArg List.length (single c hc)
    exact length

/-- the types of a signature, the response last -/
def Stub.types (s : Stub) : List Declaration := s.arguments.map Argument.type ++ [s.response]

theorem mem_references {s : Stub} {name : String} :
    name ∈ s.references ↔ ∃ type ∈ s.types, ∃ c ∈ type.listed, className c = name := by
  have eq : s.references = (s.types.flatMap Declaration.listed).map className := by
    rw [Stub.references, Stub.types, List.flatMap_append, List.flatMap_map, List.flatMap_singleton]
  rw [eq, List.mem_map]
  constructor
  · rintro ⟨c, mem, rfl⟩
    obtain ⟨type, ht, hc⟩ := List.mem_flatMap.1 mem
    exact ⟨type, ht, c, hc, rfl⟩
  · rintro ⟨type, ht, c, hc, rfl⟩
    exact ⟨c, List.mem_flatMap.2 ⟨type, ht, hc⟩, rfl⟩

/-- **A class stands for its own component exactly when the class names are distinct.** In every case the blocks are
drawn for the components and the records inside them, in order, and show each reference as the class of its component;
a record has a class of its own; the class of a component has a block for each component of that class name; and what
the operations import are the classes of the components that their signatures mention. -/
theorem class_denotes_component_iff (d : Documentation) :
    (printedTable d).map Prod.fst = printedBlocks d ∧
    (printedTable d).map Prod.snd = printedNodes d.components ∧
    (∀ e ∈ printedTable d, Drawn (printedTable d) e) ∧
    (∀ e ∈ printedTable d, e.2.isRecord = true → drawnAs d e.1.name = [e.2]) ∧
    (∀ c ∈ d.components, drawnAs d (className c.1) =
      (d.components.filter fun e => className e.1 == className c.1).map Printed.ofComponent) ∧
    (∀ name, name ∈ importsOf (stubsOf d.operations).value ↔
      ∃ stub ∈ (stubsOf d.operations).value, ∃ type ∈ stub.types, ∃ c ∈ type.listed, className c = name) ∧
    ((d.components.map fun c => className c.1).Nodup ↔
      ∀ c ∈ d.components, drawnAs d (className c.1) = [Printed.ofComponent c]) := by
  obtain ⟨tabled, nodes⟩ := printedTable_tabled d
  have classes : ∀ c ∈ d.components, drawnAs d (className c.1) =
      (d.components.filter fun e => className e.1 == className c.1).map Printed.ofComponent := fun c hc =>
    drawnAs_class (List.mem_map_of_mem hc)
  have imports : ∀ name, name ∈ importsOf (stubsOf d.operations).value ↔
      ∃ stub ∈ (stubsOf d.operations).value, ∃ type ∈ stub.types, ∃ c ∈ type.listed, className c = name := by
    intro name
    rw [mem_importsOf]
    exact exists_congr fun stub => and_congr_right fun _ => mem_references
  have records : ∀ e ∈ printedTable d, e.2.isRecord = true → drawnAs d e.1.name = [e.2] :=
    fun e he => drawnAs_record he
  refine ⟨tabled.blocks.symm, nodes, tabled.drawn, records, classes, imports, ?_⟩
  rw [class_nodup_iff]
  constructor
  · intro single c hc
    rw [classes c hc, single c hc]
    rfl
  · intro denotes c hc
    have eq := (classes c hc).symm.trans (denotes c hc)
    obtain ⟨e, single, -⟩ := List.map_eq_singleton_iff.1 eq
    have own : c ∈ d.components.filter fun e => className e.1 == className c.1 :=
      List.mem_filter.2 ⟨hc, beq_self_eq_true _⟩
    rw [single, List.mem_singleton] at own
    rw [single, own]

/-- two components of one class, and a reference to the first -/
def sharedClass : Documentation where
  components :=
    [("A-B", ⟨[⟨"x", .scalar "string", "", .str "", true⟩], []⟩),
      ("A_B", ⟨[⟨"y", .scalar "integer", "", .str "", true⟩], []⟩),
      ("C", ⟨[⟨"z", .component "A-B", "", .str "", true⟩], []⟩)]

/-- both blocks have the name of the class, so that the reference to the first component stands for the second -/
example : (printedBlocks sharedClass).map (fun b => (b.name, b.lines.map fun l => (l.field, l.type))) =
    [("A_B", [("x", .word "str")]), ("A_B", [("y", .word "int")]), ("C", [("z", .component "A_B")])] := by
  decide

end

end ApiTypes.Module
