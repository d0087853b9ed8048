/-
Hoisting is faithful.

A sheet is printed record by record, each behind the records inside it, and a block is read through the blocks in front
of it. The invariant is that every word of an annotation is of the language, the class of a component, or the class of a
block in front (`Inv.known`), with block names distinct and in use. What a step of the printer adds is packaged with it
(`Extends`), so that steps compose (`Extends.trans`).

Main statements: `annotate_extends`, what the printer adds for a declaration, by induction on the declaration;
`pages_componentsText`, the page by the texts of its blocks; `hoisting_faithful`, the blocks of a documentation declare
what is emitted for it, and are read back as that.
-/
import Mathlib.Data.List.Forall2
import Mathlib.Data.List.Nodup
import ApiTypes.Module.Components
import ApiTypes.Proofs.Unfolding

namespace ApiTypes.Module

open ApiTypes.Text

/-! ## What is printed -/

/-- what one block is printed for -/
inductive Printed where
  | component (c : ComponentDeclaration)
  | record (fields : List (String × Declaration))

/-- the records inside the fields of a component, and then the component -/
def printedFor (c : ComponentDeclaration) : List Printed :=
  ((c.required ++ c.optional).flatMap fun f => f.type.records).map .record ++ [.component c]

/-- what is printed for a documentation, from the declarations that are emitted for its components -/
def printedNodes (components : List (String × Component)) : List Printed :=
  components.flatMap fun c => printedFor (ComponentDeclaration.ofComponent c.1 c.2).value

/-- the fields as they are to be read -/
def readFields (required : Bool) (fields : List Field) : List (String × Bool × Declaration) :=
  fields.map fun f => (f.name, required, f.type.canonical)

/-- the fields of a record, none of which is required -/
def recordFields (fields : List (String × Declaration)) : List Field := fields.map fun f => ⟨f.1, f.2, ""⟩

/-- the block has the right name, and is read back as what it is printed for -/
def Declares (names : List String) (blocks : List Block) (b : Block) : Printed → Prop
  | .component c =>
    b.name = className c.name ∧ b.read names blocks = readFields true c.required ++ readFields false c.optional
  | .record fields => b.name ∉ names.map className ∧ b.read names blocks = readFields false (recordFields fields)

/-- the word inside what a block prints for a line -/
def Block.word (b : Block) (l : Line) : String := (Outline.read (b.typeText l)).word

/-! ## The invariant -/

structure Inv (names : List String) (s : Sheet) : Prop where
  classes : ∀ c ∈ names, className c ∈ s.taken
  used : ∀ b ∈ s.blocks, b.name ∈ s.taken
  proper : ∀ b ∈ s.blocks, IsClassName b.name ∧ b.name ∉ plainWords
  distinct : (s.blocks.map Block.name).Nodup
  known : ∀ before b after, s.blocks = before ++ b :: after → ∀ l ∈ b.lines, Known names before (b.word l)

/-- the invariant holds of the later sheet, which has further blocks for these nodes; their names were free before, but
for those `reserved` -/
structure Extends (names reserved : List String) (s s' : Sheet) (nodes : List Printed) : Prop where
  inv : Inv names s'
  taken : s.taken ⊆ s'.taken
  blocks : ∃ new, s'.blocks = s.blocks ++ new ∧ (∀ b ∈ new, b.name ∈ reserved ∨ b.name ∉ s.taken) ∧
    List.Forall₂ (Declares names s'.blocks) new nodes

section

variable {names reserved : List String} {s s' s'' : Sheet} {nodes more : List Printed}

theorem Inv.known_of_mem (h : Inv names s) {b : Block} (hb : b ∈ s.blocks) :
    ∀ l ∈ b.lines, Known names s.blocks (b.word l) := by
  obtain ⟨before, after, eq⟩ := List.append_of_mem hb
  intro l hl
  rw [eq]
  exact (h.known before b after eq l hl).append

/-- a block is read through the blocks in front of it -/
theorem read_append {blocks new : List Block} {b : Block} (known : ∀ l ∈ b.lines, Known names blocks (b.word l))
    (distinct : ((blocks ++ new).map Block.name).Nodup) : b.read names (blocks ++ new) = b.read names blocks := by
  refine List.map_congr_left fun l hl => ?_
  rw [Block.readLine, Block.readLine, unfold_append (known l hl) distinct]

theorem Declares.of_read {blocks other : List Block} {b : Block} {node : Printed} (h : Declares names blocks b node)
    (same : b.read names other = b.read names blocks) : Declares names other b node := by
  cases node with
  | component c => exact ⟨h.1, same.trans h.2⟩
  | record fields => exact ⟨h.1, same.trans h.2⟩

theorem Inv.declares_append {new later : List Block} (h : Inv names s)
    (distinct : ((s.blocks ++ later).map Block.name).Nodup) (printed : ∀ b ∈ new, b ∈ s.blocks)
    (declares : List.Forall₂ (Declares names s.blocks) new nodes) :
    List.Forall₂ (Declares names (s.blocks ++ later)) new nodes := by
  have same : ∀ b ∈ new, b.read names (s.blocks ++ later) = b.read names s.blocks := fun b hb =>
    read_append (h.known_of_mem (printed b hb)) distinct
  exact ((List.forall₂_and_left _ _).2 ⟨same, declares⟩).imp fun b node both => Declares.of_read both.2 both.1

theorem Extends.refl (h : Inv names s) : Extends names [] s s [] :=
  ⟨h, List.Subset.refl _, [], by simp, by simp, .nil⟩

/-- names may come into use before a step -/
theorem Extends.weaken (h : Extends names reserved s' s'' nodes) (taken : s.taken ⊆ s'.taken)
    (same : s'.blocks = s.blocks) : Extends names reserved s s'' nodes := by
  obtain ⟨new, eq, free, declares⟩ := h.blocks
  refine ⟨h.inv, fun name used => h.taken (taken used), new, by rw [eq, same], fun b hb => ?_, declares⟩
  exact (free b hb).imp_right fun absent used => absent (taken used)

/-- a name that is in use before a step is not printed by it, unless it is reserved -/
theorem Extends.unprinted (h : Extends names reserved s s' nodes) {name : String} (used : name ∈ s.taken)
    (other : name ∉ reserved) (unprinted : name ∉ s.blocks.map Block.name) : name ∉ s'.blocks.map Block.name := by
  obtain ⟨new, eq, free, -⟩ := h.blocks
  rw [eq, List.map_append, List.mem_append]
  rintro (mem | mem)
  · exact unprinted mem
  · obtain ⟨b, hb, rfl⟩ := List.mem_map.1 mem
    exact (free b hb).elim other fun absent => absent used

/-- the blocks of the first step are read as before -/
theorem Extends.trans {other : List String} (h : Extends names reserved s s' nodes)
    (h' : Extends names other s' s'' more) : Extends names (reserved ++ other) s s'' (nodes ++ more) := by
  obtain ⟨new, eq, free, declares⟩ := h.blocks
  obtain ⟨new', eq', free', declares'⟩ := h'.blocks
  refine ⟨h'.inv, fun name used => h'.taken (h.taken used), new ++ new', by rw [eq', eq, List.append_assoc], ?_, ?_⟩
  · intro b hb
    rcases List.mem_append.1 hb with hb | hb
    · exact (free b hb).imp_left (List.mem_append_left _)
    · exact (free' b hb).imp (List.mem_append_right _) fun absent mem => absent (h.taken mem)
  · have distinct := h'.inv.distinct
    refine List.rel_append ?_ declares'
    rw [eq'] at distinct ⊢
    exact h.inv.declares_append distinct (fun b hb => by rw [eq]; exact List.mem_append_right _ hb) declares

/-- the sheet with one block more -/
def addTo (s : Sheet) (b : Block) : Sheet := { s with blocks := s.blocks ++ [b] }

theorem addTo_blocks (s : Sheet) (b : Block) : (addTo s b).blocks = s.blocks ++ [b] := rfl

/-- a block is added whose words are known and whose name is not printed yet -/
theorem Inv.addTo (h : Inv names s) {b : Block} (used : b.name ∈ s.taken)
    (proper : IsClassName b.name ∧ b.name ∉ plainWords) (unprinted : b.name ∉ s.blocks.map Block.name)
    (known : ∀ l ∈ b.lines, Known names s.blocks (b.word l)) : Inv names (addTo s b) := by
  refine ⟨h.classes, ?_, ?_, ?_, ?_⟩
  · intro d hd
    rcases List.mem_append.1 hd with hd | hd
    · exact h.used d hd
    · obtain rfl := List.mem_singleton.1 hd
      exact used
  · intro d hd
    rcases List.mem_append.1 hd with hd | hd
    · exact h.proper d hd
    · obtain rfl := List.mem_singleton.1 hd
      exact proper
  · rw [addTo_blocks, List.map_append, List.nodup_append]
    refine ⟨h.distinct, by simp, fun name hname other hother => ?_⟩
    obtain rfl : other = b.name := by simpa using hother
    rintro rfl
    exact unprinted hname
  · -- the block that is looked at is the one added, or it has the same blocks in front as before
    intro before d after eq
    rw [addTo_blocks] at eq
    rcases List.eq_nil_or_concat after with rfl | ⟨further, last, rfl⟩
    · obtain ⟨rfl, same⟩ := List.append_inj' eq rfl
      cases same
      exact known
    · have split : s.blocks ++ [b] = (before ++ d :: further) ++ [last] := by simpa using eq
      exact h.known before d further (List.append_inj' split rfl).1

/-! ## Types and lines -/

/-- the type expression is printed so that it is read back as the declaration -/
def Stands (names : List String) (blocks : List Block) (type : TypeExpr) (d : Declaration) : Prop :=
  ∃ levels word, Prints type.text levels word ∧ Known names blocks word ∧
    ∀ required, unfold names blocks ⟨required, levels, word⟩ = d.canonical

/-- the line is printed for the field -/
structure LineFor (names : List String) (blocks : List Block) (required : Bool) (l : Line) (f : Field) : Prop where
  field : l.field = f.name
  required : l.required = required
  stands : Stands names blocks l.type f.type

theorem Stands.append {blocks new : List Block} {type : TypeExpr} {d : Declaration} (h : Stands names blocks type d)
    (distinct : ((blocks ++ new).map Block.name).Nodup) : Stands names (blocks ++ new) type d := by
  obtain ⟨levels, word, prints, known, eq⟩ := h
  refine ⟨levels, word, prints, known.append, fun required => ?_⟩
  rw [unfold_append known distinct, eq]

theorem Extends.stands {type : TypeExpr} {d : Declaration} (h : Extends names reserved s s' nodes)
    (stands : Stands names s.blocks type d) : Stands names s'.blocks type d := by
  obtain ⟨new, eq, -, -⟩ := h.blocks
  have distinct := h.inv.distinct
  rw [eq] at distinct ⊢
  exact stands.append distinct

theorem Extends.lineFor {required : Bool} {l : Line} {f : Field} (h : Extends names reserved s s' nodes)
    (line : LineFor names s.blocks required l f) : LineFor names s'.blocks required l f :=
  ⟨line.field, line.required, h.stands line.stands⟩

/-- what a block prints for the line is read as the field -/
theorem LineFor.readLine {blocks : List Block} {required : Bool} {l : Line} {f : Field}
    (h : LineFor names blocks required l f) (b : Block) :
    b.readLine names blocks l = (f.name, required, f.type.canonical) ∧ Known names blocks (b.word l) := by
  obtain ⟨levels, word, prints, known, eq⟩ := h.stands
  rw [Block.word, Block.readLine, read_typeText b prints, eq, h.field, h.required]
  exact ⟨rfl, known⟩

theorem read_of_lines {blocks : List Block} {required : Bool} {lines : List Line} {fields : List Field}
    (h : List.Forall₂ (LineFor names blocks required) lines fields) (b : Block) :
    lines.map (b.readLine names blocks) = readFields required fields ∧
      ∀ l ∈ lines, Known names blocks (b.word l) := by
  induction h with
  | nil => exact ⟨rfl, by simp⟩
  | cons line _ ih =>
    obtain ⟨read, known⟩ := line.readLine b
    refine ⟨?_, ?_⟩
    · rw [List.map_cons, read, ih.1]
      rfl
    · intro m hm
      rcases List.mem_cons.1 hm with rfl | hm
      · exact known
      · exact ih.2 m hm

/-! ## Words -/

theorem named_class {record : String → Declaration} {word : String} (h : IsClassName word) (h' : word ∉ plainWords) :
    named names record word =
      ((names.find? fun c => className c == word).map Declaration.reference).getD (record word) := by
  have other : word ≠ "Any" := by
    rintro rfl
    exact h' (by decide)
  have dict : word ≠ "dict[str, Any]" := by
    rintro rfl
    exact absurd (h.word '[' (by decide)) (by decide)
  rw [named, if_neg other, if_neg dict, if_neg h']
  cases names.find? fun c => className c == word <;> rfl

/-- no two components share a class, and no class is a word of the language -/
structure Separate (names : List String) : Prop where
  distinct : (names.map className).Nodup
  proper : ∀ c ∈ names, className c ∉ plainWords

theorem find?_className {c : String} (h : Separate names) (hc : c ∈ names) :
    names.find? (fun d => className d == className c) = some c := by
  cases found : names.find? fun d => className d == className c with
  | none => exact absurd (List.find?_eq_none.1 found c hc) (by simp)
  | some d =>
    have same : className d = className c := by simpa using List.find?_some found
    rw [List.inj_on_of_nodup_map h.distinct (List.mem_of_find?_eq_some found) hc same]

theorem stands_any (blocks : List Block) (reason : String) : Stands names blocks .any (.any reason) :=
  ⟨0, "Any", prints_of_plain (by decide) (by decide), Or.inl (by decide), fun _ => by
    simp [unfold, Outline.declaration, nested, named, Declaration.canonical]⟩

theorem stands_builtin (blocks : List Block) {name : String} (h : name ∈ Declaration.builtins) :
    Stands names blocks (.builtin name) (.builtin name) := by
  refine ⟨_, _, prints_builtin h, ?_, fun required => ?_⟩
  · simp only [Declaration.builtins, List.mem_cons, List.not_mem_nil, or_false] at h
    rcases h with rfl | rfl | rfl | rfl | rfl | rfl <;> exact Or.inl (by decide)
  · simp only [Declaration.builtins, List.mem_cons, List.not_mem_nil, or_false] at h
    rcases h with rfl | rfl | rfl | rfl | rfl | rfl <;>
      simp [unfold, Outline.declaration, nested, named, Declaration.canonical, plainWords]

theorem Stands.list {blocks : List Block} {type : TypeExpr} {d : Declaration} (h : Stands names blocks type d) :
    Stands names blocks (.list type) (.list d) := by
  obtain ⟨levels, word, prints, known, eq⟩ := h
  refine ⟨levels + 1, word, prints.list, known, fun required => ?_⟩
  rw [Declaration.canonical, ← eq required]
  rfl

theorem stands_reference (blocks : List Block) {c : String} (h : Separate names) (hc : c ∈ names) :
    Stands names blocks (.component (className c)) (.reference c) := by
  refine ⟨0, className c, prints_className c, Or.inr (Or.inl ⟨c, hc, rfl⟩), fun required => ?_⟩
  rw [unfold, Outline.declaration, nested, named_class (isClassName_className c) (h.proper c hc),
    find?_className h hc, Declaration.canonical]
  rfl

/-- the class of the last block stands for its fields -/
theorem stands_record {blocks : List Block} {b : Block} {fields : List (String × Declaration)}
    (proper : IsClassName b.name ∧ b.name ∉ plainWords) (hoisted : b.name ∉ names.map className)
    (read : b.read names blocks = readFields false (recordFields fields)) :
    Stands names (blocks ++ [b]) (.record b.name) (.record fields) := by
  have self : className b.name = b.name := className_of_isClassName proper.1
  refine ⟨0, b.name, self ▸ prints_className b.name, Or.inr (Or.inr (by simp)), fun required => ?_⟩
  have absent : names.find? (fun c => className c == b.name) = none := by
    rw [List.find?_eq_none]
    intro c hc
    simpa using fun eq => hoisted (List.mem_map.2 ⟨c, hc, eq⟩)
  have types : b.lines.map (fun l => (l.field, unfold names blocks (Outline.read (b.typeText l)))) =
      Declaration.canonicalFields fields := by
    have pairs := congrArg (List.map fun r => (r.1, r.2.2)) read
    rw [Block.read, List.map_map, readFields, recordFields, List.map_map, List.map_map] at pairs
    rw [Declaration.canonicalFields_eq]
    exact pairs
  rw [unfold, Outline.declaration, nested, named_class proper.1 proper.2, absent, List.reverse_append,
    Declaration.canonical, ← types]
  simp only [List.reverse_cons, List.reverse_nil, List.nil_append, List.cons_append, recordIn, ↓reduceIte]
  rfl

/-! ## Steps of the printer -/

theorem fieldLines_cons (owner : String) (required : Bool) (f : Field) (rest : List Field) (s : Sheet) :
    Sheet.fieldLines owner required (f :: rest) s =
      let type := Sheet.annotate (owner ++ pascalCase f.name) f.type s
      let lines := Sheet.fieldLines owner required rest type.2
      (⟨f.name, type.1, f.description, required⟩ :: lines.1, lines.2) := rfl

theorem annotateFields_cons (owner name : String) (d : Declaration) (rest : List (String × Declaration)) (s : Sheet) :
    Sheet.annotateFields owner ((name, d) :: rest) s =
      let type := Sheet.annotate (owner ++ pascalCase name) d s
      let lines := Sheet.annotateFields owner rest type.2
      (⟨name, type.1, "", false⟩ :: lines.1, lines.2) := by
  rw [Sheet.annotateFields]
  rfl

/-- the fields of a record are printed like those of a component -/
theorem annotateFields_eq (owner : String) (fields : List (String × Declaration)) (s : Sheet) :
    Sheet.annotateFields owner fields s = Sheet.fieldLines owner false (recordFields fields) s := by
  induction fields generalizing s with
  | nil =>
    rw [Sheet.annotateFields]
    rfl
  | cons f rest ih =>
    obtain ⟨name, d⟩ := f
    rw [recordFields, List.map_cons, fieldLines_cons, annotateFields_cons]
    dsimp only
    rw [ih]
    rfl

theorem annotate_list (owner : String) (item : Declaration) (s : Sheet) :
    Sheet.annotate owner (.list item) s =
      let type := Sheet.annotate (owner ++ "Item") item s
      (.list type.1, type.2) := by
  rw [Sheet.annotate]
  rfl

theorem annotate_record_eq (owner : String) (fields : List (String × Declaration)) (s : Sheet) :
    Sheet.annotate owner (.record fields) s =
      let name := fresh s.taken (className (if owner = "" then "Record" else owner))
      let lines := Sheet.annotateFields name fields (s.use name)
      (.record name, addTo lines.2 ⟨name, lines.1⟩) := by
  rw [Sheet.annotate]
  rfl

theorem annotate_record {owner : String} (h : owner ≠ "") (fields : List (String × Declaration)) (s : Sheet) :
    Sheet.annotate owner (.record fields) s =
      let name := fresh s.taken (className owner)
      let lines := Sheet.fieldLines name false (recordFields fields) (s.use name)
      (.record name, addTo lines.2 ⟨name, lines.1⟩) := by
  rw [annotate_record_eq, if_neg h]
  dsimp only
  rw [annotateFields_eq]

/-- what the printer adds for a declaration, and what it prints of it there -/
def Annotates (names : List String) (owner : String) (d : Declaration) (s : Sheet) : Prop :=
  Extends names [] s (Sheet.annotate owner d s).2 (d.records.map .record) ∧
    Stands names (Sheet.annotate owner d s).2.blocks (Sheet.annotate owner d s).1 d

/-- the fields of a block, when each of them is printed right -/
theorem fieldLines_extends {owner : String} (required : Bool) {fields : List Field}
    (types : ∀ f ∈ fields, ∀ s, Inv names s → owner ∈ s.taken → Annotates names (owner ++ pascalCase f.name) f.type s)
    (inv : Inv names s) (used : owner ∈ s.taken) :
    Extends names [] s (Sheet.fieldLines owner required fields s).2
        ((fields.flatMap fun f => f.type.records).map .record) ∧
      List.Forall₂ (LineFor names (Sheet.fieldLines owner required fields s).2.blocks required)
        (Sheet.fieldLines owner required fields s).1 fields := by
  induction fields generalizing s with
  | nil => exact ⟨Extends.refl inv, .nil⟩
  | cons f rest ih =>
    obtain ⟨first, stands⟩ := types f List.mem_cons_self s inv used
    obtain ⟨later, lines⟩ := ih (fun g hg => types g (List.mem_cons_of_mem _ hg)) first.inv (first.taken used)
    rw [fieldLines_cons, List.flatMap_cons, List.map_append]
    exact ⟨first.trans later, .cons ⟨rfl, rfl, later.stands stands⟩ lines⟩

theorem use_extends (s : Sheet) (name : String) : s.taken ⊆ (s.use name).taken ∧ (s.use name).blocks = s.blocks := by
  unfold Sheet.use
  split
  · exact ⟨List.Subset.refl _, rfl⟩
  · exact ⟨List.subset_append_left _ _, rfl⟩

theorem Inv.use (h : Inv names s) (name : String) : Inv names (s.use name) := by
  obtain ⟨more, same⟩ := use_extends s name
  refine ⟨fun c hc => more (h.classes c hc), ?_, ?_, ?_, ?_⟩ <;> rw [same]
  · exact fun b hb => more (h.used b hb)
  · exact h.proper
  · exact h.distinct
  · exact h.known

/-- a block is added after those of a step -/
theorem Extends.addTo {node : Printed} {b : Block} (h : Extends names [] s s' nodes) (used : b.name ∈ s'.taken)
    (proper : IsClassName b.name ∧ b.name ∉ plainWords) (unprinted : b.name ∉ s'.blocks.map Block.name)
    (known : ∀ l ∈ b.lines, Known names s'.blocks (b.word l)) (declares : Declares names s'.blocks b node)
    (name : b.name ∈ reserved ∨ b.name ∉ s.taken) : Extends names reserved s (addTo s' b) (nodes ++ [node]) := by
  have inv := h.inv.addTo used proper unprinted known
  obtain ⟨new, eq, free, before⟩ := h.blocks
  refine ⟨inv, h.taken, new ++ [b], by rw [← List.append_assoc, ← eq]; rfl, ?_, ?_⟩
  · intro d hd
    rcases List.mem_append.1 hd with hd | hd
    · exact Or.inr ((free d hd).resolve_left List.not_mem_nil)
    · rwa [List.mem_singleton.1 hd]
  · refine List.rel_append ?_ (.cons (declares.of_read (read_append known inv.distinct)) .nil)
    exact h.inv.declares_append inv.distinct (fun d hd => by rw [eq]; exact List.mem_append_right _ hd) before

theorem records_record (fields : List (String × Declaration)) :
    (Declaration.record fields).records = ((recordFields fields).flatMap fun f => f.type.records) ++ [fields] := by
  rw [Declaration.records, Declaration.fieldRecords_eq, recordFields, List.flatMap_map]

/-- a record is printed behind the records in its fields, under a name that was free -/
theorem annotates_record {owner suffix : String} {fields : List (String × Declaration)} (proper : IsClassName owner)
    (used : owner ∈ s.taken) (h : IsSuffix suffix) (inv : Inv names s)
    (types : ∀ name, IsClassName name → ∀ f ∈ fields, ∀ s, Inv names s → name ∈ s.taken →
      Annotates names (name ++ pascalCase f.1) f.2 s) :
    Annotates names (owner ++ suffix) (.record fields) s := by
  have nonempty : owner ++ suffix ≠ "" := (proper.append h).ne_empty
  obtain ⟨isClass, notPlain⟩ := claimed_name proper used h
  have free := fresh_not_mem s.taken (className (owner ++ suffix))
  unfold Annotates
  rw [annotate_record nonempty]
  dsimp only
  generalize fresh s.taken (className (owner ++ suffix)) = name at isClass notPlain free ⊢
  have inv' := inv.use name
  obtain ⟨more, same⟩ := use_extends s name
  -- the name is in use before the fields are printed, so that no record inside takes it
  have claimed : name ∈ (s.use name).taken := Sheet.mem_use name s
  have each : ∀ f ∈ recordFields fields, ∀ s, Inv names s → name ∈ s.taken →
      Annotates names (name ++ pascalCase f.name) f.type s := by
    intro f hf
    obtain ⟨g, hg, rfl⟩ := List.mem_map.1 hf
    exact types name isClass g hg
  obtain ⟨inner, lines⟩ := fieldLines_extends false each inv' claimed
  generalize Sheet.fieldLines name false (recordFields fields) (s.use name) = r at inner lines ⊢
  obtain ⟨read, known⟩ := read_of_lines lines ⟨name, r.1⟩
  have unprinted : name ∉ r.2.blocks.map Block.name := by
    refine inner.unprinted claimed List.not_mem_nil fun mem => ?_
    rw [same] at mem
    obtain ⟨b, hb, rfl⟩ := List.mem_map.1 mem
    exact free (inv.used b hb)
  have hoisted : name ∉ names.map className := by
    intro mem
    obtain ⟨c, hc, rfl⟩ := List.mem_map.1 mem
    exact free (inv.classes c hc)
  rw [records_record, List.map_append]
  refine ⟨?_, stands_record ⟨isClass, notPlain⟩ hoisted read⟩
  exact (inner.weaken more same).addTo (inner.taken claimed) ⟨isClass, notPlain⟩ unprinted known ⟨hoisted, read⟩
    (Or.inr free)

/-- **What the printer adds for a declaration.** The owner is a class name in use with a suffix behind it: a list adds
to the suffix, and a record takes a class name of its own for its fields -/
theorem annotate_extends (separate : Separate names) {d : Declaration} (emitted : Declaration.Emitted names d) :
    ∀ owner suffix s, IsClassName owner → owner ∈ s.taken → IsSuffix suffix → Inv names s →
      Annotates names (owner ++ suffix) d s := by
  induction emitted with
  | builtin h =>
    intro owner suffix s _ _ _ inv
    exact ⟨Extends.refl inv, stands_builtin s.blocks h⟩
  | list _ ih =>
    intro owner suffix s proper used h inv
    obtain ⟨inner, stands⟩ := ih owner (suffix ++ "Item") s proper used (h.append isSuffix_item) inv
    rw [← String.append_assoc] at inner stands
    unfold Annotates
    rw [annotate_list]
    exact ⟨inner, stands.list⟩
  | record _ ih =>
    intro owner suffix s proper used h inv
    refine annotates_record proper used h inv fun name isClass f hf s inv used => ?_
    exact ih f hf name (pascalCase f.1) s isClass used (isSuffix_pascalCase f.1) inv
  | reference h =>
    intro owner suffix s _ _ _ inv
    exact ⟨Extends.refl inv, stands_reference s.blocks separate h⟩
  | any =>
    intro owner suffix s _ _ _ inv
    exact ⟨Extends.refl inv, stands_any s.blocks _⟩

/-! ## Components -/

theorem addComponent_eq (c : ComponentDeclaration) (s : Sheet) :
    (Sheet.addComponent c s).2 =
      let required := Sheet.fieldLines (className c.name) true c.required (s.use (className c.name))
      let optional := Sheet.fieldLines (className c.name) false c.optional required.2
      addTo optional.2 ⟨className c.name, required.1 ++ optional.1⟩ := rfl

/-- a component is printed behind the records in its fields -/
theorem addComponent_extends (separate : Separate names) {c : ComponentDeclaration} (name : c.name ∈ names)
    (emitted : ∀ f ∈ c.required ++ c.optional, Declaration.Emitted names f.type) (inv : Inv names s)
    (unprinted : className c.name ∉ s.blocks.map Block.name) :
    Extends names [className c.name] s (Sheet.addComponent c s).2 (printedFor c) := by
  have isClass := isClassName_className c.name
  have inv' := inv.use (className c.name)
  obtain ⟨more, same⟩ := use_extends s (className c.name)
  have used : className c.name ∈ (s.use (className c.name)).taken := Sheet.mem_use _ s
  have each : ∀ f ∈ c.required ++ c.optional, ∀ s, Inv names s → className c.name ∈ s.taken →
      Annotates names (className c.name ++ pascalCase f.name) f.type s := fun f hf s inv used =>
    annotate_extends separate (emitted f hf) _ _ s isClass used (isSuffix_pascalCase f.name) inv
  rw [addComponent_eq]
  dsimp only
  obtain ⟨first, lines⟩ := fieldLines_extends true (fun f hf => each f (List.mem_append_left _ hf)) inv' used
  generalize Sheet.fieldLines (className c.name) true c.required (s.use (className c.name)) = r at first lines ⊢
  obtain ⟨second, lines'⟩ :=
    fieldLines_extends false (fun f hf => each f (List.mem_append_right _ hf)) first.inv (first.taken used)
  generalize Sheet.fieldLines (className c.name) false c.optional r.2 = r' at second lines' ⊢
  have inner := first.trans second
  -- the lines of the required fields are read through the records of the optional ones, too
  have lines := lines.imp fun _ _ line => second.lineFor line
  obtain ⟨read, known⟩ := read_of_lines lines ⟨className c.name, r.1 ++ r'.1⟩
  obtain ⟨read', known'⟩ := read_of_lines lines' ⟨className c.name, r.1 ++ r'.1⟩
  have free : className c.name ∉ r'.2.blocks.map Block.name :=
    inner.unprinted used List.not_mem_nil (by rwa [same])
  have nodes : printedFor c = (((c.required.flatMap fun f => f.type.records).map .record) ++
      ((c.optional.flatMap fun f => f.type.records).map .record)) ++ [.component c] := by
    rw [printedFor, List.flatMap_append, List.map_append]
  rw [nodes]
  refine (inner.weaken more same).addTo (inner.taken used) ⟨isClass, separate.proper _ name⟩ free ?_ ⟨rfl, ?_⟩
    (Or.inl List.mem_cons_self)
  · intro l hl
    exact (List.mem_append.1 hl).elim (known l) (known' l)
  · rw [Block.read, List.map_append, read, read']

theorem addAll_cons (s : Sheet) (name : String) (schema : Component) (rest : List (String × Component)) :
    (Sheet.addAll s ((name, schema) :: rest)).value =
      (Sheet.addAll (Sheet.addComponent (ComponentDeclaration.ofComponent name schema).value s).2 rest).value := rfl

theorem emitted_ofComponent (name : String) {schema : Component} (h : ∀ r ∈ schema.references, r ∈ names) :
    ∀ f ∈ (ComponentDeclaration.ofComponent name schema).value.required ++
      (ComponentDeclaration.ofComponent name schema).value.optional, Declaration.Emitted names f.type := by
  rw [ComponentDeclaration.ofComponent_value, ← List.map_append]
  intro f hf
  obtain ⟨p, hp, rfl⟩ := List.mem_map.1 hf
  exact Declaration.emitted_ofNode p.type fun r hr => h r (List.mem_flatMap.2 ⟨p, hp, hr⟩)

/-- all components, none of which is printed yet -/
theorem addAll_extends (separate : Separate names) {components : List (String × Component)}
    (closed : ∀ c ∈ components, c.1 ∈ names ∧ ∀ r ∈ c.2.references, r ∈ names)
    (distinct : (components.map fun c => className c.1).Nodup) (inv : Inv names s)
    (unprinted : ∀ c ∈ components, className c.1 ∉ s.blocks.map Block.name) :
    Extends names (components.map fun c => className c.1) s (Sheet.addAll s components).value
      (printedNodes components) := by
  induction components generalizing s with
  | nil => exact Extends.refl inv
  | cons c rest ih =>
    obtain ⟨name, schema⟩ := c
    obtain ⟨isName, refs⟩ := closed _ List.mem_cons_self
    rw [List.map_cons, List.nodup_cons] at distinct
    have emitted := emitted_ofComponent name refs
    have named : (ComponentDeclaration.ofComponent name schema).value.name = name := by
      rw [ComponentDeclaration.ofComponent_value]
    rw [addAll_cons, printedNodes, List.flatMap_cons, List.map_cons]
    dsimp only at distinct isName ⊢
    generalize (ComponentDeclaration.ofComponent name schema).value = c at emitted named ⊢
    subst named
    have first := addComponent_extends separate isName emitted inv (unprinted (c.name, schema) List.mem_cons_self)
    have remaining : ∀ d ∈ rest, className d.1 ∉ (Sheet.addComponent c s).2.blocks.map Block.name := by
      intro d hd
      have used := inv.classes _ (closed d (List.mem_cons_of_mem _ hd)).1
      refine first.unprinted used ?_ (unprinted d (List.mem_cons_of_mem _ hd))
      intro own
      exact distinct.1 (List.mem_map.2 ⟨d, hd, List.mem_singleton.1 own⟩)
    exact first.trans (ih (fun c hc => closed c (List.mem_cons_of_mem _ hc)) distinct.2 first.inv remaining)

theorem reserve_taken (names : List String) (s : Sheet) :
    (Sheet.reserve names s).blocks = s.blocks ∧ s.taken ⊆ (Sheet.reserve names s).taken ∧
      ∀ c ∈ names, className c ∈ (Sheet.reserve names s).taken := by
  induction names generalizing s with
  | nil => exact ⟨rfl, List.Subset.refl _, by simp⟩
  | cons name rest ih =>
    obtain ⟨blocks, more, all⟩ := ih (s.use (className name))
    have own : className name ∈ (s.use (className name)).taken := Sheet.mem_use _ s
    obtain ⟨more', same⟩ := use_extends s (className name)
    refine ⟨blocks.trans same, fun taken used => more (more' used), fun c hc => ?_⟩
    rcases List.mem_cons.1 hc with rfl | hc
    · exact more own
    · exact all c hc

end

/-! ## Documentations -/

/-- the blocks that are printed for the components of a documentation -/
def printedBlocks (d : Documentation) : List Block := (Sheet.ofComponents d.components).value.blocks

theorem componentsText_value (d : Documentation) :
    (componentsText d).value = page (importLine "typing" ["Any", "NotRequired", "TypedDict"] ::
      (printedBlocks d).map fun b => "\n" ++ b.text ++ "\n") := rfl

/-- a page of blocks: behind its head and the import of what they are written with, their texts in order -/
def Pages (blocks : List Block) (page : String) : Prop :=
  ∃ texts, List.Forall₂ Block.WrittenAs blocks texts ∧
    page = "\n".intercalate ([head, "from typing import Any, NotRequired, TypedDict\n"] ++
      texts.map fun text => "\n" ++ text ++ "\n")

theorem pages_componentsText (d : Documentation) : Pages (printedBlocks d) (componentsText d).value := by
  have typing : importLine "typing" ["Any", "NotRequired", "TypedDict"] =
      "from typing import Any, NotRequired, TypedDict\n" := by decide
  refine ⟨(printedBlocks d).map Block.text, ?_, ?_⟩
  · rw [List.forall₂_map_right_iff]
    exact List.forall₂_same.2 fun b _ => b.writtenAs_text
  · rw [componentsText_value, page, typing, List.map_map]
    rfl

/-- the names that may not be the class of a component -/
def languageWords : List String := "list" :: "dict" :: plainWords

/-- **Hoisting is faithful.** When the classes of the components are distinct and no words of the language, and all
references name components, then there is one block for each record and component, under distinct names; each is read
back as what it is printed for; and a hoisted block stands in front of the blocks that mention it. The page has the blocks
in this order, with the annotations that are read behind the names of the fields. -/
theorem hoisting_faithful (d : Documentation) (distinct : (d.components.map fun c => className c.1).Nodup)
    (proper : ∀ c ∈ d.components, className c.1 ∉ languageWords)
    (closed : ∀ c ∈ d.components, ∀ r ∈ c.2.references, r ∈ d.components.map Prod.fst) :
    let names := d.components.map Prod.fst
    List.Forall₂ (Declares names (printedBlocks d)) (printedBlocks d) (printedNodes d.components) ∧
      ((printedBlocks d).map Block.name).Nodup ∧
      (∀ before b after, printedBlocks d = before ++ b :: after → ∀ l ∈ b.lines, ∀ hoisted ∈ printedBlocks d,
        hoisted.name ∉ names.map className → hoisted.name = b.word l → hoisted ∈ before) ∧
      Pages (printedBlocks d) (componentsText d).value := by
  intro names
  have separate : Separate names := by
    refine ⟨by rwa [List.map_map], fun c hc mem => ?_⟩
    obtain ⟨e, he, rfl⟩ := List.mem_map.1 hc
    exact proper e he (List.mem_cons_of_mem _ (List.mem_cons_of_mem _ mem))
  obtain ⟨blank, -, reserved⟩ := reserve_taken names {}
  have start : Inv names (Sheet.reserve names {}) := by
    refine ⟨reserved, ?_, ?_, ?_, ?_⟩ <;> rw [blank]
    · simp
    · simp
    · simp
    · intro before b after eq
      simp at eq
  have all := addAll_extends separate (fun c hc => ⟨List.mem_map_of_mem hc, closed c hc⟩) distinct start
    (fun c _ => by rw [blank]; simp)
  obtain ⟨new, eq, -, declares⟩ := all.blocks
  rw [blank] at eq
  have table : printedBlocks d = new := eq
  have inv : Inv names (Sheet.addAll (Sheet.reserve names {}) d.components).value := all.inv
  refine ⟨?_, inv.distinct, fun before b after split l hl hoisted hh absent mention => ?_, pages_componentsText d⟩
  · rw [eq] at declares
    rw [table]
    exact declares
  · obtain ⟨isClass, notPlain⟩ := inv.proper hoisted hh
    rcases inv.known before b after split l hl with plain | ⟨c, hc, same⟩ | front
    · rw [← mention] at plain
      rcases List.mem_cons.1 plain with dict | plain
      · exact absurd (isClass.word '[' (by rw [dict]; decide)) (by decide)
      · exact absurd plain notPlain
    · exact absurd (List.mem_map.2 ⟨c, hc, same.trans mention.symm⟩) absent
    · obtain ⟨other, inFront, same⟩ := List.mem_map.1 front
      have printed : other ∈ printedBlocks d := by
        rw [split]
        exact List.mem_append_left _ inFront
      rwa [← List.inj_on_of_nodup_map inv.distinct printed hh (same.trans mention.symm)]

/-- a record in a list in a record, whose first name is the class of another component -/
def layered : Documentation where
  components :=
    let inner : Node := .object [("y", .scalar "array")]
    let outer : Node := .object [("x", .array inner), ("z", .scalar "string")]
    [("Model", ⟨[⟨"m", outer, "", .str "", true⟩], [⟨"other-model", .component "ModelM", "", .str "", false⟩]⟩),
      ("ModelM", {})]

theorem layered_hoisted :
    (printedBlocks layered).map Block.name = ["ModelM2XItem", "ModelM2", "Model", "ModelM"] ∧
      List.Forall₂ (Declares ["Model", "ModelM"] (printedBlocks layered)) (printedBlocks layered)
        (printedNodes layered.components) ∧
      Pages (printedBlocks layered) (componentsText layered).value := by
  obtain ⟨declares, -, -, paged⟩ := hoisting_faithful layered (by decide) (by decide) (by decide)
  exact ⟨by decide, declares, paged⟩

end ApiTypes.Module
