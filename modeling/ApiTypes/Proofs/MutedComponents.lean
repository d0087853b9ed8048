/-
Components modules of documentations that differ in their free texts are lexed alike.

Of the free texts a components module holds the descriptions only, each in a comment of its own that ends where its line
ends. So two blocks that are the same without descriptions are lexed alike line by line, whatever the names in them are
made of: lexing comes through a line on both sides, or stops in it on both.

Main statements: `Block.lexedAlike`, for one block; `lexedAlike_components`, for whole modules.
-/
import ApiTypes.Proofs.LexedAlike
import ApiTypes.Proofs.Muting
import Mathlib.Algebra.Order.BigOperators.Group.List
import Mathlib.Algebra.Order.Group.Nat

namespace ApiTypes

/-- the texts of a documentation that are printed as they stand hold no null character -/
structure Documentation.Writable (d : Documentation) : Prop where
  descriptions : ∀ c ∈ d.components, ∀ p ∈ c.2.properties, '\x00' ∉ p.description.toList
  operations : ∀ op ∈ d.operations, '\x00' ∉ op.summary.toList ∧ '\x00' ∉ op.endpoint.toList

namespace Module

open Source Source.Lexing Text

/-! ## Lines -/

variable {same : List Token → List Token → Prop} {l l' : Line} {b b' : Block}

theorem Line.declared_mute (l : Line) : l.mute.declared = l.declared := rfl

theorem Line.isRemark (noNull : '\x00' ∉ l.description.toList) : IsRemark l.remark := by
  unfold remark
  split_ifs
  · exact isRemark_nil
  · obtain ⟨clean, oneLine⟩ := clean_oneLine noNull
    exact isRemark_comment (clean_cons.2 ⟨by decide, clean⟩) (by simpa using oneLine)

theorem lexes_marked {text : String} {tokens : List Token} (required : Bool) (h : Lexes text.toList tokens) :
    ∃ all, Lexes (Line.marked required text).toList all := by
  have head : "NotRequired[" = "NotRequired" ++ "[" := by decide
  unfold Line.marked
  split_ifs
  · exact ⟨_, h⟩
  · rw [head]
    exact ⟨_, lexes_itemOf (by decide) h⟩

/-- lines that are the same without their descriptions -/
theorem Line.lexedAlike (joins : Joins same) (eq : l.mute = l'.mute) (plain : isPlainField l.field = true)
    (type : l.type.Worded) (noNull : '\x00' ∉ l.description.toList) (noNull' : '\x00' ∉ l'.description.toList) :
    LexedAlike same True l.chars l'.chars := by
  have declared : l'.declared = l.declared := by rw [← l'.declared_mute, ← eq, l.declared_mute]
  have isName := (isPlainField_iff.1 plain).1
  have named : Spells 0 l.field.toList [.name l.field] := spells_name isName
  obtain ⟨tokens, typed, -⟩ := type.lexes
  obtain ⟨marked, lexes⟩ := lexes_marked l.required typed
  have field : Lexes l.declared _ := named.lexes.append (glues_colon.lexes lexes) rfl
  have outcome : (True ∧ Passes 0 l.declared _) ∨ Breaks 0 l.declared :=
    (field.outcome 0 (Nat.zero_le _)).imp_left fun passes => ⟨trivial, passes⟩
  have line := lexedAlike_line joins field.clean outcome (.inr rfl) (startsLine_name isName _)
    (by simp [Line.declared]) .plain
  rw [l.chars_eq, l'.chars_eq, declared]
  exact (((isRemark noNull).lexedAlike joins (isRemark noNull')).append joins line).imp And.right

/-! ## Blocks -/

/-- the name of a block is a class name, its types are worded and its descriptions hold no null character -/
structure Block.Worded (b : Block) : Prop where
  name : IsClassName b.name
  types : ∀ l ∈ b.lines, l.type.Worded
  descriptions : ∀ l ∈ b.lines, '\x00' ∉ l.description.toList

/-- the members of two lists that have the same images, in pairs -/
theorem exists_pairs {α β : Type} {f : α → β} {l l' : List α} (h : l.map f = l'.map f) :
    ∃ pairs : List (α × α), pairs.map Prod.fst = l ∧ pairs.map Prod.snd = l' ∧
      ∀ p ∈ pairs, p.1 ∈ l ∧ p.2 ∈ l' ∧ f p.1 = f p.2 := by
  induction l generalizing l' with
  | nil =>
    rw [List.map_nil] at h
    exact ⟨[], rfl, (List.map_eq_nil_iff.1 h.symm).symm, by simp⟩
  | cons a rest ih =>
    obtain ⟨b, rest', rfl, eq, others⟩ := List.map_eq_cons_iff.1 h.symm
    obtain ⟨pairs, first, second, all⟩ := ih others.symm
    refine ⟨(a, b) :: pairs, by rw [List.map_cons, first], by rw [List.map_cons, second], ?_⟩
    rw [List.forall_mem_cons]
    refine ⟨⟨List.mem_cons_self, List.mem_cons_self, eq.symm⟩, fun p hp => ?_⟩
    obtain ⟨mem, mem', alike⟩ := all p hp
    exact ⟨List.mem_cons_of_mem _ mem, List.mem_cons_of_mem _ mem', alike⟩

theorem Block.name_mute (b : Block) : b.mute.name = b.name := rfl

theorem Block.isClass_mute (b : Block) : b.mute.isClass = b.isClass := by
  rw [isClass, isClass, mute, List.all_map]
  rfl

theorem Block.call_mute (b : Block) : b.mute.call = b.call := by
  unfold call mute
  rw [List.map_map]
  rfl

/-- the bodies of classes with the same fields -/
theorem Block.lexedAlike_body (joins : Joins same) (eq : b.mute = b'.mute) (isClass : b.isClass = true) (h : b.Worded)
    (h' : b'.Worded) : LexedAlike same True b.body b'.body := by
  have lines : b.lines.map Line.mute = b'.lines.map Line.mute := congrArg Block.lines eq
  have empty : b.lines = [] ↔ b'.lines = [] := by
    rw [← List.map_eq_nil_iff (f := Line.mute), lines, List.map_eq_nil_iff]
  unfold body
  by_cases none : b.lines = []
  · have pass : Spells 0 "pass".toList [.name "pass"] := spells_name (by decide)
    rw [if_pos none, if_pos (empty.1 none)]
    exact lexedAlike_line joins pass.clean (.inl ⟨trivial, pass.passes (by omega)⟩) (.inr rfl) rfl (by decide) .plain
  · obtain ⟨pairs, first, second, all⟩ := exists_pairs lines
    have fields : ∀ l ∈ b.lines, isPlainField l.field = true := List.all_eq_true.1 isClass
    have each : ∀ p ∈ pairs, LexedAlike same True p.1.chars p.2.chars := by
      intro p hp
      obtain ⟨mem, mem', alike⟩ := all p hp
      exact Line.lexedAlike joins alike (fields _ mem) (h.types _ mem) (h.descriptions _ mem) (h'.descriptions _ mem')
    have bodies := lexedAlike_flatMap joins each
    rw [if_neg none, if_neg fun none' => none (empty.2 none'), ← first, ← second, List.flatMap_map, List.flatMap_map]
    exact bodies.imp fun _ => trivial

/-- **Blocks that are the same without descriptions are lexed alike**, in either form. -/
theorem Block.lexedAlike (joins : Joins same) (eq : b.mute = b'.mute) (h : b.Worded) (h' : b'.Worded) :
    LexedAlike same True (b.text ++ "\n").toList (b'.text ++ "\n").toList := by
  have isClass : b'.isClass = b.isClass := by rw [← b'.isClass_mute, ← b.isClass_mute, eq]
  have name : b'.name = b.name := by rw [← b'.name_mute, ← eq, b.name_mute]
  have named := h.name.isWord
  unfold text
  rw [isClass]
  split_ifs with asClass
  · have heading : b'.heading = b.heading := by
      unfold heading
      rw [name]
    have word : Spells 0 "class".toList [.name "class"] := spells_name (by decide)
    have base : Spells 0 "TypedDict".toList [.name "TypedDict"] := spells_name (by decide)
    have bases := base.lexes.brackets (by decide : '(' ∈ openings) rfl
    have head : Lexes b.heading _ := word.lexes.append (glues_blank.lexes (named.lexes.append bases rfl)) rfl
    have outcome : (True ∧ Passes 0 b.heading _) ∨ Breaks 0 b.heading :=
      (head.outcome 0 (Nat.zero_le _)).imp_left fun passes => ⟨trivial, passes⟩
    have line := lexedAlike_line joins head.clean outcome (.inl rfl) rfl (List.cons_ne_nil _ _) .colon
    have whole := line.append joins (Block.lexedAlike_body joins eq asClass h h')
    rw [b.toList_classText, b'.toList_classText, heading]
    simpa using whole.imp fun _ => trivial
  · have nonempty : b.lines ≠ [] := fun empty => asClass (by rw [Block.isClass, empty, List.all_nil])
    have call : b'.call = b.call := by rw [← b'.call_mute, ← b.call_mute, eq]
    obtain ⟨tokens, e, entries, spells, -, -⟩ := Block.spells_call nonempty
    have behind := glues_equals.before spells
    have outcome : (True ∧ Passes 0 (b.name.toList ++ (" = ".toList ++ b.call)) ([.name b.name] ++ ([.mark "="] ++ tokens))) ∨
        Breaks 0 (b.name.toList ++ (" = ".toList ++ b.call)) := by
      rcases named.lexes.outcome 0 (Nat.zero_le _) with passes | breaks
      · exact .inl ⟨trivial, passes.append (behind.passes (by omega)) rfl⟩
      · exact .inr (breaks.append rfl)
    have clean : Clean (b.name.toList ++ (" = ".toList ++ b.call)) := clean_append.2 ⟨named.clean, behind.clean⟩
    have line := lexedAlike_line joins clean outcome (.inl rfl) (named.startsLine _) (by simp) .plain
    rw [b.toList_callText, b'.toList_callText, name, call]
    exact line

/-! ## Pages -/

section

variable {d d' : Documentation} {names : List String} {table : List Entry}

/-- what shows a declaration is worded, whatever the classes are called -/
theorem Shows.worded {type : TypeExpr} {declaration : Declaration} (h : Shows table type declaration)
    (emitted : declaration.Emitted names) (records : ∀ e ∈ table, IsClassName e.1.name) : type.Worded := by
  induction h with
  | builtin =>
    cases emitted with
    | builtin known => exact worded_builtin known
  | list _ ih =>
    cases emitted with
    | list emitted => exact ih emitted
  | record mem => exact records _ mem
  | reference => exact isClassName_className _
  | any => exact Or.inl (by decide)

theorem Tabled.isClassName {s : Sheet} (h : Tabled names s table) {e : Entry} (he : e ∈ table) :
    IsClassName e.1.name := by
  have drawn := h.drawn e he
  rcases h.named e he with ⟨c, eq, -⟩ | ⟨-, c, -, suffix, isSuffix, -, eq⟩
  · rw [Drawn, eq] at drawn
    rw [drawn.1]
    exact isClassName_className _
  · rw [eq]
    exact (isClassName_className c).append isSuffix

/-- properties can be printed when no description holds a null character, with some limit to their levels -/
theorem exists_fine (h : d.Writable) : ∃ names limit, ∀ c ∈ d.components, ∀ p ∈ c.2.properties,
    FineField names limit (Field.declared p) := by
  refine ⟨d.components.flatMap fun c => c.2.references, (d.nodes.map Node.arrayDepth).sum, fun c hc p hp => ?_⟩
  have depth : p.type.arrayDepth ≤ (d.nodes.map Node.arrayDepth).sum := by
    refine List.le_sum_of_mem (List.mem_map_of_mem (List.mem_append_left _ ?_))
    exact List.mem_flatMap.2 ⟨c, hc, List.mem_map_of_mem hp⟩
  refine ⟨.ofNode (fun name mem => ?_) depth, h.descriptions c hc p hp⟩
  exact List.mem_flatMap.2 ⟨c, hc, List.mem_flatMap.2 ⟨p, hp, mem⟩⟩

theorem worded_of_mem (h : d.Writable) {b : Block} (hb : b ∈ printedBlocks d) : b.Worded := by
  obtain ⟨tabled, nodes⟩ := printedTable_tabled d
  have blocks : printedBlocks d = (printedTable d).map Prod.fst := tabled.blocks
  rw [blocks] at hb
  obtain ⟨e, he, rfl⟩ := List.mem_map.1 hb
  obtain ⟨names, limit, fine⟩ := exists_fine h
  have printed : e.2 ∈ printedNodes d.components := by
    rw [← nodes]
    exact List.mem_map_of_mem he
  refine ⟨tabled.isClassName he, fun l hl => ?_, fun l hl => ?_⟩ <;>
    obtain ⟨f, hf, required, line⟩ := (tabled.drawn e he).line hl <;>
    have fineField := fine_of_mem_printedNodes fine printed f hf
  · exact line.type.worded fineField.type.emitted fun e he => tabled.isClassName he
  · rw [line.description]
    exact fineField.description

/-- the part of a page that a block is -/
theorem Block.partsAlike (joins : Joins same) (eq : b.mute = b'.mute) (h : b.Worded) (h' : b'.Worded) :
    PartsAlike same True ("\n" ++ b.text ++ "\n") ("\n" ++ b'.text ++ "\n") := by
  have alike := Block.lexedAlike joins eq h h'
  have ends (b : Block) : (b.text ++ "\n").toList.getLast? = some '\n' := by
    rw [String.toList_append, List.getLast?_append]
    rfl
  have block : PartsAlike same True (b.text ++ "\n") (b'.text ++ "\n") := by
    refine ⟨?_, ends b, ends b'⟩
    rw [alike.clean.lineFeeds, alike.clean'.lineFeeds]
    exact alike
  rw [String.append_assoc, String.append_assoc]
  exact block.below joins

/-- **The components modules of documentations that differ in their free texts are lexed alike.** -/
theorem lexedAlike_components (eq : d.mute = d'.mute) (h : d.Writable) (h' : d'.Writable) :
    LexedAlike Eq True (closeLines (componentsText d).value.toList) (closeLines (componentsText d').value.toList) := by
  have blocks : (printedBlocks d).map Block.mute = (printedBlocks d').map Block.mute := by
    rw [← mute_printedBlocks, ← mute_printedBlocks, eq]
  obtain ⟨pairs, first, second, all⟩ := exists_pairs blocks
  have typing : IsPart (importLine "typing" ["Any", "NotRequired", "TypedDict"]) _ :=
    isPart_importLine spells_typing (by decide) (by decide) (by decide)
  have each : ∀ p ∈ pairs, PartsAlike Eq True ("\n" ++ p.1.text ++ "\n") ("\n" ++ p.2.text ++ "\n") := by
    intro p hp
    obtain ⟨mem, mem', alike⟩ := all p hp
    exact Block.partsAlike joins_eq alike (worded_of_mem h mem) (worded_of_mem h' mem')
  have parts := ((typing.alike joins_eq).list joins_eq).append joins_eq
    (listsAlike_map (f := fun b : Block => "\n" ++ b.text ++ "\n") joins_eq each)
  rw [first, second] at parts
  rw [componentsText_value, componentsText_value]
  exact (parts.page joins_eq).imp fun _ => trivial

end

end Module

end ApiTypes
