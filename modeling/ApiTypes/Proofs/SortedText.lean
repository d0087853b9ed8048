/-
Nodes in another order.

A message about a node shows it as JSON in ASCII, with the entries of each mapping in the order of their keys. Two
descriptions that list the entries of their mappings in different orders, at any depth, or one of which has tuples for
lists, are shown by the same text: that of the one tree among them that has lists only and its keys in order.

Main statements: `ordered_eq_iff`, nodes that differ in order only have one ordered tree, and no others do;
`fullPreview_eq` and `fullPreview_eq_iff`, a node is shown as the text of its ordered tree, which tells the tree;
`report_reordered`, the messages about two such nodes.
-/
import Mathlib.Data.List.Nodup
import ApiTypes.Fault
import ApiTypes.Proofs.SpacedText

namespace ApiTypes

namespace Value

/-! ## Nodes -/

/-- the mapping with these fields -/
def ofFields (fields : List (String × Value)) : Value := .map (fields.map fun f => (.str f.1, f.2))

/-- the items as a sequence of either kind -/
inductive Sequence (items : List Value) : Value → Prop
  | list : Sequence items (.list items)
  | tuple : Sequence items (.tuple items)

/-- null, truth values, integers, texts, and sequences and mappings of them under different texts -/
inductive IsNode : Value → Prop
  | null : IsNode .null
  | bool (b : Bool) : IsNode (.bool b)
  | int (n : Int) : IsNode (.int n)
  | str (s : String) : IsNode (.str s)
  | items {items : List Value} {node : Value} (sequence : Sequence items node) (each : ∀ v ∈ items, IsNode v) :
      IsNode node
  | fields {fields : List (String × Value)} (distinct : (fields.map Prod.fst).Nodup) (each : ∀ f ∈ fields, IsNode f.2) :
      IsNode (ofFields fields)

/-- two values that differ at most in the order of entries and in the kind of sequences -/
inductive Reordered : Value → Value → Prop
  | same (v : Value) : Reordered v v
  | items {xs ys : List Value} {v w : Value} (left : Sequence xs v) (right : Sequence ys w)
      (length : xs.length = ys.length)
      (each : ∀ i (h : i < xs.length) (h' : i < ys.length), Reordered xs[i] ys[i]) : Reordered v w
  | fields {fs gs : List (String × Value)} (keys : (fs.map Prod.fst).Perm (gs.map Prod.fst))
      (each : ∀ name v w, (name, v) ∈ fs → (name, w) ∈ gs → Reordered v w) : Reordered (ofFields fs) (ofFields gs)

/-- a node without tuples whose mappings have their keys in order -/
inductive Sorted : Value → Prop
  | null : Sorted .null
  | bool (b : Bool) : Sorted (.bool b)
  | int (n : Int) : Sorted (.int n)
  | str (s : String) : Sorted (.str s)
  | items {items : List Value} (each : ∀ v ∈ items, Sorted v) : Sorted (.list items)
  | fields {fields : List (String × Value)} (rising : (fields.map Prod.fst).Pairwise (· < ·))
      (each : ∀ f ∈ fields, Sorted f.2) : Sorted (ofFields fields)

theorem ofFields_injective {fs gs : List (String × Value)} (h : ofFields fs = ofFields gs) : fs = gs := by
  have inj : Function.Injective fun f : String × Value => (Value.str f.1, f.2) := by
    rintro ⟨name, v⟩ ⟨name', v'⟩ eq
    cases eq
    rfl
  exact List.map_injective_iff.2 inj (Value.map.inj h)

theorem Sequence.eq {xs ys : List Value} {v : Value} (h : Sequence xs v) (h' : Sequence ys v) : xs = ys := by
  cases h <;> cases h' <;> rfl

theorem Sequence.ne_ofFields {items : List Value} {fields : List (String × Value)} :
    ¬ Sequence items (ofFields fields) := by
  rintro ⟨⟩

theorem IsNode.of_sequence {items : List Value} {v : Value} (node : IsNode v) (sequence : Sequence items v) :
    ∀ w ∈ items, IsNode w := by
  cases node with
  | items other each => exact sequence.eq other ▸ each
  | fields => exact absurd sequence Sequence.ne_ofFields
  | _ => cases sequence

theorem IsNode.of_fields {fields : List (String × Value)} (node : IsNode (ofFields fields)) :
    (fields.map Prod.fst).Nodup ∧ ∀ f ∈ fields, IsNode f.2 := by
  generalize eq : ofFields fields = v at node
  cases node with
  | items sequence => exact absurd (eq ▸ sequence) Sequence.ne_ofFields
  | fields distinct each =>
    obtain rfl := ofFields_injective eq
    exact ⟨distinct, each⟩
  | _ => cases eq

/-! ## Order of fields -/

/-- the fields in the order of their names -/
def sortFields (fields : List (String × Value)) : List (String × Value) :=
  fields.mergeSort fun f g => decide (f.1 ≤ g.1)

section

variable {fs gs : List (String × Value)}

theorem perm_sortFields (fields : List (String × Value)) : (sortFields fields).Perm fields :=
  List.mergeSort_perm _ _

theorem nodup_sortFields (distinct : (fs.map Prod.fst).Nodup) : ((sortFields fs).map Prod.fst).Nodup :=
  ((perm_sortFields fs).map Prod.fst).nodup_iff.2 distinct

theorem sortFields_rising (distinct : (fs.map Prod.fst).Nodup) : ((sortFields fs).map Prod.fst).Pairwise (· < ·) := by
  have le : (sortFields fs).Pairwise fun f g => decide (f.1 ≤ g.1) = true :=
    List.pairwise_mergeSort (by simpa using fun _ _ _ => String.le_trans) (by simpa using String.le_total) fs
  have ne := List.pairwise_map.1 (nodup_sortFields distinct)
  rw [List.pairwise_map]
  exact (le.and ne).imp fun h => Std.lt_of_le_of_ne (of_decide_eq_true h.1) h.2

/-- names in order are in no other order -/
theorem eq_of_rising (perm : fs.Perm gs) (rising : (fs.map Prod.fst).Pairwise (· < ·))
    (rising' : (gs.map Prod.fst).Pairwise (· < ·)) : fs = gs := by
  refine perm.eq_of_pairwise (fun f g _ _ less more => ?_) (List.pairwise_map.1 rising) (List.pairwise_map.1 rising')
  exact absurd (String.lt_trans less more) (String.lt_irrefl _)

theorem sortFields_eq_of_perm (perm : fs.Perm gs) (distinct : (fs.map Prod.fst).Nodup) :
    sortFields fs = sortFields gs := by
  have distinct' := (perm.map Prod.fst).nodup_iff.1 distinct
  refine eq_of_rising ?_ (sortFields_rising distinct) (sortFields_rising distinct')
  exact (perm_sortFields fs).trans (perm.trans (perm_sortFields gs).symm)

theorem sortFields_of_rising (rising : (fs.map Prod.fst).Pairwise (· < ·)) : sortFields fs = fs := by
  have distinct : (fs.map Prod.fst).Nodup := rising.imp Std.ne_of_lt
  exact eq_of_rising (perm_sortFields fs) (sortFields_rising distinct) rising

end

/-! ## The ordered tree -/

mutual

/-- the node with lists only, and the entries of its mappings in the order of their keys -/
def ordered : Value → Value
  | list items => .list (orderedItems items)
  | tuple items => .list (orderedItems items)
  | map entries => .map ((orderedEntries entries).mergeSort fun a b => keyLe a.1 b.1)
  | v => v

def orderedItems : List Value → List Value
  | [] => []
  | v :: rest => ordered v :: orderedItems rest

def orderedEntries : List (Value × Value) → List (Value × Value)
  | [] => []
  | (key, v) :: rest => (key, ordered v) :: orderedEntries rest

end

theorem orderedItems_eq_map (items : List Value) : orderedItems items = items.map ordered := by
  induction items with
  | nil => rfl
  | cons v rest ih => rw [orderedItems, ih, List.map_cons]

theorem orderedEntries_eq_map (entries : Entries) :
    orderedEntries entries = entries.map fun e => (e.1, ordered e.2) := by
  induction entries with
  | nil => rfl
  | cons e rest ih => rw [orderedEntries, ih, List.map_cons]

theorem Sequence.ordered {items : List Value} {v : Value} (h : Sequence items v) :
    v.ordered = .list (items.map Value.ordered) := by
  cases h <;> rw [Value.ordered, orderedItems_eq_map]

/-- the fields with their values ordered -/
def orderedFields (fields : List (String × Value)) : List (String × Value) := fields.map fun f => (f.1, f.2.ordered)

@[simp] theorem map_fst_orderedFields (fields : List (String × Value)) :
    (orderedFields fields).map Prod.fst = fields.map Prod.fst := by
  simp [orderedFields]

theorem ordered_ofFields (fields : List (String × Value)) :
    (ofFields fields).ordered = ofFields (sortFields (orderedFields fields)) := by
  have sorted : (sortFields (orderedFields fields)).map (fun f => (Value.str f.1, f.2)) =
      ((orderedFields fields).map fun f => (Value.str f.1, f.2)).mergeSort fun a b => keyLe a.1 b.1 :=
    List.map_mergeSort fun _ _ _ _ => rfl
  rw [ofFields, ofFields, ordered, orderedEntries_eq_map, sorted, orderedFields, List.map_map, List.map_map]
  rfl

theorem IsNode.sorted {v : Value} (node : IsNode v) : Sorted v.ordered := by
  induction node with
  | null => exact .null
  | bool b => exact .bool b
  | int n => exact .int n
  | str s => exact .str s
  | items sequence _ ih =>
    rw [sequence.ordered]
    exact .items (List.forall_mem_map.2 ih)
  | @fields fields distinct _ ih =>
    rw [ordered_ofFields]
    refine .fields (sortFields_rising (by simpa using distinct)) fun f mem => ?_
    obtain ⟨g, held, rfl⟩ := List.mem_map.1 ((perm_sortFields _).mem_iff.1 mem)
    exact ih g held

namespace Sorted

variable {tree : Value}

theorem isNode (sorted : Sorted tree) : IsNode tree := by
  induction sorted with
  | null => exact .null
  | bool b => exact .bool b
  | int n => exact .int n
  | str s => exact .str s
  | items _ ih => exact .items .list ih
  | fields rising _ ih => exact .fields (rising.imp Std.ne_of_lt) ih

/-- an ordered tree is left as it is -/
theorem ordered_eq (sorted : Sorted tree) : tree.ordered = tree := by
  induction sorted with
  | items _ ih => rw [Sequence.list.ordered, List.map_congr_left ih, List.map_id']
  | @fields fields rising _ ih =>
    have same : orderedFields fields = fields := by
      rw [orderedFields]
      exact (List.map_congr_left fun f mem => by rw [ih f mem]).trans (List.map_id' fields)
    rw [ordered_ofFields, same, sortFields_of_rising rising]
  | _ => rfl

end Sorted

/-! ## One tree for each order -/

/-- fields under one name of a mapping are one field -/
theorem eq_of_name {fields : List (String × Value)} (distinct : (fields.map Prod.fst).Nodup) {name : String}
    {v w : Value} (left : (name, v) ∈ fields) (right : (name, w) ∈ fields) : v = w :=
  congrArg Prod.snd (List.inj_on_of_nodup_map distinct left right rfl)

theorem perm_orderedFields {fs gs : List (String × Value)} (keys : (fs.map Prod.fst).Perm (gs.map Prod.fst))
    (distinct : (fs.map Prod.fst).Nodup)
    (each : ∀ name v w, (name, v) ∈ fs → (name, w) ∈ gs → v.ordered = w.ordered) :
    (orderedFields fs).Perm (orderedFields gs) := by
  have once : (orderedFields fs).Nodup := .of_map Prod.fst (by simpa using distinct)
  have once' : (orderedFields gs).Nodup := .of_map Prod.fst (by simpa using keys.nodup_iff.1 distinct)
  -- no field stands twice, so that it is enough that both have the same ones
  refine (List.perm_ext_iff_of_nodup once once').2 fun e => ?_
  simp only [orderedFields, List.mem_map]
  constructor
  · rintro ⟨⟨name, v⟩, mem, rfl⟩
    obtain ⟨⟨_, w⟩, held, rfl⟩ := List.mem_map.1 (keys.mem_iff.1 (List.mem_map_of_mem mem))
    exact ⟨_, held, by rw [each _ v w mem held]⟩
  · rintro ⟨⟨name, w⟩, held, rfl⟩
    obtain ⟨⟨_, v⟩, mem, rfl⟩ := List.mem_map.1 (keys.mem_iff.2 (List.mem_map_of_mem held))
    exact ⟨_, mem, by rw [each _ v w mem held]⟩

theorem Reordered.ordered_eq {v w : Value} (h : Reordered v w) (node : IsNode v) (node' : IsNode w) :
    v.ordered = w.ordered := by
  induction h with
  | same v => rfl
  | @items xs ys v w left right length _ ih =>
    have nodes := node.of_sequence left
    have nodes' := node'.of_sequence right
    rw [left.ordered, right.ordered]
    refine congrArg Value.list (List.ext_getElem (by simpa using length) fun i h h' => ?_)
    simp only [List.length_map] at h h'
    rw [List.getElem_map, List.getElem_map]
    exact ih i h h' (nodes _ (List.getElem_mem h)) (nodes' _ (List.getElem_mem h'))
  | @fields fs gs keys _ ih =>
    obtain ⟨distinct, nodes⟩ := node.of_fields
    obtain ⟨-, nodes'⟩ := node'.of_fields
    have perm := perm_orderedFields keys distinct fun name v w mem mem' =>
      ih name v w mem mem' (nodes _ mem) (nodes' _ mem')
    rw [ordered_ofFields, ordered_ofFields, sortFields_eq_of_perm perm (by simpa using distinct)]

/-- ordering a node that is no sequence and no mapping leaves it as it is, and makes no other node one -/
theorem IsNode.eq_of_scalar {v w : Value} (node : IsNode w) (h : v = w.ordered) (list : ∀ items, v ≠ .list items)
    (map : ∀ fields, v ≠ ofFields fields) : v = w := by
  cases node with
  | items sequence => exact absurd (h.trans sequence.ordered) (list _)
  | fields => exact absurd (h.trans (ordered_ofFields _)) (map _)
  | _ => exact h

theorem reordered_of_fields {fs gs : List (String × Value)} (distinct : (fs.map Prod.fst).Nodup)
    (same : sortFields (orderedFields fs) = sortFields (orderedFields gs))
    (each : ∀ f ∈ fs, ∀ g ∈ gs, f.2.ordered = g.2.ordered → Reordered f.2 g.2) :
    Reordered (ofFields fs) (ofFields gs) := by
  have perm : (orderedFields fs).Perm (orderedFields gs) :=
    (perm_sortFields _).symm.trans (same ▸ perm_sortFields _)
  have keys := perm.map Prod.fst
  rw [map_fst_orderedFields, map_fst_orderedFields] at keys
  refine .fields keys fun name v w mem mem' => each (name, v) mem (name, w) mem' ?_
  have held : (name, v.ordered) ∈ orderedFields gs := perm.mem_iff.1 (List.mem_map_of_mem (a := (name, v)) mem)
  have held' : (name, w.ordered) ∈ orderedFields gs := List.mem_map_of_mem (a := (name, w)) mem'
  exact eq_of_name (by simpa using keys.nodup_iff.1 distinct) held held'

theorem reordered_of_ordered_eq {v w : Value} (node : IsNode v) (node' : IsNode w) (h : v.ordered = w.ordered) :
    Reordered v w := by
  induction node generalizing w with
  | @items xs v left _ ih =>
    rw [left.ordered] at h
    cases node' with
    | @items ys w right nodes' =>
      rw [right.ordered] at h
      have same := Value.list.inj h
      refine .items left right (by simpa using congrArg List.length same) fun i h h' => ?_
      refine ih _ (List.getElem_mem h) (nodes' _ (List.getElem_mem h')) ?_
      simpa [h, h'] using congrArg (·[i]?) same
    | fields =>
      rw [ordered_ofFields] at h
      cases h
    | _ => cases h
  | @fields fs distinct _ ih =>
    rw [ordered_ofFields] at h
    cases node' with
    | @fields gs distinct' nodes' =>
      rw [ordered_ofFields] at h
      exact reordered_of_fields distinct (ofFields_injective h) fun f mem g mem' => ih f mem (nodes' g mem')
    | items sequence =>
      rw [sequence.ordered] at h
      cases h
    | _ => cases h
  | _ =>
    obtain rfl := node'.eq_of_scalar h (by simp [ordered]) (by simp [ordered, ofFields])
    exact .same _

/-- **Nodes that differ in order only have one ordered tree**, and no others do. -/
theorem ordered_eq_iff {v w : Value} (node : IsNode v) (node' : IsNode w) :
    v.ordered = w.ordered ↔ Reordered v w :=
  ⟨reordered_of_ordered_eq node node', fun h => h.ordered_eq node node'⟩

theorem IsNode.reordered {v : Value} (node : IsNode v) : Reordered v v.ordered :=
  (ordered_eq_iff node node.sorted.isNode).1 node.sorted.ordered_eq.symm

/-! ## The text of a node -/

theorem Sorted.isJson {tree : Value} (sorted : Sorted tree) : tree.IsJson := by
  induction sorted with
  | items _ ih => rwa [IsJson, isJsonItems_iff]
  | fields rising _ ih => exact isJson_named id (rising.imp Std.ne_of_lt) ih
  | _ => simp [IsJson]

theorem itemTexts?_eq {items : List Value} (text : Value → String)
    (each : ∀ v ∈ items, v.jsonText? = some (text v)) : itemTexts? items = some (items.map text) := by
  induction items with
  | nil => rfl
  | cons v rest ih =>
    rw [List.forall_mem_cons] at each
    rw [itemTexts?, each.1, ih each.2]
    rfl

theorem entryTexts?_eq {fields : List (String × Value)} (text : Value → String)
    (each : ∀ f ∈ fields, f.2.jsonText? = some (text f.2)) :
    entryTexts? (fields.map fun f => (.str f.1, f.2)) = some (fields.map fun f => (.str f.1, f.1, text f.2)) := by
  induction fields with
  | nil => rfl
  | cons f rest ih =>
    rw [List.forall_mem_cons] at each
    rw [List.map_cons, entryTexts?, each.1, ih each.2]
    rfl

theorem sortable_ofFields (fields : List (String × Value)) :
    sortable ((fields.map fun f => (Value.str f.1, f.2)).map Prod.fst) = true := by
  simp [sortable, text?]

theorem spaced_list (items : List Value) :
    Json.spaced (.list items) = "[" ++ ", ".intercalate (items.map Json.spaced) ++ "]" := by
  have texts : Json.spacedItems items = items.map Json.spaced := by
    induction items with
    | nil => rfl
    | cons v rest ih => rw [Json.spacedItems, ih, List.map_cons]
  rw [Json.spaced, texts]

/-- what is shown of a field: its name twice, to be sorted by and to be written, and its value -/
def fieldTexts (field : String × Value) : Value × String × String := (.str field.1, field.1, Json.spaced field.2)

theorem spaced_ofFields (fields : List (String × Value)) :
    Json.spaced (ofFields fields) =
      "\x7b" ++ ", ".intercalate ((fields.map fieldTexts).map entryText) ++ "\x7d" := by
  have texts : Json.spacedMembers (fields.map fun f => (.str f.1, f.2)) = (fields.map fieldTexts).map entryText := by
    induction fields with
    | nil => rfl
    | cons f rest ih =>
      rw [List.map_cons, Json.spacedMembers, ih]
      rfl
  rw [ofFields, Json.spaced, texts]

theorem IsNode.jsonText?_eq {v : Value} (node : IsNode v) : v.jsonText? = some (Json.spaced v.ordered) := by
  induction node with
  | null => rfl
  | bool b => rfl
  | int n => rfl
  | str s => simp [jsonText?, ordered, Json.spaced, quoteAscii]
  | items sequence _ ih =>
    have texts := itemTexts?_eq _ ih
    rw [sequence.ordered, spaced_list, List.map_map]
    cases sequence <;> (rw [jsonText?, texts]; rfl)
  | @fields fields _ _ ih =>
    have texts := entryTexts?_eq (fun v => Json.spaced v.ordered) ih
    have shown : (fields.map fun f => (Value.str f.1, f.1, Json.spaced f.2.ordered)) =
        (orderedFields fields).map fieldTexts := by
      rw [orderedFields, List.map_map]
      rfl
    -- sorting goes by names alone, and may come before the values are written or behind it
    have sorted : (sortFields (orderedFields fields)).map fieldTexts =
        ((orderedFields fields).map fieldTexts).mergeSort fun a b => keyLe a.1 b.1 :=
      List.map_mergeSort fun _ _ _ _ => rfl
    rw [ordered_ofFields, spaced_ofFields, sorted, ← shown]
    rw [ofFields, jsonText?, if_pos (sortable_ofFields fields), texts]
    rfl

/-- **A node is shown as the text of its ordered tree.** -/
theorem fullPreview_eq {v : Value} (node : IsNode v) : v.fullPreview = Json.spaced v.ordered := by
  rw [fullPreview, node.jsonText?_eq, Option.getD_some]

set_option maxRecDepth 2000 in
example : (ofFields [("b", .str "é"), ("a", .tuple [])]).fullPreview =
    "\x7b\"a\": [], \"b\": \"\\u00e9\"\x7d" := by
  cbv

/-- Nodes are shown by the same text, before it is cut, just when they differ in order only. -/
theorem fullPreview_eq_iff {v w : Value} (node : IsNode v) (node' : IsNode w) :
    v.fullPreview = w.fullPreview ↔ Reordered v w := by
  rw [fullPreview_eq node, fullPreview_eq node', ← ordered_eq_iff node node']
  constructor
  · intro same
    -- one text is read as one tree
    have read := Json.read_spaced node.sorted.isJson
    rw [same, Json.read_spaced node'.sorted.isJson] at read
    exact (Except.ok.inj read).symm
  · exact congrArg _

/-- what is shown of a text: all of it, or its first characters and three dots -/
inductive Shows (text : String) : String → Prop
  | all (short : text.length ≤ 300) : Shows text text
  | cut (long : 300 < text.length) : Shows text (String.ofList (text.toList.take 300) ++ "...")

theorem shows_shorten (text : String) : Shows text (shorten text) := by
  unfold shorten
  split
  · rename_i long
    exact .cut long
  · rename_i short
    exact .all (Nat.not_lt.1 short)

theorem Shows.isPlain {text shown : String} (h : Shows text shown) (plain : ∀ c ∈ text.toList, Json.IsPlain c) :
    ∀ c ∈ shown.toList, Json.IsPlain c := by
  cases h with
  | all => exact plain
  | cut =>
    refine Json.isPlain_append (fun c mem => ?_) (by simp [Json.IsPlain])
    rw [String.toList_ofList] at mem
    exact plain c (List.mem_of_mem_take mem)

end Value

open Value in
/-- **A message about a node does not depend on the order of entries, at any depth, nor on the kind of sequences.** The
node is shown in printable ASCII, in at most 303 characters, by the text of a tree with its keys in order, or by the
first 300 characters of that text and three dots. -/
theorem report_reordered {v w : Value} (node : IsNode v) (node' : IsNode w) (reordered : Reordered v w)
    (message location : String) :
    report message v location = report message w location ∧
      ∃ tree shown, Sorted tree ∧ Reordered v tree ∧ Reordered w tree ∧
        Json.read (Json.spaced tree) = .ok tree ∧ Shows (Json.spaced tree) shown ∧
        report message v location = message ++ " at " ++ location ++ ": " ++ shown ∧
        (∀ c ∈ shown.toList, Json.IsPlain c) ∧ shown.length ≤ 303 := by
  have same := reordered.ordered_eq node node'
  have preview : v.preview = w.preview := by
    rw [Value.preview, Value.preview, fullPreview_eq node, fullPreview_eq node', same]
  have shows : Shows (Json.spaced v.ordered) v.preview := by
    rw [Value.preview, fullPreview_eq node]
    exact shows_shorten _
  have json := node.sorted.isJson
  refine ⟨by rw [report, report, preview], v.ordered, v.preview, node.sorted, node.reordered, same ▸ node'.reordered,
    Json.read_spaced json, shows, rfl, shows.isPlain (Json.isPlain_spaced _ json), length_preview_le v⟩

namespace Value

/-- a property as it comes, with a tuple -/
def loose : Value :=
  ofFields [("type", .str "Größe"), ("enum", .tuple [.int (-1), ofFields [("b", .null), ("a", .bool true)]])]

/-- the same property in order -/
def tidy : Value :=
  ofFields [("enum", .list [.int (-1), ofFields [("a", .bool true), ("b", .null)]]), ("type", .str "Größe")]

theorem isNode_loose : IsNode loose := by
  have inner : IsNode (ofFields [("b", .null), ("a", .bool true)]) :=
    .fields (by decide) (by simp [IsNode.null, IsNode.bool])
  have items : IsNode (.tuple [.int (-1), ofFields [("b", .null), ("a", .bool true)]]) :=
    .items .tuple (by simp [inner, IsNode.int])
  exact .fields (by decide) (by simp [items, IsNode.str])

theorem sorted_tidy : Sorted tidy := by
  have inner : Sorted (ofFields [("a", .bool true), ("b", .null)]) :=
    .fields (by decide) (by simp [Sorted.null, Sorted.bool])
  have items : Sorted (.list [.int (-1), ofFields [("a", .bool true), ("b", .null)]]) :=
    .items (by simp [inner, Sorted.int])
  exact .fields (by decide) (by simp [items, Sorted.str])

/-- two fields that change places -/
theorem Reordered.swap {a b : String} {v v' w w' : Value} (apart : a ≠ b) (left : Reordered v v')
    (right : Reordered w w') : Reordered (ofFields [(a, v), (b, w)]) (ofFields [(b, w'), (a, v')]) := by
  refine .fields (.swap b a []) fun name x y mem mem' => ?_
  simp only [List.mem_cons, Prod.mk.injEq, List.not_mem_nil, or_false] at mem mem'
  rcases mem with ⟨rfl, rfl⟩ | ⟨rfl, rfl⟩ <;> rcases mem' with ⟨same, rfl⟩ | ⟨same, rfl⟩
  · exact absurd same apart
  · exact left
  · exact right
  · exact absurd same.symm apart

theorem reordered_loose : Reordered loose tidy := by
  refine .swap (by decide) (.same _) (.items .tuple .list rfl fun i h _ => ?_)
  match i, h with
  | 0, _ => exact .same _
  | 1, _ => exact .swap (by decide) (.same _) (.same _)

end Value

open Value in
theorem report_loose : IsNode loose ∧ IsNode tidy ∧ Reordered loose tidy ∧ loose ≠ tidy ∧
    report "property is not a mapping" loose "#/x" = report "property is not a mapping" tidy "#/x" ∧
    ∃ tree shown, Sorted tree ∧ Reordered loose tree ∧ Reordered tidy tree ∧
      Json.read (Json.spaced tree) = .ok tree ∧ Shows (Json.spaced tree) shown ∧
      report "property is not a mapping" loose "#/x" = "property is not a mapping" ++ " at " ++ "#/x" ++ ": " ++ shown ∧
      (∀ c ∈ shown.toList, Json.IsPlain c) ∧ shown.length ≤ 303 :=
  ⟨isNode_loose, sorted_tidy.isNode, reordered_loose, by simp [loose, tidy, ofFields],
    report_reordered isNode_loose sorted_tidy.isNode reordered_loose "property is not a mapping" "#/x"⟩

end ApiTypes
