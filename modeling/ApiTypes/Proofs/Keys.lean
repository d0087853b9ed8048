/-
The keys of a printed component.

A component is printed as a class where every field name can stand as it is, and as a call with quoted names otherwise.
Quoted names are read as they are. The names of a class are compared in their canonical form, so that a name which is
not in this form is declared as another key: the test for names that can stand as they are does not ask for it. Nor does
a description with a null character hinder a class, in which it cannot be read.

Main statements: `exists_addComponent`, the block of a component; `declares_keys_iff`, exactly when the block declares
the field names of its component; `ligature_undeclared`, a component of which it does not.
-/
import ApiTypes.Proofs.Legibility

namespace ApiTypes

/-- the fields in the order in which they are printed -/
def ComponentDeclaration.fields (c : ComponentDeclaration) : List Field := c.required ++ c.optional

/-- the names of the fields, each with whether it is required -/
def ComponentDeclaration.keys (c : ComponentDeclaration) : List (String × Bool) :=
  c.required.map (fun f => (f.name, true)) ++ c.optional.map fun f => (f.name, false)

namespace Module

open ApiTypes.Text ApiTypes.Source

/-- read by itself, the block is one statement that declares these keys -/
def Block.DeclaresKeys (b : Block) (keys : List (String × Bool)) : Prop :=
  ∃ s, Source.read (b.text ++ "\n") = .ok [s] ∧ s.keys = keys

/-! ## One-line texts -/

theorem exists_word_of_mem {separator : Char → Bool} {c : Char} (h : separator c = false) (word text : List Char)
    (mem : c ∈ word ∨ c ∈ text) : ∃ w ∈ wordsFrom separator word text, c ∈ w := by
  induction text generalizing word with
  | nil =>
    have inside := mem.resolve_right List.not_mem_nil
    rw [wordsFrom, if_neg (by cases word <;> simp_all)]
    exact ⟨_, List.mem_cons_self, List.mem_reverse.2 inside⟩
  | cons d rest ih =>
    rw [wordsFrom]
    split
    · rename_i isSeparator
      have other : c ≠ d := by
        rintro rfl
        rw [h] at isSeparator
        exact Bool.false_ne_true isSeparator
      split
      · rename_i empty
        refine ih [] (Or.inr ?_)
        rcases mem with mem | mem
        · rw [List.isEmpty_iff.1 empty] at mem
          cases mem
        · exact (List.mem_cons.1 mem).resolve_left other
      · rcases mem with mem | mem
        · exact ⟨_, List.mem_cons_self, List.mem_reverse.2 mem⟩
        · obtain ⟨w, hw, inside⟩ := ih [] (Or.inr ((List.mem_cons.1 mem).resolve_left other))
          exact ⟨w, List.mem_cons_of_mem _ hw, inside⟩
    · refine ih (d :: word) ?_
      rcases mem with mem | mem
      · exact Or.inl (List.mem_cons_of_mem _ mem)
      · exact (List.mem_cons.1 mem).imp (fun own => List.mem_cons.2 (Or.inl own)) id

theorem mem_intercalate_of_mem {c : Char} {separator w : List Char} {words : List (List Char)} (h : w ∈ words)
    (mem : c ∈ w) : c ∈ separator.intercalate words := by
  induction words with
  | nil => cases h
  | cons first rest ih =>
    cases rest with
    | nil =>
      rw [← List.mem_singleton.1 h]
      simpa using mem
    | cons second rest =>
      rw [List.intercalate_cons_cons, List.mem_append, List.mem_append]
      rcases List.mem_cons.1 h with rfl | h
      · exact Or.inl (Or.inl mem)
      · exact Or.inr (ih h)

/-- characters that are no blanks stay on one line -/
theorem mem_oneLine {c : Char} {text : String} (h : Text.isBlank c = false) (mem : c ∈ text.toList) :
    c ∈ (oneLine text).toList := by
  obtain ⟨w, hw, inside⟩ := exists_word_of_mem h [] text.toList (Or.inr mem)
  rw [oneLine, String.toList_ofList]
  exact mem_intercalate_of_mem hw inside

/-- a class shows every description, so that a null character in one of them is in the class -/
theorem null_mem_classText {b : Block} {l : Line} (hl : l ∈ b.lines) (h : '\x00' ∈ l.description.toList) :
    '\x00' ∈ b.classText.toList := by
  have shown : l.description ≠ "" := by
    intro empty
    rw [empty] at h
    cases h
  have comment : Line.indent ++ "# " ++ oneLine l.description ∈ l.classLines := by
    rw [Line.classLines, if_neg shown]
    exact List.mem_append_left _ List.mem_cons_self
  have body : Line.indent ++ "# " ++ oneLine l.description ∈ b.lines.flatMap Line.classLines :=
    List.mem_flatMap.2 ⟨l, hl, comment⟩
  have null : '\x00' ∈ (Line.indent ++ "# " ++ oneLine l.description).toList := by
    rw [String.toList_append]
    exact List.mem_append_right _ (mem_oneLine (by decide) h)
  have full : (b.lines.flatMap Line.classLines).isEmpty = false := by
    rw [List.isEmpty_eq_false_iff]
    exact List.ne_nil_of_mem body
  rw [Block.classText, String.toList_append]
  refine List.mem_append_right _ ?_
  rw [full, if_neg Bool.false_ne_true, String.toList_intercalate]
  exact mem_intercalate_of_mem (List.mem_map_of_mem body) null

/-! ## Blocks -/

section

variable {b : Block}

/-- the call declares the names of its lines, whatever they and their types are -/
theorem declaresKeys_call (plain : isPlainField b.name = true) (h : b.isClass = false) : b.DeclaresKeys b.keys := by
  have nonempty : b.lines ≠ [] := by
    intro empty
    rw [Block.isClass, empty] at h
    cases h
  obtain ⟨e, isPart, keys⟩ := Block.isPart_call plain nonempty
  refine ⟨_, ?_, keys⟩
  rw [Block.text, h]
  exact isPart.read

/-- a class declares the canonical names of its lines -/
theorem declaresKeys_class (h : b.Legible) (isClass : b.isClass = true) : b.DeclaresKeys b.classKeys := by
  obtain ⟨body, isPart, keys⟩ := h.isPart_class isClass
  refine ⟨_, ?_, keys⟩
  rw [Block.text, if_pos isClass]
  exact isPart.read

theorem Block.DeclaresKeys.unique {keys other : List (String × Bool)} (h : b.DeclaresKeys keys)
    (h' : b.DeclaresKeys other) : keys = other := by
  obtain ⟨s, read, rfl⟩ := h
  obtain ⟨s', read', rfl⟩ := h'
  rw [read] at read'
  obtain ⟨rfl⟩ : s = s' := by simpa using read'
  rfl

/-- a class with a null character in a description is not read -/
theorem not_declaresKeys_null (isClass : b.isClass = true) {l : Line} (hl : l ∈ b.lines)
    (h : '\x00' ∈ l.description.toList) (keys : List (String × Bool)) : ¬ b.DeclaresKeys keys := by
  rintro ⟨s, read, -⟩
  have null : '\x00' ∈ (b.text ++ "\n").toList := by
    rw [String.toList_append, Block.text, if_pos isClass]
    exact List.mem_append_left _ (null_mem_classText hl h)
  rw [read_null _ null] at read
  cases read

theorem keys_eq_classKeys_iff : b.classKeys = b.keys ↔ ∀ l ∈ b.lines, canonical l.field = l.field := by
  rw [Block.classKeys, Block.keys, List.map_inj_left]
  simp only [Prod.mk.injEq, and_true]

end

/-! ## Components -/

section

variable {table : List Entry} {b : Block} {c : ComponentDeclaration} {names : List String}

theorem map_of_shows {α : Type} {required : Bool} {lines : List Line} {fields : List Field}
    (h : List.Forall₂ (LineShows table required) lines fields) (g : String → Bool → String → α) :
    lines.map (fun l => g l.field l.required l.description) = fields.map fun f => g f.name required f.description := by
  induction h with
  | nil => rfl
  | cons line _ ih => rw [List.map_cons, List.map_cons, ih, line.field, line.required, line.description]

/-- the lines of a component's block have the names of its fields, and what is required is marked as that -/
theorem Drawn.keys (h : Drawn table (b, .component c)) : b.keys = c.keys := by
  obtain ⟨-, required, optional, eq, first, second⟩ := h
  rw [Block.keys, eq, List.map_append, map_of_shows first fun name required _ => (name, required),
    map_of_shows second fun name required _ => (name, required), ComponentDeclaration.keys]

/-- what holds of the names and descriptions of all lines holds of those of all fields -/
theorem Drawn.forall_iff (h : Drawn table (b, .component c)) (P : String → String → Prop) :
    (∀ l ∈ b.lines, P l.field l.description) ↔ ∀ f ∈ c.fields, P f.name f.description := by
  obtain ⟨-, required, optional, eq, first, second⟩ := h
  have same : b.lines.map (fun l => (l.field, l.description)) = c.fields.map fun f => (f.name, f.description) := by
    rw [eq, List.map_append, map_of_shows first fun name _ description => (name, description),
      map_of_shows second fun name _ description => (name, description), ComponentDeclaration.fields, List.map_append]
  have lines : (∀ l ∈ b.lines, P l.field l.description) ↔
      ∀ p ∈ b.lines.map (fun l => (l.field, l.description)), P p.1 p.2 := by simp
  rw [lines, same]
  simp

/-- before the block of a component on a sheet, its class name comes into use -/
theorem exists_addComponent (c : ComponentDeclaration) (s : Sheet) :
    ∃ s' inner b, (Sheet.addComponent c s).2 = addTo s' b ∧
      Grows (className c.name) (s.use (className c.name)) s' inner ∧ Drawn inner (b, .component c) := by
  have used : className c.name ∈ (s.use (className c.name)).taken := Sheet.mem_use _ s
  obtain ⟨s', inner, b, eq, grows, -, drawn⟩ := addComponent_grows used
  refine ⟨s', inner, b, ?_, grows, drawn⟩
  rw [← eq, addComponent_eq, addComponent_eq, use_of_mem used]

/-- the block is legible when the types can be printed and no description holds a null character -/
theorem Drawn.legible {root : String} {s s' : Sheet} (h : Drawn table (b, .component c))
    (grows : Grows root s s' table) (plain : isPlainField root = true) (name : isPlainField (className c.name) = true)
    (classes : ∀ n ∈ names, isPlainField (className n) = true) (fine : ∀ f ∈ c.fields, FineField names 100 f) :
    b.Legible := by
  have records : ∀ e ∈ table, isPlainField e.1.name = true := by
    intro e he
    obtain ⟨suffix, isSuffix, ne, eq⟩ := grows.named e he
    rw [eq]
    exact isPlainField_append plain isSuffix ne
  have own : b.name = className c.name := h.1
  refine ⟨own ▸ name, fun l hl => ?_, fun l hl => ?_⟩ <;> obtain ⟨f, hf, required, line⟩ := h.line hl
  · obtain ⟨legible, levels⟩ := line.type.legible (fine f hf).type.emitted classes records
    exact ⟨legible, levels ▸ (fine f hf).type.shallow.levels_le⟩
  · rw [line.description]
    exact (fine f hf).description

/-- **A printed component declares exactly its keys, unless a class shows a name that is not canonical.** The block is a
class exactly when every field name can stand as it is. As a call it declares each field under its name, with its own
mark. As a class it declares the canonical names, which are the field names exactly when these are canonical, and it is
read only if no description holds a null character. -/
theorem declares_keys_iff (c : ComponentDeclaration) (s : Sheet) (name : isPlainField (className c.name) = true)
    (classes : ∀ n ∈ names, isPlainField (className n) = true)
    (types : (∀ f ∈ c.fields, isPlainField f.name = true) → ∀ f ∈ c.fields, f.type.Fine names 100) :
    ∃ b, (Sheet.addComponent c s).2.blocks.getLast? = some b ∧ b.name = className c.name ∧
      (b.isClass = true ↔ ∀ f ∈ c.fields, isPlainField f.name = true) ∧
      (b.isClass = false → b.DeclaresKeys c.keys) ∧
      (b.isClass = true → (b.DeclaresKeys c.keys ↔
        ∀ f ∈ c.fields, canonical f.name = f.name ∧ '\x00' ∉ f.description.toList)) := by
  obtain ⟨s', inner, b, eq, grows, drawn⟩ := exists_addComponent c s
  have own : b.name = className c.name := drawn.1
  have isClass : b.isClass = true ↔ ∀ f ∈ c.fields, isPlainField f.name = true := by
    rw [Block.isClass, List.all_eq_true]
    exact drawn.forall_iff fun name _ => isPlainField name = true
  refine ⟨b, ?_, own, isClass, fun asCall => ?_, fun asClass => ?_⟩
  · rw [eq, addTo_blocks, List.getLast?_append]
    rfl
  · rw [← drawn.keys]
    exact declaresKeys_call (own ▸ name) asCall
  · have names : b.classKeys = c.keys ↔ ∀ f ∈ c.fields, canonical f.name = f.name := by
      rw [← drawn.keys, keys_eq_classKeys_iff]
      exact drawn.forall_iff fun name _ => canonical name = name
    by_cases null : ∀ f ∈ c.fields, '\x00' ∉ f.description.toList
    · have fine : ∀ f ∈ c.fields, FineField _ 100 f := fun f hf => ⟨types (isClass.1 asClass) f hf, null f hf⟩
      have read := declaresKeys_class (drawn.legible grows name name classes fine) asClass
      constructor
      · intro declares f hf
        exact ⟨names.1 (read.unique declares) f hf, null f hf⟩
      · intro all
        rw [← names.2 fun f hf => (all f hf).1]
        exact read
    · -- some line has the description with the null character
      have shown : ¬ ∀ l ∈ b.lines, '\x00' ∉ l.description.toList := fun none =>
        null ((drawn.forall_iff fun _ description => '\x00' ∉ description.toList).1 none)
      obtain ⟨l, hl, mem⟩ : ∃ l ∈ b.lines, '\x00' ∈ l.description.toList := by simpa using shown
      constructor
      · exact fun declares => absurd declares (not_declaresKeys_null asClass hl mem _)
      · exact fun all => absurd (fun f hf => (all f hf).2) null

end

/-- a required field whose name is one letter that stands for two -/
def ligature : ComponentDeclaration where
  name := "X"
  required := [⟨"\ufb01", .builtin "str", ""⟩]

/-- it is printed as a class, which declares the two letters -/
theorem ligature_undeclared : ∃ b, (Sheet.addComponent ligature {}).2.blocks.getLast? = some b ∧
    b.isClass = true ∧ canonical "\ufb01" = "fi" ∧ ¬ b.DeclaresKeys ligature.keys := by
  have plain : ∀ f ∈ ligature.fields, isPlainField f.name = true := by decide +kernel
  have types : ∀ f ∈ ligature.fields, f.type.Fine [] 100 :=
    List.forall_mem_singleton.2 ⟨.builtin (by decide), .builtin⟩
  have composed : canonical "\ufb01" = "fi" := by decide +kernel
  obtain ⟨b, last, -, isClass, -, declares⟩ :=
    @declares_keys_iff [] ligature {} (by decide) (List.forall_mem_nil _) fun _ => types
  have asClass := isClass.2 plain
  refine ⟨b, last, asClass, composed, fun all => ?_⟩
  have same := ((declares asClass).1 all _ List.mem_cons_self).1
  exact absurd (composed.symm.trans same) (by decide)

end Module

end ApiTypes
