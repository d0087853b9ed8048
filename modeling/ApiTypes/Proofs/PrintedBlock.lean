/-
Printed blocks are read back.

A block whose names and types are legible is printed as one statement that defines its name: a class, or an assignment of
a call where some field name cannot stand as it is. Its descriptions and field names may hold anything but a null
character. The keys that the statement declares are those of the lines, but for the names of a class, which are compared
in their canonical form.

Main statements: `Block.Legible.isPart_class` and `isPart_call`, each form with its keys; `Block.Legible.isPart`.
-/
import ApiTypes.Proofs.Page

namespace ApiTypes.Source

/-! ## Keys of typed dictionaries -/

/-- the key that a line of a class declares, and whether it is required -/
def Statement.key? : Statement → Option (String × Bool)
  | .annotated (.name id) type none => some (canonical id, !type.isMarked)
  | _ => none

/-- the key that an item of a call declares, and whether it is required -/
def entryKey? : Expr × Expr → Option (String × Bool)
  | (.text key, type) => some (key, !type.isMarked)
  | _ => none

/-- the keys that a typed dictionary declares, in order, each with whether it is required -/
def Statement.keys : Statement → List (String × Bool)
  | .class _ body => body.filterMap Statement.key?
  | .assign _ (.call (.name "TypedDict") [_, .dict entries] []) => entries.filterMap entryKey?
  | _ => []

theorem Statement.keys_class (name : String) (body : List Statement) :
    (Statement.class name body).keys = body.filterMap Statement.key? := rfl

theorem Statement.keys_assign (targets : List Expr) (own : Expr) (entries : List (Expr × Expr)) :
    (Statement.assign targets (.call (.name "TypedDict") [own, .dict entries] [])).keys =
      entries.filterMap entryKey? := rfl

/-- where each item has a key, these are the keys -/
theorem filterMap_of_map_eq {α β : Type} {f : α → Option β} {items : List α} {keys : List β}
    (h : items.map f = keys.map some) : items.filterMap f = keys := by
  have all : (items.map f).filterMap id = keys := by
    rw [h, List.filterMap_map]
    exact List.filterMap_some
  rwa [List.filterMap_map] at all

end ApiTypes.Source

namespace ApiTypes.Module

open ApiTypes.Source ApiTypes.Source.Lexing ApiTypes.Text

/-! ## One-line texts -/

theorem wordsFrom_mem (separator : Char → Bool) (word text : List Char) :
    ∀ w ∈ wordsFrom separator word text, ∀ c ∈ w, c ∈ word ∨ c ∈ text := by
  induction text generalizing word with
  | nil =>
    intro w hw c hc
    simp only [wordsFrom] at hw
    split at hw
    · simp at hw
    · rw [List.mem_singleton.1 hw] at hc
      exact Or.inl (List.mem_reverse.1 hc)
  | cons d rest ih =>
    have later {word' : List Char} {w : List Char} (hw : w ∈ wordsFrom separator word' rest) {c : Char} (hc : c ∈ w)
        (known : c ∈ word' → c ∈ word ∨ c ∈ d :: rest) : c ∈ word ∨ c ∈ d :: rest :=
      (ih word' w hw c hc).elim known fun mem => Or.inr (List.mem_cons_of_mem _ mem)
    intro w hw c hc
    simp only [wordsFrom] at hw
    split at hw
    · split at hw
      · exact later hw hc (by simp)
      · rcases List.mem_cons.1 hw with rfl | hw
        · exact Or.inl (List.mem_reverse.1 hc)
        · exact later hw hc (by simp)
    · refine later hw hc fun mem => ?_
      rcases List.mem_cons.1 mem with rfl | mem
      · exact Or.inr List.mem_cons_self
      · exact Or.inl mem

theorem mem_intercalate {c : Char} {separator : List Char} {words : List (List Char)}
    (h : c ∈ separator.intercalate words) : c ∈ separator ∨ ∃ w ∈ words, c ∈ w := by
  induction words with
  | nil => simp at h
  | cons first rest ih =>
    cases rest with
    | nil => exact Or.inr ⟨first, by simp, by simpa using h⟩
    | cons second rest =>
      rw [List.intercalate_cons_cons, List.mem_append, List.mem_append] at h
      rcases h with (mem | mem) | mem
      · exact Or.inr ⟨first, List.mem_cons_self, mem⟩
      · exact Or.inl mem
      · exact (ih mem).imp id fun ⟨w, hw, mem⟩ => ⟨w, List.mem_cons_of_mem _ hw, mem⟩

/-- on one line stand the characters of the text that are no blanks, and blanks of one kind -/
theorem oneLine_chars (text : String) :
    ∀ c ∈ (oneLine text).toList, c = ' ' ∨ (c ∈ text.toList ∧ Text.isBlank c = false) := by
  intro c hc
  rw [oneLine, String.toList_ofList] at hc
  rcases mem_intercalate hc with mem | ⟨w, hw, mem⟩
  · exact Or.inl (List.mem_singleton.1 mem)
  · refine Or.inr ⟨?_, (words_oneLine text.toList w hw).2 c mem⟩
    exact (wordsFrom_mem Text.isBlank [] text.toList w hw c mem).elim (by simp) id

/-- a comment holds no line end, and no null character unless the text does -/
theorem clean_oneLine {text : String} (h : '\x00' ∉ text.toList) :
    Clean (oneLine text).toList ∧ '\n' ∉ (oneLine text).toList := by
  refine ⟨⟨fun mem => ?_, fun mem => ?_⟩, fun mem => ?_⟩
  · rcases oneLine_chars text _ mem with eq | ⟨-, notBlank⟩
    · exact absurd eq (by decide)
    · exact absurd notBlank (by decide)
  · rcases oneLine_chars text _ mem with eq | ⟨mem, -⟩
    · exact absurd eq (by decide)
    · exact h mem
  · rcases oneLine_chars text _ mem with eq | ⟨-, notBlank⟩
    · exact absurd eq (by decide)
    · exact absurd notBlank (by decide)

/-! ## Blocks -/

/-- a block is legible when its names and types are -/
structure Block.Legible (b : Block) : Prop where
  name : isPlainField b.name = true
  types : ∀ l ∈ b.lines, l.type.Legible ∧ l.type.levels ≤ 100
  descriptions : ∀ l ∈ b.lines, '\x00' ∉ l.description.toList

theorem startsLine_name {name : List Char} (h : isIdentifier name = true) (rest : List Char) :
    startsLine (name ++ rest) = true := by
  cases name with
  | nil => simp [isIdentifier] at h
  | cons c more =>
    rw [isIdentifier, Bool.and_eq_true] at h
    have apart : ∀ d ∈ marginChars, isNameStart d = false := Literal.forall_mem_of_all (by decide)
    have plain : c ∉ marginChars := by
      intro mem
      rw [apart c mem] at h
      exact absurd h.1 Bool.false_ne_true
    simpa [startsLine] using plain

/-- the lines of a class for one field -/
def Line.chars (l : Line) : List Char := l.classLines.flatMap fun line => line.toList ++ ['\n']

/-- the comment in front of a field, if there is one -/
def Line.remark (l : Line) : List Char :=
  if l.description = "" then [] else indentation ++ '#' :: (' ' :: (oneLine l.description).toList ++ ['\n'])

/-- the field and its type -/
def Line.declared (l : Line) : List Char := l.field.toList ++ (": ".toList ++ (marked l.required l.type.text).toList)

theorem Line.chars_eq (l : Line) : l.chars = l.remark ++ (indentation ++ l.declared ++ ['\n']) := by
  have declared : (indent ++ l.field ++ ": " ++ marked l.required l.type.text).toList ++ ['\n'] =
      indentation ++ l.declared ++ ['\n'] := by
    simp [indent, indentation, Line.declared]
  have remark : (indent ++ "# " ++ oneLine l.description).toList ++ ['\n'] =
      indentation ++ '#' :: (' ' :: (oneLine l.description).toList ++ ['\n']) := by
    simp [indent, indentation]
  unfold chars classLines Line.remark
  split_ifs
  · rw [List.nil_append, List.flatMap_singleton, declared, List.nil_append]
  · rw [List.flatMap_append, List.flatMap_singleton, List.flatMap_singleton, declared, remark]

/-- the lines of a class for one field, which may hold a comment -/
theorem Line.isBodyPart {l : Line} (plain : isPlainField l.field = true) (legible : l.type.Legible)
    (levels : l.type.levels ≤ 100) (noNull : '\x00' ∉ l.description.toList) :
    ∃ p : List Char × List Token × Statement, (p.1, p.2.2.key?) = (l.chars, some (canonical l.field, l.required)) ∧
      IsBodyPart p.1 p.2.1 p.2.2 := by
  obtain ⟨isName, notReserved⟩ := isPlainField_iff.1 plain
  obtain ⟨tokens, e, spells, isPrimary, mark⟩ := legible.spells.marked l.required
  have key : (Statement.annotated (.name l.field) e none).key? = some (canonical l.field, l.required) := by
    rw [Statement.key?, mark, Bool.not_not]
  have field := (spells_name isName).append (glues_colon.before spells) rfl
  have simple := isPrimary.expression.isSimple_annotated notReserved
  have nonempty : l.declared ≠ [] := by simp [Line.declared]
  have line := isBodyPart_line field (by omega) (startsLine_name isName _) nonempty simple
  rw [l.chars_eq, ← key]
  unfold Line.remark
  split_ifs with empty
  · exact ⟨⟨_, _, _⟩, rfl, line⟩
  · obtain ⟨clean, oneLine⟩ := clean_oneLine noNull
    have comment : Clean (' ' :: (Text.oneLine l.description).toList) := clean_cons.2 ⟨by decide, clean⟩
    exact ⟨⟨_, _, _⟩, rfl, line.commented comment (by simpa using oneLine)⟩

/-- the body of a class without fields -/
theorem isBodyPart_pass : IsBodyPart (indentation ++ "pass".toList ++ ['\n']) [.name "pass", .newline] (.other []) :=
  isBodyPart_line (spells_name (by decide)) (Nat.zero_le 200) rfl (by decide) isSimple_pass

/-- the keys of a block, as a class declares them -/
def Block.classKeys (b : Block) : List (String × Bool) := b.lines.map fun l => (canonical l.field, l.required)

/-- the keys of a block, as a call declares them -/
def Block.keys (b : Block) : List (String × Bool) := b.lines.map fun l => (l.field, l.required)

/-- the body of a class without fields -/
def passLine : List Char := indentation ++ "pass".toList ++ ['\n']

/-- the lines of a class behind its heading -/
def Block.body (b : Block) : List Char := if b.lines = [] then passLine else b.lines.flatMap Line.chars

/-- the name of a class and its base -/
def Block.heading (b : Block) : List Char := "class ".toList ++ (b.name.toList ++ "(TypedDict)".toList)

theorem Block.toList_classText (b : Block) : (b.classText ++ "\n").toList = b.heading ++ ':' :: '\n' :: b.body := by
  unfold classText heading body
  by_cases empty : b.lines = []
  · simp [empty, Line.indent, passLine, indentation]
  · have full : b.lines.flatMap Line.classLines ≠ [] := by
      obtain ⟨first, rest, eq⟩ := List.exists_cons_of_ne_nil empty
      simp [eq, first.classLines_ne_nil]
    have chars : ("\n".intercalate (b.lines.flatMap Line.classLines) ++ "\n").toList = b.lines.flatMap Line.chars := by
      rw [toList_intercalate_append full, List.flatMap_assoc]
      rfl
    rw [if_neg empty, ← chars]
    simp [full]

/-- the body of a class, part by part -/
theorem Block.Legible.body {b : Block} (h : b.Legible) (isClass : b.isClass = true) :
    ∃ parts : List (List Char × List Token × Statement), parts ≠ [] ∧ (∀ p ∈ parts, IsBodyPart p.1 p.2.1 p.2.2) ∧
      (parts.map fun p => p.2.2).filterMap Statement.key? = b.classKeys ∧ b.body = parts.flatMap Prod.fst := by
  have fields : ∀ l ∈ b.lines, isPlainField l.field = true := List.all_eq_true.1 isClass
  have lines : ∀ l ∈ b.lines, ∃ p : List Char × List Token × Statement,
      (p.1, p.2.2.key?) = (l.chars, some (canonical l.field, l.required)) ∧ IsBodyPart p.1 p.2.1 p.2.2 :=
    fun l hl => Line.isBodyPart (fields l hl) (h.types l hl).1 (h.types l hl).2 (h.descriptions l hl)
  obtain ⟨parts, eq, all⟩ := exists_map_of_forall lines
  unfold Block.body
  by_cases empty : b.lines = []
  · refine ⟨[(_, _, _)], by simp, by simpa using isBodyPart_pass, by simp [classKeys, empty, Statement.key?], ?_⟩
    simp [empty, passLine]
  · have texts : parts.map Prod.fst = b.lines.map Line.chars := by
      simpa [Function.comp_def] using congrArg (List.map Prod.fst) eq
    have keys : parts.map (fun p => p.2.2.key?) = b.lines.map fun l => some (canonical l.field, l.required) := by
      simpa [Function.comp_def] using congrArg (List.map Prod.snd) eq
    refine ⟨parts, ?_, all, ?_, ?_⟩
    · rintro rfl
      exact empty (List.map_eq_nil_iff.1 eq.symm)
    · refine filterMap_of_map_eq ?_
      simpa [classKeys, Function.comp_def] using keys
    · rw [if_neg empty, List.flatMap_def, List.flatMap_def, texts]

/-- the block in the form of a class -/
theorem Block.Legible.isPart_class {b : Block} (h : b.Legible) (isClass : b.isClass = true) :
    ∃ body, IsPart (b.classText ++ "\n") [.class b.name body] ∧ (Statement.class b.name body).keys = b.classKeys := by
  obtain ⟨parts, nonempty, all, keys, eq⟩ := h.body isClass
  refine ⟨parts.map fun p => p.2.2, Laid.isPart ?_ ?_, (Statement.keys_class _ _).trans keys⟩
  · rw [b.toList_classText, eq]
    exact Laid.single (isChunk_class h.name nonempty all)
  · rw [String.toList_append, List.getLast?_append]
    rfl

/-- an item of the call: a key and a value -/
theorem Line.isEntry (l : Line) : ∃ p : List Char × List Token × (Expr × Expr),
    (p.1, entryKey? p.2.2) = (l.callItem.toList, some (l.field, l.required)) ∧ Spells 1 p.1 p.2.1 ∧
      IsEntry p.2.1 p.2.2 := by
  obtain ⟨body, decoded, spellsKey⟩ := spells_quoted l.field
  have isKey := (isPrimary_text decoded).expression
  have type : SpellsUnmarked 0 (quoted l.type.text) := spellsUnmarked_quoted l.type.text
  obtain ⟨value, v, spellsValue, isValue, mark⟩ := type.marked l.required
  have spelled := spellsKey.append (glues_colon.before spellsValue) rfl
  refine ⟨⟨_, _, (.text l.field, v)⟩, ?_, spelled, _, value, rfl, isKey, isValue.expression⟩
  simp [callItem, entryKey?, mark]

/-- the items of the call, between braces -/
theorem Block.spells_items {b : Block} (nonempty : b.lines ≠ []) :
    ∃ tokens entries, Spells 2 ("\x7b" ++ ", ".intercalate (b.lines.map Line.callItem) ++ "\x7d").toList tokens ∧
      IsPrimary tokens (.dict entries) ∧ entries.filterMap entryKey? = b.keys := by
  obtain ⟨entries, eq, all⟩ := exists_map_of_forall fun l (_ : l ∈ b.lines) => l.isEntry
  have texts : entries.map Prod.fst = b.lines.map fun l => l.callItem.toList := by
    simpa [Function.comp_def] using congrArg (List.map Prod.fst) eq
  have keys : entries.map (fun p => entryKey? p.2.2) = b.lines.map fun l => some (l.field, l.required) := by
    simpa [Function.comp_def] using congrArg (List.map Prod.snd) eq
  have full : entries ≠ [] := by
    rintro rfl
    exact nonempty (List.map_eq_nil_iff.1 eq.symm)
  have items : ∀ i ∈ entries.map fun p => (p.1, p.2.1), Spells 1 i.1 i.2 := by
    intro i hi
    obtain ⟨p, mem, rfl⟩ := List.mem_map.1 hi
    exact (all p mem).1
  have separate := spells_separated items
  rw [List.map_map, List.map_map] at separate
  have braces := separate.brackets (by decide : '\x7b' ∈ openings) rfl
  have isEntry : ∀ i ∈ entries.map Prod.snd, IsEntry i.1 i.2 := by
    intro i hi
    obtain ⟨p, mem, rfl⟩ := List.mem_map.1 hi
    exact (all p mem).2
  have isItems := isPrimary_dict (by simpa using full) isEntry
  rw [List.map_map] at isItems
  have chars : ("\x7b" ++ ", ".intercalate (b.lines.map Line.callItem) ++ "\x7d").toList =
      '\x7b' :: (", ".toList.intercalate (entries.map Prod.fst) ++ ['\x7d']) := by
    simp [texts, Function.comp_def]
  refine ⟨_, _, ?_, isItems, filterMap_of_map_eq ?_⟩
  · rw [chars]
    exact braces
  · simpa [Block.keys, Function.comp_def] using keys

/-- the call behind the name of a block -/
def Block.call (b : Block) : List Char :=
  "TypedDict".toList ++ '(' :: ((quoted b.name).toList ++ (", ".toList ++
    ("\x7b" ++ ", ".intercalate (b.lines.map Line.callItem) ++ "\x7d").toList) ++ [')'])

theorem Block.toList_callText (b : Block) :
    (b.callText ++ "\n").toList = b.name.toList ++ (" = ".toList ++ b.call) ++ ['\n'] := by
  unfold callText Block.call
  simp

theorem Block.spells_call {b : Block} (nonempty : b.lines ≠ []) :
    ∃ tokens e entries, Spells 3 b.call tokens ∧
      IsExpression tokens (.call (.name "TypedDict") [e, .dict entries] []) ∧ entries.filterMap entryKey? = b.keys := by
  obtain ⟨own, e, spellsOwn, isOwn⟩ : SpellsPrimary 2 (quoted b.name) := spellsPrimary_quoted b.name
  obtain ⟨items, entries, spellsItems, isItems, keys⟩ := Block.spells_items nonempty
  have arguments := (spellsOwn.append (glues_comma.before spellsItems) rfl).brackets (by decide : '(' ∈ openings) rfl
  have maker : Spells 3 "TypedDict".toList [.name "TypedDict"] := spells_name (by decide)
  have isCall := (isOwn.expression.call (by decide : isReserved "TypedDict" = false) isItems.expression).expression
  refine ⟨_, e, entries, maker.append arguments rfl, ?_, keys⟩
  simpa using isCall

/-- the block in the form of a call, which only needs a name that can stand as it is -/
theorem Block.isPart_call {b : Block} (plain : isPlainField b.name = true) (nonempty : b.lines ≠ []) :
    ∃ e, IsPart (b.callText ++ "\n") [.assign [.name b.name] e] ∧
      (Statement.assign [.name b.name] e).keys = b.keys := by
  obtain ⟨isName, notReserved⟩ := isPlainField_iff.1 plain
  obtain ⟨tokens, e, entries, spells, isCall, keys⟩ := Block.spells_call nonempty
  have line := (spells_name isName).append (glues_equals.before spells) rfl
  have simple := isCall.isSimple_assigned notReserved
  have chunk := isChunk_line line (by decide) (startsLine_name isName _) (by simp) simple
  refine ⟨.call (.name "TypedDict") [e, .dict entries] [], Laid.isPart ?_ ?_,
    (Statement.keys_assign _ e entries).trans keys⟩
  · rw [b.toList_callText]
    exact Laid.single chunk
  · rw [b.toList_callText, List.getLast?_append]
    rfl

/-- **A legible block is one statement that defines its name**, in either form. -/
theorem Block.Legible.isPart {b : Block} (h : b.Legible) :
    ∃ s, IsPart (b.text ++ "\n") [s] ∧ s.defines = [canonical b.name] ∧ s.importsBeside? = none := by
  unfold text
  split_ifs with asClass
  · obtain ⟨body, isPart, -⟩ := h.isPart_class asClass
    exact ⟨_, isPart, rfl, rfl⟩
  · have nonempty : b.lines ≠ [] := fun empty => asClass (by rw [isClass, empty, List.all_nil])
    obtain ⟨e, isPart, -⟩ := Block.isPart_call h.name nonempty
    exact ⟨_, isPart, rfl, rfl⟩

end ApiTypes.Module
