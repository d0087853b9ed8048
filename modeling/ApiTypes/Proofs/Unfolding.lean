/-
Reading printed annotations.

An annotation is the text behind the colon of a field: the type expression, between quotes in the form of a call, inside
the mark of a field that may be absent. It is read by its brackets: the mark, the levels of list, and the word inside.
The word is a type of the language, the class of a component, or the class of a hoisted record, which stands for the
fields of its block.

Main statements: `writtenAs_text`, where the text of a block has the annotations of its fields; `read_typeText`, what a
block prints for a line is read back, in either form of the block; `unfold_append`, blocks that are printed later do not
change the reading of an annotation.
-/
import ApiTypes.Proofs.ClassName
import ApiTypes.Proofs.Declaration
import ApiTypes.Proofs.Printable

namespace ApiTypes.Module

open ApiTypes.Text

/-! ## Brackets -/

/-- the text inside brackets behind `head` -/
def bracketed (head text : List Char) : Option (List Char) :=
  if (head ++ ['[']).isPrefixOf text && text.getLast? == some ']' then some (text.drop (head.length + 1)).dropLast
  else none

theorem bracketed_of_brackets (head inner : List Char) :
    bracketed head (head ++ '[' :: inner ++ [']']) = some inner := by
  have starts : (head ++ ['[']).isPrefixOf (head ++ '[' :: inner ++ [']']) = true := by
    rw [List.isPrefixOf_iff_prefix]
    exact ⟨inner ++ [']'], by simp⟩
  have drop : (head ++ '[' :: inner ++ [']']).drop (head.length + 1) = inner ++ [']'] := by
    rw [List.append_assoc, ← List.drop_drop, List.drop_left]
    rfl
  have last : (head ++ '[' :: inner ++ [']']).getLast? = some ']' := List.getLast?_concat
  rw [bracketed, starts, drop, last]
  simp

theorem bracketed_of_not_prefix {head text : List Char} (h : ¬ (head ++ ['[']) <+: text) :
    bracketed head text = none := by
  rw [bracketed, if_neg]
  intro both
  exact h (List.isPrefixOf_iff_prefix.1 (Bool.and_eq_true_iff.1 both).1)

theorem length_bracketed_lt {head text inner : List Char} (h : bracketed head text = some inner) :
    inner.length < text.length := by
  unfold bracketed at h
  split_ifs at h with both
  cases h
  obtain ⟨rest, rfl⟩ := List.isPrefixOf_iff_prefix.1 (Bool.and_eq_true_iff.1 both).1
  simp
  omega

/-- the levels of list around a type expression, and the word inside -/
def peel (text : List Char) : Nat × List Char :=
  match h : bracketed "list".toList text with
  | some inner => ((peel inner).1 + 1, (peel inner).2)
  | none => (0, text)
termination_by text.length
decreasing_by all_goals exact length_bracketed_lt h

theorem peel_of_brackets (inner : List Char) :
    peel ("list".toList ++ '[' :: inner ++ [']']) = ((peel inner).1 + 1, (peel inner).2) := by
  have h := bracketed_of_brackets "list".toList inner
  rw [peel]
  split <;> simp_all

theorem peel_of_plain {text : List Char} (h : bracketed "list".toList text = none) : peel text = (0, text) := by
  rw [peel]
  split <;> simp_all

/-! ## Outlines -/

/-- a printed annotation, read by its brackets -/
structure Outline where
  required : Bool
  levels : Nat
  word : String
  deriving DecidableEq, Repr

/-- a text without the quotes around it, if there are any -/
def unquote (text : List Char) : List Char :=
  match text with
  | '\'' :: rest => rest.dropLast
  | _ => text

def Outline.read (text : String) : Outline :=
  match bracketed "NotRequired".toList text.toList with
  | some type => ⟨false, (peel (unquote type)).1, String.ofList (peel (unquote type)).2⟩
  | none => ⟨true, (peel (unquote text.toList)).1, String.ofList (peel (unquote text.toList)).2⟩

/-- what a block prints behind the colon of a field -/
def Block.typeText (b : Block) (l : Line) : String :=
  Line.marked l.required (if b.isClass then l.type.text else quoted l.type.text)

theorem classLines_eq {b : Block} (h : b.isClass = true) (l : Line) :
    l.classLines = (if l.description = "" then [] else ["    # " ++ oneLine l.description]) ++
      ["    " ++ l.field ++ ": " ++ b.typeText l] := by
  rw [Block.typeText, if_pos h]
  rfl

theorem callItem_eq {b : Block} (h : b.isClass = false) (l : Line) :
    l.callItem = quoted l.field ++ ": " ++ b.typeText l := by
  rw [Block.typeText, h]
  rfl

/-- the text of a block, with what it prints behind the colon of each field -/
structure Block.WrittenAs (b : Block) (text : String) : Prop where
  /-- fields that can stand as they are have lines of their own, with their descriptions in front -/
  inClass : (∀ l ∈ b.lines, isPlainField l.field = true) → text =
    "class " ++ b.name ++ "(TypedDict):\n" ++
      if b.lines = [] then "    pass" else "\n".intercalate (b.lines.flatMap fun l =>
        (if l.description = "" then [] else ["    # " ++ oneLine l.description]) ++
          ["    " ++ l.field ++ ": " ++ b.typeText l])
  /-- one field that cannot puts all of them between quotes -/
  inCall : (∃ l ∈ b.lines, isPlainField l.field = false) → text =
    b.name ++ " = TypedDict(" ++ quoted b.name ++ ", \x7b" ++
      ", ".intercalate (b.lines.map fun l => quoted l.field ++ ": " ++ b.typeText l) ++ "\x7d)"

theorem Block.writtenAs_text (b : Block) : b.WrittenAs b.text where
  inClass plain := by
    have isClass : b.isClass = true := List.all_eq_true.2 plain
    have empty : (b.lines.flatMap Line.classLines).isEmpty = true ↔ b.lines = [] := by
      rw [List.isEmpty_iff, List.flatMap_eq_nil_iff, List.eq_nil_iff_forall_not_mem]
      exact forall₂_congr fun l _ => iff_false_intro l.classLines_ne_nil
    have lines := List.flatMap_congr fun l (_ : l ∈ b.lines) => classLines_eq isClass l
    rw [Block.text, if_pos isClass, Block.classText, if_congr empty rfl rfl, lines]
    rfl
  inCall quotedField := by
    obtain ⟨l, hl, field⟩ := quotedField
    have notClass : b.isClass = false := List.all_eq_false.2 ⟨l, hl, by rw [field]; exact Bool.false_ne_true⟩
    have items := List.map_congr_left fun l (_ : l ∈ b.lines) => callItem_eq notClass l
    rw [Block.text, notClass, if_neg Bool.false_ne_true, Block.callText, items]

/-! ## Unfolding -/

/-- lists of lists, so many levels of them -/
def nested (levels : Nat) (item : Declaration) : Declaration :=
  match levels with
  | 0 => item
  | levels + 1 => .list (nested levels item)

/-- what a word stands for; `record` says it for the classes of records -/
def named (components : List String) (record : String → Declaration) (word : String) : Declaration :=
  if word = "Any" then .any ""
  else if word = "dict[str, Any]" then .builtin "dict"
  else if word ∈ plainWords then .builtin word
  else match components.find? fun c => className c == word with
  | some c => .reference c
  | none => record word

/-- the declaration that an annotation stands for -/
def Outline.declaration (components : List String) (record : String → Declaration) (a : Outline) : Declaration :=
  nested a.levels (named components record a.word)

/-- the fields of the block with this name; the blocks are in reverse, and a block mentions those behind it only -/
def recordIn (components : List String) : List Block → String → Declaration
  | [], _ => .any "no class"
  | b :: earlier, name =>
    if b.name = name then
      .record (b.lines.map fun l =>
        (l.field, (Outline.read (b.typeText l)).declaration components (recordIn components earlier)))
    else recordIn components earlier name

/-- the declaration that an annotation stands for, through the table of printed blocks -/
def unfold (components : List String) (blocks : List Block) (a : Outline) : Declaration :=
  a.declaration components (recordIn components blocks.reverse)

/-- a declared field as it is read from what a block prints: its name, whether it is required, and its type -/
def Block.readLine (components : List String) (blocks : List Block) (b : Block) (l : Line) :
    String × Bool × Declaration :=
  (l.field, (Outline.read (b.typeText l)).required, unfold components blocks (Outline.read (b.typeText l)))

def Block.read (components : List String) (blocks : List Block) (b : Block) : List (String × Bool × Declaration) :=
  b.lines.map (b.readLine components blocks)

/-- the word is of the language, the class of a component, or the class of one of these blocks -/
def Known (components : List String) (blocks : List Block) (word : String) : Prop :=
  word ∈ "dict[str, Any]" :: plainWords ∨ (∃ c ∈ components, className c = word) ∨ word ∈ blocks.map Block.name

theorem Known.append {components : List String} {blocks more : List Block} {word : String}
    (h : Known components blocks word) : Known components (blocks ++ more) word := by
  rcases h with plain | component | record
  · exact Or.inl plain
  · exact Or.inr (Or.inl component)
  · exact Or.inr (Or.inr (by simp [List.mem_append, record]))

theorem recordIn_append {components : List String} {name : String} {later earlier : List Block}
    (h : name ∉ later.map Block.name) :
    recordIn components (later ++ earlier) name = recordIn components earlier name := by
  induction later with
  | nil => rfl
  | cons b rest ih =>
    rw [List.map_cons, List.mem_cons, not_or] at h
    rw [List.cons_append, recordIn, if_neg (Ne.symm h.1), ih h.2]

theorem named_congr {components : List String} {record other : String → Declaration} {word : String}
    (h : word ∉ "dict[str, Any]" :: plainWords → (∀ c ∈ components, className c ≠ word) → record word = other word) :
    named components record word = named components other word := by
  unfold named
  split_ifs with any dict plain
  · rfl
  · rfl
  · rfl
  · split
    · rfl
    · rename_i absent
      refine h ?_ fun c hc => ?_
      · exact fun mem => (List.mem_cons.1 mem).elim dict plain
      · simpa using List.find?_eq_none.1 absent c hc

/-- blocks that are printed later do not change the reading of an annotation -/
theorem unfold_append {components : List String} {blocks more : List Block} {a : Outline}
    (known : Known components blocks a.word) (distinct : ((blocks ++ more).map Block.name).Nodup) :
    unfold components (blocks ++ more) a = unfold components blocks a := by
  unfold unfold Outline.declaration
  congr 1
  refine named_congr fun plain classes => ?_
  rw [List.reverse_append]
  refine recordIn_append ?_
  rcases known with known | ⟨c, hc, eq⟩ | known
  · exact absurd known plain
  · exact absurd eq (classes c hc)
  · rw [List.map_append] at distinct
    rw [List.map_reverse, List.mem_reverse]
    exact fun later => (List.nodup_append.1 distinct).2.2 _ known _ later rfl

/-! ## Printed types -/

/-- the text of a type expression is read as `levels` lists around the word `word` -/
structure Prints (text : String) (levels : Nat) (word : String) : Prop where
  asIs : text.toList.all standsAsIs = true
  unmarked : bracketed "NotRequired".toList text.toList = none
  peel : peel text.toList = (levels, word.toList)

theorem Prints.list {text word : String} {levels : Nat} (h : Prints text levels word) :
    Prints ("list[" ++ text ++ "]") (levels + 1) word := by
  have chars : ("list[" ++ text ++ "]").toList = "list".toList ++ '[' :: text.toList ++ [']'] := by
    rw [String.toList_append, String.toList_append]
    rfl
  refine ⟨?_, ?_, ?_⟩
  · have opening : "list[".toList.all standsAsIs = true := by decide
    have closing : "]".toList.all standsAsIs = true := by decide
    rw [String.toList_append, String.toList_append, List.all_append, List.all_append, opening, h.asIs, closing]
    rfl
  · rw [chars]
    refine bracketed_of_not_prefix ?_
    rintro ⟨rest, eq⟩
    cases eq
  · rw [chars, peel_of_brackets, h.peel]

/-- a text without brackets is one word -/
theorem prints_of_plain {text : String} (asIs : text.toList.all standsAsIs = true) (h : '[' ∉ text.toList) :
    Prints text 0 text := by
  have none (head : List Char) : bracketed head text.toList = none := by
    refine bracketed_of_not_prefix ?_
    rintro ⟨rest, eq⟩
    exact h (by simp [← eq])
  exact ⟨asIs, none _, peel_of_plain (none _)⟩

theorem prints_className (name : String) : Prints (className name) 0 (className name) := by
  have word := (isClassName_className name).word
  refine prints_of_plain (List.all_eq_true.2 fun c hc => standsAsIs_of_isWord (word c hc)) fun bracket => ?_
  exact absurd (word _ bracket) (by decide)

theorem prints_builtin {name : String} (h : name ∈ ["str", "int", "float", "bool", "list", "dict"]) :
    Prints (TypeExpr.builtin name).text (if name = "list" then 1 else 0)
      (if name = "list" then "Any" else if name = "dict" then "dict[str, Any]" else name) := by
  simp only [List.mem_cons, List.not_mem_nil, or_false] at h
  rcases h with rfl | rfl | rfl | rfl | rfl | rfl
  · exact prints_of_plain (by decide) (by decide)
  · exact prints_of_plain (by decide) (by decide)
  · exact prints_of_plain (by decide) (by decide)
  · exact prints_of_plain (by decide) (by decide)
  · exact (prints_of_plain (by decide) (by decide) : Prints "Any" 0 "Any").list
  · exact ⟨by decide, by decide, peel_of_plain (by decide)⟩

theorem unquote_asIs {text : List Char} (h : text.all standsAsIs = true) : unquote text = text := by
  unfold unquote
  split
  · exact absurd (List.all_eq_true.1 h '\'' List.mem_cons_self) (by decide)
  · rfl

/-- the type is printed in the form of the block, and the quotes are taken off again -/
theorem Prints.form {text word : String} {levels : Nat} (h : Prints text levels word) (isClass : Bool) :
    bracketed "NotRequired".toList (if isClass then text else quoted text).toList = none ∧
      unquote (if isClass then text else quoted text).toList = text.toList := by
  cases isClass with
  | true => exact ⟨h.unmarked, unquote_asIs h.asIs⟩
  | false =>
    simp only [Bool.false_eq_true, ↓reduceIte, quoted_of_standsAsIs h.asIs]
    constructor
    · refine bracketed_of_not_prefix ?_
      rintro ⟨rest, eq⟩
      cases eq
    · rw [List.cons_append, unquote, List.dropLast_concat]

/-- **What a block prints for a line is read back.** -/
theorem read_typeText (b : Block) {l : Line} {levels : Nat} {word : String} (h : Prints l.type.text levels word) :
    Outline.read (b.typeText l) = ⟨l.required, levels, word⟩ := by
  obtain ⟨unmarked, bare⟩ := h.form b.isClass
  unfold Block.typeText Outline.read Line.marked
  generalize (if b.isClass then l.type.text else quoted l.type.text) = text at unmarked bare
  cases l.required with
  | true => simp only [↓reduceIte, unmarked, bare, h.peel, String.ofList_toList]
  | false =>
    have chars : ("NotRequired[" ++ text ++ "]").toList = "NotRequired".toList ++ '[' :: text.toList ++ [']'] := by
      rw [String.toList_append, String.toList_append]
      rfl
    simp only [Bool.false_eq_true, ↓reduceIte, chars, bracketed_of_brackets, bare, h.peel, String.ofList_toList]

end ApiTypes.Module
