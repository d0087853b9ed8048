/-
Class names that can be used.

A class name is never empty, but it need not be a name: the word characters that it keeps include numbers that no
identifier holds, such as `½`, and nothing keeps it from being a reserved word. Which of both it is can be told from the
inner part of the component's name, without what is dropped at its ends. Where a class name is no name, or a reserved word,
a module that imports it is not read; where it is a name, every form is read in which modules mention classes.

Main statements: `trimBoth_separate`, trimming before and after separating; `isPlainField_of_imported`, only names can be
imported; `className_usable_iff`, which component names have class names that can be used.
-/
import Mathlib.Data.List.DropRight
import ApiTypes.Proofs.FreeText

namespace ApiTypes.Module

open ApiTypes.Text

/-! ## Inner parts -/

/-- a character that is dropped at the ends of a class name -/
def isOuter (c : Char) : Bool := !isWord c || c == '_'

/-- the name from its first character that is not outer to its last one -/
def inner (name : List Char) : List Char := (name.dropWhile isOuter).rdropWhile isOuter

theorem isOuter_eq_false {c : Char} : isOuter c = false ↔ isWord c = true ∧ c ≠ '_' := by
  simp [isOuter]

theorem trimBoth_eq (text : List Char) : trimBoth '_' text = (text.dropWhile (· == '_')).rdropWhile (· == '_') := rfl

/-- in front, the characters that are dropped after separating are those that are dropped before -/
theorem dropWhile_separateFrom (inRun : Bool) (text : List Char) :
    (separateFrom isWord inRun text).dropWhile (· == '_') = separate isWord (text.dropWhile isOuter) := by
  induction text generalizing inRun with
  | nil => rfl
  | cons c rest ih =>
    cases word : isWord c with
    | false =>
      have isOuter : isOuter c = true := by simp [isOuter, word]
      rw [List.dropWhile_cons, if_pos isOuter, separateFrom, if_neg (by simp [word])]
      split_ifs
      · exact ih true
      · rw [List.dropWhile_cons, if_pos (by decide)]
        exact ih true
    | true =>
      rw [separateFrom, if_pos word, List.dropWhile_cons, List.dropWhile_cons]
      by_cases underscore : c = '_'
      · rw [if_pos (by simpa using underscore), if_pos (by simp [isOuter, underscore])]
        exact ih false
      · rw [if_neg (by simpa using underscore), if_neg (by simp [isOuter, word, underscore])]
        rw [separate, separateFrom, if_pos word]

/-- one character more at the end is kept, or one underscore more is written, or nothing -/
theorem separateFrom_concat (keep : Char → Bool) (inRun : Bool) (text : List Char) (c : Char) :
    if keep c then separateFrom keep inRun (text ++ [c]) = separateFrom keep inRun text ++ [c]
    else separateFrom keep inRun (text ++ [c]) = separateFrom keep inRun text ∨
      separateFrom keep inRun (text ++ [c]) = separateFrom keep inRun text ++ ['_'] := by
  induction text generalizing inRun with
  | nil => cases inRun <;> cases kept : keep c <;> simp [separateFrom, kept]
  | cons d rest ih =>
    rw [List.cons_append, separateFrom, separateFrom]
    split_ifs with first second kept
    · simpa [first] using ih false
    · simpa [first] using ih true
    · simpa [first] using ih true
    · simpa [first] using ih false
    · simpa [first] using ih true
    · simpa [first] using ih true

/-- behind, too; by induction on the text from its end -/
theorem rdropWhile_separate (text : List Char) :
    (separate isWord text).rdropWhile (· == '_') = separate isWord (text.rdropWhile isOuter) := by
  induction text using List.reverseRecOn with
  | nil => rfl
  | append_singleton rest c ih =>
    have concat := separateFrom_concat isWord false rest c
    cases word : isWord c with
    | false =>
      rw [List.rdropWhile_concat_pos _ _ _ (by simp [isOuter, word]), ← ih]
      simp only [word, Bool.false_eq_true, ↓reduceIte] at concat
      rcases concat with eq | eq
      · rw [separate, eq, separate]
      · rw [separate, eq, List.rdropWhile_concat_pos _ _ _ (by decide), separate]
    | true =>
      simp only [word, ↓reduceIte] at concat
      rw [separate, concat]
      by_cases underscore : c = '_'
      · rw [List.rdropWhile_concat_pos _ _ _ (by simpa using underscore),
          List.rdropWhile_concat_pos _ _ _ (by simp [isOuter, underscore])]
        exact ih
      · rw [List.rdropWhile_concat_neg _ _ _ (by simpa using underscore),
          List.rdropWhile_concat_neg _ _ _ (by simp [isOuter, word, underscore]), ← concat]
        rfl

/-- **Trimming after separating is trimming before it.** -/
theorem trimBoth_separate (name : List Char) : trimBoth '_' (separate isWord name) = separate isWord (inner name) := by
  rw [trimBoth_eq, separate, dropWhile_separateFrom, rdropWhile_separate, inner]

/-! ## Class names that are names -/

/-- what separating writes: the characters that are kept, and underscores -/
theorem mem_separateFrom {keep : Char → Bool} {inRun : Bool} {text : List Char} {c : Char} (kept : keep c = true)
    (mem : c ∈ text) : c ∈ separateFrom keep inRun text := by
  induction text generalizing inRun with
  | nil => cases mem
  | cons d rest ih =>
    rw [separateFrom]
    rcases List.mem_cons.1 mem with rfl | later
    · rw [if_pos kept]
      exact List.mem_cons_self
    · split_ifs
      · exact List.mem_cons_of_mem _ (ih later)
      · exact ih later
      · exact List.mem_cons_of_mem _ (ih later)

theorem mem_of_mem_separateFrom {keep : Char → Bool} {inRun : Bool} {text : List Char} {c : Char}
    (mem : c ∈ separateFrom keep inRun text) : (c ∈ text ∧ keep c = true) ∨ c = '_' := by
  induction text generalizing inRun with
  | nil => cases mem
  | cons d rest ih =>
    have later {inRun : Bool} (mem : c ∈ separateFrom keep inRun rest) : (c ∈ d :: rest ∧ keep c = true) ∨ c = '_' :=
      (ih mem).imp_left fun both => ⟨List.mem_cons_of_mem _ both.1, both.2⟩
    rw [separateFrom] at mem
    split_ifs at mem with kept
    · rcases List.mem_cons.1 mem with rfl | mem
      · exact .inl ⟨List.mem_cons_self, kept⟩
      · exact later mem
    · exact later mem
    · exact (List.mem_cons.1 mem).elim .inr later

/-- without underscores, nothing was separated -/
theorem separate_eq_self {keep : Char → Bool} {text : List Char} (h : '_' ∉ separate keep text) :
    separate keep text = text := by
  induction text with
  | nil => rfl
  | cons c rest ih =>
    rw [separate, separateFrom] at h ⊢
    cases kept : keep c with
    | true =>
      simp only [kept, ↓reduceIte] at h ⊢
      rw [← separate] at h ⊢
      rw [ih fun mem => h (List.mem_cons_of_mem _ mem)]
    | false =>
      simp only [kept, Bool.false_eq_true, ↓reduceIte] at h
      exact absurd List.mem_cons_self h

/-- the inner part begins with a character that is not outer -/
theorem head?_inner {name : List Char} {c : Char} (h : (inner name).head? = some c) : isWord c = true ∧ c ≠ '_' := by
  have front : inner name <+: name.dropWhile isOuter := List.rdropWhile_prefix _ _
  obtain ⟨after, eq⟩ := front
  have first : (name.dropWhile isOuter).head? = some c := by rw [← eq, List.head?_append, h, Option.some_or]
  have not := List.head?_dropWhile_not isOuter name
  rw [first] at not
  exact isOuter_eq_false.1 (by simpa using not)

/-- **Which names fit:** the word characters of the inner part are characters of identifiers, its first is one that may
start an identifier or is a digit, in front of which an underscore is put, and the whole is no reserved word. -/
structure Fits (name : String) : Prop where
  chars : ∀ c ∈ inner name.toList, isWord c = true → isNameContinue c = true
  first : ∀ c, (inner name.toList).head? = some c → isDigit c = true ∨ isNameStart c = true
  free : isReserved (String.ofList (inner name.toList)) = false

/-- with its first digit guarded, a text is an identifier when the first of its characters may start one or is a digit -/
theorem isIdentifier_guardDigit_iff {c : Char} {rest : List Char} : isIdentifier (guardDigit (c :: rest)) = true ↔
    (∀ d ∈ c :: rest, isNameContinue d = true) ∧ (isDigit c = true ∨ isNameStart c = true) := by
  rw [guardDigit, ← List.all_eq_true]
  split_ifs with digit
  · have underscore : isNameStart '_' = true := by decide
    simp [isIdentifier, underscore, digit]
  · simp only [isIdentifier, digit, Bool.false_eq_true, false_or, Bool.and_eq_true, List.all_cons]
    constructor
    · rintro ⟨start, follow⟩
      exact ⟨⟨isNameContinue_of_isNameStart start, follow⟩, start⟩
    · rintro ⟨⟨-, follow⟩, start⟩
      exact ⟨start, follow⟩

/-- no reserved word starts with an underscore or a digit -/
theorem isReserved_guardDigit (text : List Char) :
    isReserved (String.ofList (guardDigit text)) = isReserved (String.ofList text) := by
  have heads : ∀ w ∈ reservedWords, w.toList.head?.all (fun c => !isDigit c && c != '_') = true := by decide
  have other {c : Char} {rest : List Char} (bad : (!isDigit c && c != '_') = false) :
      isReserved (String.ofList (c :: rest)) = false := by
    rw [isReserved, ← Bool.not_eq_true]
    intro mem
    have head := heads _ (List.contains_iff_mem.1 mem)
    rw [String.toList_ofList, List.head?_cons, Option.all_some, bad] at head
    cases head
  cases text with
  | nil => rfl
  | cons c rest =>
    rw [guardDigit]
    split_ifs with digit
    · rw [other (by decide), other (by simp [digit])]
    · rfl

/-- separating makes no reserved word of another text -/
theorem isReserved_separate (text : List Char) :
    isReserved (String.ofList (separate isWord text)) = isReserved (String.ofList text) := by
  have plain : ∀ w ∈ reservedWords, w.toList.all isWord = true ∧ '_' ∉ w.toList := by decide
  rw [Bool.eq_iff_iff, isReserved, isReserved, List.contains_iff_mem, List.contains_iff_mem]
  constructor
  · intro mem
    have noUnderscore := (plain _ mem).2
    rw [String.toList_ofList] at noUnderscore
    rwa [separate_eq_self noUnderscore] at mem
  · intro mem
    have word := (plain _ mem).1
    rw [String.toList_ofList, List.all_eq_true] at word
    rwa [separate, separateFrom_of_all word]

/-- **A class name can stand as it is when the component's name fits.** -/
theorem isPlainField_className_iff (name : String) : isPlainField (className name) = true ↔ Fits name := by
  rw [isPlainField_iff, className, String.toList_ofList, classNameChars, isReserved_guardDigit, trimBoth_separate]
  cases eq : inner name.toList with
  | nil =>
    -- nothing is left, for which a name stands in
    have fits : Fits name := by
      refine ⟨?_, ?_, ?_⟩ <;> rw [eq]
      · simp
      · simp
      · decide
    exact iff_of_true ⟨by decide, by decide⟩ fits
  | cons c rest =>
    have word : isWord c = true := (head?_inner (by rw [eq]; rfl)).1
    have written : separate isWord (c :: rest) = c :: separate isWord rest := by
      rw [separate, separateFrom, if_pos word, separate]
    have full : nonEmptyOr "Component".toList (separate isWord (c :: rest)) = separate isWord (c :: rest) := by
      rw [written]
      rfl
    have chars : (∀ d ∈ separate isWord (c :: rest), isNameContinue d = true) ↔
        ∀ d ∈ c :: rest, isWord d = true → isNameContinue d = true := by
      constructor
      · exact fun all d mem kept => all d (mem_separateFrom kept mem)
      · intro all d mem
        rcases mem_of_mem_separateFrom mem with ⟨mem, kept⟩ | rfl
        · exact all d mem kept
        · decide
    rw [full, isReserved_separate, written, isIdentifier_guardDigit_iff, ← written, chars]
    constructor
    · rintro ⟨⟨chars, first⟩, free⟩
      refine ⟨?_, ?_, ?_⟩ <;> rw [eq]
      · exact chars
      · intro d head
        cases head
        exact first
      · exact free
    · rintro ⟨chars, first, free⟩
      rw [eq] at chars first free
      exact ⟨⟨chars, first c rfl⟩, free⟩

/-! ## Modules that mention a class -/

open ApiTypes.Source ApiTypes.Source.Lexing

/-- the line of an import ends it, so that nothing has to be put behind it -/
theorem closeLines_importLine {name : String} (word : IsWord name.toList) :
    closeLines (importLine ".components" [name]).toList = importChars ".components" [name] ++ ['\n'] := by
  have clean := clean_importChars spells_beside (List.forall_mem_singleton.2 word)
  have line : Clean (importChars ".components" [name] ++ ['\n']) := clean_append.2 ⟨clean, by decide⟩
  rw [toList_importLine, closeLines, line.lineFeeds, if_pos]
  rw [List.getLast?_append]
  rfl

/-- an import of a word that is read is one of a name: lexing stops at another word, and reading halts at a reserved one -/
theorem isPlainField_of_imported {name : String} (word : IsWord name.toList)
    (h : (read (importLine ".components" [name])).toOption ≠ none) : isPlainField name = true := by
  have words : ∀ n ∈ [name], IsWord n.toList := List.forall_mem_singleton.2 word
  have split := closeLines_importLine word
  have alike := lexedAlike_line joins_eq (clean_importChars spells_beside words) (outcome_importChars spells_beside words)
    (.inl rfl) rfl (List.cons_ne_nil _ _) .plain
  rw [List.nil_append, ← split] at alike
  obtain ⟨-, -, known⟩ := alike.lexed joins_eq
  by_cases complete : (Lexed.ofText (importLine ".components" [name]).toList).stop = .complete
  · have areNames := known (Lexed.complaint?_eq_none.2 complete)
    refine isPlainField_iff.2 ⟨areNames name List.mem_cons_self, ?_⟩
    by_contra reserved
    rw [Bool.not_eq_false] at reserved
    have line := spells_importChars spells_beside areNames
    have behind : closeLines (importLine ".components" [name]).toList =
        [] ++ (importChars ".components" [name] ++ ['\n'] ++ []) := by
      rw [split, List.nil_append, List.append_nil]
    obtain ⟨parts, more, all, tokens⟩ := tokens_of_laid .nil (line.passes (Nat.zero_le 200)) rfl (List.cons_ne_nil _ _)
      (lexedAlike_nil joins_eq) behind
    have isModule : isReserved "components" = false := by decide
    have halts := halts_importFrom true isModule ⟨name, List.mem_singleton_self name, reserved⟩ more
    refine h (toOption_read_of_halts ?_)
    rw [tokens, List.append_assoc]
    exact halts_module all (by decide) (by decide) halts
  · exact absurd (toOption_read_eq_none complete) h

/-- what a class and its fields need besides the name of the class -/
structure Line.Fine (l : Line) : Prop where
  field : isPlainField l.field = true
  type : l.type.Legible
  levels : l.type.levels ≤ 100
  description : '\x00' ∉ l.description.toList

/-- **A name that can be used:** the class of any fields and the call that stands for it are read as statements that define
the name, a field of any class may have it for its type, and it can be imported from the module of the components. -/
structure Usable (name : String) : Prop where
  declared : ∀ lines : List Line, (∀ l ∈ lines, l.Fine) →
    ∃ body, read ((Block.mk name lines).classText ++ "\n") = .ok [.class name body]
  assigned : ∀ lines : List Line, lines ≠ [] →
    ∃ e, read ((Block.mk name lines).callText ++ "\n") = .ok [.assign [.name name] e]
  annotated : ∀ (owner : String) (l : Line), isPlainField owner = true → isPlainField l.field = true →
    '\x00' ∉ l.description.toList → ∃ body, read ((Block.mk owner [{ l with type := .component name }]).classText ++ "\n") = .ok [.class owner body]
  imported : read (importLine ".components" [name]) = .ok [.importFrom 1 (some "components") [name]]

/-- a class whose name can stand as it is, with such fields -/
theorem read_classText {name : String} (plain : isPlainField name = true) {lines : List Line}
    (fine : ∀ l ∈ lines, l.Fine) : ∃ body, read ((Block.mk name lines).classText ++ "\n") = .ok [.class name body] := by
  have legible : (Block.mk name lines).Legible :=
    ⟨plain, fun l hl => ⟨(fine l hl).type, (fine l hl).levels⟩, fun l hl => (fine l hl).description⟩
  obtain ⟨body, isPart, -⟩ := legible.isPart_class (List.all_eq_true.2 fun l hl => (fine l hl).field)
  exact ⟨body, isPart.read⟩

/-- **A class name can be used when it can stand as it is**, and otherwise it cannot be imported. -/
theorem usable_iff {name : String} (word : IsWord name.toList) : Usable name ↔ isPlainField name = true := by
  constructor
  · intro usable
    refine isPlainField_of_imported word ?_
    rw [usable.imported]
    exact nofun
  · intro plain
    refine ⟨fun lines fine => read_classText plain fine, fun lines nonempty => ?_, fun owner l own field noNull => ?_, ?_⟩
    · obtain ⟨e, isPart, -⟩ := Block.isPart_call (b := ⟨name, lines⟩) plain nonempty
      exact ⟨e, isPart.read⟩
    · refine read_classText own (List.forall_mem_singleton.2 ⟨field, .component plain, ?_, noNull⟩)
      exact Nat.zero_le _
    · have names : ∀ n ∈ [name], isPlainField n = true := List.forall_mem_singleton.2 plain
      exact (isPart_importLine spells_beside (by decide) (List.cons_ne_nil _ _) names).read

/-- **Which components have class names that can be used.** A class name is never empty. It is an identifier and no reserved
word exactly when the component's name fits, and exactly then it can be used as the name of a class in either form, as the
type of a field, and in an import. -/
theorem className_usable_iff (name : String) : className name ≠ "" ∧
    (isPlainField (className name) = true ↔ Fits name) ∧ (Usable (className name) ↔ Fits name) := by
  have isClass := isClassName_className name
  have plain := isPlainField_className_iff name
  exact ⟨isClass.ne_empty, plain, (usable_iff isClass.isWord).trans plain⟩

/-- a reserved word is its own class name, and a number that is no digit stays the first character of one -/
theorem reserved_unusable : className "class" = "class" ∧ ¬ Usable (className "class") ∧
    className "½ share" = "½_share" ∧ ¬ Usable (className "½ share") := by
  refine ⟨by decide, ?_, by decide +kernel, ?_⟩
  · rw [(className_usable_iff "class").2.2]
    exact fun fits => absurd fits.free (by decide)
  · rw [(className_usable_iff "½ share").2.2]
    exact fun fits => absurd (fits.first '½' (by decide +kernel)) (by decide +kernel)

end ApiTypes.Module
