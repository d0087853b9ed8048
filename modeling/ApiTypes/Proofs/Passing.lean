/-
Texts that lexing passes, or stops in.

A printed text may hold what lexing does not come through: a class name with a character that no identifier has, or more
brackets inside each other than may be open. Whether it does, behind which tokens and for what reason, is told by the text
and by how many brackets are open in front of it, whatever stands behind it.

Main statements: `Lexes.append` and `Lexes.brackets`, texts are put together; `IsClassName.lexes`, a class name;
`TypeExpr.Worded.lexes`, a type expression.
-/
import ApiTypes.Proofs.Placed
import ApiTypes.Proofs.PrintedStub

namespace ApiTypes.Source

open ApiTypes.Text

namespace Lexing

/-! ## Stops -/

/-- lexing stops from here, behind these tokens and for this reason -/
def Stops (p : Place) (tokens : List Token) (complaint : Complaint) : Prop :=
  ∀ (l : Lexing) (fuel : Nat), l.At p → p.need ≤ fuel → (run fuel p.start l).tokens = l.tokens ++ tokens ∧
    ∃ line, (run fuel p.start l).stop = .fault ⟨complaint, line⟩

variable {p q : Place} {tokens more : List Token} {complaint : Complaint}

theorem Goes.stops (h : Goes p q tokens) (h' : Stops q more complaint) : Stops p (tokens ++ more) complaint := by
  intro l fuel at_p enough
  obtain ⟨m, fuel', at_q, enough', eq, steps⟩ := h l fuel at_p enough
  obtain ⟨all, stop⟩ := h' m fuel' at_q enough'
  rw [steps]
  refine ⟨?_, stop⟩
  rw [all, eq, List.append_assoc]

/-- at a token that cannot be read -/
theorem Stops.token {c : Char} {text : List Char} {columns : List (Nat × Nat)} {brackets : List Char}
    (blank : isBlank c = false) (other : c ≠ '#' ∧ c ≠ '\n' ∧ c ≠ '\\')
    (h : ∀ l : Lexing, l.At ⟨false, c :: text, columns, brackets⟩ →
      ∃ line, readToken c text l = .error (l.faultAt complaint line)) :
    Stops ⟨false, c :: text, columns, brackets⟩ [] complaint := by
  intro l fuel at_p enough
  obtain ⟨fuel, rfl⟩ : ∃ n, fuel = n + 1 := ⟨fuel - 1, by have := Place.need_pos ⟨false, c :: text, columns, brackets⟩; omega⟩
  obtain ⟨line, read⟩ := h l at_p
  have stopped := (run_token blank other at_p fuel).2 _ read
  rw [stopped]
  refine ⟨?_, line, rfl⟩
  rw [faultAt, stopWith, Lexed.tokens, List.map_reverse, List.append_nil]
  rfl

/-- at a bracket, where as many are open as may be -/
theorem stops_open {c : Char} (h : c ∈ openings) (text : List Char) (columns : List (Nat × Nat))
    {brackets : List Char} (full : 200 ≤ brackets.length) :
    Stops ⟨false, c :: text, columns, brackets⟩ [] .tooNested := by
  obtain ⟨blank, other⟩ := apart_of_opening h
  refine Stops.token blank other fun l at_p => ⟨l.line, ?_⟩
  rw [readToken_opening h, openBracket, if_pos]
  rw [at_p.length_brackets]
  exact full

end Lexing

open Lexing

/-! ## Texts -/

/-- lexing comes through the text by these tokens, inside so many brackets, before what delimits a name -/
def Passes (depth : Nat) (text : List Char) (tokens : List Token) : Prop :=
  ∀ rest columns brackets, delimited rest = true → brackets.length = depth →
    Goes ⟨false, text ++ rest, columns, brackets⟩ ⟨false, rest, columns, brackets⟩ tokens

/-- lexing stops in the text, inside so many brackets, whatever stands behind it -/
def Breaks (depth : Nat) (text : List Char) : Prop :=
  ∃ tokens complaint, ∀ rest columns brackets, delimited rest = true → brackets.length = depth →
    Stops ⟨false, text ++ rest, columns, brackets⟩ tokens complaint

/-- inside any brackets, lexing comes through the text by these tokens or stops in it -/
structure Lexes (text : List Char) (tokens : List Token) : Prop where
  clean : Clean text
  outcome : ∀ depth ≤ 200, Passes depth text tokens ∨ Breaks depth text

section

variable {depth : Nat} {text other : List Char} {tokens more : List Token}

theorem Passes.append (h : Passes depth text tokens) (h' : Passes depth other more) (ends : delimited other = true) :
    Passes depth (text ++ other) (tokens ++ more) := by
  intro rest columns brackets ends' length
  have first := h (other ++ rest) columns brackets (delimited_append ends rest) length
  rw [List.append_assoc]
  exact first.trans (h' rest columns brackets ends' length)

theorem Passes.breaks (h : Passes depth text tokens) (h' : Breaks depth other) (ends : delimited other = true) :
    Breaks depth (text ++ other) := by
  obtain ⟨front, complaint, stops⟩ := h'
  refine ⟨tokens ++ front, complaint, fun rest columns brackets ends' length => ?_⟩
  have first := h (other ++ rest) columns brackets (delimited_append ends rest) length
  rw [List.append_assoc]
  exact first.stops (stops rest columns brackets ends' length)

theorem Breaks.append (h : Breaks depth text) (ends : delimited other = true) : Breaks depth (text ++ other) := by
  obtain ⟨front, complaint, stops⟩ := h
  refine ⟨front, complaint, fun rest columns brackets _ length => ?_⟩
  rw [List.append_assoc]
  exact stops (other ++ rest) columns brackets (delimited_append ends rest) length

theorem Lexes.append (h : Lexes text tokens) (h' : Lexes other more) (ends : delimited other = true) :
    Lexes (text ++ other) (tokens ++ more) where
  clean := clean_append.2 ⟨h.clean, h'.clean⟩
  outcome := by
    intro depth room
    rcases h.outcome depth room with passes | breaks
    · rcases h'.outcome depth room with passes' | breaks'
      · exact .inl (passes.append passes' ends)
      · exact .inr (passes.breaks breaks' ends)
    · exact .inr (breaks.append ends)

/-- a text with as many brackets inside each other as may be open is passed -/
theorem Spells.passes {deep : Nat} (h : Spells deep text tokens) (room : depth + deep ≤ 200) : Passes depth text tokens :=
  fun rest columns brackets ends length => h.goes rest columns brackets ends (by omega)

/-- a text without brackets is passed -/
theorem Spells.lexes (h : Spells 0 text tokens) : Lexes text tokens :=
  ⟨h.clean, fun _ room => .inl (h.passes room)⟩

theorem Glues.passes (h : Glues text tokens) (h' : Passes depth other more) :
    Passes depth (text ++ other) (tokens ++ more) := by
  intro rest columns brackets ends length
  rw [List.append_assoc]
  exact (h.goes (other ++ rest) columns brackets).trans (h' rest columns brackets ends length)

theorem Glues.breaks (h : Glues text tokens) (h' : Breaks depth other) : Breaks depth (text ++ other) := by
  obtain ⟨front, complaint, stops⟩ := h'
  refine ⟨tokens ++ front, complaint, fun rest columns brackets ends length => ?_⟩
  rw [List.append_assoc]
  exact (h.goes (other ++ rest) columns brackets).stops (stops rest columns brackets ends length)

theorem Glues.lexes (h : Glues text tokens) (h' : Lexes other more) : Lexes (text ++ other) (tokens ++ more) where
  clean := clean_append.2 ⟨h.clean, h'.clean⟩
  outcome := fun depth room => (h'.outcome depth room).imp h.passes h.breaks

/-- brackets around a text, where one more may be open or none -/
theorem Lexes.brackets {opening closing : Char} (h : Lexes text tokens) (isOpening : opening ∈ openings)
    (pair : closing? opening = some closing) :
    Lexes (opening :: (text ++ [closing]))
      (.mark (String.singleton opening) :: (tokens ++ [.mark (String.singleton closing)])) := by
  obtain ⟨clean, delimits⟩ := closing_cases pair
  obtain ⟨cleanOpening, cleanClosing⟩ := clean_cons.1 clean
  have chars (rest : List Char) : opening :: (text ++ [closing]) ++ rest = opening :: (text ++ closing :: rest) := by simp
  refine ⟨clean_cons.2 ⟨cleanOpening, clean_append.2 ⟨h.clean, cleanClosing⟩⟩, fun depth room => ?_⟩
  rcases Nat.lt_or_eq_of_le room with free | full
  · rcases h.outcome (depth + 1) free with passes | ⟨front, complaint, stops⟩
    · refine .inl fun rest columns brackets ends length => ?_
      have opened := goes_open isOpening (text ++ closing :: rest) columns (by omega : brackets.length < 200)
      have inside := passes (closing :: rest) columns (opening :: brackets) (delimited_append delimits rest)
        (congrArg Nat.succ length)
      have whole := opened.trans (inside.trans (goes_close pair rest columns brackets))
      rw [chars]
      simpa using whole
    · refine .inr ⟨.mark (String.singleton opening) :: front, complaint, fun rest columns brackets ends length => ?_⟩
      have opened := goes_open isOpening (text ++ closing :: rest) columns (by omega : brackets.length < 200)
      have inside := stops (closing :: rest) columns (opening :: brackets) (delimited_append delimits rest)
        (congrArg Nat.succ length)
      rw [chars]
      exact opened.stops inside
  · refine .inr ⟨[], .tooNested, fun rest columns brackets ends length => ?_⟩
    rw [chars]
    exact stops_open isOpening _ columns (by omega)

/-- texts with commas between them -/
theorem lexes_separated {items : List (List Char × List Token)} (h : ∀ i ∈ items, Lexes i.1 i.2) :
    Lexes (", ".toList.intercalate (items.map Prod.fst)) (separated (items.map Prod.snd)) := by
  induction items with
  | nil => exact spells_nil.lexes
  | cons first rest ih =>
    have later := ih fun i hi => h i (List.mem_cons_of_mem _ hi)
    have own := h first List.mem_cons_self
    cases rest with
    | nil => simpa [separated] using own
    | cons second rest =>
      have whole := own.append (glues_comma.lexes later) rfl
      simpa [separated, List.intercalate_cons_cons] using whole

end

/-! ## Words -/

/-- what starts like a name and has only characters that are taken into one -/
structure IsWord (name : List Char) : Prop where
  head : ∃ c rest, name = c :: rest ∧ isNameHead c = true
  chars : ∀ c ∈ name, Number.isNameChar c = true

theorem IsWord.clean {name : List Char} (h : IsWord name) : Clean name := by
  constructor
  · intro mem
    exact absurd (h.chars _ mem) (by decide)
  · intro mem
    exact absurd (h.chars _ mem) (by decide)

theorem IsWord.startsLine {name : List Char} (h : IsWord name) (rest : List Char) : startsLine (name ++ rest) = true := by
  obtain ⟨c, more, rfl, head⟩ := h.head
  have apart : ∀ d ∈ marginChars, isNameHead d = false := Literal.forall_mem_of_all (by decide)
  have plain : c ∉ marginChars := by
    intro mem
    rw [apart c mem] at head
    cases head
  simpa [Lexing.startsLine] using plain

/-- without a bad character, a name is an identifier -/
theorem isIdentifier_of_badCharacter? {c : Char} {more : List Char} (h : badCharacter? (c :: more) = none) :
    isIdentifier (c :: more) = true := by
  rw [badCharacter?] at h
  split_ifs at h with start
  rw [List.find?_eq_none] at h
  rw [isIdentifier, start, Bool.true_and, List.all_eq_true]
  intro d hd
  simpa using h d hd

/-- a word is passed where it is an identifier only -/
theorem IsWord.outcome {name : String} (h : IsWord name.toList) (depth : Nat) :
    (isIdentifier name.toList = true ∧ Passes depth name.toList [.name name]) ∨ Breaks depth name.toList := by
  obtain ⟨c, more, eq, head⟩ := h.head
  obtain ⟨blank, other⟩ := apart_of_isNameHead head
  have chars := h.chars
  have own : name = String.ofList (c :: more) := by rw [← eq, String.ofList_toList]
  rw [eq] at chars ⊢
  cases bad : badCharacter? (c :: more) with
  | none =>
    refine .inl ⟨isIdentifier_of_badCharacter? bad, fun rest columns brackets ends _ => ?_⟩
    refine Goes.token blank other (by simp) fun l at_p => ?_
    rw [own]
    exact ⟨_, (readToken_word head chars ends at_p.rest).1 bad, ⟨rfl, at_p.columns, at_p.brackets⟩, tokens_push _ _ _⟩
  | some d =>
    refine .inr ⟨[], .character d, fun rest columns brackets ends _ => Stops.token blank other fun l at_p => ?_⟩
    exact ⟨l.line, (readToken_word head chars ends at_p.rest).2 d bad⟩

/-- a word is passed as a name, or lexing stops at it for a character of it -/
theorem IsWord.lexes {name : String} (h : IsWord name.toList) : Lexes name.toList [.name name] :=
  ⟨h.clean, fun depth _ => (h.outcome depth).imp_left And.right⟩

/-- words with commas between them are passed where all are identifiers only; by induction on the words -/
theorem outcome_words {names : List String} (words : ∀ name ∈ names, IsWord name.toList) (depth : Nat) :
    ((∀ name ∈ names, isIdentifier name.toList = true) ∧
      Passes depth (", ".toList.intercalate (names.map String.toList)) (separated (names.map fun name => [.name name]))) ∨
        Breaks depth (", ".toList.intercalate (names.map String.toList)) := by
  induction names with
  | nil => exact .inl ⟨by simp, fun _ _ _ _ _ => Goes.refl _⟩
  | cons first rest ih =>
    have own := (words first List.mem_cons_self).outcome depth
    have later := ih fun name mem => words name (List.mem_cons_of_mem _ mem)
    cases rest with
    | nil => simpa [separated] using own
    | cons second rest =>
      rw [List.map_cons, List.map_cons, List.intercalate_cons_cons, ← List.map_cons, List.append_assoc]
      rcases own with ⟨isName, passes⟩ | breaks
      · rcases later with ⟨areNames, passes'⟩ | breaks
        · refine .inl ⟨List.forall_mem_cons.2 ⟨isName, areNames⟩, ?_⟩
          simpa [separated] using passes.append (glues_comma.passes passes') rfl
        · exact .inr (passes.breaks (glues_comma.breaks breaks) rfl)
      · exact .inr (breaks.append rfl)

theorem isNameChar_of_isWord {c : Char} (h : isWord c = true) : Number.isNameChar c = true := by
  unfold isWord at h
  unfold Number.isNameChar
  split_ifs at h with ascii <;> simp_all

end ApiTypes.Source

namespace ApiTypes.Module

open ApiTypes.Source ApiTypes.Source.Lexing ApiTypes.Text

theorem IsClassName.isWord {name : String} (h : IsClassName name) : IsWord name.toList := by
  refine ⟨?_, fun c hc => isNameChar_of_isWord (h.word c hc)⟩
  have words := h.word
  obtain ⟨core, isCore, rfl⟩ := h
  rw [String.toList_ofList] at words ⊢
  obtain ⟨c, rest, eq⟩ := List.exists_cons_of_ne_nil isCore.nonempty
  rw [eq, guardDigit] at words ⊢
  split_ifs at words ⊢ with digit
  · exact ⟨_, _, rfl, by decide⟩
  · refine ⟨_, _, rfl, ?_⟩
    have word := words c List.mem_cons_self
    unfold Text.isWord at word
    unfold isNameHead
    split_ifs at word with ascii
    · have notDigit : isAsciiDigit c = false := by simpa [isDigit, ascii] using digit
      simpa [isAsciiAlnum, notDigit, ascii] using word
    · simp [ascii]

/-! ## Type expressions -/

/-- an item of a name -/
theorem lexes_itemOf {name text : String} {tokens : List Token} (isName : isPlainField name = true)
    (h : Lexes text.toList tokens) : Lexes (name ++ "[" ++ text ++ "]").toList
      (.name name :: .mark "[" :: (tokens ++ [.mark "]"])) := by
  have named : Spells 0 name.toList [.name name] := spells_name (isPlainField_iff.1 isName).1
  have whole := named.lexes.append (h.brackets (by decide : '[' ∈ openings) rfl) rfl
  simpa using whole

namespace TypeExpr

/-- the types of the language that are written as words -/
def words : List String := ["str", "int", "float", "bool", "Any"]

/-- the names in the type expression are class names, and whatever else is in it the language's own -/
def Worded : TypeExpr → Prop
  | .word text => text ∈ words ∨ text = "list[Any]" ∨ text = "dict[str, Any]"
  | .list item => item.Worded
  | .component name => IsClassName name
  | .record name => IsClassName name

theorem Legible.item {item : TypeExpr} (h : Legible (.list item)) : Legible item := by
  generalize eq : TypeExpr.list item = type at h
  cases h with
  | list h =>
    cases eq
    exact h
  | _ => cases eq

theorem Legible.name {name : String} (h : Legible (.component name) ∨ Legible (.record name)) :
    isPlainField name = true := by
  rcases h with h | h
  · generalize eq : TypeExpr.component name = type at h
    cases h with
    | component plain =>
      cases eq
      exact plain
    | _ => cases eq
  · generalize eq : TypeExpr.record name = type at h
    cases h with
    | record plain =>
      cases eq
      exact plain
    | _ => cases eq

theorem lexes_listOf {text : String} {tokens : List Token} (h : Lexes text.toList tokens) :
    Lexes ("list[" ++ text ++ "]").toList (.name "list" :: .mark "[" :: (tokens ++ [.mark "]"])) := by
  have head : "list[" = "list" ++ "[" := by decide
  rw [head]
  exact lexes_itemOf (by decide) h

theorem lexes_dictionary : ∃ tokens e, Lexes "dict[str, Any]".toList tokens ∧ IsPrimary tokens e := by
  have str : Spells 0 "str".toList [.name "str"] := spells_name (by decide)
  have any : Spells 0 "Any".toList [.name "Any"] := spells_name (by decide)
  have items : Spells 0 "str, Any".toList [.name "str", .mark ",", .name "Any"] :=
    str.append (glues_comma.before any) rfl
  have isStr : IsExpression [.name "str"] (.name "str") := (isPrimary_name (by decide)).expression
  have isAny : IsExpression [.name "Any"] (.name "Any") := (isPrimary_name (by decide)).expression
  exact ⟨_, _, lexes_itemOf (by decide : isPlainField "dict" = true) items.lexes, isStr.itemsOf (by decide) isAny⟩

/-- lexing comes through a type expression or stops in it; by its tokens it is an expression, if it is legible -/
theorem Worded.lexes {type : TypeExpr} (h : type.Worded) :
    ∃ tokens, Lexes type.text.toList tokens ∧ (type.Legible → ∃ e, IsPrimary tokens e) := by
  induction type with
  | word text =>
    have plain : ∀ word ∈ words, isPlainField word = true := by decide
    rcases h with known | rfl | rfl
    · obtain ⟨isName, notReserved⟩ := isPlainField_iff.1 (plain text known)
      have spelled : Spells 0 text.toList [.name text] := spells_name isName
      exact ⟨_, spelled.lexes, fun _ => ⟨_, isPrimary_name notReserved⟩⟩
    · have any : Spells 0 "Any".toList [.name "Any"] := spells_name (by decide)
      have isAny : IsExpression [.name "Any"] (.name "Any") := (isPrimary_name (by decide)).expression
      exact ⟨_, lexes_listOf any.lexes, fun _ => ⟨_, isAny.itemOf (by decide)⟩⟩
    · obtain ⟨tokens, e, lexes, isPrimary⟩ := lexes_dictionary
      exact ⟨tokens, lexes, fun _ => ⟨e, isPrimary⟩⟩
  | list item ih =>
    obtain ⟨tokens, lexes, isPrimary⟩ := ih h
    refine ⟨_, lexes_listOf lexes, fun legible => ?_⟩
    obtain ⟨e, isItem⟩ := isPrimary legible.item
    exact ⟨_, isItem.expression.itemOf (by decide)⟩
  | component name =>
    have isName : IsClassName name := h
    exact ⟨_, isName.isWord.lexes, fun legible => ⟨_, isPrimary_name (isPlainField_iff.1 (Legible.name (.inl legible))).2⟩⟩
  | record name =>
    have isName : IsClassName name := h
    exact ⟨_, isName.isWord.lexes, fun legible => ⟨_, isPrimary_name (isPlainField_iff.1 (Legible.name (.inr legible))).2⟩⟩

end TypeExpr

/-- a type of the language is worded -/
theorem worded_builtin {name : String} (known : name ∈ Declaration.builtins) : (TypeExpr.builtin name).Worded := by
  have each : ∀ name ∈ Declaration.builtins, (TypeExpr.builtin name).text ∈ TypeExpr.words ∨
      (TypeExpr.builtin name).text = "list[Any]" ∨ (TypeExpr.builtin name).text = "dict[str, Any]" := by decide
  exact each _ known

/-- a type in a signature is worded, whatever its declaration is made of -/
theorem worded_flat {names : List String} {d : Declaration} (h : d.Emitted names) : (TypeExpr.flat d).Worded := by
  induction h with
  | builtin known => exact worded_builtin known
  | list _ ih => exact ih
  | record => exact Or.inr (Or.inr rfl)
  | reference => exact isClassName_className _
  | any => exact Or.inl (by decide)

/-! ## Headings of functions -/

/-- an argument whose name is an identifier; by its tokens it is a parameter, if its type is legible -/
theorem Argument.lexes {a : Argument} (name : isPlainField a.name = true) (type : (TypeExpr.flat a.type).Worded) :
    ∃ p : List Char × List Token × Source.Parameter, p.1 = a.text.toList ∧ (Lexes p.1 p.2.1 ∧
      ((TypeExpr.flat a.type).Legible → IsItem (parameter expression parameterType ")") ")" p.2.1 p.2.2)) ∧
        p.2.2 = .plain (!a.required) := by
  obtain ⟨isName, notReserved⟩ := isPlainField_iff.1 name
  have named : Spells 0 a.name.toList [.name a.name] := spells_name isName
  obtain ⟨tokens, typed, isPrimary⟩ := type.lexes
  cases required : a.required with
  | true =>
    have lexes := named.lexes.append (glues_colon.lexes typed) rfl
    refine ⟨⟨_, _, .plain false⟩, ?_, ⟨lexes, fun legible => ?_⟩, rfl⟩
    · simp [text, annotated, required]
    · obtain ⟨e, isType⟩ := isPrimary legible
      exact isType.expression.isItem_required notReserved
  | false =>
    have none : Spells 0 "None".toList [.name "None"] := spells_name (by decide)
    have standard : Spells 0 "None = None".toList [.name "None", .mark "=", .name "None"] :=
      none.append (glues_equals.before none) rfl
    have lexes := named.lexes.append (glues_colon.lexes (typed.append (glues_bar.lexes standard.lexes) rfl)) rfl
    refine ⟨⟨_, _, .plain true⟩, ?_, ⟨lexes, fun legible => ?_⟩, rfl⟩
    · simp [text, annotated, required]
    · obtain ⟨e, isType⟩ := isPrimary legible
      simpa using isType.orNone.isItem_optional notReserved

/-- the names of a stub are identifiers, and its types are worded -/
structure Stub.Worded (s : Stub) : Prop where
  name : isPlainField s.name = true
  arguments : ∀ a ∈ s.arguments, isPlainField a.name = true
  types : ∀ type ∈ s.types, (TypeExpr.flat type).Worded

/-- the heading of a stub; by its tokens it is that of a function, if its types are legible -/
theorem Stub.Worded.lexes_heading {s : Stub} (h : s.Worded) :
    ∃ tokens, Lexes s.heading tokens ∧ ((∀ type ∈ s.types, (TypeExpr.flat type).Legible) →
      ∀ parts : List (List Token × Statement), parts ≠ [] → (∀ part ∈ parts, IsStatement 1 part.1 part.2) →
        IsStatement 2 (tokens ++ .mark ":" :: blockTokens parts) (.function s.name (parts.map Prod.snd))) := by
  have ofArgument : ∀ a ∈ s.arguments, a.type ∈ s.types := fun a ha =>
    List.mem_append_left _ (List.mem_map_of_mem ha)
  have ofResponse : s.response ∈ s.types := List.mem_append_right _ List.mem_cons_self
  obtain ⟨isName, notReserved⟩ := isPlainField_iff.1 h.name
  obtain ⟨params, eq, all, required, optional, ordered⟩ := s.exists_signature
    (P := fun p => Lexes p.1 p.2.1 ∧ ((∀ type ∈ s.types, (TypeExpr.flat type).Legible) →
      IsItem (parameter expression parameterType ")") ")" p.2.1 p.2.2))
    (fun a ha => by
      obtain ⟨p, chars, ⟨lexes, isItem⟩, plain⟩ := Argument.lexes (h.arguments a ha) (h.types _ (ofArgument a ha))
      exact ⟨p, chars, ⟨lexes, fun legible => isItem (legible _ (ofArgument a ha))⟩, plain⟩)
    ⟨spells_star.lexes, fun _ => isItem_star⟩
  obtain ⟨result, typed, isPrimary⟩ := (h.types _ ofResponse).lexes
  have items : ∀ i ∈ params.map fun p => (p.1, p.2.1), Lexes i.1 i.2 := by
    intro i hi
    obtain ⟨p, mem, rfl⟩ := List.mem_map.1 hi
    exact (all p mem).1
  have separate : Lexes (", ".toList.intercalate (params.map Prod.fst)) (separated (params.map fun p => p.2.1)) := by
    simpa [Function.comp_def] using lexes_separated items
  have word : Spells 0 "def".toList [.name "def"] := spells_name (by decide)
  have named : Spells 0 s.name.toList [.name s.name] := spells_name isName
  have signature := named.lexes.append (separate.brackets (by decide : '(' ∈ openings) rfl) rfl
  have whole := (word.lexes.append (glues_blank.lexes signature) rfl).append (glues_arrow.lexes typed) rfl
  rw [eq] at whole
  refine ⟨_, whole, fun legible parts full statements => ?_⟩
  obtain ⟨e, isType⟩ := isPrimary (legible _ ofResponse)
  have each : ∀ i ∈ params.map Prod.snd, IsItem (parameter expression parameterType ")") ")" i.1 i.2 := by
    intro i hi
    obtain ⟨p, mem, rfl⟩ := List.mem_map.1 hi
    exact (all p mem).2 legible
  have statement := isStatement_function notReserved each (by simpa [Function.comp_def] using ordered)
    isType.expression full statements
  simpa [Function.comp_def] using statement

end ApiTypes.Module
