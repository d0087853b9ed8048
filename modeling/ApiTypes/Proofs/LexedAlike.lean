/-
Texts that are lexed alike.

Two texts are lexed alike when lexing comes through both by related tokens, to the same blocks, or stops in both behind
related tokens for the same reason. Texts that end where a line ends are put together, so that two pages are compared line
by line. With the relation goes what is known where lexing comes through, such as that a name has only characters of one.

Main statements: `LexedAlike.append`, `lexedAlike_flatMap`; `LexedAlike.lexed`, what it means for whole texts.
-/
import ApiTypes.Proofs.Passing

namespace ApiTypes.Source

open Lexing ApiTypes.Text

/-! ## Lexing from line to line -/

/-- from the start of a line to the start of another, lexing comes through the text by these tokens -/
def Through (text : List Char) (columns behind : List (Nat × Nat)) (tokens : List Token) : Prop :=
  ∀ rest, Goes ⟨true, text ++ rest, columns, []⟩ ⟨true, rest, behind, []⟩ tokens

/-- from the start of a line, lexing stops in the text behind these tokens, whatever follows -/
def Short (text : List Char) (columns : List (Nat × Nat)) (tokens : List Token) (complaint : Complaint) : Prop :=
  ∀ rest, Stops ⟨true, text ++ rest, columns, []⟩ tokens complaint

section

variable {text other : List Char} {columns behind after : List (Nat × Nat)} {tokens more : List Token}
  {complaint : Complaint}

theorem Through.append (h : Through text columns behind tokens) (h' : Through other behind after more) :
    Through (text ++ other) columns after (tokens ++ more) := by
  intro rest
  rw [List.append_assoc]
  exact (h (other ++ rest)).trans (h' rest)

theorem Through.short (h : Through text columns behind tokens) (h' : Short other behind more complaint) :
    Short (text ++ other) columns (tokens ++ more) complaint := by
  intro rest
  rw [List.append_assoc]
  exact (h (other ++ rest)).stops (h' rest)

theorem Short.append (h : Short text columns tokens complaint) (other : List Char) :
    Short (text ++ other) columns tokens complaint := by
  intro rest
  rw [List.append_assoc]
  exact h (other ++ rest)

/-- in front of a statement stands nothing or the margin of a block; blocks are opened and closed for it -/
theorem goes_margin {margin : List Char} (isMargin : margin = [] ∨ margin = indentation)
    (known : columns ∈ blocksBehind) : ∃ behind ∈ blocksBehind, (margin = [] → behind = []) ∧ ∃ tokens, ∀ text,
      startsLine text = true → Goes ⟨true, margin ++ text, columns, []⟩ ⟨false, text, behind, []⟩ tokens := by
  rcases isMargin with rfl | rfl
  · exact ⟨[], by decide, fun _ => rfl, closing columns, fun text starts => goes_closing starts known⟩
  · refine ⟨[(4, 4)], by decide, nofun, ?_⟩
    simp only [blocksBehind, List.mem_cons, List.not_mem_nil, or_false] at known
    rcases known with rfl | rfl
    · exact ⟨_, fun text starts => goes_indent starts⟩
    · exact ⟨_, fun text starts => goes_same starts rfl⟩

/-- how the line of a statement ends: with a colon or without -/
inductive IsLineEnd : List Char → List Token → Prop
  | plain : IsLineEnd ['\n'] [.newline]
  | colon : IsLineEnd [':', '\n'] [.mark ":", .newline]

theorem IsLineEnd.delimited (h : IsLineEnd text tokens) : Lexing.delimited text = true := by
  cases h <;> rfl

theorem IsLineEnd.clean (h : IsLineEnd text tokens) : Clean text := by
  cases h <;> decide

theorem IsLineEnd.goes (h : IsLineEnd text tokens) (rest : List Char) (columns : List (Nat × Nat)) :
    Goes ⟨false, text ++ rest, columns, []⟩ ⟨true, rest, columns, []⟩ tokens := by
  cases h with
  | plain => exact goes_newline rest columns
  | colon => exact (goes_mark (by decide) rest columns []).trans (goes_newline rest columns)

section

variable {margin tail : List Char} {last : List Token} (isMargin : margin = [] ∨ margin = indentation)
  (starts : startsLine text = true) (nonempty : text ≠ []) (isTail : IsLineEnd tail last) (known : columns ∈ blocksBehind)

include isMargin starts nonempty isTail known

/-- lexing comes through a line when it comes through what stands on it -/
theorem Passes.line (h : Passes 0 text tokens) : ∃ behind ∈ blocksBehind, (margin = [] → behind = []) ∧
    ∃ all, Through (margin ++ text ++ tail) columns behind all := by
  obtain ⟨behind, known', flat, first, opens⟩ := goes_margin isMargin known
  refine ⟨behind, known', flat, first ++ (tokens ++ last), fun rest => ?_⟩
  have opened := opens _ (startsLine_append starts nonempty (tail ++ rest))
  have ends : Lexing.delimited (tail ++ rest) = true := delimited_append isTail.delimited rest
  rw [List.append_assoc, List.append_assoc]
  exact opened.trans ((h _ behind [] ends rfl).trans (isTail.goes rest behind))

/-- lexing stops in a line when it stops in what stands on it -/
theorem Breaks.line (h : Breaks 0 text) : ∃ all complaint, Short (margin ++ text ++ tail) columns all complaint := by
  obtain ⟨behind, -, -, first, opens⟩ := goes_margin isMargin known
  obtain ⟨front, complaint, stops⟩ := h
  refine ⟨first ++ front, complaint, fun rest => ?_⟩
  have opened := opens _ (startsLine_append starts nonempty (tail ++ rest))
  have ends : Lexing.delimited (tail ++ rest) = true := delimited_append isTail.delimited rest
  rw [List.append_assoc, List.append_assoc]
  exact opened.stops (stops _ behind [] ends rfl)

end

end

/-! ## Pairs of texts -/

/-- a relation of token sequences that holds of equal ones and is kept when related ones are put behind -/
structure Joins (same : List Token → List Token → Prop) : Prop where
  refl : ∀ tokens, same tokens tokens
  append : ∀ {tokens tokens' more more'}, same tokens tokens' → same more more' → same (tokens ++ more) (tokens' ++ more')

theorem joins_eq : Joins Eq := by
  refine ⟨fun _ => rfl, ?_⟩
  rintro tokens _ more _ rfl rfl
  rfl

/-- lexing comes through both texts by related tokens, where `holds` is known, or stops in both for the same reason -/
structure LexedAlike (same : List Token → List Token → Prop) (holds : Prop) (text other : List Char) : Prop where
  clean : Clean text
  clean' : Clean other
  outcome : ∀ columns ∈ blocksBehind, ∃ tokens tokens', same tokens tokens' ∧
    ((holds ∧ ∃ behind ∈ blocksBehind, Through text columns behind tokens ∧ Through other columns behind tokens') ∨
      ∃ complaint, Short text columns tokens complaint ∧ Short other columns tokens' complaint)

section

variable {same : List Token → List Token → Prop} {holds holds' : Prop} {text other after after' : List Char}
  {tokens : List Token}

theorem LexedAlike.imp (h : LexedAlike same holds text other) (known : holds → holds') :
    LexedAlike same holds' text other where
  clean := h.clean
  clean' := h.clean'
  outcome := by
    intro columns mem
    obtain ⟨tokens, tokens', alike, outcome⟩ := h.outcome columns mem
    exact ⟨tokens, tokens', alike, outcome.imp_left fun through => ⟨known through.1, through.2⟩⟩

theorem LexedAlike.append (joins : Joins same) (h : LexedAlike same holds text other)
    (h' : LexedAlike same holds' after after') : LexedAlike same (holds ∧ holds') (text ++ after) (other ++ after') where
  clean := clean_append.2 ⟨h.clean, h'.clean⟩
  clean' := clean_append.2 ⟨h.clean', h'.clean'⟩
  outcome := by
    intro columns known
    obtain ⟨tokens, tokens', first, outcome⟩ := h.outcome columns known
    rcases outcome with ⟨known, behind, mem, through, through'⟩ | ⟨complaint, short, short'⟩
    · obtain ⟨more, more', second, outcome⟩ := h'.outcome behind mem
      refine ⟨_, _, joins.append first second, ?_⟩
      rcases outcome with ⟨known', last, mem', onward, onward'⟩ | ⟨complaint, short, short'⟩
      · exact .inl ⟨⟨known, known'⟩, last, mem', through.append onward, through'.append onward'⟩
      · exact .inr ⟨complaint, through.short short, through'.short short'⟩
    · exact ⟨_, _, first, .inr ⟨complaint, short.append _, short'.append _⟩⟩

theorem lexedAlike_nil (joins : Joins same) : LexedAlike same True [] [] where
  clean := by decide
  clean' := by decide
  outcome := fun columns known =>
    ⟨[], [], joins.refl _, .inl ⟨trivial, columns, known, fun _ => Goes.refl _, fun _ => Goes.refl _⟩⟩

/-- texts that are lexed alike one by one -/
theorem lexedAlike_flatMap {ι : Type} {known : ι → Prop} {f g : ι → List Char} {items : List ι} (joins : Joins same)
    (each : ∀ i ∈ items, LexedAlike same (known i) (f i) (g i)) :
    LexedAlike same (∀ i ∈ items, known i) (items.flatMap f) (items.flatMap g) := by
  induction items with
  | nil => exact (lexedAlike_nil joins).imp fun _ => by simp
  | cons first rest ih =>
    obtain ⟨own, others⟩ := List.forall_mem_cons.1 each
    rw [List.flatMap_cons, List.flatMap_cons]
    exact (own.append joins (ih others)).imp fun both => List.forall_mem_cons.2 both

/-- a line on both sides, through which lexing comes where `holds` is known -/
theorem lexedAlike_line {margin tail : List Char} {last : List Token} (joins : Joins same) (clean : Clean text)
    (outcome : (holds ∧ Passes 0 text tokens) ∨ Breaks 0 text) (isMargin : margin = [] ∨ margin = indentation)
    (starts : startsLine text = true) (nonempty : text ≠ []) (isTail : IsLineEnd tail last) :
    LexedAlike same holds (margin ++ text ++ tail) (margin ++ text ++ tail) := by
  have cleanLine : Clean (margin ++ text ++ tail) := by
    have blank : Clean margin := by rcases isMargin with rfl | rfl <;> decide
    exact clean_append.2 ⟨clean_append.2 ⟨blank, clean⟩, isTail.clean⟩
  refine ⟨cleanLine, cleanLine, fun columns known => ?_⟩
  rcases outcome with ⟨holds, passes⟩ | breaks
  · obtain ⟨behind, mem, -, all, through⟩ := passes.line isMargin starts nonempty isTail known
    exact ⟨all, all, joins.refl all, .inl ⟨holds, behind, mem, through, through⟩⟩
  · obtain ⟨all, complaint, short⟩ := breaks.line isMargin starts nonempty isTail known
    exact ⟨all, all, joins.refl all, .inr ⟨complaint, short, short⟩⟩

/-- a heading on both sides, with related blocks -/
theorem Lexes.lexedAlike_block {more more' : List Token} (joins : Joins same) (h : Lexes text tokens)
    (starts : startsLine text = true) (nonempty : text ≠ []) (clean : Clean after) (clean' : Clean after')
    (body : Through after [] [(4, 4)] more) (body' : Through after' [] [(4, 4)] more') (alike : same more more') :
    LexedAlike same (Passes 0 text tokens) (text ++ [':', '\n'] ++ after) (text ++ [':', '\n'] ++ after') := by
  have heading : Clean (text ++ [':', '\n']) := clean_append.2 ⟨h.clean, by decide⟩
  refine ⟨clean_append.2 ⟨heading, clean⟩, clean_append.2 ⟨heading, clean'⟩, fun columns known => ?_⟩
  rcases h.outcome 0 (Nat.zero_le _) with passes | breaks
  · obtain ⟨behind, -, flat, all, through⟩ := passes.line (.inl rfl) starts nonempty .colon known
    rw [List.nil_append, flat rfl] at through
    exact ⟨_, _, joins.append (joins.refl all) alike,
      .inl ⟨passes, [(4, 4)], by decide, through.append body, through.append body'⟩⟩
  · obtain ⟨all, complaint, short⟩ := breaks.line (.inl rfl) starts nonempty .colon known
    rw [List.nil_append] at short
    exact ⟨all, all, joins.refl all, .inr ⟨complaint, short.append _, short.append _⟩⟩

/-- what is laid out as statements, on both sides -/
theorem Laid.lexedAlike {statements : List Statement} (joins : Joins same) (h : Laid text statements) :
    LexedAlike same True text text := by
  refine ⟨h.clean, h.clean, fun columns known => ?_⟩
  obtain ⟨parts, -, -, goes⟩ := h.goes
  obtain ⟨behind, mem, tokens, -, through⟩ := goes columns known
  exact ⟨tokens, tokens, joins.refl tokens, .inl ⟨trivial, behind, mem, through, through⟩⟩

/-! ## Remarks -/

/-- lines that are passed over -/
structure IsRemark (text : List Char) : Prop where
  clean : Clean text
  through : ∀ columns, Through text columns columns []

theorem isRemark_nil : IsRemark [] := ⟨by decide, fun _ _ => Goes.refl _⟩

theorem isRemark_blank : IsRemark ['\n'] := ⟨by decide, fun columns rest => goes_emptyLine rest columns⟩

theorem isRemark_comment {comment : List Char} (clean : Clean comment) (oneLine : '\n' ∉ comment) :
    IsRemark (indentation ++ '#' :: (comment ++ ['\n'])) where
  clean := by
    rw [clean_append, clean_cons, clean_append]
    exact ⟨by decide, by decide, clean, by decide⟩
  through := by
    intro columns rest
    simpa [indentation] using goes_comment 4 rest columns oneLine

/-- **Whatever a remark holds, lexing goes on behind it as behind any other.** -/
theorem IsRemark.lexedAlike (joins : Joins same) (h : IsRemark text) (h' : IsRemark other) :
    LexedAlike same True text other where
  clean := h.clean
  clean' := h'.clean
  outcome := fun columns known =>
    ⟨[], [], joins.refl _, .inl ⟨trivial, columns, known, h.through columns, h'.through columns⟩⟩

/-! ## Whole texts -/

/-- why lexing stopped before the end of the text, if it did -/
def Lexed.complaint? (lexed : Lexed) : Option Complaint :=
  match lexed.stop with
  | .complete => none
  | .fault fault => some fault.complaint
  | .late fault => some fault.complaint

theorem Through.lexed {columns : List (Nat × Nat)} (known : columns ∈ blocksBehind) (h : Through text [] columns tokens) :
    (run (2 * text.length + 2) true { rest := text }).tokens = tokens ++ closing columns ++ [.finish] ∧
      (run (2 * text.length + 2) true { rest := text }).stop = .complete := by
  have whole := (h []).trans (goes_closing rfl known)
  rw [List.append_nil] at whole
  exact Goes.complete whole _ (Nat.le_refl _)

theorem Short.lexed {complaint : Complaint} (h : Short text [] tokens complaint) :
    (run (2 * text.length + 2) true { rest := text }).tokens = tokens ∧
      ∃ line, (run (2 * text.length + 2) true { rest := text }).stop = .fault ⟨complaint, line⟩ := by
  have whole := h []
  rw [List.append_nil] at whole
  exact whole { rest := text } _ ⟨rfl, rfl, rfl⟩ (Nat.le_refl _)

/-- **Whole texts that are lexed alike** have related tokens, and lexing stops early in both or in neither, for the same
reason. -/
theorem LexedAlike.lexed {text other : String} (joins : Joins same)
    (h : LexedAlike same holds (closeLines text.toList) (closeLines other.toList)) :
    same (Lexed.ofText text.toList).tokens (Lexed.ofText other.toList).tokens ∧
      (Lexed.ofText text.toList).complaint? = (Lexed.ofText other.toList).complaint? ∧
        ((Lexed.ofText text.toList).complaint? = none → holds) := by
  unfold Lexed.complaint? Lexed.ofText
  dsimp only
  obtain ⟨tokens, tokens', alike, outcome⟩ := h.outcome [] (by decide)
  rcases outcome with ⟨known, behind, mem, through, through'⟩ | ⟨complaint, short, short'⟩
  · obtain ⟨all, complete⟩ := through.lexed mem
    obtain ⟨all', complete'⟩ := through'.lexed mem
    rw [all, all', complete, complete']
    exact ⟨joins.append (joins.append alike (joins.refl _)) (joins.refl _), rfl, fun _ => known⟩
  · obtain ⟨all, line, stop⟩ := short.lexed
    obtain ⟨all', line', stop'⟩ := short'.lexed
    rw [all, all', stop, stop']
    exact ⟨alike, rfl, nofun⟩

end

/-! ## Pages -/

/-- joined parts with line feeds for their line ends -/
theorem lineFeeds_joined {first : String} {parts : List String} (h : ∀ p ∈ first :: parts, p.toList.getLast? = some '\n') :
    lineFeeds ("\n".intercalate (first :: parts)).toList =
        lineFeeds first.toList ++ parts.flatMap (fun p => '\n' :: lineFeeds p.toList) ∧
      ("\n".intercalate (first :: parts)).toList.getLast? = some '\n' := by
  induction parts generalizing first with
  | nil =>
    rw [String.intercalate_singleton, List.flatMap_nil, List.append_nil]
    exact ⟨rfl, h first List.mem_cons_self⟩
  | cons second rest ih =>
    obtain ⟨eq, ends⟩ := ih fun p hp => h p (List.mem_cons_of_mem _ hp)
    have last : first.toList.getLast? ≠ some '\r' := by
      rw [h first List.mem_cons_self]
      decide
    have chars : ("\n".intercalate (first :: second :: rest)).toList =
        first.toList ++ '\n' :: ("\n".intercalate (second :: rest)).toList := by
      rw [String.intercalate_cons_cons]
      simp
    rw [chars, lineFeeds_append last, Literal.lineFeeds_cons (by decide), eq, List.getLast?_append, List.getLast?_cons,
      ends]
    exact ⟨rfl, rfl⟩

/-- a page is lexed part by part, with an empty line in front of each -/
theorem closeLines_page {parts : List String} (h : ∀ p ∈ parts, p.toList.getLast? = some '\n') :
    closeLines (Module.page parts).toList =
      lineFeeds Module.head.toList ++ parts.flatMap fun p => '\n' :: lineFeeds p.toList := by
  have head : Module.head.toList.getLast? = some '\n' := by decide
  obtain ⟨eq, ends⟩ := lineFeeds_joined (List.forall_mem_cons.2 ⟨head, h⟩)
  rw [closeLines, Module.page, if_pos (getLast?_lineFeeds (by decide) ends), eq]

/-- two parts of pages that are lexed alike, once their line ends are line feeds -/
structure PartsAlike (same : List Token → List Token → Prop) (holds : Prop) (part other : String) : Prop where
  lexed : LexedAlike same holds (lineFeeds part.toList) (lineFeeds other.toList)
  ends : part.toList.getLast? = some '\n'
  ends' : other.toList.getLast? = some '\n'

section

variable {same : List Token → List Token → Prop} {holds : Prop} {part other : String}

theorem IsPart.alike {statements : List Statement} (joins : Joins same) (h : IsPart part statements) :
    PartsAlike same True part part :=
  ⟨h.laid.lexedAlike joins, h.ends, h.ends⟩

theorem PartsAlike.below (joins : Joins same) (h : PartsAlike same holds part other) :
    PartsAlike same holds ("\n" ++ part) ("\n" ++ other) where
  lexed := by
    have chars (part : String) : lineFeeds ("\n" ++ part).toList = ['\n'] ++ lineFeeds part.toList := by
      rw [String.toList_append]
      exact Literal.lineFeeds_cons (by decide) _
    rw [chars, chars]
    exact ((isRemark_blank.lexedAlike joins isRemark_blank).append joins h.lexed).imp And.right
  ends := by
    rw [String.toList_append, List.getLast?_append, h.ends]
    rfl
  ends' := by
    rw [String.toList_append, List.getLast?_append, h.ends']
    rfl

/-- lists of parts that are lexed alike, with an empty line in front of each part -/
structure ListsAlike (same : List Token → List Token → Prop) (holds : Prop) (parts others : List String) : Prop where
  lexed : LexedAlike same holds (parts.flatMap fun p => '\n' :: lineFeeds p.toList)
    (others.flatMap fun p => '\n' :: lineFeeds p.toList)
  ends : ∀ p ∈ parts, p.toList.getLast? = some '\n'
  ends' : ∀ p ∈ others, p.toList.getLast? = some '\n'

theorem PartsAlike.list (joins : Joins same) (h : PartsAlike same holds part other) :
    ListsAlike same holds [part] [other] := by
  refine ⟨?_, List.forall_mem_singleton.2 h.ends, List.forall_mem_singleton.2 h.ends'⟩
  rw [List.flatMap_singleton, List.flatMap_singleton]
  exact ((isRemark_blank.lexedAlike joins isRemark_blank).append joins h.lexed).imp And.right

theorem listsAlike_nil (joins : Joins same) : ListsAlike same True [] [] :=
  ⟨lexedAlike_nil joins, by simp, by simp⟩

theorem ListsAlike.append {holds' : Prop} {parts others more more' : List String} (joins : Joins same)
    (h : ListsAlike same holds parts others) (h' : ListsAlike same holds' more more') :
    ListsAlike same (holds ∧ holds') (parts ++ more) (others ++ more') where
  lexed := by
    rw [List.flatMap_append, List.flatMap_append]
    exact h.lexed.append joins h'.lexed
  ends := List.forall_mem_append.2 ⟨h.ends, h'.ends⟩
  ends' := List.forall_mem_append.2 ⟨h.ends', h'.ends'⟩

/-- parts of one kind, in pairs; with each pair goes what is known of it -/
theorem listsAlike_map {α : Type} {known : α × α → Prop} {f : α → String} {pairs : List (α × α)} (joins : Joins same)
    (each : ∀ p ∈ pairs, PartsAlike same (known p) (f p.1) (f p.2)) :
    ListsAlike same (∀ p ∈ pairs, known p) ((pairs.map Prod.fst).map f) ((pairs.map Prod.snd).map f) := by
  induction pairs with
  | nil => exact ⟨(lexedAlike_nil joins).imp fun _ => by simp, by simp, by simp⟩
  | cons p rest ih =>
    obtain ⟨own, others⟩ := List.forall_mem_cons.1 each
    obtain ⟨lexed, ends, ends'⟩ := (own.list joins).append joins (ih others)
    exact ⟨lexed.imp fun both => List.forall_mem_cons.2 both, ends, ends'⟩

/-- **Pages whose parts are lexed alike are lexed alike.** -/
theorem ListsAlike.page {parts others : List String} (joins : Joins same) (h : ListsAlike same holds parts others) :
    LexedAlike same holds (closeLines (Module.page parts).toList) (closeLines (Module.page others).toList) := by
  obtain ⟨e, isHead⟩ := isPart_head
  rw [closeLines_page h.ends, closeLines_page h.ends']
  exact ((isHead.alike joins).lexed.append joins h.lexed).imp And.right

end

end ApiTypes.Source
