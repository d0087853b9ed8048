/-
Lexing piece by piece.

A printed text is lexed along its pieces: a place tells where lexing stands, and `Goes` that it comes from one place to
another by certain tokens. Steps compose (`Goes.trans`), and the fuel that is left always suffices for the text that is
left.
-/
import Mathlib.Tactic.SplitIfs
import ApiTypes.Source.Lexed
import ApiTypes.Proofs.Quoting

namespace ApiTypes.Source

open ApiTypes.Text

/-! ## Places -/

/-- where lexing stands: does a line start, what is left of the text, and which blocks and brackets are open? -/
structure Place where
  start : Bool := false
  rest : List Char
  columns : List (Nat × Nat) := []
  brackets : List Char := []

/-- two steps for a character that is left, and one or two more -/
def Place.need (p : Place) : Nat := 2 * p.rest.length + if p.start then 2 else 1

theorem Place.need_pos (p : Place) : 0 < p.need := by
  unfold need
  split_ifs <;> omega

theorem need_start (rest : List Char) (columns : List (Nat × Nat)) (brackets : List Char) :
    Place.need ⟨true, rest, columns, brackets⟩ = 2 * rest.length + 2 := rfl

theorem need_within (rest : List Char) (columns : List (Nat × Nat)) (brackets : List Char) :
    Place.need ⟨false, rest, columns, brackets⟩ = 2 * rest.length + 1 := rfl

namespace Lexing

structure At (l : Lexing) (p : Place) : Prop where
  rest : l.rest = p.rest
  columns : l.columns = p.columns
  brackets : l.brackets.map Prod.fst = p.brackets

def tokens (l : Lexing) : List Token := (l.lexemes.map Lexeme.token).reverse

theorem tokens_push (t : Token) (line : Nat) (l : Lexing) : (l.push t line).tokens = l.tokens ++ [t] := by
  simp [tokens, push]

/-- lexing goes on from one place to another, with fuel enough for either, and these are the tokens between them -/
def Goes (p q : Place) (tokens : List Token) : Prop :=
  ∀ (l : Lexing) (fuel : Nat), l.At p → p.need ≤ fuel → ∃ l' fuel', l'.At q ∧ q.need ≤ fuel' ∧
    l'.tokens = l.tokens ++ tokens ∧ run fuel p.start l = run fuel' q.start l'

theorem Goes.refl (p : Place) : Goes p p [] := by
  intro l fuel at_p enough
  exact ⟨l, fuel, at_p, enough, by simp, rfl⟩

theorem Goes.trans {p q r : Place} {first second : List Token} (h : Goes p q first) (h' : Goes q r second) :
    Goes p r (first ++ second) := by
  intro l fuel at_p enough
  obtain ⟨m, fuel', at_q, enough', tokens, eq⟩ := h l fuel at_p enough
  obtain ⟨n, fuel'', at_r, enough'', tokens', eq'⟩ := h' m fuel' at_q enough'
  refine ⟨n, fuel'', at_r, enough'', ?_, eq.trans eq'⟩
  rw [tokens', tokens, List.append_assoc]

/-- one step of the lexer, which takes a character or begins the line -/
theorem Goes.step {p q : Place} {tokens : List Token} (less : q.need + 1 ≤ p.need)
    (h : ∀ (l : Lexing) (fuel : Nat), l.At p → ∃ l', l'.At q ∧ l'.tokens = l.tokens ++ tokens ∧
      run (fuel + 1) p.start l = run fuel q.start l') : Goes p q tokens := by
  intro l fuel at_p enough
  obtain ⟨fuel, rfl⟩ : ∃ n, fuel = n + 1 := ⟨fuel - 1, by omega⟩
  obtain ⟨l', at_q, eq, steps⟩ := h l fuel at_p
  exact ⟨l', fuel, at_q, by omega, eq, steps⟩

/-- the lexemes when the whole text is lexed, to its end -/
theorem Goes.complete {text : List Char} {tokens : List Token}
    (h : Goes { start := true, rest := text } { rest := [] } tokens) (fuel : Nat)
    (enough : 2 * text.length + 2 ≤ fuel) :
    (run fuel true { rest := text }).lexemes.map Lexeme.token = tokens ++ [.finish] ∧
      (run fuel true { rest := text }).stop = .complete := by
  obtain ⟨l, fuel', at_end, enough', eq, steps⟩ := h { rest := text } fuel ⟨rfl, rfl, rfl⟩ enough
  obtain ⟨fuel', rfl⟩ : ∃ n, fuel' = n + 1 := ⟨fuel' - 1, by have := Place.need_pos { rest := [] }; omega⟩
  have brackets : l.brackets = [] := List.map_eq_nil_iff.1 at_end.brackets
  have ended : run (fuel' + 1) false l = (l.push .finish l.lastLine).stopWith .complete := by
    rw [run_end fuel' at_end.rest, atEnd, brackets]
  rw [steps, ended]
  refine ⟨?_, rfl⟩
  rw [stopWith, List.map_reverse]
  have pushed := tokens_push .finish l.lastLine l
  rw [Lexing.tokens] at pushed
  rw [pushed, eq]
  rfl

/-! ## Blanks, lines and tokens -/

/-- blanks between tokens are passed over -/
theorem goes_blank (rest : List Char) (columns : List (Nat × Nat)) (brackets : List Char) :
    Goes ⟨false, ' ' :: rest, columns, brackets⟩ ⟨false, rest, columns, brackets⟩ [] := by
  intro l fuel at_p enough
  refine ⟨{ l with rest }, fuel, ⟨rfl, at_p.columns, at_p.brackets⟩, ?_, by simp [tokens], ?_⟩
  · rw [need_within, List.length_cons] at enough
    rw [need_within]
    omega
  · have pos := Place.need_pos ⟨false, ' ' :: rest, columns, brackets⟩
    obtain ⟨fuel, rfl⟩ : ∃ n, fuel = n + 1 := ⟨fuel - 1, by omega⟩
    have dropped : l.rest.dropWhile isBlank = rest.dropWhile isBlank := by
      rw [at_p.rest]
      rfl
    rw [run, run, dropped]
    -- the two states differ in the text that is left, which is not looked at any more
    obtain ⟨_, line, columns', brackets', lexemes⟩ := l
    cases brackets' <;> rfl

/-- a line ends -/
theorem goes_newline (rest : List Char) (columns : List (Nat × Nat)) :
    Goes ⟨false, '\n' :: rest, columns, []⟩ ⟨true, rest, columns, []⟩ [.newline] := by
  refine Goes.step ?_ fun l fuel at_p => ?_
  · rw [need_start, need_within, List.length_cons]
    omega
  · have brackets : l.brackets = [] := List.map_eq_nil_iff.1 at_p.brackets
    refine ⟨{ l.push .newline l.line with rest, line := l.line + 1 }, ⟨rfl, at_p.columns, at_p.brackets⟩,
      tokens_push .newline l.line l, ?_⟩
    have dropped : l.rest.dropWhile isBlank = '\n' :: rest := by
      rw [at_p.rest]
      rfl
    rw [run, dropped]
    simp [brackets, push]

/-- one step reads a token that neither a blank nor a comment nor the end of a line comes before -/
theorem run_token {c : Char} {text : List Char} {columns : List (Nat × Nat)} {brackets : List Char}
    (blank : isBlank c = false) (other : c ≠ '#' ∧ c ≠ '\n' ∧ c ≠ '\\') {l : Lexing}
    (at_p : l.At ⟨false, c :: text, columns, brackets⟩) (fuel : Nat) :
    (∀ l', readToken c text l = .ok l' → run (fuel + 1) false l = run fuel false l') ∧
      ∀ lexed, readToken c text l = .error lexed → run (fuel + 1) false l = lexed := by
  have same : { l with rest := c :: text } = l := by
    have eq : l.rest = c :: text := at_p.rest
    rw [← eq]
  have dropped : l.rest.dropWhile isBlank = c :: text := by
    rw [at_p.rest, List.dropWhile_cons, blank]
    rfl
  have mark : ¬ (c :: text).head? = some '#' := by simpa using other.1
  rw [run, dropped]
  simp only [if_neg mark]
  split
  · contradiction
  · rename_i eq
    exact absurd (List.cons.inj eq).1 other.2.1
  · rename_i eq
    exact absurd (List.cons.inj eq).1 other.2.2
  · rename_i eq
    exact absurd (List.cons.inj eq).1 other.2.2
  · rename_i eq
    exact absurd (List.cons.inj eq).1 other.2.2
  · rename_i d more _ _ _ eq
    obtain ⟨rfl, rfl⟩ := List.cons.inj eq
    rw [same]
    exact ⟨fun l' read => by rw [read], fun lexed read => by rw [read]⟩

/-- a token that neither a blank nor a comment nor the end of a line comes before -/
theorem Goes.token {c : Char} {text after : List Char} {columns : List (Nat × Nat)} {brackets brackets' : List Char}
    {tokens : List Token} (blank : isBlank c = false) (other : c ≠ '#' ∧ c ≠ '\n' ∧ c ≠ '\\')
    (shorter : after.length ≤ text.length)
    (h : ∀ l : Lexing, l.At ⟨false, c :: text, columns, brackets⟩ → ∃ l', readToken c text l = .ok l' ∧
      l'.At ⟨false, after, columns, brackets'⟩ ∧ l'.tokens = l.tokens ++ tokens) :
    Goes ⟨false, c :: text, columns, brackets⟩ ⟨false, after, columns, brackets'⟩ tokens := by
  refine Goes.step ?_ fun l fuel at_p => ?_
  · rw [need_within, need_within, List.length_cons]
    omega
  · obtain ⟨l', read, at_q, eq⟩ := h l at_p
    refine ⟨l', at_q, eq, ?_⟩
    exact (run_token blank other at_p fuel).1 l' read

/-! ## Line starts -/

/-- the characters at which the margin of a line, or the line itself, is not yet at an end -/
def marginChars : List Char := [' ', '\t', '\x0c', '\\', '#', '\n']

/-- does a statement start here, or does the text end? -/
def startsLine (text : List Char) : Bool := text.head?.all fun c => !marginChars.contains c

/-- the margin ends at a statement and at a comment -/
theorem margin_stop (m : Margin) {text : List Char} (h : text.head? = some '#' ∨ startsLine text = true) :
    margin m text = { m with rest := text } := by
  cases text with
  | nil => rfl
  | cons c rest =>
    have other : ∀ d ∈ [' ', '\t', '\x0c', '\\'], c ≠ d := by
      rintro d hd rfl
      rcases h with h | h
      · rw [List.head?_cons, Option.some_inj] at h
        subst h
        exact absurd hd (by decide)
      · have plain : c ∉ marginChars := by simpa [startsLine] using h
        exact plain (List.mem_append_left ['#', '\n'] hd)
    rw [margin]
    · exact fun _ eq => other ' ' (by decide) (List.cons.inj eq).1
    · exact fun _ eq => other '\t' (by decide) (List.cons.inj eq).1
    · exact fun _ eq => other '\x0c' (by decide) (List.cons.inj eq).1
    · exact fun _ _ eq => other '\\' (by decide) (List.cons.inj eq).1

theorem margin_spaces (m : Margin) (k : Nat) (text : List Char) :
    margin m (List.replicate k ' ' ++ text) =
      margin { m with column := m.column + k, narrow := m.narrow + k } text := by
  induction k generalizing m with
  | zero => rfl
  | succ k ih =>
    rw [List.replicate_succ, List.cons_append, margin, ih]
    simp only [Nat.add_assoc, Nat.add_comm 1]

/-- a line starts with a statement in this column: blocks are opened and closed for it -/
theorem Goes.line {k : Nat} {text : List Char} {columns columns' : List (Nat × Nat)} {tokens : List Token}
    (starts : startsLine text = true)
    (h : ∀ (l : Lexing) (line : Nat), l.At ⟨true, text, columns, []⟩ → ∃ l', indentTo k k line l = .ok l' ∧
      l'.At ⟨false, text, columns', []⟩ ∧ l'.tokens = l.tokens ++ tokens) :
    Goes ⟨true, List.replicate k ' ' ++ text, columns, []⟩ ⟨false, text, columns', []⟩ tokens := by
  refine Goes.step ?_ fun l fuel at_p => ?_
  · rw [need_start, need_within, List.length_append]
    omega
  · have margins : margin { rest := l.rest } l.rest = { column := k, narrow := k, rest := text } := by
      rw [at_p.rest, margin_spaces, margin_stop _ (Or.inr starts)]
      simp
    have brackets : l.brackets = [] := List.map_eq_nil_iff.1 at_p.brackets
    have within : ({ l with rest := text } : Lexing).At ⟨true, text, columns, []⟩ :=
      ⟨rfl, at_p.columns, at_p.brackets⟩
    obtain ⟨l', opened, at_q, eq⟩ :=
      h { l with rest := text } (if text.isEmpty then lastLine { l with rest := text } else l.line) within
    refine ⟨l', at_q, eq, ?_⟩
    have notBracket : (!l.brackets.isEmpty) = false := by simp [brackets]
    rw [run]
    simp only [notBracket, Bool.false_eq_true, ↓reduceIte, margins]
    split
    · rename_i eq
      exact absurd starts (by simp [startsLine, marginChars])
    · rename_i eq
      exact absurd starts (by simp [startsLine, marginChars])
    · simp only [Nat.add_zero]
      rw [opened]

/-- the line goes on in the block that is open -/
theorem goes_same {k : Nat} {text : List Char} {columns : List (Nat × Nat)} (starts : startsLine text = true)
    (same : columns.head?.getD (0, 0) = (k, k)) :
    Goes ⟨true, List.replicate k ' ' ++ text, columns, []⟩ ⟨false, text, columns, []⟩ [] := by
  refine Goes.line starts fun l line at_p => ⟨l, ?_, ⟨at_p.rest, at_p.columns, at_p.brackets⟩, by simp⟩
  have depth : l.depth = (k, k) := by rw [Lexing.depth, at_p.columns, same]
  have unchanged := indentTo_same line l
  rwa [depth] at unchanged

/-- the line opens a block -/
theorem goes_indent {text : List Char} (starts : startsLine text = true) :
    Goes ⟨true, List.replicate 4 ' ' ++ text, [], []⟩ ⟨false, text, [(4, 4)], []⟩ [.indent] := by
  refine Goes.line starts fun l line at_p => ?_
  have columns : l.columns = [] := at_p.columns
  refine ⟨{ l with columns := [(4, 4)] }.push .indent line, ?_, ⟨at_p.rest, rfl, at_p.brackets⟩, tokens_push _ _ _⟩
  simp [indentTo, Lexing.depth, columns]

/-- the line closes the block that is open -/
theorem goes_dedent {text : List Char} (starts : startsLine text = true) :
    Goes ⟨true, text, [(4, 4)], []⟩ ⟨false, text, [], []⟩ [.dedent] := by
  refine Goes.line (k := 0) starts fun l line at_p => ?_
  have columns : l.columns = [(4, 4)] := at_p.columns
  refine ⟨{ l.push .dedent line with columns := [] }, ?_, ⟨at_p.rest, rfl, at_p.brackets⟩, tokens_push _ _ _⟩
  simp [indentTo, Lexing.depth, columns, closeTo]

/-- an empty line is passed over -/
theorem goes_emptyLine (text : List Char) (columns : List (Nat × Nat)) :
    Goes ⟨true, '\n' :: text, columns, []⟩ ⟨true, text, columns, []⟩ [] := by
  refine Goes.step ?_ fun l fuel at_p => ?_
  · rw [need_start, need_start, List.length_cons]
    omega
  · have brackets : l.brackets = [] := List.map_eq_nil_iff.1 at_p.brackets
    refine ⟨{ l with rest := text, line := l.line + 1 }, ⟨rfl, at_p.columns, at_p.brackets⟩, by simp [tokens], ?_⟩
    have margins : margin { rest := l.rest } l.rest = { rest := '\n' :: text } := by
      rw [at_p.rest, margin] <;> simp
    rw [run]
    simp [brackets, margins]

/-- a comment on a line of its own is passed over -/
theorem goes_comment (k : Nat) {comment : List Char} (text : List Char) (columns : List (Nat × Nat))
    (h : '\n' ∉ comment) :
    Goes ⟨true, List.replicate k ' ' ++ '#' :: (comment ++ '\n' :: text), columns, []⟩
      ⟨true, text, columns, []⟩ [] := by
  refine Goes.step ?_ fun l fuel at_p => ?_
  · rw [need_start, need_start]
    simp only [List.length_append, List.length_cons]
    omega
  · have brackets : l.brackets = [] := List.map_eq_nil_iff.1 at_p.brackets
    refine ⟨{ l with rest := text, line := l.line + 1 }, ⟨rfl, at_p.columns, at_p.brackets⟩, by simp [tokens], ?_⟩
    have margins : margin { rest := l.rest } l.rest =
        { column := k, narrow := k, rest := '#' :: (comment ++ '\n' :: text) } := by
      rw [at_p.rest, margin_spaces, margin_stop _ (Or.inl rfl)]
      simp
    have behind : (('#' :: (comment ++ '\n' :: text)).dropWhile (· != '\n')).drop 1 = text := by
      have plain : ∀ c ∈ '#' :: comment, (c != '\n') = true := by
        intro c hc
        rcases List.mem_cons.1 hc with rfl | hc
        · rfl
        · exact bne_iff_ne.2 fun eq => h (eq ▸ hc)
      rw [← List.cons_append, List.dropWhile_append_of_pos plain]
      rfl
    rw [run]
    simp only [brackets, List.isEmpty_nil, Bool.not_true, Bool.false_eq_true, ↓reduceIte, margins, behind]

/-! ## Names -/

/-- the characters that may stand behind a name -/
def delimiters : List Char := [' ', ',', ':', '(', ')', '[', ']', '\x7d', '\n']

/-- does a name end here? -/
def delimited (text : List Char) : Bool := text.head?.any delimiters.contains

theorem isNameHead_of_isNameStart {c : Char} (h : isNameStart c = true) : isNameHead c = true := by
  unfold isNameStart at h
  unfold isNameHead
  split_ifs at h with ascii <;> simp_all

theorem isNameChar_of_isNameContinue {c : Char} (h : isNameContinue c = true) : Number.isNameChar c = true := by
  unfold isNameContinue at h
  unfold Number.isNameChar
  split_ifs at h with ascii <;> simp_all

theorem not_isNameChar_of_delimiter {c : Char} (h : c ∈ delimiters) : Number.isNameChar c = false := by
  have all : ∀ d ∈ delimiters, Number.isNameChar d = false := Literal.forall_mem_of_all (by decide)
  exact all c h

theorem takeWhile_name {name rest : List Char} (chars : ∀ c ∈ name, Number.isNameChar c = true)
    (ends : delimited rest = true) : (name ++ rest).takeWhile Number.isNameChar = name := by
  rw [List.takeWhile_append_of_pos chars]
  cases rest with
  | nil => cases ends
  | cons c more =>
    have delimiter : c ∈ delimiters := by simpa [delimited] using ends
    rw [List.takeWhile_cons, not_isNameChar_of_delimiter delimiter]
    simp

/-- a word that may be a name begins no line of another kind -/
theorem apart_of_isNameHead {c : Char} (h : isNameHead c = true) :
    isBlank c = false ∧ c ≠ '#' ∧ c ≠ '\n' ∧ c ≠ '\\' := by
  have others : ∀ d ∈ [' ', '\t', '\x0c', '#', '\n', '\\'], c ≠ d := by
    have all : ∀ d ∈ [' ', '\t', '\x0c', '#', '\n', '\\'], isNameHead d = false :=
      Literal.forall_mem_of_all (by decide)
    rintro d hd rfl
    exact absurd (all c hd) (by rw [h]; decide)
  refine ⟨?_, others '#' (by decide), others '\n' (by decide), others '\\' (by decide)⟩
  simp [isBlank, others ' ' (by decide), others '\t' (by decide), others '\x0c' (by decide)]

/-- a word in front is read as a name, unless a character of it keeps it from being one -/
theorem readToken_word {c : Char} {more rest : List Char} (head : isNameHead c = true)
    (chars : ∀ d ∈ c :: more, Number.isNameChar d = true) (ends : delimited rest = true) {l : Lexing}
    (whole : l.rest = c :: more ++ rest) :
    (badCharacter? (c :: more) = none → readToken c (more ++ rest) l =
      .ok { l.push (.name (String.ofList (c :: more))) l.line with rest }) ∧
      ∀ d, badCharacter? (c :: more) = some d → readToken c (more ++ rest) l =
        .error (l.faultAt (.character d) l.line) := by
  have taken := takeWhile_name chars ends
  have behind : (c :: more ++ rest).drop (c :: more).length = rest := List.drop_left
  rw [readToken, if_pos head, readName]
  simp only [whole, taken, behind]
  cases rest with
  | nil => cases ends
  | cons e after =>
    have delimiter : e ∈ delimiters := by simpa [delimited] using ends
    have notQuote : ¬ (e = '\'' ∨ e = '"') := by
      rintro (rfl | rfl) <;> exact absurd delimiter (by decide)
    simp only [if_neg notQuote]
    exact ⟨fun good => by rw [good], fun d bad => by rw [bad]⟩

theorem badCharacter?_name {name : List Char} (isName : isIdentifier name = true) : badCharacter? name = none := by
  cases name with
  | nil => rfl
  | cons c rest =>
    rw [isIdentifier, Bool.and_eq_true] at isName
    rw [badCharacter?, if_pos isName.1, List.find?_eq_none]
    intro d hd
    simp [List.all_eq_true.1 isName.2 d hd]

theorem isIdentifier_all {name : List Char} (isName : isIdentifier name = true) : name.all isNameContinue = true := by
  cases name with
  | nil => rfl
  | cons c rest =>
    rw [isIdentifier, Bool.and_eq_true] at isName
    rw [List.all_cons, isNameContinue_of_isNameStart isName.1, isName.2]
    rfl

/-- a name, behind which something stands that is no part of it -/
theorem goes_name {name rest : List Char} (isName : isIdentifier name = true) (ends : delimited rest = true)
    (columns : List (Nat × Nat)) (brackets : List Char) :
    Goes ⟨false, name ++ rest, columns, brackets⟩ ⟨false, rest, columns, brackets⟩ [.name (String.ofList name)] := by
  have all := isIdentifier_all isName
  cases name with
  | nil => simp [isIdentifier] at isName
  | cons c more =>
    have head := isNameHead_of_isNameStart (Bool.and_eq_true_iff.1 isName).1
    obtain ⟨blank, other⟩ := apart_of_isNameHead head
    refine Goes.token blank other (by simp) fun l at_p => ?_
    have chars : ∀ d ∈ c :: more, Number.isNameChar d = true := fun d hd =>
      isNameChar_of_isNameContinue (List.all_eq_true.1 all d hd)
    exact ⟨_, (readToken_word head chars ends at_p.rest).1 (badCharacter?_name isName),
      ⟨rfl, at_p.columns, at_p.brackets⟩, tokens_push _ _ _⟩

/-! ## Marks -/

/-- marks of one character, each with a character that may stand behind it -/
def plainMarks : List (Char × Char) :=
  [(',', ' '), (':', ' '), (':', '\n'), ('=', ' '), ('|', ' '), ('.', 'c')] ++ delimiters.map ('*', ·)

theorem longMark?_eq_none {c d : Char} {text : List Char} (h : ∀ m ∈ longMarks, m.toList.take 2 ≠ [c, d]) :
    longMark? (c :: d :: text) = none := by
  have long : ∀ m ∈ longMarks, 2 ≤ m.toList.length := by decide
  rw [longMark?, List.find?_eq_none]
  intro m hm starts
  obtain ⟨rest, eq⟩ := List.isPrefixOf_iff_prefix.1 starts
  have front := congrArg (List.take 2) eq
  rw [List.take_append_of_le_length (long m hm)] at front
  exact h m hm front

/-- a mark, behind which nothing stands that would be part of it -/
theorem goes_mark {c d : Char} (h : (c, d) ∈ plainMarks) (text : List Char) (columns : List (Nat × Nat))
    (brackets : List Char) :
    Goes ⟨false, c :: d :: text, columns, brackets⟩ ⟨false, d :: text, columns, brackets⟩
      [.mark (String.singleton c)] := by
  have apart : ∀ p ∈ plainMarks, isBlank p.1 = false ∧ (p.1 ≠ '#' ∧ p.1 ≠ '\n' ∧ p.1 ≠ '\\') := by decide
  have marks : ∀ p ∈ plainMarks, isNameHead p.1 = false ∧ p.1 ≠ '\'' ∧ p.1 ≠ '"' ∧ isAsciiDigit p.1 = false ∧
      isAsciiDigit p.2 = false ∧ closing? p.1 = none ∧ isClosing p.1 = false ∧ isPrintable p.1 = true := by decide
  have short : ∀ p ∈ plainMarks, ∀ m ∈ longMarks, m.toList.take 2 ≠ [p.1, p.2] := by decide
  obtain ⟨head, single, double, digit, digit', opening, closing, printable⟩ := marks _ h
  refine Goes.token (apart _ h).1 (apart _ h).2 (by simp) fun l at_p => ?_
  refine ⟨{ l.push (.mark (String.singleton c)) l.line with rest := d :: text }, ?_,
    ⟨rfl, at_p.columns, at_p.brackets⟩, tokens_push _ _ _⟩
  simp only [readToken, head, single, double, digit, Number.startsDigit, digit', readMark, longMark?_eq_none (short _ h),
    opening, closing, printable, Bool.false_eq_true, or_self, Bool.and_false, Bool.or_false, Option.isSome_none,
    ↓reduceIte]

theorem goes_arrow (text : List Char) (columns : List (Nat × Nat)) (brackets : List Char) :
    Goes ⟨false, '-' :: '>' :: text, columns, brackets⟩ ⟨false, text, columns, brackets⟩ [.mark "->"] := by
  refine Goes.token (by decide) (by decide) (by simp) fun l at_p => ?_
  exact ⟨{ l.push (.mark "->") l.line with rest := text }, rfl, ⟨rfl, at_p.columns, at_p.brackets⟩, tokens_push _ _ _⟩

/-! ## Brackets -/

def openings : List Char := ['(', '[', '\x7b']

theorem longMark?_bracket {c : Char} (text : List Char) (h : ∀ m ∈ longMarks, m.toList.head? ≠ some c) :
    longMark? (c :: text) = none := by
  have long : ∀ m ∈ longMarks, m.toList ≠ [] := by decide
  rw [longMark?, List.find?_eq_none]
  intro m hm starts
  obtain ⟨rest, eq⟩ := List.isPrefixOf_iff_prefix.1 starts
  refine h m hm ?_
  have front := congrArg List.head? eq
  rw [List.head?_append] at front
  cases first : m.toList with
  | nil => exact absurd first (long m hm)
  | cons d more =>
    rw [first] at front
    exact front

theorem apart_of_opening {c : Char} (h : c ∈ openings) : isBlank c = false ∧ c ≠ '#' ∧ c ≠ '\n' ∧ c ≠ '\\' := by
  have apart : ∀ p ∈ openings, isBlank p = false ∧ p ≠ '#' ∧ p ≠ '\n' ∧ p ≠ '\\' :=
    Literal.forall_mem_of_all (by decide)
  exact apart c h

theorem readToken_opening {c : Char} (h : c ∈ openings) (text : List Char) (l : Lexing) :
    readToken c text l = l.openBracket c text := by
  have marks : ∀ p ∈ openings, isNameHead p = false ∧ p ≠ '\'' ∧ p ≠ '"' ∧ isAsciiDigit p = false ∧ p ≠ '.' ∧
      (closing? p).isSome = true := Literal.forall_mem_of_all (by decide)
  have short : ∀ p ∈ openings, ∀ m ∈ longMarks, m.toList.head? ≠ some p := Literal.forall_mem_of_all (by decide)
  obtain ⟨head, single, double, digit, point, opening⟩ := marks _ h
  simp only [readToken, head, single, double, digit, point, readMark, longMark?_bracket text (short _ h), opening,
    Bool.false_eq_true, or_self, Bool.false_and, Bool.or_false, decide_false, ↓reduceIte]

theorem At.length_brackets {l : Lexing} {p : Place} (h : l.At p) : l.brackets.length = p.brackets.length := by
  rw [← h.brackets, List.length_map]

theorem goes_open {c : Char} (h : c ∈ openings) (text : List Char) (columns : List (Nat × Nat))
    {brackets : List Char} (room : brackets.length < 200) :
    Goes ⟨false, c :: text, columns, brackets⟩ ⟨false, text, columns, c :: brackets⟩ [.mark (String.singleton c)] := by
  obtain ⟨blank, other⟩ := apart_of_opening h
  refine Goes.token blank other (by simp) fun l at_p => ?_
  have few : ¬ 200 ≤ l.brackets.length := by
    rw [at_p.length_brackets]
    exact Nat.not_le.2 room
  refine ⟨{ l with brackets := (c, l.line) :: l.brackets, rest := text }.push (.mark (String.singleton c)) l.line, ?_,
    ⟨rfl, at_p.columns, ?_⟩, tokens_push _ _ _⟩
  · rw [readToken_opening h, openBracket, if_neg few]
  · have same : l.brackets.map Prod.fst = brackets := at_p.brackets
    simp [push, same]

theorem goes_close {c opening : Char} (h : closing? opening = some c) (text : List Char) (columns : List (Nat × Nat))
    (brackets : List Char) :
    Goes ⟨false, c :: text, columns, opening :: brackets⟩ ⟨false, text, columns, brackets⟩
      [.mark (String.singleton c)] := by
  have mem : c ∈ [')', ']', '\x7d'] := by
    unfold closing? at h
    split at h <;> cases h <;> decide
  have apart : ∀ p ∈ [')', ']', '\x7d'], isBlank p = false ∧ (p ≠ '#' ∧ p ≠ '\n' ∧ p ≠ '\\') :=
    Literal.forall_mem_of_all (by decide)
  have marks : ∀ p ∈ [')', ']', '\x7d'], isNameHead p = false ∧ p ≠ '\'' ∧ p ≠ '"' ∧ isAsciiDigit p = false ∧ p ≠ '.' ∧
      (closing? p).isSome = false ∧ isClosing p = true := Literal.forall_mem_of_all (by decide)
  have short : ∀ p ∈ [')', ']', '\x7d'], ∀ m ∈ longMarks, m.toList.head? ≠ some p :=
    Literal.forall_mem_of_all (by decide)
  obtain ⟨head, single, double, digit, point, notOpening, closes⟩ := marks _ mem
  refine Goes.token (apart _ mem).1 (apart _ mem).2 (by simp) fun l at_p => ?_
  obtain ⟨⟨first, line⟩, outer, eq, rfl, inner⟩ : ∃ b outer, l.brackets = b :: outer ∧ b.1 = opening ∧
      outer.map Prod.fst = brackets := by
    have same : l.brackets.map Prod.fst = opening :: brackets := at_p.brackets
    obtain ⟨b, outer, eq, first, rest⟩ := List.map_eq_cons_iff.1 same
    exact ⟨b, outer, eq, first, rest⟩
  refine ⟨{ l with brackets := outer, rest := text }.push (.mark (String.singleton c)) l.line, ?_,
    ⟨rfl, at_p.columns, inner⟩, tokens_push _ _ _⟩
  simp only [readToken, head, single, double, digit, point, readMark, longMark?_bracket text (short _ mem), notOpening,
    closes, closeBracket, eq, h, Bool.false_eq_true, or_self, Bool.false_and, Bool.or_false, decide_false, ↓reduceIte]

/-! ## Texts -/

theorem quoteFor_mem (text : List Char) : quoteFor text ∈ Literal.quotes := by
  unfold quoteFor
  split_ifs <;> decide

/-- a token that starts with a quote -/
theorem goes_text {quote : Char} (isQuote : quote ∈ Literal.quotes) {text after : List Char} {body : String}
    (shorter : after.length ≤ text.length) (columns : List (Nat × Nat)) (brackets : List Char)
    (h : ∀ l : Lexing, ∃ lines, readText {} quote text l =
      .ok { l.push (.text {} body) l.line with rest := after, line := l.line + lines }) :
    Goes ⟨false, quote :: text, columns, brackets⟩ ⟨false, after, columns, brackets⟩ [.text {} body] := by
  have apart : ∀ q ∈ Literal.quotes, isBlank q = false ∧ (q ≠ '#' ∧ q ≠ '\n' ∧ q ≠ '\\') :=
    Literal.forall_mem_of_all (by decide)
  have marks : ∀ q ∈ Literal.quotes, isNameHead q = false ∧ (q = '\'' ∨ q = '"') :=
    Literal.forall_mem_of_all (by decide)
  obtain ⟨head, known⟩ := marks quote isQuote
  refine Goes.token (apart quote isQuote).1 (apart quote isQuote).2 shorter fun l at_p => ?_
  obtain ⟨lines, read⟩ := h l
  refine ⟨{ l.push (.text {} body) l.line with rest := after, line := l.line + lines }, ?_,
    ⟨rfl, at_p.columns, at_p.brackets⟩, tokens_push (.text {} body) l.line l⟩
  rw [readToken, head, if_neg Bool.false_ne_true, if_pos known, read]

theorem head?_escape {quote : Char} (isQuote : quote ∈ Literal.quotes) (c : Char) :
    (escape quote c).head? ≠ some quote := by
  have slash : '\\' ≠ quote := by
    rintro rfl
    exact absurd isQuote (by decide)
  unfold escape
  split_ifs with own feed carriage tab printable two four
  · simpa using slash
  · simpa using slash
  · simpa using slash
  · simpa using slash
  · simp only [Bool.or_eq_true, beq_iff_eq, not_or] at own
    simpa using own.2
  · simpa using slash
  · simpa using slash
  · simpa using slash

/-- between single quotes, what is escaped is the body of a token -/
theorem readText_escaped {quote : Char} (isQuote : quote ∈ Literal.quotes) (text : List Char) {rest : List Char}
    (ends : delimited rest = true) (l : Lexing) :
    readText {} quote (text.flatMap (escape quote) ++ quote :: rest) l =
      .ok { l.push (.text {} (String.ofList (text.flatMap (escape quote)))) l.line with rest, line := l.line + 0 } := by
  have scanned := Literal.scan_escaped isQuote text [] 0 rest
  cases text with
  | nil =>
    rw [List.flatMap_nil, List.nil_append] at scanned ⊢
    cases rest with
    | nil => cases ends
    | cons b more =>
      have delimiter : b ∈ delimiters := by simpa [delimited] using ends
      have other : b ≠ quote := by
        rintro rfl
        have apart : ∀ d ∈ delimiters, d ∉ Literal.quotes := Literal.forall_mem_of_all (by decide)
        exact apart b delimiter isQuote
      simp only [readText, ↓reduceIte, if_neg other]
  | cons c more =>
    obtain ⟨a, body, eq⟩ := List.exists_cons_of_ne_nil (Literal.escape_ne_nil quote c)
    have first : a ≠ quote := by
      have head := head?_escape isQuote c
      rw [eq] at head
      simpa using head
    have front : (c :: more).flatMap (escape quote) = a :: (body ++ more.flatMap (escape quote)) := by
      rw [List.flatMap_cons, eq]
      rfl
    rw [front] at scanned ⊢
    obtain ⟨b, behind, eq'⟩ : ∃ b behind, body ++ more.flatMap (escape quote) ++ quote :: rest = b :: behind :=
      List.exists_cons_of_ne_nil (by simp)
    rw [List.cons_append, eq'] at scanned ⊢
    simp only [readText, if_neg first, Bool.false_eq_true, ↓reduceIte, scanned]
    rfl

/-- a quoted text; the token writes it -/
theorem goes_quoted (text : String) : ∃ body, Literal.decode {} body = .ok text ∧
    ∀ rest columns brackets, delimited rest = true →
      Goes ⟨false, (quoted text).toList ++ rest, columns, brackets⟩ ⟨false, rest, columns, brackets⟩
        [.text {} body] := by
  have isQuote := quoteFor_mem text.toList
  have decoded := Literal.decode_escaped isQuote text.toList
  rw [String.ofList_toList] at decoded
  refine ⟨_, decoded, fun rest columns brackets ends => ?_⟩
  have chars : (quoted text).toList ++ rest = quoteFor text.toList ::
      (text.toList.flatMap (escape (quoteFor text.toList)) ++ quoteFor text.toList :: rest) := by
    rw [quoted, String.toList_ofList, quotedChars]
    simp
  have shorter : rest.length ≤
      (text.toList.flatMap (escape (quoteFor text.toList)) ++ quoteFor text.toList :: rest).length := by
    rw [List.length_append, List.length_cons]
    omega
  rw [chars]
  exact goes_text isQuote shorter columns brackets fun l => ⟨0, readText_escaped isQuote text.toList ends l⟩

def threeQuotes : List Char := ['"', '"', '"']

/-- a harmless text between three quotes -/
theorem goes_harmless {body : List Char} (h : Literal.Harmless body) (last : body.getLast? ≠ some '"')
    (rest : List Char) (columns : List (Nat × Nat)) (brackets : List Char) :
    Goes ⟨false, threeQuotes ++ (body ++ (threeQuotes ++ rest)), columns, brackets⟩ ⟨false, rest, columns, brackets⟩
      [.text {} (String.ofList body)] := by
  have shorter : rest.length ≤ ('"' :: '"' :: (body ++ (threeQuotes ++ rest))).length := by
    simp only [List.length_cons, List.length_append]
    omega
  refine goes_text (by decide) shorter columns brackets fun l => ?_
  obtain ⟨lines, scanned⟩ := Literal.scan_harmless h last [] 0 rest
  refine ⟨lines, ?_⟩
  have scanned : Literal.scan '"' true [] 0 (body ++ (threeQuotes ++ rest)) = .ok (body, lines, rest) := scanned
  simp only [readText, ↓reduceIte, List.drop_succ_cons, List.drop_zero, scanned]

end Lexing

end ApiTypes.Source
