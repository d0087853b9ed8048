/-
Scalars of JSON texts in block and flow notation.

Blanks of JSON are passed as far as they are blanks here, so that what is left of a text is compared with the blanks in
front left out. Between quotes a text means the same, unless it holds one of the characters that end lines only here. A
text without quotes goes up to the blanks before a comma or bracket.

Main statements: `body_pieces`, a quoted text is read as what it means, if it is read at all; `read_word`, a plain text
in brackets is read up to the blanks behind it.
-/
import ApiTypes.Proofs.JsonTree
import ApiTypes.Yaml.Plain

namespace ApiTypes.Yaml

open ApiTypes.Json (Blank isSpace skipBlanks)

/-! ## Cursors -/

namespace Cursor

variable {c : Cursor} {x : Char} {rest : List Char}

theorem rest_step (h : c.rest = x :: rest) : c.step.rest = rest := by
  obtain ⟨_, index, line, column, bound⟩ := c
  simp only at h
  subst h
  simp only [step]
  split
  · rfl
  · split <;> rfl

@[simp] theorem bound_step (c : Cursor) : c.step.bound = c.bound := by
  unfold step
  split
  · rfl
  · split
    · rfl
    · split <;> rfl

theorem rest_skip (n : Nat) (c : Cursor) : (c.skip n).rest = c.rest.drop n := by
  induction n generalizing c with
  | zero => rfl
  | succ n ih =>
    rw [skip, ih]
    cases eq : c.rest with
    | nil => rw [step, eq, List.drop_nil, eq, List.drop_nil]
    | cons x rest => rw [rest_step eq, List.drop_succ_cons]

@[simp] theorem bound_skip (n : Nat) (c : Cursor) : (c.skip n).bound = c.bound := by
  induction n generalizing c with
  | zero => rfl
  | succ n ih => rw [skip, ih, bound_step]

theorem rest_span (c : Cursor) (p : Char → Bool) : (c.span p).2.rest = c.rest.dropWhile p := by
  have parts : c.rest.takeWhile p ++ c.rest.dropWhile p = c.rest := List.takeWhile_append_dropWhile
  rw [span, rest_skip]
  exact (congrArg (List.drop _) parts).symm.trans List.drop_left

@[simp] theorem bound_span (c : Cursor) (p : Char → Bool) : (c.span p).2.bound = c.bound := by
  rw [span, bound_skip]

theorem lineBreak_of_break (h : c.rest = x :: rest) (isBreak : isBreak x = true) :
    c.lineBreak.1 ≠ [] ∧ c.lineBreak.2 = c.step := by
  simp [lineBreak, peek?, h, isBreak]

theorem lineBreak_of_no_break (h : ∀ x ∈ c.rest.head?, isBreak x = false) : c.lineBreak = ([], c) := by
  unfold lineBreak peek?
  cases eq : c.rest with
  | nil => rfl
  | cons x rest => simp [h x (by rw [eq]; rfl)]

end Cursor

/-! ## Blanks -/

/-- behind its blanks the text has no line end of another kind, and no comment -/
def Firm (text : List Char) : Prop := ∀ x ∈ (skipBlanks text).head?, isBreak x = false ∧ x ≠ '#'

theorem skipBlanks_dropWhile {p : Char → Bool} (h : ∀ c, p c = true → isSpace c = true) (text : List Char) :
    skipBlanks (text.dropWhile p) = skipBlanks text := by
  induction text with
  | nil => rfl
  | cons c rest ih =>
    rw [List.dropWhile_cons]
    split
    · rename_i blank
      rw [ih, skipBlanks, skipBlanks, List.dropWhile_cons_of_pos (h c blank)]
    · rfl

theorem skipBlanks_space {c : Char} (h : isSpace c = true) (rest : List Char) :
    skipBlanks (c :: rest) = skipBlanks rest := by
  rw [skipBlanks, List.dropWhile_cons_of_pos h, skipBlanks]

theorem isSpace_of_eq {c : Char} (h : (c == ' ') = true) : isSpace c = true := by
  obtain rfl : c = ' ' := by simpa using h
  rfl

/-- a line end in front is a blank, since no other stands behind the blanks -/
theorem Firm.isSpace_head {text rest : List Char} {x : Char} (firm : Firm text) (h : text = x :: rest)
    (isBreak : isBreak x = true) : isSpace x = true := by
  cases space : isSpace x with
  | true => rfl
  | false =>
    have first := firm x (by rw [h, Json.skipBlanks_solid space]; rfl)
    rw [isBreak] at first
    exact absurd first.1 (by decide)

/-- behind spaces stands no comment -/
theorem skipComment_eq {c : Cursor} (firm : Firm c.rest) : c.skipComment = c.skipBlanks := by
  unfold Cursor.skipComment
  rw [if_neg]
  intro comment
  have left : c.skipBlanks.rest = c.rest.dropWhile (· == ' ') := Cursor.rest_span c _
  rw [Cursor.peek?, left] at comment
  have first : ∃ rest, c.rest.dropWhile (· == ' ') = '#' :: rest := by
    cases eq : c.rest.dropWhile (· == ' ') with
    | nil => simp [eq] at comment
    | cons d rest =>
      rw [eq] at comment
      obtain rfl : d = '#' := by simpa using comment
      exact ⟨rest, rfl⟩
  obtain ⟨rest, eq⟩ := first
  have same := skipBlanks_dropWhile (fun _ => isSpace_of_eq) c.rest
  rw [eq, Json.skipBlanks_solid (by decide)] at same
  exact (firm '#' (by rw [← same]; rfl)).2 rfl

/-- one cursor is behind blanks that stand before another -/
structure Passes (c after : Cursor) : Prop where
  left : skipBlanks after.rest = skipBlanks c.rest
  suffix : after.rest <:+ c.rest
  bound : after.bound = c.bound

theorem Passes.refl (c : Cursor) : Passes c c := ⟨rfl, List.suffix_refl _, rfl⟩

theorem Passes.trans {c d e : Cursor} (first : Passes c d) (second : Passes d e) : Passes c e :=
  ⟨second.left.trans first.left, second.suffix.trans first.suffix, second.bound.trans first.bound⟩

theorem Passes.firm {c after : Cursor} (h : Passes c after) (firm : Firm c.rest) : Firm after.rest := by
  rw [Firm, h.left]
  exact firm

theorem passes_spaces (c : Cursor) : Passes c c.skipBlanks where
  left := by
    rw [show c.skipBlanks.rest = c.rest.dropWhile (· == ' ') from Cursor.rest_span c _]
    exact skipBlanks_dropWhile (fun _ => isSpace_of_eq) _
  suffix := by
    rw [show c.skipBlanks.rest = c.rest.dropWhile (· == ' ') from Cursor.rest_span c _]
    exact List.dropWhile_suffix _
  bound := Cursor.bound_span c _

theorem passes_lineBreak {c : Cursor} (firm : Firm c.rest) : Passes c c.lineBreak.2 := by
  cases eq : c.rest with
  | nil =>
    rw [Cursor.lineBreak_of_no_break (by simp [eq])]
    exact .refl c
  | cons x rest =>
    cases ends : isBreak x with
    | false =>
      rw [Cursor.lineBreak_of_no_break (by simp [eq, ends])]
      exact .refl c
    | true =>
      have step := Cursor.rest_step eq
      rw [(Cursor.lineBreak_of_break eq ends).2]
      exact ⟨by rw [step, eq, skipBlanks_space (firm.isSpace_head eq ends)],
        by rw [step, eq]; exact List.suffix_cons x rest, Cursor.bound_step c⟩

/-! ## Quoted texts -/

namespace Quoted

open ApiTypes.Json (Piece hexNumber? hexValue? escaped?)

/-- not a character that ends a line in this notation, though it may stand in a text of JSON -/
def Unbroken : Piece → Prop
  | .plain c _ => isBreak c = false
  | _ => True

theorem letterEscape?_escaped {mark c : Char} (h : escaped? mark = some c) : letterEscape? mark = some c := by
  unfold escaped? at h
  split at h <;> cases h <;> rfl

theorem mapM_hexValue? {d1 d2 d3 d4 : Char} {n : Nat} (h : hexNumber? [d1, d2, d3, d4] = some n) :
    ∃ values, [d1, d2, d3, d4].mapM hexValue? = some values ∧ values.length = 4 ∧
      values.foldl (fun n d => 16 * n + d) 0 = n := by
  simp only [hexNumber?, List.foldl_cons, List.foldl_nil] at h
  cases v1 : hexValue? d1 with
  | none => simp [v1] at h
  | some n1 =>
    cases v2 : hexValue? d2 with
    | none => simp [v1, v2] at h
    | some n2 =>
      cases v3 : hexValue? d3 with
      | none => simp [v1, v2, v3] at h
      | some n3 =>
        cases v4 : hexValue? d4 with
        | none => simp [v1, v2, v3, v4] at h
        | some n4 => exact ⟨[n1, n2, n3, n4], by simp [v1, v2, v3, v4], rfl, by simpa [v1, v2, v3, v4] using h⟩

/-- the text starts with a run of `n` spaces, and the other parts stand behind it -/
structure Run (pieces : List Piece) (behind : List Char) (n : Nat) (others : List Piece) : Prop where
  chars : pieces.map Piece.char = List.replicate n ' ' ++ others.map Piece.char
  text : pieces.flatMap Piece.text = List.replicate n ' ' ++ others.flatMap Piece.text
  unbroken : ∀ p ∈ others, Unbroken p
  stops : ∃ y tail, others.flatMap Piece.text ++ '"' :: behind = y :: tail ∧ y ≠ ' ' ∧ y ≠ '\t' ∧ isBreak y = false

theorem exists_run (pieces : List Piece) (unbroken : ∀ p ∈ pieces, Unbroken p) (behind : List Char) :
    ∃ n others, Run pieces behind n others := by
  induction pieces with
  | nil => exact ⟨0, [], rfl, rfl, by simp, '"', behind, rfl, by decide, by decide, rfl⟩
  | cons p rest ih =>
    have stop : ∀ y tail, p.text = y :: tail → y ≠ ' ' → y ≠ '\t' → isBreak y = false →
        Run (p :: rest) behind 0 (p :: rest) := by
      intro y tail eq space tab ends
      refine ⟨rfl, rfl, unbroken, y, tail ++ (rest.flatMap Piece.text ++ '"' :: behind), ?_, space, tab, ends⟩
      rw [List.flatMap_cons, eq, List.append_assoc, List.cons_append]
    have own := unbroken p List.mem_cons_self
    cases p with
    | plain c plain =>
      by_cases space : c = ' '
      · subst space
        obtain ⟨n, others, chars, text, inside, next⟩ := ih fun p mem => unbroken p (List.mem_cons_of_mem _ mem)
        refine ⟨n + 1, others, ?_, ?_, inside, next⟩
        · rw [List.map_cons, chars, List.replicate_succ]
          rfl
        · rw [List.flatMap_cons, text, List.replicate_succ]
          rfl
      · refine ⟨0, _, stop c [] rfl space ?_ own⟩
        rintro rfl
        exact absurd plain.1 (by decide)
    | letter mark c _ => exact ⟨0, _, stop '\\' _ rfl (by decide) (by decide) rfl⟩
    | digits a b d e c _ => exact ⟨0, _, stop '\\' _ rfl (by decide) (by decide) rfl⟩

/-- a run of spaces that ends within its line is read at once -/
theorem blanks_run {c : Cursor} {n : Nat} {y : Char} {tail : List Char} (h : c.rest = List.replicate n ' ' ++ y :: tail)
    (noSpace : y ≠ ' ') (noTab : y ≠ '\t') (noBreak : isBreak y = false) :
    ∃ after, blanks c.bound c = .ok (List.replicate n ' ', after) ∧ after.rest = y :: tail ∧ after.bound = c.bound := by
  have white : ∀ z ∈ List.replicate n ' ', (z == ' ' || z == '\t') = true := by
    intro z mem
    rw [(List.mem_replicate.1 mem).2]
    rfl
  obtain ⟨after, spaces⟩ : ∃ after, c.span (fun z => z == ' ' || z == '\t') = (List.replicate n ' ', after) := by
    refine ⟨_, Prod.ext ?_ rfl⟩
    rw [Cursor.span, h, List.takeWhile_append_of_pos white]
    simp [noSpace, noTab]
  have left : after.rest = y :: tail := by
    have left := Cursor.rest_span c fun z => z == ' ' || z == '\t'
    rw [spaces, h, List.dropWhile_append_of_pos white] at left
    simpa [noSpace, noTab] using left
  have bound : after.bound = c.bound := by
    have bound := Cursor.bound_span c fun z => z == ' ' || z == '\t'
    rwa [spaces] at bound
  have stays : after.lineBreak = ([], after) :=
    Cursor.lineBreak_of_no_break (by rw [left]; rintro _ ⟨⟩; exact noBreak)
  refine ⟨after, ?_, left, bound⟩
  simp only [blanks, spaces, stays, left]
  rfl

/-- what a backslash stands for in a text of JSON, it stands for here -/
theorem escape_piece {p : Piece} {escape : List Char} (text : p.text = '\\' :: escape) {c : Cursor} {rest : List Char}
    (h : c.rest = escape ++ rest) (fuel : Nat) :
    ∃ after, Quoted.escape fuel c = .ok ([p.char], after) ∧ after.rest = rest ∧ after.bound = c.bound := by
  cases p with
  | plain x own =>
    obtain rfl : x = '\\' := (List.cons.inj text).1
    exact absurd rfl own.2.2
  | letter mark x means =>
    obtain rfl : [mark] = escape := (List.cons.inj text).2
    refine ⟨c.step, ?_, Cursor.rest_step h, Cursor.bound_step c⟩
    simp [Quoted.escape, Cursor.peek?, h, letterEscape?_escaped means, Piece.char]
  | digits d1 d2 d3 d4 x means =>
    obtain rfl : ['u', d1, d2, d3, d4] = escape := (List.cons.inj text).2
    obtain ⟨values, digits, length, total⟩ := mapM_hexValue? means
    have step : c.step.rest = [d1, d2, d3, d4] ++ rest := Cursor.rest_step h
    have taken : c.step.rest.take 4 = [d1, d2, d3, d4] := by rw [step]; rfl
    have code : codePoint 4 c.step = .ok (x.toNat, c.step.skip 4) := by
      simp only [codePoint, taken, digits, length, total]
      rfl
    have valid : x.toNat < 0xD800 ∨ 0xDFFF < x.toNat ∧ x.toNat < 0x110000 := x.valid
    have whole : character x.toNat (c.step.skip 4) = .ok (x, c.step.skip 4) := by
      unfold character
      rw [if_neg (by omega), if_neg (by simp [isHigh]; omega), if_neg (by simp [isLow]; omega), Char.ofNat_toNat]
    refine ⟨c.step.skip 4, ?_, by rw [Cursor.rest_skip, step]; rfl, by simp⟩
    have first : c.peek? = some 'u' := by rw [Cursor.peek?, h]; rfl
    have letter : letterEscape? 'u' = none := rfl
    have width : codeWidth? 'u' = some 4 := rfl
    simp only [Quoted.escape, first, letter, width, code, whole, bind, Except.bind]
    rfl

/-- **A quoted text of JSON is read as what it means**, if it is read at all. -/
theorem body_pieces (fuel : Nat) (pieces : List Piece) (unbroken : ∀ p ∈ pieces, Unbroken p) (before : List Char)
    {c : Cursor} {behind : List Char} (h : c.rest = pieces.flatMap Piece.text ++ '"' :: behind) :
    body true fuel before c = .error .malformed ∨
      ∃ after, body true fuel before c = .ok (before.reverse ++ pieces.map Piece.char, after) ∧ after.rest = behind ∧
        after.bound = c.bound := by
  induction fuel generalizing pieces before c with
  | zero => exact Or.inl rfl
  | succ fuel ih =>
    -- an escape is read whatever it is, and a run of spaces is read at once
    have escaped : ∀ (p : Piece) (rest : List Piece) (escape : List Char), pieces = p :: rest →
        p.text = '\\' :: escape → body true (fuel + 1) before c = .error .malformed ∨
          ∃ after, body true (fuel + 1) before c = .ok (before.reverse ++ pieces.map Piece.char, after) ∧
            after.rest = behind ∧ after.bound = c.bound := by
      rintro p rest escape rfl text
      rw [List.flatMap_cons, text, List.cons_append, List.cons_append, List.append_assoc] at h
      obtain ⟨after, read, left, bound⟩ := escape_piece text (Cursor.rest_step h) c.bound
      have next := ih rest (fun p mem => unbroken p (List.mem_cons_of_mem _ mem)) (p.char :: before) left
      rw [body, h]
      simpa [read, bind, Except.bind, bound] using next
    cases pieces with
    | nil =>
      right
      refine ⟨c.step, ?_, Cursor.rest_step h, Cursor.bound_step c⟩
      rw [body, h]
      simp
    | cons p rest =>
      cases p with
      | letter mark x means => exact escaped _ _ _ rfl rfl
      | digits d1 d2 d3 d4 x means => exact escaped _ _ _ rfl rfl
      | plain x own =>
        have ends : isBreak x = false := unbroken _ List.mem_cons_self
        have tab : x ≠ '\t' := by
          rintro rfl
          exact absurd own.1 (by decide)
        by_cases space : x = ' '
        · subst space
          obtain ⟨n, others, chars, text, inside, y, tail, next, noSpace, noTab, noBreak⟩ :=
            exists_run (.plain ' ' own :: rest) unbroken behind
          have first : c.rest = ' ' :: (rest.flatMap Piece.text ++ '"' :: behind) := h
          rw [text, List.append_assoc, next] at h
          obtain ⟨after, read, left, bound⟩ := blanks_run h noSpace noTab noBreak
          have later := ih others inside (List.replicate n ' ' ++ before) (left.trans next.symm)
          rw [chars, body, first]
          simpa [read, bind, Except.bind, bound] using later
        · have later := ih rest (fun p mem => unbroken p (List.mem_cons_of_mem _ mem)) (x :: before)
            (Cursor.rest_step h)
          rw [body, h]
          simpa [own.2.1, own.2.2, space, tab, ends, Piece.text, Piece.char] using later

end Quoted

theorem atSeparator_eq_false {c : Cursor} {x : Char} {rest : List Char} (h : c.rest = x :: rest) (point : x ≠ '.')
    (dashes : x = '-' → rest.head? ≠ some '-') : c.atSeparator = false := by
  have taken : ∃ tail, c.rest.take 3 = x :: tail ∧ tail.head? = rest.head? := by
    rw [h]
    cases rest with
    | nil => exact ⟨[], rfl, rfl⟩
    | cons y rest => exact ⟨_, rfl, rfl⟩
  obtain ⟨tail, taken, head⟩ := taken
  rw [Cursor.atSeparator, taken, Bool.and_eq_false_iff]
  left
  rw [Bool.or_eq_false_iff, beq_eq_false_iff_ne, beq_eq_false_iff_ne]
  constructor
  · intro eq
    obtain ⟨rfl, rfl⟩ := List.cons.inj eq
    exact dashes rfl head.symm
  · intro eq
    exact point (List.cons.inj eq).1

theorem atSeparator_of_ne {c : Cursor} {x : Char} {rest : List Char} (h : c.rest = x :: rest) (apart : x ≠ '.' ∧ x ≠ '-') :
    c.atSeparator = false :=
  atSeparator_eq_false h apart.1 fun eq => absurd eq apart.2

/-- a letter or digit is none of some marks -/
theorem not_contains_of_alnum {x : Char} {marks : List Char} (h : marks.all (fun y => !Text.isAsciiAlnum y) = true)
    (letter : Text.isAsciiAlnum x = true) : marks.contains x = false := by
  rw [List.contains_eq_mem, decide_eq_false_iff_not]
  intro mem
  have other := List.all_eq_true.1 h x mem
  rw [letter] at other
  cases other

/-! ## Plain texts inside brackets -/

namespace Plain

/-- what stands behind a value inside brackets: blanks, and a comma or a closing bracket -/
structure Follows (behind : List Char) : Prop where
  clean : '\r' ∉ behind
  stops : ∃ x more, skipBlanks behind = x :: more ∧ (x = ',' ∨ x = ']' ∨ x = '\x7d')

/-- a character that goes on with a plain text, whatever follows it -/
structure Inside (z : Char) : Prop where
  space : isSpace z = false
  ends : isBreak z = false
  comment : z ≠ '#'
  mark : ":,?[]\x7b\x7d".toList.contains z = false

variable {behind : List Char}

theorem Follows.firm (h : Follows behind) : Firm behind := by
  obtain ⟨x, more, eq, closing⟩ := h.stops
  rw [Firm, eq]
  rintro _ ⟨⟩
  rcases closing with rfl | rfl | rfl <;> decide

theorem Follows.passes {c after : Cursor} (h : Follows c.rest) (passes : Passes c after) : Follows after.rest where
  clean mem := h.clean (passes.suffix.subset mem)
  stops := by
    rw [passes.left]
    exact h.stops

/-- the first character is a blank, or the comma or bracket itself -/
theorem Follows.head (h : Follows behind) : ∃ y tail, behind = y :: tail ∧
    (y = ' ' ∨ y = '\t' ∨ y = '\n' ∨ y = ',' ∨ y = ']' ∨ y = '\x7d') := by
  obtain ⟨x, more, eq, closing⟩ := h.stops
  cases behind with
  | nil => cases eq
  | cons y tail =>
    refine ⟨y, tail, rfl, ?_⟩
    cases space : isSpace y with
    | true =>
      simp only [isSpace, Bool.or_eq_true, beq_iff_eq, or_assoc] at space
      rcases space with space | space | space | rfl
      · exact Or.inl space
      · exact Or.inr (Or.inl space)
      · exact Or.inr (Or.inr (Or.inl space))
      · exact absurd List.mem_cons_self h.clean
    | false =>
      rw [Json.skipBlanks_solid space] at eq
      obtain ⟨rfl, -⟩ := List.cons.inj eq
      exact Or.inr (Or.inr (Or.inr closing))

theorem Follows.no_separator {c : Cursor} (h : Follows c.rest) : c.atSeparator = false := by
  obtain ⟨y, tail, eq, cases⟩ := h.head
  refine atSeparator_of_ne eq ?_
  rcases cases with rfl | rfl | rfl | rfl | rfl | rfl <;> decide

theorem Follows.runLength (h : Follows behind) : Plain.runLength true behind = 0 := by
  obtain ⟨y, tail, rfl, cases⟩ := h.head
  rw [Plain.runLength, if_neg]
  rcases cases with rfl | rfl | rfl | rfl | rfl | rfl <;> simp [continues, isBreak]

theorem runLength_append {word : List Char} (inside : ∀ z ∈ word, Inside z) (h : Follows behind) :
    runLength true (word ++ behind) = word.length := by
  induction word with
  | nil => exact h.runLength
  | cons z rest ih =>
    obtain ⟨space, ends, -, mark⟩ := inside z List.mem_cons_self
    have goes : continues true (z :: (rest ++ behind)) = true := by
      have others : z ≠ ' ' ∧ z ≠ '\t' ∧ z ≠ ':' ∧ z ≠ ',' ∧ z ≠ '?' ∧ z ≠ '[' ∧ z ≠ ']' ∧ z ≠ '\x7b' ∧ z ≠ '\x7d' := by
        refine ⟨?_, ?_, ?_, ?_, ?_, ?_, ?_, ?_, ?_⟩
        all_goals
          rintro rfl
          first | exact absurd space (by decide) | exact absurd mark (by decide)
      simp [continues, ends, others]
    rw [List.cons_append, runLength, if_pos goes, ih fun z mem => inside z (List.mem_cons_of_mem _ mem),
      List.length_cons]

theorem laterBreaks_passes (fuel : Nat) (found : List Char) {c : Cursor} (h : Follows c.rest) :
    ∃ others after, laterBreaks fuel found c = (some others, after) ∧ Passes c after := by
  induction fuel generalizing found c with
  | zero => exact ⟨found, c, rfl, .refl c⟩
  | succ fuel ih =>
    have spaces := passes_spaces c
    have ends := passes_lineBreak (h.passes spaces).firm
    rcases broken : c.skipBlanks.lineBreak with ⟨_ | ⟨first, others⟩, after⟩
    · exact ⟨found, c.skipBlanks, by simp only [laterBreaks, broken], spaces⟩
    · rw [broken] at ends
      have passed : Passes c after := spaces.trans ends
      obtain ⟨others', after', eq, more⟩ := ih (found ++ first :: others) (h.passes passed)
      refine ⟨others', after', ?_, passed.trans more⟩
      simp [laterBreaks, broken, (h.passes passed).no_separator, eq]

theorem gap_passes {c : Cursor} (h : Follows c.rest) : Passes c (gap c).after := by
  have spaces := passes_spaces c
  have ends := passes_lineBreak (h.passes spaces).firm
  rcases broken : c.skipBlanks.lineBreak with ⟨_ | ⟨first, others⟩, after⟩
  · have eq : (gap c).after = c.skipBlanks := by
      rw [Cursor.skipBlanks, Cursor.skipWhile] at broken
      simp only [gap, broken]
      rfl
    rw [eq]
    exact spaces
  · rw [broken] at ends
    have passed : Passes c after := spaces.trans ends
    obtain ⟨others', after', later, more⟩ := laterBreaks_passes c.skipBlanks.bound [] (h.passes passed)
    have eq : (gap c).after = after' := by
      rw [Cursor.skipBlanks, Cursor.skipWhile] at broken later
      simp only [gap, broken, (h.passes passed).no_separator, later]
      rfl
    rw [eq]
    exact passed.trans more

theorem runs_follows (indent : Int) (fuel : Nat) (text : List Char) {between : Gap}
    (h : Follows between.after.rest) : runs true indent fuel text between = (text, between) := by
  cases fuel with
  | zero => rfl
  | succ fuel => simp [runs, h.runLength]

/-- **A plain text is read up to the blanks behind it**, and those are left or skipped. -/
theorem read_word {word : List Char} {c : Cursor} (indent : Int) (rest : c.rest = word ++ behind) (given : word ≠ [])
    (inside : ∀ z ∈ word, Inside z) (h : Follows behind) :
    (read true indent c).1 = word ∧ skipBlanks (read true indent c).2.after.rest = skipBlanks behind ∧
      (read true indent c).2.after.rest <:+ c.rest ∧ (read true indent c).2.after.bound = c.bound := by
  have left : (c.skip word.length).rest = behind := by rw [Cursor.rest_skip, rest, List.drop_left]
  have follows : Follows (c.skip word.length).rest := left ▸ h
  have passes := gap_passes follows
  have first : c.peek? ≠ some '#' := by
    obtain ⟨z, tail, rfl⟩ := List.exists_cons_of_ne_nil given
    rw [Cursor.peek?, rest]
    exact fun eq => (inside z List.mem_cons_self).comment (Option.some.inj eq)
  have run : runLength true c.rest = word.length := by rw [rest, runLength_append inside h]
  have taken : c.rest.take word.length = word := by rw [rest, List.take_left]
  have eq : read true indent c = (word, gap (c.skip word.length)) := by
    obtain ⟨n, length⟩ : ∃ n, word.length = n + 1 := ⟨word.length - 1, by
      have := List.length_pos_iff.2 given
      omega⟩
    have stays := runs_follows indent c.bound word (follows.passes passes)
    rw [length] at run taken stays ⊢
    simp only [read, runs, beq_iff_eq, if_neg first, run, List.nil_append, taken, stays, ite_self]
  rw [eq]
  refine ⟨rfl, passes.left.trans (by rw [left]), passes.suffix.trans ?_, passes.bound.trans (Cursor.bound_skip _ _)⟩
  rw [left, rest]
  exact List.suffix_append word behind

end Plain

end ApiTypes.Yaml
