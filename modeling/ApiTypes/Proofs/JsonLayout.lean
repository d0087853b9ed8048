/-
Layout of JSON texts.

Each token of JSON is one token of block and flow notation. Before it only blanks are passed and candidates for keys
forgotten. A text may break the notation at any blank, by a tab or at the end of its fuel; then it is not read at all,
which every statement here allows for.

Main statements: `leads_token`, one step of a run; `leads_open`, `leads_close`, `leads_comma`, `leads_colon`,
`leads_quoted` and `leads_plain`, what each token leaves behind; `readAll_end`, the tokens of the whole text.
-/
import ApiTypes.Proofs.JsonScalar
import ApiTypes.Yaml.Layout

namespace ApiTypes.Yaml

open ApiTypes.Json (Blank isSpace skipBlanks)

namespace Layout

theorem skipLines_eq (fuel : Nat) (l : Layout) (firm : Firm l.cursor.rest) :
    ∃ cursor allowed, skipLines fuel l = (l.move cursor).allow allowed ∧ Passes l.cursor cursor ∧
      (l.keyAllowed = true → allowed = true) := by
  induction fuel generalizing l with
  | zero => exact ⟨l.cursor, l.keyAllowed, rfl, .refl _, id⟩
  | succ fuel ih =>
    have spaces := passes_spaces l.cursor
    have ends := passes_lineBreak (spaces.firm firm)
    rcases broken : l.cursor.skipBlanks.lineBreak with ⟨_ | ⟨first, others⟩, after⟩
    · exact ⟨_, l.keyAllowed, by simp only [skipLines, skipComment_eq firm, broken]; rfl, spaces, id⟩
    · rw [broken] at ends
      have passed : Passes l.cursor after := spaces.trans ends
      by_cases flow : l.inFlow = true
      · obtain ⟨cursor, allowed, eq, more, allows⟩ := ih (l.move after) (passed.firm firm)
        refine ⟨cursor, allowed, ?_, passed.trans more, allows⟩
        simp only [skipLines, skipComment_eq firm, broken, if_pos flow, eq]
        rfl
      · obtain ⟨cursor, allowed, eq, more, allows⟩ := ih ((l.move after).allow true) (passed.firm firm)
        refine ⟨cursor, allowed, ?_, passed.trans more, fun _ => allows rfl⟩
        simp only [skipLines, skipComment_eq firm, broken, if_neg flow, eq]
        rfl

/-! ## One step -/

/-- inside `deep` brackets, outside all blocks, with these tokens behind (the last one first) and this text ahead -/
structure At (deep : Nat) (tokens : List Token) (ahead : List Char) (l : Layout) : Prop where
  left : skipBlanks l.cursor.rest = skipBlanks ahead
  clean : '\r' ∉ l.cursor.rest
  bound : l.cursor.rest.length ≤ l.cursor.bound
  written : l.tokens = tokens
  count : l.count = tokens.length
  indent : l.indent = -1
  outer : l.outer = []
  depth : l.candidates.length = deep + 1
  free : ∀ k, some k ∈ l.candidates → k.required = false

/-- the candidate of the innermost bracket, if there is one, is the last token -/
def KeyBehind (l : Layout) : Prop := ∀ k, l.candidates.head? = some (some k) → k.position + 1 = l.count

theorem mapM_forgetStale (line index : Nat) (candidates : List (Option Candidate))
    (free : ∀ k, some k ∈ candidates → k.required = false) :
    ∃ kept, candidates.mapM (forgetStale line index) = .ok kept ∧ kept.length = candidates.length ∧
      (∀ k, some k ∈ kept → some k ∈ candidates) ∧
      ∀ k, kept.head? = some (some k) → candidates.head? = some (some k) := by
  induction candidates with
  | nil => exact ⟨[], rfl, rfl, by simp, by simp⟩
  | cons c rest ih =>
    obtain ⟨kept, eq, length, from_, -⟩ := ih fun k mem => free k (List.mem_cons_of_mem _ mem)
    have first : ∃ c', forgetStale line index c = .ok c' ∧ ∀ k, c' = some k → c = some k := by
      cases c with
      | none => exact ⟨none, rfl, by simp⟩
      | some k =>
        have optional := free k List.mem_cons_self
        simp only [forgetStale, optional]
        split
        · exact ⟨none, by simp, by simp⟩
        · exact ⟨some k, rfl, fun _ h => h⟩
    obtain ⟨c', eq', same⟩ := first
    refine ⟨c' :: kept, by rw [List.mapM_cons, eq', eq]; rfl, by simp [length], ?_, ?_⟩
    · intro k mem
      rcases List.mem_cons.1 mem with head | tail
      · rw [same k head.symm]
        exact List.mem_cons_self
      · exact List.mem_cons_of_mem _ (from_ k tail)
    · intro k head
      rw [List.head?_cons, Option.some.injEq] at head ⊢
      exact same k head

section Step

variable {deep : Nat} {tokens : List Token} {ahead : List Char} {l : Layout}

/-- a layout behind blanks of another, ready for its next token -/
structure Ready (deep : Nat) (tokens : List Token) (ahead : List Char) (l ready : Layout) : Prop where
  at_ : At deep tokens ahead ready
  allows : l.keyAllowed = true → ready.keyAllowed = true
  candidate : KeyBehind l → KeyBehind ready

theorem At.firm (h : At deep tokens ahead l) (firm : Firm ahead) : Firm l.cursor.rest := by
  rw [Firm, h.left]
  exact firm

/-- before the next token nothing changes but the blanks, and candidates that are too far behind -/
theorem readAll_ready (h : At deep tokens ahead l) (firm : Firm ahead) (fuel : Nat) :
    ∃ ready, Ready deep tokens ahead l ready ∧ readAll (fuel + 1) l = (match ready.cursor.rest with
      | [] => do return (← ready.atMargin).tokens.reverse
      | x :: _ => do readAll fuel (← ready.readToken x)) := by
  obtain ⟨cursor, allowed, eq, passes, allows⟩ := skipLines_eq (l.cursor.bound + 1) l (h.firm firm)
  obtain ⟨kept, drops, length, from_, head⟩ := mapM_forgetStale cursor.line cursor.index l.candidates h.free
  have dropped : ((l.move cursor).allow allowed).dropStale =
      .ok { (l.move cursor).allow allowed with candidates := kept } := by
    simp only [dropStale, move, allow, drops]
    rfl
  refine ⟨{ (l.move cursor).allow allowed with candidates := kept }, ?_, ?_⟩
  · constructor
    · have bound := Nat.le_trans h.bound (Nat.le_of_eq passes.bound.symm)
      exact ⟨passes.left.trans h.left, fun mem => h.clean (passes.suffix.subset mem),
        Nat.le_trans passes.suffix.length_le bound, h.written, h.count, h.indent, h.outer, length.trans h.depth,
        fun k mem => h.free k (from_ k mem)⟩
    · exact allows
    · exact fun behind k first => behind k (head k first)
  · have flat : ∀ column, unwind column { (l.move cursor).allow allowed with candidates := kept } =
        { (l.move cursor).allow allowed with candidates := kept } := by
      intro column
      have outer : l.outer = [] := h.outer
      simp [unwind, move, allow, outer, unwindFrom]
    rw [readAll, eq, dropped]
    exact congrArg (fun l : Layout => match l.cursor.rest with
      | [] => do return (← l.atMargin).tokens.reverse
      | x :: _ => do readAll fuel (← l.readToken x)) (flat _)

/-- the text breaks the notation, or reading it comes to a layout of this kind -/
def Leads (l : Layout) (P : Layout → Prop) : Prop :=
  ∀ fuel, readAll fuel l = .error .malformed ∨ ∃ fuel' l', readAll fuel l = readAll fuel' l' ∧ P l'

theorem Leads.trans {P Q : Layout → Prop} (first : Leads l P) (second : ∀ l', P l' → Leads l' Q) :
    Leads l Q := by
  intro fuel
  rcases first fuel with failed | ⟨fuel', l', eq, holds⟩
  · exact Or.inl failed
  · rw [eq]
    exact second l' holds fuel'

theorem Leads.mono {P Q : Layout → Prop} (reaches : Leads l P) (weaker : ∀ l', P l' → Q l') : Leads l Q := by
  intro fuel
  rcases reaches fuel with failed | ⟨fuel', l', eq, holds⟩
  · exact Or.inl failed
  · exact Or.inr ⟨fuel', l', eq, weaker l' holds⟩

/-- no token starts with a blank -/
theorem readToken_space {x : Char} {rest : List Char} (h : l.cursor.rest = x :: rest) (space : isSpace x = true)
    (clean : x ≠ '\r') : l.readToken x = .error .malformed := by
  simp only [isSpace, Bool.or_eq_true, beq_iff_eq, or_assoc] at space
  have all : x = ' ' ∨ x = '\t' ∨ x = '\n' := by
    rcases space with rfl | rfl | rfl | rfl
    · exact Or.inl rfl
    · exact Or.inr (Or.inl rfl)
    · exact Or.inr (Or.inr rfl)
    · exact absurd rfl clean
  have separator : l.cursor.atSeparator = false :=
    atSeparator_eq_false h (by rcases all with rfl | rfl | rfl <;> decide)
      (by rcases all with rfl | rfl | rfl <;> exact fun eq => absurd eq (by decide))
  have starts : Plain.starts l.inFlow l.cursor.rest = false := by
    rw [h]
    rcases all with rfl | rfl | rfl <;> simp [Plain.starts, isBreak]
  rcases all with rfl | rfl | rfl <;> simp [readToken, separator, starts]

theorem At.readToken_space (h : At deep tokens ahead l) {x : Char} {rest : List Char} (left : l.cursor.rest = x :: rest)
    (space : isSpace x = true) : l.readToken x = .error .malformed := by
  refine Layout.readToken_space left space ?_
  rintro rfl
  exact h.clean (by rw [left]; exact List.mem_cons_self)

/-- a character that may start a token of JSON -/
def Solid (x : Char) : Prop := isSpace x = false ∧ isBreak x = false ∧ x ≠ '#'

theorem Solid.skip {x : Char} (h : Solid x) (more : List Char) : skipBlanks (x :: more) = x :: more :=
  Json.skipBlanks_solid h.1 more

theorem Solid.firm {x : Char} (h : Solid x) (more : List Char) : Firm (x :: more) := by
  rw [Firm, h.skip]
  rintro _ ⟨⟩
  exact h.2

/-- one token is read where the text goes on with it -/
theorem leads_token {x : Char} {more : List Char} (h : At deep tokens (x :: more) l) (solid : Solid x)
    {P : Layout → Prop} (read : ∀ ready, Ready deep tokens (x :: more) l ready → ready.cursor.rest = x :: more →
      ready.readToken x = .error .malformed ∨ ∃ l', ready.readToken x = .ok l' ∧ P l') : Leads l P := by
  intro fuel
  cases fuel with
  | zero => exact Or.inl rfl
  | succ fuel =>
    obtain ⟨ready, isReady, eq⟩ := readAll_ready h (solid.firm more) fuel
    have left := isReady.at_.left
    rw [solid.skip] at left
    rw [eq]
    cases rest : ready.cursor.rest with
    | nil => simp [rest, skipBlanks] at left
    | cons y tail =>
      rw [rest] at left
      cases space : isSpace y with
      | true =>
        simp only [isReady.at_.readToken_space rest space]
        exact Or.inl rfl
      | false =>
        rw [Json.skipBlanks_solid space] at left
        obtain ⟨rfl, rfl⟩ := List.cons.inj left
        rcases read ready isReady rest with failed | ⟨l', ok, holds⟩
        · simp only [failed]
          exact Or.inl rfl
        · simp only [ok]
          exact Or.inr ⟨fuel, l', rfl, holds⟩

/-! ## Candidates -/

theorem At.exists_candidates (h : At deep tokens ahead l) : ∃ c rest, l.candidates = c :: rest ∧ rest.length = deep ∧
    (∀ k, c = some k → k.required = false) ∧ ∀ k, some k ∈ rest → k.required = false := by
  have depth := h.depth
  have free := h.free
  cases eq : l.candidates with
  | nil => simp [eq] at depth
  | cons c rest =>
    rw [eq] at depth free
    refine ⟨c, rest, rfl, by simpa using depth, ?_, fun k mem => free k (List.mem_cons_of_mem _ mem)⟩
    rintro k rfl
    exact free k List.mem_cons_self

theorem setCandidate_same {c : Option Candidate} {rest : List (Option Candidate)} (h : l.candidates = c :: rest) :
    l.setCandidate c = l := by
  obtain ⟨cursor, tokens, count, indent, outer, candidates, allowed⟩ := l
  simp only at h
  subst h
  rfl

theorem At.dropCandidate (h : At deep tokens ahead l) : l.dropCandidate = .ok (l.setCandidate none) := by
  obtain ⟨c, rest, eq, -, free, -⟩ := h.exists_candidates
  unfold Layout.dropCandidate
  rw [eq]
  cases c with
  | none => simp only [setCandidate_same eq]
  | some k => simp [free k rfl]

theorem At.inFlow (h : At (deep + 1) tokens ahead l) : l.inFlow = true := by
  simp [Layout.inFlow, Layout.depth, h.depth]

/-- a token that may be a key is kept as the innermost candidate, where a key may stand -/
theorem At.saveCandidate (h : At deep tokens ahead l) : ∃ c, l.saveCandidate = .ok (l.setCandidate c) ∧
    (∀ k, c = some k → k.required = false) ∧ (l.keyAllowed = true → ∀ k, c = some k → k.position = l.count) := by
  obtain ⟨c, rest, eq, -, free, -⟩ := h.exists_candidates
  unfold Layout.saveCandidate
  split
  · refine ⟨some _, by rw [h.dropCandidate]; rfl, ?_, ?_⟩
    · rintro k ⟨⟩
      have apart : (l.indent == Int.ofNat l.cursor.column) = false := by
        rw [h.indent, beq_eq_false_iff_ne]
        intro eq
        cases eq
      exact Bool.and_eq_false_iff.2 (Or.inr apart)
    · rintro - k ⟨⟩
      rfl
  · rename_i other
    exact ⟨c, by rw [setCandidate_same eq], free, fun allowed => absurd allowed other⟩

theorem At.free_set (h : At deep tokens ahead l) {c : Option Candidate} (free : ∀ k, c = some k → k.required = false) :
    ∀ k, some k ∈ c :: l.candidates.tail → k.required = false := by
  intro k mem
  rcases List.mem_cons.1 mem with head | tail
  · exact free k head.symm
  · exact h.free k (List.mem_of_mem_tail tail)

theorem At.length_tail (h : At deep tokens ahead l) : l.candidates.tail.length = deep := by
  rw [List.length_tail, h.depth]
  rfl

/-- at the end of the text the tokens are those behind -/
theorem readAll_end (h : At deep tokens [] l) (fuel : Nat) :
    readAll fuel l = .error .malformed ∨ readAll fuel l = .ok tokens.reverse := by
  cases fuel with
  | zero => exact Or.inl rfl
  | succ fuel =>
    obtain ⟨ready, isReady, eq⟩ := readAll_ready h (by simp [Firm, skipBlanks]) fuel
    rw [eq]
    cases rest : ready.cursor.rest with
    | nil =>
      right
      have outer := isReady.at_.outer
      have flat : unwind (-1) ready = ready := by simp [unwind, outer, unwindFrom]
      simp only [atMargin, flat, isReady.at_.dropCandidate, bind, Except.bind]
      exact congrArg (fun t => Except.ok t.reverse) isReady.at_.written
    | cons y tail =>
      left
      have done := isReady.at_.left
      rw [rest] at done
      have space : isSpace y = true := by
        cases space : isSpace y with
        | true => rfl
        | false =>
          rw [Json.skipBlanks_solid space] at done
          cases done
      simp only [isReady.at_.readToken_space rest space]
      rfl

/-! ## Tokens of JSON -/

/-- a token is written, and the cursor moves on to other text -/
theorem At.next (h : At deep tokens ahead l) {token : Token} {more : List Char} {inner : Nat} {l' : Layout}
    (left : skipBlanks l'.cursor.rest = skipBlanks more) (suffix : l'.cursor.rest <:+ l.cursor.rest)
    (bound : l'.cursor.bound = l.cursor.bound) (written : l'.tokens = token :: l.tokens)
    (count : l'.count = l.count + 1) (indent : l'.indent = l.indent) (outer : l'.outer = l.outer)
    (depth : l'.candidates.length = inner + 1) (free : ∀ k, some k ∈ l'.candidates → k.required = false) :
    At inner (token :: tokens) more l' where
  left := left
  clean mem := h.clean (suffix.subset mem)
  bound := Nat.le_trans suffix.length_le (Nat.le_trans h.bound (Nat.le_of_eq bound.symm))
  written := by rw [written, h.written]
  count := by rw [count, h.count, List.length_cons]
  indent := indent.trans h.indent
  outer := outer.trans h.outer
  depth := depth
  free := free

section Brackets

variable {x : Char} {more : List Char} {token : Token}

/-- a bracket opens -/
theorem leads_open (h : At deep tokens (x :: more) l) (solid : Solid x)
    (reads : ∀ l : Layout, l.cursor.rest = x :: more → l.readToken x = l.openBracket token) :
    Leads l fun l' => At (deep + 1) (token :: tokens) more l' ∧ l'.keyAllowed = true := by
  refine leads_token h solid fun ready isReady rest => Or.inr ?_
  obtain ⟨c, saved, free, -⟩ := isReady.at_.saveCandidate
  have step := Cursor.rest_step rest
  rw [reads ready rest, openBracket, saved]
  refine ⟨_, rfl, isReady.at_.next (by rw [← step]; rfl) ?_ (Cursor.bound_step _) rfl rfl rfl rfl ?_ ?_, rfl⟩
  · change ready.cursor.step.rest <:+ _
    rw [step, rest]
    exact List.suffix_cons x more
  · change (none :: c :: ready.candidates.tail).length = _
    rw [List.length_cons, List.length_cons, isReady.at_.length_tail]
  · intro k mem
    exact isReady.at_.free_set free k ((List.mem_cons.1 mem).resolve_left (by simp))

/-- a bracket closes -/
theorem leads_close (h : At (deep + 1) tokens (x :: more) l) (solid : Solid x)
    (reads : ∀ l : Layout, l.cursor.rest = x :: more → l.readToken x = l.closeBracket token) :
    Leads l fun l' => At deep (token :: tokens) more l' := by
  refine leads_token h solid fun ready isReady rest => Or.inr ?_
  have step := Cursor.rest_step rest
  rw [reads ready rest, closeBracket, isReady.at_.inFlow, isReady.at_.dropCandidate]
  refine ⟨_, rfl, isReady.at_.next (by rw [← step]; rfl) ?_ (Cursor.bound_step _) rfl rfl rfl rfl ?_ ?_⟩
  · change ready.cursor.step.rest <:+ _
    rw [step, rest]
    exact List.suffix_cons x more
  · exact isReady.at_.length_tail
  · exact fun k mem => isReady.at_.free k (List.mem_of_mem_tail mem)

end Brackets

theorem leads_comma {more : List Char} (h : At deep tokens (',' :: more) l) :
    Leads l fun l' => At deep (.comma :: tokens) more l' ∧ l'.keyAllowed = true := by
  refine leads_token h ⟨rfl, rfl, by decide⟩ fun ready isReady rest => Or.inr ?_
  have step := Cursor.rest_step rest
  have separator : ready.cursor.atSeparator = false := atSeparator_of_ne rest (by decide)
  have allowed : At deep tokens (',' :: more) (ready.allow true) := { isReady.at_ with }
  have reads : ready.readToken ',' =
      (do let l ← (ready.allow true).dropCandidate; return (l.move ready.cursor.step).push .comma) := by
    simp [readToken, separator]
  rw [reads, allowed.dropCandidate]
  refine ⟨_, rfl, isReady.at_.next (by rw [← step]; rfl) ?_ (Cursor.bound_step _) rfl rfl rfl rfl ?_ ?_, rfl⟩
  · change ready.cursor.step.rest <:+ _
    rw [step, rest]
    exact List.suffix_cons _ more
  · change (none :: ready.candidates.tail).length = _
    rw [List.length_cons, isReady.at_.length_tail]
  · exact isReady.at_.free_set (by simp)

/-- what a colon makes of the token before it: a key, or nothing new if that token stands too far behind -/
theorem leads_colon {more : List Char} {last : Token} (h : At (deep + 1) (last :: tokens) (':' :: more) l)
    (behind : KeyBehind l) : Leads l fun l' => ∃ mark, (mark = [.key] ∨ mark = []) ∧
      At (deep + 1) (.value :: last :: (mark ++ tokens)) more l' := by
  refine leads_token h ⟨rfl, rfl, by decide⟩ fun ready isReady rest => Or.inr ?_
  have step := Cursor.rest_step rest
  have flow := isReady.at_.inFlow
  have separator : ready.cursor.atSeparator = false := atSeparator_of_ne rest (by decide)
  have reads : ready.readToken ':' = ready.readValue := by simp [readToken, separator, flow]
  have suffix : ready.cursor.step.rest <:+ ready.cursor.rest := by
    rw [step, rest]
    exact List.suffix_cons _ more
  have depth : (none :: ready.candidates.tail).length = deep + 1 + 1 := by
    rw [List.length_cons, isReady.at_.length_tail]
  have free : ∀ k, some k ∈ none :: ready.candidates.tail → k.required = false := isReady.at_.free_set (by simp)
  obtain ⟨c, others, eq, -⟩ := isReady.at_.exists_candidates
  have written := isReady.at_.written
  have count := isReady.at_.count
  rw [reads]
  cases c with
  | some k =>
    have position : k.position + 1 = ready.count := isReady.candidate behind k (by rw [eq]; rfl)
    have inserted : ready.tokens.insertIdx (ready.count - k.position) .key = last :: .key :: tokens := by
      rw [written, show ready.count - k.position = 1 by omega]
      rfl
    have flat : (((ready.setCandidate none).insertAt k.position .key).allow false).inFlow = true := by
      change ((none :: ready.candidates.tail).length - 1 != 0) = true
      rw [depth]
      rfl
    have result : ready.readValue = .ok ((((((ready.setCandidate none).insertAt k.position .key).allow false)).move
        ready.cursor.step).push .value) := by
      simp only [readValue, eq, flat, Bool.not_true, Bool.false_and, Bool.false_eq_true, if_false]
      rfl
    have bound := Nat.le_trans isReady.at_.bound (Nat.le_of_eq (Cursor.bound_step ready.cursor).symm)
    refine ⟨_, result, [.key], Or.inl rfl, by rw [← step]; rfl, fun mem => isReady.at_.clean (suffix.subset mem),
      Nat.le_trans suffix.length_le bound, ?_, ?_, isReady.at_.indent, isReady.at_.outer, depth, free⟩
    · exact congrArg (Token.value :: ·) inserted
    · change ready.count + 1 + 1 = _
      simp [count]
  | none =>
    have opened : (ready.openHere .mapStart).allow (!true) = ready.allow false := by
      simp [openHere, flow]
    have allowed : At (deep + 1) (last :: tokens) (':' :: more) (ready.allow false) := { isReady.at_ with }
    have result : ready.readValue =
        .ok ((((ready.allow false).setCandidate none).move ready.cursor.step).push .value) := by
      simp only [readValue, eq, flow, opened, allowed.dropCandidate]
      rfl
    refine ⟨_, result, [], Or.inr rfl, ?_⟩
    exact isReady.at_.next (by rw [← step]; rfl) suffix (Cursor.bound_step _) rfl rfl rfl rfl depth free

open Json (Piece quoted unquoted)

/-- **A quoted text is one token**, which may turn out to be a key where one may stand. -/
theorem leads_quoted {pieces : List Piece} {behind : List Char} (h : At deep tokens (quoted pieces ++ behind) l)
    (unbroken : ∀ p ∈ pieces, Quoted.Unbroken p) :
    Leads l fun l' => At deep (.scalar (unquoted pieces) false :: tokens) behind l' ∧
      (l.keyAllowed = true → KeyBehind l') := by
  have text : quoted pieces ++ behind = '"' :: (pieces.flatMap Piece.text ++ '"' :: behind) := by simp [quoted]
  rw [text] at h
  refine leads_token h ⟨rfl, rfl, by decide⟩ fun ready isReady rest => ?_
  have step := Cursor.rest_step rest
  have separator : ready.cursor.atSeparator = false := atSeparator_of_ne rest (by decide)
  have reads : ready.readToken '"' = ready.readCandidate (readQuoted true) := by simp [readToken, separator]
  obtain ⟨c, saved, free, position⟩ := isReady.at_.saveCandidate
  rw [reads, readCandidate, saved]
  rcases Quoted.body_pieces ready.cursor.bound pieces unbroken [] step with failed | ⟨after, ok, left, bound⟩
  · left
    have read : readQuoted true (ready.setCandidate c).cursor = .error .malformed := by
      simp only [readQuoted, Quoted.read, setCandidate, failed]
      rfl
    simp only [bind, Except.bind, read]
  · right
    have read : readQuoted true (ready.setCandidate c).cursor = .ok (.scalar (unquoted pieces) false, after) := by
      simp only [readQuoted, Quoted.read, setCandidate, ok]
      rfl
    simp only [bind, Except.bind, read]
    refine ⟨_, rfl, isReady.at_.next (by rw [← left]; rfl) ?_ ?_ rfl rfl rfl rfl ?_ ?_, ?_⟩
    · change after.rest <:+ _
      rw [left, rest]
      exact ⟨'"' :: (pieces.flatMap Piece.text ++ ['"']), by simp⟩
    · exact bound.trans (Cursor.bound_step _)
    · change (c :: ready.candidates.tail).length = _
      rw [List.length_cons, isReady.at_.length_tail]
    · exact isReady.at_.free_set free
    · intro allowed k first
      exact congrArg (· + 1) (position (isReady.allows allowed) k (Option.some.inj first))

/-- characters of a word or a number -/
structure Bare (word : List Char) : Prop where
  begins : ∃ x rest, word = x :: rest ∧
    (Text.isAsciiAlnum x = true ∨ x = '-' ∧ ∃ d tail, rest = d :: tail ∧ Text.isAsciiDigit d = true)
  inside : ∀ z ∈ word, Plain.Inside z

/-- a letter or digit starts a plain text and nothing else -/
theorem readToken_letter {x : Char} {tail : List Char} (rest : l.cursor.rest = x :: tail)
    (letter : Text.isAsciiAlnum x = true) : l.readToken x = l.readPlain := by
  have apart : ∀ y, Text.isAsciiAlnum y = false → x ≠ y := by
    rintro _ other rfl
    rw [letter] at other
    cases other
  have separator : l.cursor.atSeparator = false := atSeparator_of_ne rest ⟨apart '.' rfl, apart '-' rfl⟩
  have ends : isBreak x = false := by
    simp [isBreak, apart '\n' rfl, apart '\x85' rfl, apart '\u2028' rfl, apart '\u2029' rfl]
  have starts : Plain.starts l.inFlow l.cursor.rest = true := by
    have mark : "-?:,[]\x7b\x7d#&*!|>'\"%@\x60".toList.contains x = false := not_contains_of_alnum (by decide) letter
    rw [rest]
    simp only [Plain.starts, ends, mark]
    simp [apart ' ' rfl, apart '\t' rfl]
  simp [readToken, separator, starts, apart '%' rfl, apart '[' rfl, apart '\x7b' rfl, apart ']' rfl, apart '\x7d' rfl,
    apart ',' rfl, apart '-' rfl, apart '?' rfl, apart ':' rfl, apart '*' rfl, apart '&' rfl, apart '!' rfl,
    apart '|' rfl, apart '>' rfl, apart '\'' rfl, apart '"' rfl]

/-- a minus before a digit starts a plain text, and no item of a list -/
theorem readToken_minus {d : Char} {tail : List Char} (rest : l.cursor.rest = '-' :: d :: tail)
    (digit : Text.isAsciiDigit d = true) : l.readToken '-' = l.readPlain := by
  have dash : d ≠ '-' := by
    rintro rfl
    cases digit
  have word : endsWord (some d) = false := by
    cases ends : endsWord (some d) with
    | false => rfl
    | true =>
      simp only [endsWord, isBreak, Bool.or_eq_true, beq_iff_eq, or_assoc] at ends
      rcases ends with rfl | rfl | rfl | rfl | rfl | rfl <;> cases digit
  have separator : l.cursor.atSeparator = false :=
    atSeparator_eq_false rest (by decide) fun _ eq => dash (Option.some.inj eq)
  have next : endsWord (l.cursor.ahead? 1) = false := by
    rw [Cursor.ahead?, rest]
    exact word
  have starts : Plain.starts l.inFlow l.cursor.rest = true := by
    rw [rest]
    simp [Plain.starts, word]
  simp [readToken, separator, starts, next]

/-- **A word or number in brackets is one token**, up to the blanks behind it. -/
theorem leads_plain {word behind : List Char} (h : At (deep + 1) tokens (word ++ behind) l) (bare : Bare word)
    (follows : Plain.Follows behind) :
    Leads l fun l' => At (deep + 1) (.scalar (String.ofList word) true :: tokens) behind l' := by
  obtain ⟨⟨x, tail, rfl, first⟩, inside⟩ := bare
  have own := inside x List.mem_cons_self
  rw [List.cons_append] at h
  refine leads_token h ⟨own.space, own.ends, own.comment⟩ fun ready isReady rest => Or.inr ?_
  have reads : ready.readToken x = ready.readPlain := by
    rcases first with letter | ⟨rfl, d, others, rfl, digit⟩
    · exact readToken_letter rest letter
    · exact readToken_minus rest digit
  obtain ⟨c, saved, free, -⟩ := isReady.at_.saveCandidate
  obtain ⟨word, left, suffix, bound⟩ :=
    Plain.read_word (ready.indent + 1) (rest.trans (List.cons_append).symm) (List.cons_ne_nil x tail) inside follows
  have same : (ready.setCandidate c).inFlow = true := by
    have depth := isReady.at_.depth
    have tail := isReady.at_.length_tail
    simp [Layout.inFlow, Layout.depth, setCandidate, tail]
  rw [reads, readPlain, saved]
  simp only [bind, Except.bind, same]
  refine ⟨_, rfl, isReady.at_.next left suffix bound ?_ rfl rfl rfl ?_ ?_⟩
  · exact congrArg (fun word => Token.scalar (String.ofList word) true :: ready.tokens) word
  · change (c :: ready.candidates.tail).length = _
    rw [List.length_cons, isReady.at_.length_tail]
  · exact isReady.at_.free_set free

end Step

end Layout

end ApiTypes.Yaml
