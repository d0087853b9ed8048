/-
Parsing along tokens.

`Reads` says what a reading answers on certain tokens with others behind them. Which lines and brackets the tokens stand
on only matters to complaints, so that a reading that goes through is told by the tokens alone.

Main statements: `reads_iterate`, a loop goes through when its steps do, each of which takes a token at least.
-/
import Mathlib.Tactic.SplitIfs
import ApiTypes.Source.Module

namespace ApiTypes.Source

open Parse

/-! ## Tokens ahead -/

/-- these tokens are left, no more than the bound allows -/
structure Stands (a : Ahead) (ahead : List Token) : Prop where
  tokens : a.rest.map Lexeme.token = ahead
  bounded : ahead.length ≤ a.bound

/-- on the tokens `taken` with `after` behind them, the reading takes the former and answers `x` -/
def Reads {α : Type} (p : Parse α) (taken after : List Token) (x : α) : Prop :=
  ∀ a, Stands a (taken ++ after) → ∃ a', p a = .ok (x, a') ∧ Stands a' after

/-- on the tokens `taken` with `after` behind them, the reading takes the former and goes on as another does -/
def Reaches {α : Type} (p : Parse α) (taken after : List Token) (q : Parse α) : Prop :=
  ∀ a, Stands a (taken ++ after) → ∃ b, p a = q b ∧ Stands b after

/-- on these tokens the reading halts at a lexeme -/
def Halts {α : Type} (p : Parse α) (tokens : List Token) : Prop :=
  ∀ a, Stands a tokens → ∃ halt, p a = .error halt ∧ halt ≠ .ended

theorem Stands.cons {a : Ahead} {t : Token} {tokens : List Token} (h : Stands a (t :: tokens)) :
    ∃ l rest, a.rest = l :: rest ∧ l.token = t ∧ rest.map Lexeme.token = tokens := by
  obtain ⟨l, rest, eq, token, others⟩ := List.map_eq_cons_iff.1 h.tokens
  exact ⟨l, rest, eq, token, others⟩

section Steps

variable {α β : Type} {p : Parse α} {f : α → Parse β} {taken more after tokens : List Token} {t u : Token} {x : α} {y : β}

theorem bind_ok {a b : Ahead} (h : p a = .ok (x, b)) : (p >>= f) a = f x b := by
  have unfolded : (p >>= f) a = p a >>= fun r => f r.1 r.2 := rfl
  rw [unfolded, h]
  rfl

theorem bind_error {a : Ahead} {halt : Halt} (h : p a = .error halt) : (p >>= f) a = .error halt := by
  have unfolded : (p >>= f) a = p a >>= fun r => f r.1 r.2 := rfl
  rw [unfolded, h]
  rfl

theorem reads_pure (x : α) (after : List Token) : Reads (pure x) [] after x :=
  fun a h => ⟨a, rfl, h⟩

theorem Reads.bind (h : Reads p taken (more ++ after) x) (h' : Reads (f x) more after y) :
    Reads (p >>= f) (taken ++ more) after y := by
  intro a stands
  rw [List.append_assoc] at stands
  obtain ⟨b, eq, stands'⟩ := h a stands
  obtain ⟨c, eq', stands''⟩ := h' b stands'
  exact ⟨c, (bind_ok eq).trans eq', stands''⟩

/-- a reading that takes nothing, and then another -/
theorem Reads.look (h : Reads p [] (taken ++ after) x) (h' : Reads (f x) taken after y) :
    Reads (p >>= f) taken after y :=
  Reads.bind h h'

/-- a reading that takes one token, and then another -/
theorem Reads.take (h : Reads p [t] (taken ++ after) x) (h' : Reads (f x) taken after y) :
    Reads (p >>= f) (t :: taken) after y :=
  Reads.bind h h'

/-- a reading that takes everything, whose answer is put into something -/
theorem Reads.last (h : Reads p taken after x) (h' : Reads (f x) [] after y) : Reads (p >>= f) taken after y := by
  have both : Reads (p >>= f) (taken ++ []) after y := Reads.bind h h'
  rwa [List.append_nil] at both

/-- the branch that is taken where something does not come next -/
theorem Reads.otherwise {p : Parse Bool} {q r : Parse β} (h : Reads p [] (taken ++ after) false)
    (h' : Reads q taken after y) : Reads (p >>= fun b => if b = true then r else q) taken after y :=
  h.look h'

/-- the branch that is taken where it does -/
theorem Reads.whenever {p : Parse Bool} {q r : Parse β} (h : Reads p [t] (taken ++ after) true)
    (h' : Reads r taken after y) : Reads (p >>= fun b => if b = true then r else q) (t :: taken) after y :=
  h.take h'

theorem Reads.map (h : Reads p taken after x) (g : α → β) : Reads (g <$> p) taken after (g x) := by
  rw [← bind_pure_comp]
  exact h.last (reads_pure _ _)

theorem Reads.discard (h : Reads p taken after x) : Reads (Functor.discard p) taken after ⟨⟩ :=
  h.map fun _ => PUnit.unit

theorem Halts.bind (h : Halts p tokens) (f : α → Parse β) : Halts (p >>= f) tokens := by
  intro a stands
  obtain ⟨halt, eq, other⟩ := h a stands
  exact ⟨halt, bind_error eq, other⟩

/-- the second of two readings halts -/
theorem Reads.halts (h : Reads p taken more x) (h' : Halts (f x) more) : Halts (p >>= f) (taken ++ more) := by
  intro a stands
  obtain ⟨b, eq, stands'⟩ := h a stands
  obtain ⟨halt, eq', other⟩ := h' b stands'
  exact ⟨halt, (bind_ok eq).trans eq', other⟩

variable {q : Parse β}

theorem reaches_refl (p : Parse α) (after : List Token) : Reaches p [] after p :=
  fun a stands => ⟨a, rfl, stands⟩

theorem Reads.reaches (h : Reads p taken (more ++ after) x) (h' : Reaches (f x) more after q) :
    Reaches (p >>= f) (taken ++ more) after q := by
  intro a stands
  rw [List.append_assoc] at stands
  obtain ⟨b, eq, stands'⟩ := h a stands
  obtain ⟨c, eq', stands''⟩ := h' b stands'
  exact ⟨c, (bind_ok eq).trans eq', stands''⟩

theorem Reads.reaches_look (h : Reads p [] (more ++ after) x) (h' : Reaches (f x) more after q) :
    Reaches (p >>= f) more after q :=
  Reads.reaches h h'

theorem Reads.reaches_take (h : Reads p [t] (more ++ after) x) (h' : Reaches (f x) more after q) :
    Reaches (p >>= f) (t :: more) after q :=
  Reads.reaches h h'

theorem Reaches.reads {p : Parse β} (h : Reaches p taken (more ++ after) q) (h' : Reads q more after y) :
    Reads p (taken ++ more) after y := by
  intro a stands
  rw [List.append_assoc] at stands
  obtain ⟨b, eq, stands'⟩ := h a stands
  rw [eq]
  exact h' b stands'

theorem Reaches.halts {p : Parse β} (h : Reaches p taken more q) (h' : Halts q more) : Halts p (taken ++ more) := by
  intro a stands
  obtain ⟨b, eq, stands'⟩ := h a stands
  rw [eq]
  exact h' b stands'

/-! ## Single tokens -/

theorem peek_eq {a : Ahead} {l : Lexeme} {rest : List Lexeme} (h : a.rest = l :: rest) : Parse.peek a = .ok (l, a) := by
  rw [Parse.peek, h]

theorem reads_token (t : Token) (after : List Token) : Reads token [] (t :: after) t := by
  intro a stands
  obtain ⟨l, rest, eq, rfl, -⟩ := stands.cons
  exact ⟨a, bind_ok (peek_eq eq), stands⟩

theorem reads_isToken (t u : Token) (after : List Token) : Reads (isToken t) [] (u :: after) (u == t) :=
  (reads_token u after).look (reads_pure _ _)

theorem reads_second? (t : Token) (after : List Token) : Reads second? [] (t :: after) after.head? := by
  intro a stands
  refine ⟨a, ?_, stands⟩
  obtain ⟨l, rest, eq, -, others⟩ := stands.cons
  rw [second?, eq, List.drop_one, List.tail_cons, ← List.head?_map, others]

theorem reads_advance (t : Token) (after : List Token) : Reads advance [t] after () := by
  intro a stands
  obtain ⟨l, rest, eq, -, others⟩ := stands.cons
  refine ⟨{ a with rest, depth := l.depth }, ?_, others, ?_⟩
  · rw [advance, eq]
  · have bounded := stands.bounded
    simp only [List.cons_append, List.nil_append, List.length_cons] at bounded
    exact Nat.le_of_succ_le bounded

theorem halts_refuse (t : Token) (after : List Token) : Halts (refuse : Parse α) (t :: after) := by
  intro a stands
  obtain ⟨l, rest, eq, -, -⟩ := stands.cons
  exact ⟨.unfit l, bind_ok (peek_eq eq), by simp⟩

theorem reads_takes (t : Token) (after : List Token) : Reads (takes t) [t] after true := by
  refine (reads_isToken t t after).look ?_
  rw [beq_self_eq_true]
  exact (reads_advance t after).last (reads_pure _ _)

theorem reads_takes_other (ne : u ≠ t) (after : List Token) : Reads (takes t) [] (u :: after) false := by
  refine (reads_isToken t u after).look ?_
  rw [beq_eq_false_iff_ne.2 ne]
  exact reads_pure _ _

theorem reads_need (t : Token) (after : List Token) : Reads (need t) [t] after () :=
  (reads_takes t after).last (reads_pure _ _)

theorem reads_needName {name : String} (h : Module.isReserved name = false) (after : List Token) :
    Reads needName [.name name] after name := by
  refine (reads_token (.name name) after).look ?_
  dsimp only
  rw [h]
  exact (reads_advance (.name name) after).last (reads_pure _ _)

theorem Reads.line {f : Nat → Parse β} (ne : taken ++ after ≠ []) (h : ∀ n, Reads (f n) taken after y) :
    Reads (line >>= f) taken after y := by
  intro a stands
  obtain ⟨t, tokens, eq⟩ := List.exists_cons_of_ne_nil ne
  rw [eq] at stands
  obtain ⟨l, rest, eq', -, -⟩ := stands.cons
  rw [← eq] at stands
  obtain ⟨b, read, stands'⟩ := h l.line a stands
  refine ⟨b, ?_, stands'⟩
  have number : Parse.line a = .ok (l.line, a) := bind_ok (peek_eq eq')
  exact (bind_ok number).trans read

theorem Reads.peek {f : Lexeme → Parse β} (eq : taken ++ after = t :: tokens)
    (h : ∀ l : Lexeme, l.token = t → Reads (f l) taken after y) : Reads (peek >>= f) taken after y := by
  intro a stands
  rw [eq] at stands
  obtain ⟨l, rest, eq', token, -⟩ := stands.cons
  rw [← eq] at stands
  obtain ⟨b, read, stands'⟩ := h l token a stands
  exact ⟨b, (bind_ok (peek_eq eq')).trans read, stands'⟩

theorem Halts.peek {f : Lexeme → Parse β} (h : ∀ l, Halts (f l) (t :: tokens)) : Halts (peek >>= f) (t :: tokens) := by
  intro a stands
  obtain ⟨l, rest, eq, -, -⟩ := stands.cons
  obtain ⟨halt, eq', other⟩ := h l a stands
  exact ⟨halt, (bind_ok (peek_eq eq)).trans eq', other⟩

theorem Halts.line {f : Nat → Parse β} (h : ∀ n, Halts (f n) (t :: tokens)) : Halts (line >>= f) (t :: tokens) := by
  intro a stands
  obtain ⟨l, rest, eq, -, -⟩ := stands.cons
  obtain ⟨halt, eq', other⟩ := h l.line a stands
  have number : Parse.line a = .ok (l.line, a) := bind_ok (peek_eq eq)
  exact ⟨halt, (bind_ok number).trans eq', other⟩

end Steps

/-! ## Loops -/

section Loops

variable {α β : Type} {p : Parse α} {step : α → Parse (α ⊕ β)} {taken more after tokens : List Token} {t : Token}

/-- the steps of a loop, each of which takes a token at least, but for the last -/
inductive Steps (step : α → Parse (α ⊕ β)) (after : List Token) : α → List Token → β → Prop
  | done {x taken y} : Reads (step x) taken after (.inr y) → Steps step after x taken y
  | next {x t taken more x' y} : Reads (step x) (t :: taken) (more ++ after) (.inl x') → Steps step after x' more y →
    Steps step after x (t :: taken ++ more) y

/-- a step that takes everything, and the end -/
theorem Steps.once {x x' : α} {y : β} (h : Reads (step x) (t :: taken) after (.inl x'))
    (h' : Reads (step x') [] after (.inr y)) : Steps step after x (t :: taken) y := by
  have steps : Steps step after x (t :: taken ++ []) y := .next h (.done h')
  rwa [List.append_nil] at steps

theorem reads_iterateUpTo {x : α} {y : β} (h : Steps step after x taken y) (fuel : Nat) (enough : taken.length < fuel) :
    Reads (iterateUpTo step fuel x) taken after y := by
  induction h generalizing fuel with
  | done read =>
    obtain ⟨fuel, rfl⟩ : ∃ n, fuel = n + 1 := ⟨fuel - 1, by omega⟩
    rw [iterateUpTo]
    exact read.last (reads_pure _ _)
  | next read _ ih =>
    obtain ⟨fuel, rfl⟩ : ∃ n, fuel = n + 1 := ⟨fuel - 1, by omega⟩
    rw [iterateUpTo]
    refine read.bind (ih fuel ?_)
    simp only [List.cons_append, List.length_cons, List.length_append] at enough
    omega

/-- a loop goes through when its steps do -/
theorem reads_iterate {x : α} {y : β} (h : Steps step after x taken y) : Reads (iterate step x) taken after y := by
  intro a stands
  refine reads_iterateUpTo h (a.bound + 1) ?_ a stands
  have bounded := stands.bounded
  rw [List.length_append] at bounded
  omega

/-- readings until one finds nothing -/
inductive Finds (p : Parse (Option α)) (after : List Token) : List Token → List α → Prop
  | none : Reads p [] after none → Finds p after [] []
  | some {t taken more x xs} : Reads p (t :: taken) (more ++ after) (some x) → Finds p after more xs →
    Finds p after (t :: taken ++ more) (x :: xs)

/-- a loop of readings goes on with what is found and ends where nothing is -/
theorem many_eq (p : Parse (Option α)) : ∃ step : List α → Parse (List α ⊕ List α), many p = iterate step [] ∧
    (∀ before after, Reads p [] after none → Reads (step before) [] after (.inr before)) ∧
    (∀ before taken after x, Reads p taken after (some x) → Reads (step before) taken after (.inl (before ++ [x]))) := by
  refine ⟨_, rfl, ?_, ?_⟩
  · intro before after h
    exact h.look (reads_pure _ _)
  · intro before taken after x h
    exact h.last (reads_pure _ _)

theorem reads_many {p : Parse (Option α)} {found : List α} (h : Finds p after taken found) :
    Reads (many p) taken after found := by
  obtain ⟨step, eq, ends, goes⟩ := many_eq p
  have steps : ∀ before : List α, Steps step after before taken (before ++ found) := by
    induction h with
    | none read =>
      intro before
      rw [List.append_nil]
      exact .done (ends before _ read)
    | @some t taken more x xs read _ ih =>
      intro before
      have rest := ih (before ++ [x])
      rw [List.append_assoc] at rest
      exact .next (goes before _ _ x read) rest
  rw [eq]
  exact reads_iterate (steps [])

theorem reads_many_none {p : Parse (Option α)} (h : Reads p [] after none) : Reads (many p) [] after [] :=
  reads_many (.none h)

theorem reads_many_one {p : Parse (Option α)} {x : α} (h : Reads p [t] after (some x)) (h' : Reads p [] after none) :
    Reads (many p) [t] after [x] := by
  have found : Finds p after ([t] ++ []) [x] := .some h (.none h')
  exact reads_many found

/-! ## Looking ahead -/

theorem Reads.attempt {x : α} (h : Reads p taken after x) : Reads (attempt p) taken after (some x) := by
  intro a stands
  obtain ⟨b, eq, stands'⟩ := h a stands
  exact ⟨b, attempt_ok eq, stands'⟩

theorem Halts.attempt (h : Halts p after) : Reads (attempt p) [] after none := by
  intro a stands
  obtain ⟨halt, eq, other⟩ := h a stands
  refine ⟨a, ?_, stands⟩
  rw [Parse.attempt, eq]
  cases halt with
  | ended => exact absurd rfl other
  | unfit l => rfl
  | complaint fault reached => rfl

theorem leadsTo_some {p : Parse α} {holds : Parse Bool} {a b c : Ahead} {x : α} {found : Bool}
    (h : attempt p a = .ok (some x, b)) (h' : holds b = .ok (found, c)) : leadsTo p holds a = .ok (found, a) := by
  have start : (get : Parse Ahead) a = .ok (a, a) := rfl
  rw [leadsTo, bind_ok start, bind_ok h]
  exact (bind_ok h').trans rfl

theorem leadsTo_none {p : Parse α} (holds : Parse Bool) {a b : Ahead} (h : attempt p a = .ok (none, b)) :
    leadsTo p holds a = .ok (false, a) := by
  have start : (get : Parse Ahead) a = .ok (a, a) := rfl
  rw [leadsTo, bind_ok start, bind_ok h]
  rfl

/-- what is only looked at is not taken -/
theorem reads_leadsTo {p : Parse α} {holds : Parse Bool} {x : α} {found : Bool} (h : Reads p taken after x)
    (h' : Reads holds [] after found) : Reads (leadsTo p holds) [] (taken ++ after) found := by
  intro a stands
  obtain ⟨b, eq, stands'⟩ := h.attempt a stands
  obtain ⟨c, eq', -⟩ := h' b stands'
  exact ⟨a, leadsTo_some eq eq', stands⟩

theorem reads_leadsTo_halts {p : Parse α} (h : Halts p after) (holds : Parse Bool) :
    Reads (leadsTo p holds) [] after false := by
  intro a stands
  obtain ⟨b, eq, -⟩ := h.attempt a stands
  exact ⟨a, leadsTo_none holds eq, stands⟩

end Loops

end ApiTypes.Source
