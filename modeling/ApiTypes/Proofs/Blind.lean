/-
Readings are blind to lines.

The lines that lexemes stand on only get into complaints. So two runs of a reading on the same tokens at the same depths
go through with one answer or halt both, wherever the tokens stand. `Twins` relates two readings that do, which may differ
in the lines that they carry along; a reading is `Blind` when it is its own twin. Twins are put together by binds, choices
and loops, so that inference finds them along a reading; cases are written out where a reading matches on what it found.

All tokens that are left are of one kind `P` besides, which every reading keeps because it takes lexemes from the front.

Main statements: `twins_iterate`, loops of twins are twins; `Twins.leadsTo`, so are readings that only look ahead.
-/
import ApiTypes.Source.Module
import Mathlib.Tactic.SplitIfs

namespace ApiTypes.Source

open Parse

/-! ## Two runs -/

/-- a lexeme without its line -/
def Lexeme.unplaced (l : Lexeme) : Token × Nat := (l.token, l.depth)

/-- the same is left but for the lines, and all tokens of it are of this kind -/
structure Ahead.Alike (P : Token → Prop) (a b : Ahead) : Prop where
  rest : a.rest.map Lexeme.unplaced = b.rest.map Lexeme.unplaced
  depth : a.depth = b.depth
  bound : a.bound = b.bound
  kind : ∀ l ∈ a.rest, P l.token

/-- one answer with the same left behind it, or both halt; what halts for want of lexemes does so in both -/
inductive Agree {α : Type} (P : Token → Prop) :
    Except Halt (α × Ahead) → Except Halt (α × Ahead) → Prop
  | answer {x a b} : a.Alike P b → Agree P (.ok (x, a)) (.ok (x, b))
  | ended : Agree P (.error .ended) (.error .ended)
  | halted {h h'} : h ≠ .ended → h' ≠ .ended → Agree P (.error h) (.error h')

/-- the readings agree wherever the same is left but for the lines -/
class Twins {α : Type} (P : Token → Prop) (p q : Parse α) : Prop where
  agree : ∀ {a b : Ahead}, a.Alike P b → Agree P (p a) (q b)

/-- the reading does not see lines -/
abbrev Blind {α : Type} (P : Token → Prop) (p : Parse α) : Prop := Twins P p p

variable {P : Token → Prop} {α β : Type}

theorem Ahead.Alike.cases {a b : Ahead} (h : a.Alike P b) :
    (a.rest = [] ∧ b.rest = []) ∨
      ∃ l rest l' rest', a.rest = l :: rest ∧ b.rest = l' :: rest' ∧ l.unplaced = l'.unplaced ∧
        rest.map Lexeme.unplaced = rest'.map Lexeme.unplaced ∧ P l.token ∧ ∀ m ∈ rest, P m.token := by
  obtain ⟨eq, -, -, kind⟩ := h
  cases first : a.rest with
  | nil =>
    rw [first] at eq
    exact .inl ⟨rfl, List.map_eq_nil_iff.1 eq.symm⟩
  | cons l rest =>
    rw [first] at eq kind
    obtain ⟨l', rest', second, same, others⟩ := List.map_eq_cons_iff.1 eq.symm
    obtain ⟨own, later⟩ := List.forall_mem_cons.1 kind
    exact .inr ⟨l, rest, l', rest', rfl, second, same.symm, others.symm, own, later⟩

/-! ## Binds and choices -/

theorem bind_apply (p : Parse α) (f : α → Parse β) (a : Ahead) :
    (p >>= f) a = match p a with
      | .ok (x, b) => f x b
      | .error halt => .error halt := by
  have unfolded : (p >>= f) a = p a >>= fun r => f r.1 r.2 := rfl
  rw [unfolded]
  cases p a <;> rfl

theorem Twins.bind {p q : Parse α} {f g : α → Parse β} (h : Twins P p q) (h' : ∀ x, Twins P (f x) (g x)) :
    Twins P (p >>= f) (q >>= g) where
  agree := by
    intro a b alike
    rw [bind_apply, bind_apply]
    have first := h.agree alike
    revert first
    generalize p a = r, q b = r'
    intro first
    cases first with
    | @answer x _ _ alike => exact (h' x).agree alike
    | ended => exact .ended
    | halted other other' => exact .halted other other'

instance twins_bind {p q : Parse α} {f g : α → Parse β} [h : Twins P p q] [h' : ∀ x, Twins P (f x) (g x)] :
    Twins P (p >>= f) (q >>= g) := h.bind h'

instance twins_pure (x : α) : Blind P (pure x : Parse α) := ⟨.answer⟩

theorem Twins.ite {c : Prop} [Decidable c] {p q p' q' : Parse α} (h : Twins P p q) (h' : Twins P p' q') :
    Twins P (if c then p else p') (if c then q else q') := by
  split_ifs
  · exact h
  · exact h'

instance twins_ite {c : Prop} [Decidable c] {p q p' q' : Parse α} [h : Twins P p q] [h' : Twins P p' q'] :
    Twins P (if c then p else p') (if c then q else q') := h.ite h'

theorem Twins.whether {p q : Parse Bool} {yes no yes' no' : Parse β} (h : Twins P p q) (first : Twins P yes yes')
    (second : Twins P no no') :
    Twins P (p >>= fun b => if b = true then yes else no) (q >>= fun b => if b = true then yes' else no') :=
  h.bind fun _ => inferInstance

instance twins_map {p q : Parse α} (f : α → β) [h : Twins P p q] : Twins P (f <$> p) (f <$> q) := by
  rw [← bind_pure_comp, ← bind_pure_comp]
  infer_instance

instance twins_discard {p q : Parse α} [Twins P p q] : Twins P (discard p) (discard q) := twins_map _

/-! ## Single lexemes -/

theorem Twins.peek {f g : Lexeme → Parse β}
    (h : ∀ l l' : Lexeme, l.token = l'.token → P l.token → Twins P (f l) (g l')) :
    Twins P (peek >>= f) (peek >>= g) where
  agree := by
    intro a b alike
    rw [bind_apply, bind_apply]
    rcases alike.cases with ⟨first, second⟩ | ⟨l, rest, l', rest', first, second, same, -, kind, -⟩
    · simp only [Parse.peek, first, second]
      exact .ended
    · simp only [Parse.peek, first, second]
      exact (h l l' (congrArg Prod.fst same) kind).agree alike

/-- the token that comes next is of the kind of those that are left -/
theorem Twins.token {f g : Token → Parse β} (h : ∀ t, P t → Twins P (f t) (g t)) :
    Twins P (token >>= f) (token >>= g) := by
  rw [Parse.token, bind_assoc, bind_assoc]
  refine Twins.peek fun l l' same kind => ?_
  rw [pure_bind, pure_bind, ← same]
  exact h l.token kind

instance twins_token : Blind P token := by
  rw [← bind_pure token]
  exact Twins.token fun t _ => twins_pure t

/-- a line is carried along -/
theorem Twins.line {f g : Nat → Parse β} (h : ∀ m n, Twins P (f m) (g n)) : Twins P (line >>= f) (line >>= g) := by
  rw [Parse.line, bind_assoc, bind_assoc]
  refine Twins.peek fun l l' _ _ => ?_
  rw [pure_bind, pure_bind]
  exact h l.line l'.line

instance (priority := 2000) twins_line {f g : Nat → Parse β} [h : ∀ m n, Twins P (f m) (g n)] :
    Twins P (line >>= f) (line >>= g) := Twins.line h

instance twins_advance : Blind P advance where
  agree := by
    intro a b alike
    rcases alike.cases with ⟨first, second⟩ | ⟨l, rest, l', rest', first, second, same, others, -, later⟩
    · simp only [advance, first, second]
      exact .ended
    · simp only [advance, first, second]
      exact .answer ⟨others, congrArg Prod.snd same, alike.bound, later⟩

instance twins_refuse : Blind P (refuse : Parse α) :=
  Twins.peek fun _ _ _ _ => ⟨fun _ => .halted nofun nofun⟩

/-- complaints are not told apart -/
instance twins_complain (c c' : Complaint) (m n : Nat) : Twins P (complain c m : Parse α) (complain c' n) :=
  ⟨fun _ => .halted nofun nofun⟩

instance twins_second? : Blind P second? where
  agree := by
    intro a b alike
    have same : (a.rest.drop 1).head?.map (·.token) = (b.rest.drop 1).head?.map (·.token) := by
      have both := congrArg (fun l : List (Token × Nat) => (l.drop 1).head?.map Prod.fst) alike.rest
      simpa [← List.map_drop, Function.comp_def, Lexeme.unplaced] using both
    rw [second?, second?, same]
    exact .answer alike

instance twins_depth : Blind P depth where
  agree := by
    intro a b alike
    rw [depth, depth, alike.depth]
    exact .answer alike

instance twins_isToken (t : Token) : Blind P (isToken t) := by
  unfold isToken
  infer_instance

instance twins_isMark (text : String) : Blind P (isMark text) := twins_isToken _

instance twins_isWord (text : String) : Blind P (isWord text) := twins_isToken _

instance twins_takes (t : Token) : Blind P (takes t) := by
  unfold takes
  infer_instance

instance twins_takesMark (text : String) : Blind P (takesMark text) := twins_takes _

instance twins_takesWord (text : String) : Blind P (takesWord text) := twins_takes _

instance twins_need (t : Token) : Blind P (need t) := by
  unfold need
  infer_instance

instance twins_needMark (text : String) : Blind P (needMark text) := twins_need _

instance twins_needWord (text : String) : Blind P (needWord text) := twins_need _

instance twins_needName : Blind P needName := by
  unfold needName
  refine twins_token.bind fun t => ?_
  cases t <;> infer_instance

instance twins_demandMark (text : String) : Blind P (demandMark text) := by
  unfold demandMark
  infer_instance

/-! ## Loops -/

section

variable {step step' : α → Parse (α ⊕ β)}

/-- by induction on the fuel -/
theorem twins_iterateUpTo (h : ∀ x, Twins P (step x) (step' x)) (fuel : Nat) (x : α) :
    Twins P (iterateUpTo step fuel x) (iterateUpTo step' fuel x) := by
  induction fuel generalizing x with
  | zero => exact twins_refuse
  | succ fuel ih =>
    rw [iterateUpTo, iterateUpTo]
    refine (h x).bind fun found => ?_
    cases found with
    | inl next => exact ih next
    | inr answer => exact twins_pure answer

instance twins_iterate [h : ∀ x, Twins P (step x) (step' x)] (x : α) :
    Twins P (iterate step x) (iterate step' x) where
  agree := by
    intro a b alike
    rw [iterate, iterate, alike.bound]
    exact (twins_iterateUpTo h _ x).agree alike

end

instance twins_many {p q : Parse (Option α)} [h : Twins P p q] : Twins P (many p) (many q) := by
  unfold many
  refine @twins_iterate _ _ _ _ _ (fun found => h.bind fun next => ?_) []
  cases next <;> infer_instance

instance twins_memberNames : Blind P memberNames := by
  unfold memberNames
  infer_instance

/-! ## Looking ahead -/

/-- after a halt both go on where they stood -/
instance twins_attempt {p q : Parse α} [h : Twins P p q] : Twins P (attempt p) (attempt q) where
  agree := by
    intro a b alike
    have first := h.agree alike
    unfold attempt
    revert first
    generalize p a = r, q b = r'
    intro first
    cases first with
    | answer alike' => exact .answer alike'
    | ended => exact .ended
    | @halted h h' other other' =>
      cases h with
      | ended => exact absurd rfl other
      | _ =>
        cases h' with
        | ended => exact absurd rfl other'
        | _ => exact .answer alike

/-- whatever is read, the lexemes are kept -/
theorem leadsTo_apply (p : Parse α) (holds : Parse Bool) (a : Ahead) :
    leadsTo p holds a = match (attempt p >>= fun found => if found.isSome then holds else pure false) a with
      | .ok (found, _) => .ok (found, a)
      | .error halt => .error halt := by
  have start : (get : Parse Ahead) a = .ok (a, a) := rfl
  rw [leadsTo, bind_apply, start, bind_apply]
  dsimp only
  rw [bind_apply]
  cases attempt p a with
  | error halt => rfl
  | ok r =>
    obtain ⟨found, b⟩ := r
    cases found with
    | none => rfl
    | some x =>
      dsimp only [Option.isSome_some]
      rw [if_pos rfl, if_pos rfl, bind_apply]
      cases holds b <;> rfl

instance Twins.leadsTo {p q : Parse α} {holds holds' : Parse Bool} [h : Twins P p q] [h' : Twins P holds holds'] :
    Twins P (leadsTo p holds) (leadsTo q holds') where
  agree := by
    intro a b alike
    have looked : Twins P (attempt p >>= fun found => if found.isSome then holds else pure false)
        (attempt q >>= fun found => if found.isSome then holds' else pure false) := inferInstance
    have both := looked.agree alike
    rw [leadsTo_apply, leadsTo_apply]
    revert both
    generalize (attempt p >>= fun found => if found.isSome then holds else pure false) a = r,
      (attempt q >>= fun found => if found.isSome then holds' else pure false) b = r'
    intro both
    cases both with
    | answer => exact .answer alike
    | ended => exact .ended
    | halted other other' => exact .halted other other'

end ApiTypes.Source
