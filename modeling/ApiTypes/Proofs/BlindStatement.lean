/-
Statements are read without regard to lines.

So a text is read by its tokens alone: two texts with the same tokens are read as the same statements, or neither is read.
And a text is not read when lexing stops before its end.

Main statements: `twins_module`, a whole text is read without regard to lines; `toOption_read_eq`, texts with the same
tokens; `toOption_read_eq_none`, a text that lexing does not come through.
-/
import ApiTypes.Proofs.BlindExpression
import ApiTypes.Proofs.Placed

namespace ApiTypes.Source

open Parse

-- a long reading has more parts than inference puts together by default
set_option synthInstance.maxSize 4000

variable {P : Token → Prop}

/-! ## Assignments -/

instance twins_value : Blind P value := by
  unfold value
  infer_instance

instance twins_complainTarget {α : Type} (first : Bool) (target bad : Expr) (m n : Nat) :
    Twins P (complainTarget first target bad m : Parse α) (complainTarget first target bad n) := by
  unfold complainTarget
  dsimp only
  refine .ite ?_ inferInstance
  split <;> infer_instance

instance twins_assignment (target : Expr) (m n : Nat) : Twins P (assignment target m) (assignment target n) := by
  unfold assignment
  refine Twins.bind (@twins_iterate _ _ _ _ _ (fun found => ?_) _) fun found => inferInstance
  obtain ⟨before, e⟩ := found
  refine Twins.bind inferInstance fun equals => .ite inferInstance ?_
  dsimp only
  cases e.badTarget? .assignment with
  | none => split <;> infer_instance
  | some bad => split <;> infer_instance

instance twins_annotated (target : Expr) (m n : Nat) : Twins P (annotated target m) (annotated target n) := by
  unfold annotated
  dsimp only
  split <;> infer_instance

instance twins_expressionStatement : Blind P expressionStatement := by
  unfold expressionStatement
  refine Twins.line fun m n => twins_value.bind fun e => twins_token.bind fun t => ?_
  split <;> infer_instance

/-! ## Imports -/

instance twins_dottedName : Blind P dottedName := by
  unfold dottedName
  infer_instance

instance twins_otherName : Blind P otherName := by
  unfold otherName
  infer_instance

instance twins_importedName : Blind P importedName := by
  unfold importedName
  infer_instance

instance twins_importStatement : Blind P importStatement := by
  unfold importStatement
  infer_instance

instance twins_dots : Blind P dots := by
  unfold dots
  infer_instance

instance twins_importedNames : Blind P importedNames := by
  unfold importedNames
  infer_instance

instance twins_importFrom : Blind P importFrom := by
  unfold importFrom
  infer_instance

/-! ## Simple statements -/

instance twins_deletion : Blind P deletion := by
  unfold deletion
  refine twins_advance.bind fun _ => Twins.line fun m n => Twins.bind inferInstance fun targets => ?_
  cases targets.badTarget? .deletion <;> infer_instance

instance twins_atEnd : Blind P atEnd := by
  unfold atEnd
  infer_instance

instance twins_raising : Blind P raising := by
  unfold raising
  infer_instance

instance twins_outerNames : Blind P outerNames := by
  unfold outerNames
  infer_instance

instance twins_assertion : Blind P assertion := by
  unfold assertion
  infer_instance

instance twins_simpleStatement : Blind P simpleStatement := by
  unfold simpleStatement
  refine twins_token.bind fun t => ?_
  split <;> infer_instance

instance twins_simpleStatements : Blind P simpleStatements := by
  unfold simpleStatements
  infer_instance

/-! ## Blocks -/

instance twins_headColon : Blind P headColon := by
  unfold headColon
  infer_instance

instance twins_subject : Blind P subject := by
  unfold subject
  refine Twins.bind inferInstance fun e => ?_
  cases e <;> infer_instance

instance twins_withItem : Blind P withItem := by
  unfold withItem
  refine Twins.bind inferInstance fun _ => .whether inferInstance (Twins.line fun m n => ?_) inferInstance
  refine Twins.bind inferInstance fun target => ?_
  cases target.badTarget? .assignment <;> infer_instance

instance twins_withItems : Blind P withItems := by
  unfold withItems
  infer_instance

instance twins_resultType : Blind P resultType := by
  unfold resultType
  infer_instance

section

variable {inner : Parse (List Statement)} [Blind P inner]

instance twins_block (after : String) (m n : Nat) : Twins P (block inner after m) (block inner after n) := by
  unfold block
  infer_instance

instance twins_conditional (after : String) : Blind P (conditional inner after) := by
  unfold conditional
  infer_instance

instance twins_lastPart (word : String) : Blind P (lastPart inner word) := by
  unfold lastPart
  infer_instance

instance twins_ifStatement : Blind P (ifStatement inner) := by
  unfold ifStatement
  infer_instance

instance twins_whileStatement : Blind P (whileStatement inner) := by
  unfold whileStatement
  infer_instance

instance twins_forStatement : Blind P (forStatement inner) := by
  unfold forStatement
  infer_instance

instance twins_withStatement : Blind P (withStatement inner) := by
  unfold withStatement
  infer_instance

instance twins_exceptPart : Blind P (exceptPart inner) := by
  unfold exceptPart
  infer_instance

instance twins_tryStatement : Blind P (tryStatement inner) := by
  unfold tryStatement
  infer_instance

instance twins_classStatement : Blind P (classStatement inner) := by
  unfold classStatement
  infer_instance

instance twins_functionStatement : Blind P (functionStatement inner) := by
  unfold functionStatement
  infer_instance

instance twins_casePart : Blind P (casePart inner) := by
  unfold casePart
  infer_instance

instance twins_cases (m n : Nat) : Twins P (cases inner m) (cases inner n) := by
  unfold cases
  infer_instance

instance twins_matchStatement? : Blind P (matchStatement? inner) := by
  unfold matchStatement?
  dsimp only
  infer_instance

instance twins_asyncStatement : Blind P (asyncStatement inner) := by
  unfold asyncStatement
  refine twins_advance.bind fun _ => twins_token.bind fun t => ?_
  split <;> infer_instance

instance twins_decorated : Blind P (decorated inner) := by
  unfold decorated
  refine Twins.bind inferInstance fun _ => twins_token.bind fun t => twins_second?.bind fun second => ?_
  split <;> infer_instance

instance twins_blockStatement? : Blind P (blockStatement? inner) := by
  unfold blockStatement?
  refine twins_token.bind fun t => ?_
  split <;> infer_instance

end

/-- by induction on the depth -/
theorem twins_statementsUpTo (depth : Nat) : Blind P (statementsUpTo depth) := by
  induction depth with
  | zero => exact twins_refuse
  | succ depth ih =>
    rw [statementsUpTo]
    refine Twins.bind inferInstance fun found => ?_
    cases found <;> infer_instance

instance twins_module : Blind P module where
  agree := by
    intro a b alike
    rw [module, module, alike.bound]
    have inside : Blind P (statementsUpTo (b.bound + 1)) := twins_statementsUpTo _
    exact Twins.agree alike

/-! ## Texts -/

variable {text other : String}

/-- **A text is read by its tokens**: texts that have the same are read as the same statements, or neither is read. -/
theorem toOption_read_eq (noNull : '\x00' ∉ text.toList) (noNull' : '\x00' ∉ other.toList)
    (same : (Lexed.ofText text.toList).tokens = (Lexed.ofText other.toList).tokens) :
    (read text).toOption = (read other).toOption := by
  have unplaced := (sound_ofText text.toList).unplaced_eq (sound_ofText other.toList) same
  have length := congrArg List.length unplaced
  rw [List.length_map, List.length_map] at length
  have alike : Ahead.Alike (fun _ => True) { rest := (Lexed.ofText text.toList).lexemes }
      { rest := (Lexed.ofText other.toList).lexemes } := ⟨unplaced, rfl, length, fun _ _ => trivial⟩
  have plain : text.toList.contains '\x00' = false := by simpa using noNull
  have plain' : other.toList.contains '\x00' = false := by simpa using noNull'
  have both := twins_module.agree alike
  rw [read, read, plain, plain']
  dsimp only
  revert both
  generalize module { rest := (Lexed.ofText text.toList).lexemes } = r,
    module { rest := (Lexed.ofText other.toList).lexemes } = r'
  intro both
  cases both <;> rfl

theorem isToken_apply (t : Token) (a : Ahead) : isToken t a = match a.rest with
    | l :: _ => .ok (l.token == t, a)
    | [] => .error .ended := by
  rw [isToken, bind_apply, token, bind_apply, peek]
  cases a.rest <;> rfl

/-- what is left behind a blind reading is of the kind of what was left before -/
theorem kind_of_ok {α : Type} {p : Parse α} [h : Blind P p] {a b : Ahead} {x : α} (kind : ∀ l ∈ a.rest, P l.token)
    (eq : p a = .ok (x, b)) : ∀ l ∈ b.rest, P l.token := by
  have both := h.agree (⟨rfl, rfl, rfl, kind⟩ : a.Alike P a)
  rw [eq] at both
  cases both with
  | answer alike => exact alike.kind

/-- a loop halts when none of its steps answers while the lexemes are of one kind -/
theorem iterateUpTo_error {α β : Type} {step : α → Parse (α ⊕ β)} [∀ x, Blind P (step x)]
    (h : ∀ x a, (∀ l ∈ a.rest, P l.token) → ∀ y b, step x a ≠ .ok (.inr y, b)) (fuel : Nat) (x : α) {a : Ahead}
    (kind : ∀ l ∈ a.rest, P l.token) : (iterateUpTo step fuel x a).toOption = none := by
  induction fuel generalizing x a with
  | zero =>
    rw [iterateUpTo, refuse, bind_apply]
    cases peek a <;> rfl
  | succ fuel ih =>
    rw [iterateUpTo, bind_apply]
    cases eq : step x a with
    | error halt => rfl
    | ok r =>
      obtain ⟨next | answer, b⟩ := r
      · exact ih next (kind_of_ok kind eq)
      · exact absurd eq (h x a kind answer b)

/-- **A text is not read when lexing stops before its end.** -/
theorem toOption_read_eq_none (stopped : (Lexed.ofText text.toList).stop ≠ .complete) :
    (read text).toOption = none := by
  have unfinished : ∀ l ∈ (Lexed.ofText text.toList).lexemes, l.token ≠ .finish := by
    intro l hl eq
    exact (sound_ofText text.toList).unfinished stopped (eq ▸ List.mem_map_of_mem hl)
  rw [read]
  split
  · rfl
  · dsimp only
    have halts : (module { rest := (Lexed.ofText text.toList).lexemes }).toOption = none := by
      have inside : Blind (· ≠ .finish) (statementsUpTo ((Lexed.ofText text.toList).lexemes.length + 1)) :=
        twins_statementsUpTo _
      refine iterateUpTo_error (P := (· ≠ .finish)) (fun found a kind y b eq => ?_) _ [] unfinished
      rw [bind_apply, isToken_apply] at eq
      cases first : a.rest with
      | nil =>
        rw [first] at eq
        cases eq
      | cons l rest =>
        rw [first] at eq kind
        have other : (l.token == .finish) = false := beq_eq_false_iff_ne.2 (kind l List.mem_cons_self)
        simp only [other, Bool.false_eq_true, ↓reduceIte] at eq
        rw [bind_apply] at eq
        cases inner : statementsUpTo ((Lexed.ofText text.toList).lexemes.length + 1) a with
        | error halt =>
          rw [inner] at eq
          cases eq
        | ok r =>
          rw [inner] at eq
          cases eq
    revert halts
    generalize module { rest := (Lexed.ofText text.toList).lexemes } = r
    intro halts
    cases r with
    | error halt => rfl
    | ok r => cases halts

end ApiTypes.Source
