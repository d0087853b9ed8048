/-
Expressions and patterns are read without regard to lines.

Each reading of an expression is blind when the readings that it is made of are. What is carried along of the lines only
gets into complaints; a lexeme that is kept for later is only asked for its token.

Main statements: `twins_expression`, `twins_primary`, `twins_patterns`.
-/
import ApiTypes.Proofs.Blind

namespace ApiTypes.Source

open Parse

-- a long reading has more parts than inference puts together by default
set_option synthInstance.maxSize 4000

variable {P : Token → Prop}

/-! ## Operators -/

instance twins_operands {operator : Parse (Option Form)} {operand : Parse Expr} [h : Blind P operator]
    [Blind P operand] : Blind P (operands operator operand) := by
  unfold operands
  refine Twins.bind inferInstance fun first => h.bind fun form => ?_
  cases form with
  | none => infer_instance
  | some form =>
    have another : Blind P (do
      match ← operator with
      | some _ => return some (← operand)
      | none => return none : Parse (Option Expr)) := h.bind fun form => by cases form <;> infer_instance
    infer_instance

instance twins_takesMarkIn (marks : List String) (form : Form) : Blind P (takesMarkIn marks form) := by
  unfold takesMarkIn
  refine twins_token.bind fun t => ?_
  cases t <;> infer_instance

instance twins_takesComparison : Blind P takesComparison := by
  unfold takesComparison
  refine twins_token.bind fun t => ?_
  split <;> infer_instance

instance twins_takesLogical : Blind P takesLogical := by
  unfold takesLogical
  infer_instance

/-! ## Strings -/

instance twins_string? : Blind P string? := by
  unfold string?
  refine twins_token.bind fun t => ?_
  cases t with
  | text mode body =>
    dsimp only
    cases Literal.decode mode body <;> infer_instance
  | _ => infer_instance

instance twins_strings : Blind P strings := by
  unfold strings
  infer_instance

/-! ## Operations -/

section

variable {primary : Parse Expr} [Blind P primary]

instance twins_factor : Blind P (factor primary) := by
  unfold factor
  dsimp only
  infer_instance

instance twins_operand : Blind P (operand primary) := by
  unfold operand
  infer_instance

instance twins_comparison : Blind P (comparison primary) := by
  unfold comparison
  infer_instance

instance twins_logical : Blind P (logical primary) := by
  unfold logical
  infer_instance

end

/-! ## Mistakes -/

/-- of the lexeme where the expression before starts, only the token is asked for -/
theorem twins_sideBySide {start start' : Lexeme} (same : start.token = start'.token) (follower : Option Token)
    (first : Expr) {next several : Parse Expr} [Blind P next] [Blind P several] :
    Twins P (sideBySide start follower first next several) (sideBySide start' follower first next several) := by
  unfold sideBySide
  rw [same]
  refine twins_token.bind fun t => ?_
  dsimp only
  split
  · infer_instance
  · split <;> infer_instance

instance twins_singleEquals {primary : Parse Expr} [Blind P primary] (e : Expr) (m n : Nat) :
    Twins P (singleEquals primary e m) (singleEquals primary e n) := by
  unfold singleEquals
  dsimp only
  refine Twins.bind inferInstance fun alone => ?_
  cases e <;> infer_instance

/-! ## Parameters -/

instance twins_itemsUpTo {α : Type} (closing : String) {item : Parse α} [Blind P item] (before : List α) :
    Blind P (itemsUpTo closing item before) := by
  unfold itemsUpTo
  infer_instance

section

variable {inner : Parse Expr} [Blind P inner] {type : Parse Unit} [Blind P type]

instance twins_parameter (closing : String) : Blind P (parameter inner type closing) := by
  unfold parameter
  infer_instance

instance twins_parameters (closing : String) : Blind P (parameters inner type closing) := by
  unfold parameters
  refine Twins.line fun m n => Twins.bind inferInstance fun params => ?_
  cases orderFault? false params <;> infer_instance

instance twins_lambda : Blind P (lambda inner) := by
  unfold lambda
  infer_instance

end

/-! ## Brackets -/

section

variable {inner primary : Parse Expr} [Blind P inner] [Blind P primary]

instance twins_walrusOr {other : Parse Expr} [Blind P other] : Blind P (walrusOr inner other) := by
  unfold walrusOr
  refine twins_token.bind fun t => twins_second?.bind fun second => ?_
  split <;> infer_instance

instance twins_namedExpression : Blind P (namedExpression inner primary) := by
  unfold namedExpression
  infer_instance

instance twins_starNamed : Blind P (starNamed inner primary) := by
  unfold starNamed
  infer_instance

instance twins_starOperand : Blind P (starOperand primary) := by
  unfold starOperand
  infer_instance

instance twins_starExpression : Blind P (starExpression inner primary) := by
  unfold starExpression
  infer_instance

instance twins_row {item : Parse Expr} [Blind P item] (more : Token → Bool) : Blind P (row item more) := by
  unfold row
  infer_instance

instance twins_starExpressions : Blind P (starExpressions inner primary) := by
  unfold starExpressions
  infer_instance

instance twins_yieldExpression : Blind P (yieldExpression inner primary) := by
  unfold yieldExpression
  infer_instance

instance twins_loopTargets : Blind P (loopTargets primary) := by
  unfold loopTargets
  refine Twins.line fun m n => Twins.bind inferInstance fun targets => ?_
  cases targets.badTarget? .loop <;> infer_instance

instance twins_startsClause : Blind P startsClause := by
  unfold startsClause
  infer_instance

instance twins_clauses (item : Expr) (m n : Nat) : Twins P (clauses primary item m) (clauses primary item n) := by
  unfold clauses
  cases item <;> infer_instance

instance twins_parenthesised : Blind P (parenthesised inner primary) := by
  have closed (first : Expr) (m n : Nat) : Twins P
      (match first with
        | .starred _ => complain (.starredGroup false) m
        | _ => return .group first : Parse Expr)
      (match first with
        | .starred _ => complain (.starredGroup false) n
        | _ => return .group first : Parse Expr) := by
    cases first <;> infer_instance
  unfold parenthesised
  refine .whether inferInstance inferInstance (.whether inferInstance inferInstance (Twins.line fun m n => ?_))
  dsimp only
  infer_instance

instance twins_listed : Blind P (listed inner primary) := by
  unfold listed
  infer_instance

instance twins_dictValue : Blind P (dictValue inner) := by
  unfold dictValue
  infer_instance

instance twins_dictEntry : Blind P (dictEntry inner primary) := by
  unfold dictEntry
  infer_instance

instance twins_braced : Blind P (braced inner primary) := by
  unfold braced
  infer_instance

/-! ## Calls and items -/

instance twins_argument (given : Arguments) : Blind P (argument inner primary given) := by
  unfold argument
  refine Twins.line fun m n => .whether inferInstance inferInstance (.whether inferInstance inferInstance ?_)
  refine twins_token.bind fun t => twins_second?.bind fun second => ?_
  split
  · split <;> infer_instance
  · infer_instance

instance twins_arguments : Blind P (arguments inner primary) := by
  unfold arguments
  infer_instance

instance twins_bound : Blind P (bound inner) := by
  unfold bound
  infer_instance

instance twins_slice : Blind P (slice inner primary) := by
  unfold slice
  infer_instance

instance twins_slices : Blind P (slices inner primary) := by
  unfold slices
  infer_instance

instance twins_atom : Blind P (atom inner primary) := by
  unfold atom
  refine twins_token.bind fun t => ?_
  split
  · split <;> infer_instance
  all_goals infer_instance

instance twins_trailers (first : Expr) : Blind P (trailers inner primary first) := by
  unfold trailers
  infer_instance

end

/-- by induction on the depth, for expressions and their parts together -/
theorem twins_upTo (depth : Nat) : Blind P (expressionUpTo depth) ∧ Blind P (primaryUpTo depth) := by
  induction depth with
  | zero => exact ⟨twins_refuse, twins_refuse⟩
  | succ depth ih =>
    obtain ⟨inner, primary⟩ := ih
    constructor
    · rw [expressionUpTo]
      refine .whether inferInstance inferInstance (Twins.peek fun start start' same _ => ?_)
      let several := starExpressions (expressionUpTo depth) (primaryUpTo depth)
      have beside (follower : Option Token) (first : Expr) :
          Twins P (sideBySide start follower first (expressionUpTo depth) several)
            (sideBySide start' follower first (expressionUpTo depth) several) :=
        twins_sideBySide same follower first
      infer_instance
    · rw [primaryUpTo]
      infer_instance

instance twins_expression : Blind P expression where
  agree := by
    intro a b alike
    rw [expression, expression, depthFor, depthFor, alike.bound]
    exact (twins_upTo _).1.agree alike

instance twins_primary : Blind P primary where
  agree := by
    intro a b alike
    rw [primary, primary, depthFor, depthFor, alike.bound]
    exact (twins_upTo _).2.agree alike

/-! ## Patterns -/

instance twins_captured : Blind P captured := by
  unfold captured
  infer_instance

instance twins_capturedRest : Blind P capturedRest := by
  unfold capturedRest
  infer_instance

instance twins_capturedWhole : Blind P capturedWhole := by
  unfold capturedWhole
  refine Twins.line fun m n => twins_token.bind fun t => ?_
  dsimp only
  split <;> infer_instance

instance twins_numberPattern : Blind P numberPattern := by
  unfold numberPattern
  refine Twins.bind inferInstance fun _ => Twins.line fun m n => twins_token.bind fun t => ?_
  have imaginary : Blind P (do
      match ← token with
      | .number true => advance
      | .number false => complain (.complexPart false) (← line)
      | _ => refuse) := twins_token.bind fun t => by split <;> infer_instance
  cases t <;> infer_instance

instance twins_takesLiteral : Blind P takesLiteral := by
  unfold takesLiteral
  refine twins_token.bind fun t => ?_
  split <;> infer_instance

section

variable {inner : Parse Unit} [Blind P inner]

instance twins_sequenceItem : Blind P (sequenceItem inner) := by
  unfold sequenceItem
  infer_instance

instance twins_roundPattern : Blind P (roundPattern inner) := by
  unfold roundPattern
  infer_instance

instance twins_mappingEntry : Blind P (mappingEntry inner) := by
  unfold mappingEntry
  infer_instance

instance twins_mappingPattern : Blind P (mappingPattern inner) := by
  unfold mappingPattern
  infer_instance

instance twins_classPattern : Blind P (classPattern inner) := by
  unfold classPattern
  infer_instance

instance twins_namePattern : Blind P (namePattern inner) := by
  unfold namePattern
  infer_instance

instance twins_closedPattern : Blind P (closedPattern inner) := by
  unfold closedPattern
  infer_instance

instance twins_wholePattern : Blind P (wholePattern inner) := by
  unfold wholePattern
  infer_instance

end

theorem twins_patternUpTo (depth : Nat) : Blind P (patternUpTo depth) := by
  induction depth with
  | zero => exact twins_refuse
  | succ depth ih =>
    rw [patternUpTo]
    infer_instance

instance twins_pattern : Blind P pattern where
  agree := by
    intro a b alike
    rw [pattern, pattern, alike.bound]
    exact (twins_patternUpTo _).agree alike

instance twins_patterns : Blind P patterns := by
  unfold patterns
  infer_instance

end ApiTypes.Source
