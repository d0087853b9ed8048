/-
Syntax of source texts: expressions and statements, as far as names, targets and imports are concerned.

Parentheses are kept, since a target in parentheses is not annotated like one without.
-/
import ApiTypes.Source.Token

namespace ApiTypes.Source

/-- the words that stand for values of their own -/
inductive Word where
  | none
  | true
  | false
  | ellipsis
  deriving DecidableEq, Repr

/-- forms of expressions that only matter as wholes -/
inductive Form where
  /-- and, or, not -/
  | logical
  | arithmetic
  /-- a comparison by `in` in front -/
  | membership
  | comparison
  | conditional
  | lambda
  | yielded
  | awaited
  | generator
  | listComprehension
  | setComprehension
  | dictComprehension
  | named
  | slice
  deriving DecidableEq, Repr

def Form.what : Form → String
  | .logical => "expression"
  | .arithmetic => "expression"
  | .membership => "comparison"
  | .comparison => "comparison"
  | .conditional => "conditional expression"
  | .lambda => "lambda"
  | .yielded => "yield expression"
  | .awaited => "await expression"
  | .generator => "generator expression"
  | .listComprehension => "list comprehension"
  | .setComprehension => "set comprehension"
  | .dictComprehension => "dict comprehension"
  | .named => "named expression"
  | .slice => "slice"

inductive Expr where
  | name (id : String)
  | word (w : Word)
  | number
  | text (value : String)
  | bytes
  | template
  | member (base : Expr) (field : String)
  | subscript (base index : Expr)
  | call (callee : Expr) (arguments : List Expr) (keywords : List (String × Expr))
  /-- items with commas and no brackets -/
  | row (items : List Expr)
  | tuple (items : List Expr)
  | list (items : List Expr)
  | set (items : List Expr)
  | dict (entries : List (Expr × Expr))
  | starred (item : Expr)
  /-- an expression in parentheses -/
  | group (inner : Expr)
  | compound (form : Form) (parts : List Expr)
  deriving Repr

namespace Expr

instance : Inhabited Expr := ⟨.number⟩

/-- what an expression is, as complaints name it -/
def what : Expr → String
  | name _ => "name"
  | word .none => "None"
  | word .true => "True"
  | word .false => "False"
  | word .ellipsis => "ellipsis"
  | number => "literal"
  | text _ => "literal"
  | bytes => "literal"
  | template => "f-string expression"
  | member .. => "attribute"
  | subscript .. => "subscript"
  | call .. => "function call"
  | row _ => "tuple"
  | tuple _ => "tuple"
  | list _ => "list"
  | set _ => "set display"
  | dict _ => "dict literal"
  | starred _ => "starred"
  | group inner => inner.what
  | compound form _ => form.what

/-- the expression without the parentheses around it -/
def bare : Expr → Expr
  | group inner => inner.bare
  | other => other

/-- what targets are for -/
inductive Purpose where
  | assignment
  | deletion
  | loop
  deriving DecidableEq, Repr

mutual

/-- the first part that cannot be a target -/
def badTarget? (purpose : Purpose) : Expr → Option Expr
  | name _ => none
  | member .. => none
  | subscript .. => none
  | row items => badItem? purpose items
  | tuple items => badItem? purpose items
  | list items => badItem? purpose items
  | starred item => if purpose = .deletion then some (.starred item) else badTarget? purpose item
  | group inner => badTarget? purpose inner
  | compound .membership (first :: rest) =>
    if purpose = .loop then badTarget? purpose first else some (.compound .membership (first :: rest))
  | compound .comparison parts => if purpose = .loop then none else some (.compound .comparison parts)
  | other => some other

def badItem? (purpose : Purpose) : List Expr → Option Expr
  | [] => none
  | e :: rest =>
    match badTarget? purpose e with
    | some bad => some bad
    | none => badItem? purpose rest

end

/-- a single target: a name, an attribute or an item -/
def isSingle (e : Expr) : Bool :=
  match e.bare with
  | name _ => true
  | member .. => true
  | subscript .. => true
  | _ => false

/-- an operand of comparisons, rather than something that binds less tightly -/
def isOperand : Expr → Bool
  | compound .logical _ => false
  | compound .membership _ => false
  | compound .comparison _ => false
  | compound .conditional _ => false
  | compound .lambda _ => false
  | compound .named _ => false
  | compound .yielded _ => false
  | starred _ => false
  | row _ => false
  | _ => true

/-- what is never taken for a mistaken comparison -/
def isDisplay : Expr → Bool
  | tuple _ => true
  | list _ => true
  | word .none => true
  | word .true => true
  | word .false => true
  | compound .generator _ => true
  | _ => false

end Expr

inductive Statement where
  /-- a class, with the statements of its body -/
  | class (name : String) (body : List Statement)
  | function (name : String) (body : List Statement)
  /-- an assignment of one value to one or several targets -/
  | assign (targets : List Expr) (value : Expr)
  | annotated (target type : Expr) (value : Option Expr)
  /-- an import from a module, whose name follows `level` dots -/
  | importFrom (level : Nat) (module : Option String) (names : List String)
  | expression (e : Expr)
  /-- any other statement, with the statements in it -/
  | other (body : List Statement)
  deriving Repr

end ApiTypes.Source
