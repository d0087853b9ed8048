/-
Parses: readings of lexemes, and how they halt.

A reading takes lexemes from the front. It halts where a lexeme does not fit, at a complaint that says more than that,
or where the lexemes end because lexing stopped.

Main statement: `attempt_ok`, a reading that goes through is not changed by an attempt.
-/
import ApiTypes.Source.Lexed
import ApiTypes.Source.Syntax

namespace ApiTypes.Source

/-- why a reading halts -/
inductive Halt where
  /-- there are no lexemes left -/
  | ended
  /-- a lexeme that does not fit -/
  | unfit (lexeme : Lexeme)
  /-- a complaint, and the line that was reached -/
  | complaint (fault : Fault) (reached : Nat)
  deriving Repr

/-- the lexemes that are left, and the bracket depth before them -/
structure Ahead where
  rest : List Lexeme
  depth : Nat := 0
  /-- no fewer than the lexemes that are left -/
  bound : Nat := rest.length

abbrev Parse (α : Type) := StateT Ahead (Except Halt) α

namespace Parse

def peek : Parse Lexeme := fun a =>
  match a.rest with
  | l :: _ => .ok (l, a)
  | [] => .error .ended

def token : Parse Token := do return (← peek).token

def line : Parse Nat := do return (← peek).line

/-- the lexeme after the next one, if there is one -/
def second? : Parse (Option Token) := fun a => .ok ((a.rest.drop 1).head?.map (·.token), a)

def depth : Parse Nat := fun a => .ok (a.depth, a)

def advance : Parse Unit := fun a =>
  match a.rest with
  | l :: rest => .ok ((), { a with rest, depth := l.depth })
  | [] => .error .ended

/-- the next lexeme does not fit -/
def refuse {α : Type} : Parse α := do throw (.unfit (← peek))

def complain {α : Type} (complaint : Complaint) (line : Nat) : Parse α := fun a =>
  .error (.complaint ⟨complaint, line⟩ ((a.rest.head?.map (·.line)).getD line))

/-- the reading, or nothing where it halts at a lexeme; then the lexemes are kept -/
def attempt {α : Type} (p : Parse α) : Parse (Option α) := fun a =>
  match p a with
  | .ok (x, after) => .ok (some x, after)
  | .error .ended => .error .ended
  | .error _ => .ok (none, a)

theorem attempt_ok {α : Type} {p : Parse α} {a after : Ahead} {x : α} (h : p a = .ok (x, after)) :
    attempt p a = .ok (some x, after) := by
  unfold attempt
  rw [h]

def isToken (t : Token) : Parse Bool := do return (← token) == t

def isMark (text : String) : Parse Bool := isToken (.mark text)

def isWord (text : String) : Parse Bool := isToken (.name text)

/-- take this token if it is the next one -/
def takes (t : Token) : Parse Bool := do
  if ← isToken t then
    advance
    return true
  return false

def takesMark (text : String) : Parse Bool := takes (.mark text)

def takesWord (text : String) : Parse Bool := takes (.name text)

/-- take this token, which must come next -/
def need (t : Token) : Parse Unit := do
  if !(← takes t) then refuse

def needMark (text : String) : Parse Unit := need (.mark text)

def needWord (text : String) : Parse Unit := need (.name text)

/-- a name that is no reserved word -/
def needName : Parse String := do
  match ← token with
  | .name text =>
    if Module.isReserved text then refuse
    advance
    return text
  | _ => refuse

/-- take this mark, whose absence is named -/
def demandMark (text : String) : Parse Unit := do
  if !(← takesMark text) then complain (.expected text) (← line)

/-- a step after the other until one answers, for as many steps as `fuel` says -/
def iterateUpTo {α β : Type} (step : α → Parse (α ⊕ β)) : (fuel : Nat) → α → Parse β
  | 0, _ => refuse
  | fuel + 1, x => do
    match ← step x with
    | .inl next => iterateUpTo step fuel next
    | .inr answer => return answer

/-- a step after the other until one answers; each step but the last takes a lexeme at least -/
def iterate {α β : Type} (step : α → Parse (α ⊕ β)) (x : α) : Parse β := fun a =>
  iterateUpTo step (a.bound + 1) x a

/-- readings until one finds nothing -/
def many {α : Type} (p : Parse (Option α)) : Parse (List α) :=
  iterate (fun found => do
    match ← p with
    | some x => return .inl (found ++ [x])
    | none => return .inr found) []

/-- a name and the members behind it, with points between them -/
def memberNames : Parse (List String) := do
  let first ← needName
  let others ← many do
    if ← takesMark "." then return some (← needName)
    return none
  return first :: others

end Parse

end ApiTypes.Source
