/-
Statements of source texts.

Every reading here takes the reading of the statements inside blocks, so that only `statementsUpTo` is recursive.
-/
import ApiTypes.Source.Pattern

namespace ApiTypes.Source

open Parse

def augmentedMarks : List String := ["+=", "-=", "*=", "@=", "/=", "%=", "&=", "|=", "^=", "<<=", ">>=", "**=", "//="]

/-- expressions with commas, or a yield -/
def value : Parse Expr := do
  if ← isWord "yield" then yieldExpression expression primary
  else starExpressions expression primary

/-! ## Assignments -/

/-- the item right before an equals sign -/
def lastItem : Expr → Expr
  | .row items => items.getLastD (.row items)
  | e => e

/-- complain about what cannot be assigned to; `first` says that no target comes before, `start` is the line of it -/
def complainTarget {α : Type} (first : Bool) (target bad : Expr) (start : Nat) : Parse α := do
  if first then
    match target, lastItem target with
    | .row _, .starred _ => pure ()
    | .row _, e => singleEquals primary e start
    | _, .name _ => pure ()
    | _, e => singleEquals primary e start
  complain (.assignTo bad.what) start

/-- the targets behind the ones before, and the value -/
def assignment (target : Expr) (start : Nat) : Parse Statement := do
  let (targets, assigned) ← iterate (fun (before, e) => do
    if !(← isMark "=") then return .inr (before, e)
    match e with
    | .compound .yielded _ => complain .yieldTarget start
    | _ => pure ()
    match e.badTarget? .assignment with
    | some bad => complainTarget before.isEmpty e bad start
    | none => do
      advance
      return .inl (before ++ [e], ← value)) (([] : List Expr), target)
  return .assign targets assigned

/-- a type behind a target, and perhaps a value -/
def annotated (target : Expr) (start : Nat) : Parse Statement := do
  let behind : Parse Expr := do
    needMark ":"
    expression
  match target.bare with
  | .row _ => if ← leadsTo behind (return true) then complain (.annotatesSeveral "tuple") start
  | .tuple _ => if ← leadsTo behind (return true) then complain (.annotatesSeveral "tuple") start
  | .list _ => if ← leadsTo behind (return true) then complain (.annotatesSeveral "list") start
  | e =>
    if !e.isSingle then
      if ← leadsTo behind (return true) then complain .annotates start
  if !target.isSingle then refuse
  let type ← behind
  if ← takesMark "=" then return .annotated target type (some (← value))
  return .annotated target type none

/-- a statement that starts with an expression -/
def expressionStatement : Parse Statement := do
  let start ← line
  let e ← value
  match ← token with
  | .mark "=" => assignment e start
  | .mark ":" => annotated e start
  | .mark text =>
    if augmentedMarks.contains text then do
      advance
      discard value
      if !e.isSingle then complain (.augments e.what) start
      return .other []
    return .expression e
  | _ => return .expression e

/-! ## Imports -/

/-- a module's name -/
def dottedName : Parse String := do return ".".intercalate (← memberNames)

/-- the name that something is bound to instead of its own -/
def otherName : Parse Unit := do
  if ← takesWord "as" then discard needName

def importedName : Parse String := do
  let name ← needName
  otherName
  return name

def importStatement : Parse Statement := do
  needWord "import"
  let imported : Parse Unit := do
    discard dottedName
    otherName
  imported
  discard (many do
    if ← takesMark "," then return some (← imported)
    return none)
  return .other []

/-- the dots in front of a module's name -/
def dots : Parse Nat := do
  let found ← many do
    if ← takesMark "." then return some 1
    return if ← takesMark "..." then some 3 else none
  return found.foldl (· + ·) 0

/-- names with commas, none of them at the end of the line -/
def importedNames : Parse (List String) := do
  let first ← importedName
  iterate (fun found => do
    if !(← takesMark ",") then return .inr found
    if ← isToken .newline then complain .trailingComma (← line)
    return .inl (found ++ [← importedName])) [first]

def importFrom : Parse Statement := do
  needWord "from"
  let level ← dots
  let module ← do
    if level != 0 && (← isWord "import") then pure none else pure (some (← dottedName))
  needWord "import"
  if ← takesMark "*" then return .importFrom level module ["*"]
  if ← takesMark "(" then do
    let first ← importedName
    return .importFrom level module (← itemsUpTo ")" importedName [first])
  return .importFrom level module (← importedNames)

/-! ## Simple statements -/

def deletion : Parse Statement := do
  advance
  let start ← line
  let targets ← starExpressions expression primary
  match targets.badTarget? .deletion with
  | some bad => complain (.deletes bad.what) start
  | none => return .other []

/-- does the statement end here? -/
def atEnd : Parse Bool := do return (← isToken .newline) || (← isMark ";")

def raising : Parse Statement := do
  advance
  if !(← atEnd) then
    discard expression
    if ← takesWord "from" then discard expression
  return .other []

/-- names of an outer scope -/
def outerNames : Parse Statement := do
  advance
  discard needName
  discard (many do
    if ← takesMark "," then return some (← needName)
    return none)
  return .other []

def assertion : Parse Statement := do
  advance
  discard expression
  if ← takesMark "," then discard expression
  return .other []

def simpleStatement : Parse Statement := do
  match ← token with
  | .name "return" => do
    advance
    if !(← atEnd) then discard (starExpressions expression primary)
    return .other []
  | .name "import" => importStatement
  | .name "from" => importFrom
  | .name "raise" => raising
  | .name "del" => deletion
  | .name "assert" => assertion
  | .name "global" => outerNames
  | .name "nonlocal" => outerNames
  | .name text =>
    if ["pass", "break", "continue"].contains text then do
      advance
      return .other []
    else expressionStatement
  | _ => expressionStatement

/-- the simple statements of a line -/
def simpleStatements : Parse (List Statement) := do
  let first ← simpleStatement
  iterate (fun found => do
    if ← takesMark ";" then do
      if ← takes .newline then return .inr found
      return .inl (found ++ [← simpleStatement])
    need .newline
    return .inr found) [first]

/-! ## Blocks -/

/-- a colon behind the head of a statement; at the end of the line its absence is named -/
def headColon : Parse Unit := do
  if !(← takesMark ":") then
    if ← isToken .newline then complain (.expected ":") (← line)
    refuse

/-- what a `match` statement is about -/
def subject : Parse Unit := do
  match ← row (starNamed expression primary) fun t => startsExpression t || t == .mark "*" with
  | .starred _ => refuse
  | _ => return ()

/-- can the token not go on with an expression that a name started? -/
def standsApart : Token → Bool
  | .name text => !Module.isReserved text || ["None", "True", "False", "lambda", "await"].contains text
  | .number _ => true
  | .text .. => true
  | .mark text => ["\x7b", "~", "..."].contains text
  | _ => false

section Blocks

/- the reading of the statements inside blocks -/
variable (inner : Parse (List Statement))

/-- the block behind a colon; `after` and `line` say whose it is -/
def block (after : String) (start : Nat) : Parse (List Statement) := do
  if !(← takes .newline) then simpleStatements
  else do
    if !(← takes .indent) then complain (.missingBlock after start) (← line)
    let first ← inner
    iterate (fun found => do
      if ← takes .dedent then return .inr found
      return .inl (found ++ (← inner))) first

/-- a word, a condition and a block -/
def conditional (after : String) : Parse (List Statement) := do
  let start ← line
  advance
  discard (namedExpression expression primary)
  headColon
  block inner after start

/-- an alternative or another last part of a statement, if its word comes next -/
def lastPart (word : String) : Parse (List Statement) := do
  let start ← line
  if !(← takesWord word) then return []
  demandMark ":"
  block inner ("'" ++ word ++ "' statement") start

def ifStatement : Parse Statement := do
  let first ← conditional inner "'if' statement"
  let others ← many do
    if !(← isWord "elif") then return none
    return some (← conditional inner "'elif' statement")
  return .other (first ++ others.flatten ++ (← lastPart inner "else"))

def whileStatement : Parse Statement := do
  let body ← conditional inner "'while' statement"
  return .other (body ++ (← lastPart inner "else"))

def forStatement : Parse Statement := do
  let start ← line
  advance
  discard (loopTargets primary)
  needWord "in"
  discard (starExpressions expression primary)
  headColon
  let body ← block inner "'for' statement" start
  return .other (body ++ (← lastPart inner "else"))

/-- a resource, and what it is bound to -/
def withItem : Parse Unit := do
  discard expression
  if ← takesWord "as" then do
    let start ← line
    let target ← starOperand primary
    match target.badTarget? .assignment with
    | some bad => complain (.assignTo bad.what) start
    | none => pure ()

def withItems : Parse Unit := do
  let inBrackets : Parse Unit := do
    needMark "("
    discard (itemsUpTo ")" withItem [])
    if !(← isMark ":") then refuse
  if (← attempt inBrackets).isNone then do
    withItem
    discard (many do
      if ← takesMark "," then return some (← withItem)
      return none)

def withStatement : Parse Statement := do
  let start ← line
  advance
  withItems
  headColon
  return .other (← block inner "'with' statement" start)

def exceptPart : Parse (Option (List Statement)) := do
  let start ← line
  if !(← takesWord "except") then return none
  let star ← takesMark "*"
  if !(← isMark ":") && !(← isToken .newline) then do
    discard expression
    if ← isMark "," then complain .severalExceptions start
    otherName
  headColon
  return some (← block inner (if star then "'except*' statement" else "'except' statement") start)

def tryStatement : Parse Statement := do
  let start ← line
  advance
  demandMark ":"
  let body ← block inner "'try' statement" start
  let handlers ← many (exceptPart inner)
  if handlers.isEmpty then
    if !(← isWord "finally") then complain .missingHandler (← line)
    return .other (body ++ (← lastPart inner "finally"))
  let otherwise ← lastPart inner "else"
  return .other (body ++ handlers.flatten ++ otherwise ++ (← lastPart inner "finally"))

def classStatement : Parse Statement := do
  let start ← line
  advance
  let name ← needName
  if ← takesMark "(" then discard (arguments expression primary)
  headColon
  return .class name (← block inner "class definition" start)

/-- the type behind an arrow, if there is one; without an expression the arrow stands where a colon should -/
def resultType : Parse Unit := do
  if ← isMark "->" then do
    let start ← line
    let type : Parse Expr := do
      advance
      expression
    if (← attempt type).isNone then complain (.expected ":") start

def functionStatement : Parse Statement := do
  let start ← line
  advance
  let name ← needName
  demandMark "("
  let type : Parse Unit := do
    if ← takesMark ":" then discard expression
  parameters expression type ")"
  resultType
  demandMark ":"
  return .function name (← block inner "function definition" start)

def casePart : Parse (Option (List Statement)) := do
  let start ← line
  if !(← takesWord "case") then return none
  patterns
  if ← takesWord "if" then discard (namedExpression expression primary)
  headColon
  return some (← block inner "'case' statement" start)

/-- the cases behind the head of a `match` statement, which stands on line `start` -/
def cases (start : Nat) : Parse Statement := do
  if !(← takes .indent) then complain (.missingBlock "'match' statement" start) (← line)
  if !(← isWord "case") then refuse
  let found ← many (casePart inner)
  need .dedent
  return .other found.flatten

/-- a `match` statement. The word is a name where it does not start one: an ordinary statement goes before a complaint
about a missing colon. -/
def matchStatement? : Parse (Option Statement) := do
  let start ← line
  let head : Parse Unit := do
    advance
    subject
  let headLine : Parse Unit := do
    head
    needMark ":"
    need .newline
  if ← leadsTo headLine (return true) then do
    headLine
    return some (← cases inner start)
  let apart := ((← second?).map standsApart).getD false
  if !apart then
    if ← leadsTo simpleStatements (return true) then return none
  if apart || (← leadsTo head (isToken .newline)) then do
    head
    headColon
    refuse
  return none

def asyncStatement : Parse Statement := do
  advance
  match ← token with
  | .name "def" => functionStatement inner
  | .name "for" => forStatement inner
  | .name "with" => withStatement inner
  | _ => refuse

def decorated : Parse Statement := do
  discard (many do
    if !(← takesMark "@") then return none
    discard (namedExpression expression primary)
    need .newline
    return some ())
  match ← token, ← second? with
  | .name "def", _ => functionStatement inner
  | .name "class", _ => classStatement inner
  | .name "async", some (.name "def") => asyncStatement inner
  | _, _ => refuse

/-- a statement with a block, if one starts here -/
def blockStatement? : Parse (Option Statement) := do
  match ← token with
  | .name "if" => return some (← ifStatement inner)
  | .name "while" => return some (← whileStatement inner)
  | .name "for" => return some (← forStatement inner)
  | .name "with" => return some (← withStatement inner)
  | .name "try" => return some (← tryStatement inner)
  | .name "match" => matchStatement? inner
  | .name "class" => return some (← classStatement inner)
  | .name "def" => return some (← functionStatement inner)
  | .name "async" => return some (← asyncStatement inner)
  | .mark "@" => return some (← decorated inner)
  | _ => return none

end Blocks

/-- a statement with a block, or the statements of a line, inside as many blocks as `depth` says -/
def statementsUpTo : (depth : Nat) → Parse (List Statement)
  | 0 => refuse
  | depth + 1 => do
    match ← blockStatement? (statementsUpTo depth) with
    | some s => return [s]
    | none => simpleStatements

/-- the statements of a whole text -/
def module : Parse (List Statement) := fun a =>
  iterate (fun found => do
    if ← isToken .finish then return .inr found
    return .inl (found ++ (← statementsUpTo (a.bound + 1)))) [] a

end ApiTypes.Source
