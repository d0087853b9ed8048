/-
Expressions of source texts.

Every reading here takes the reading `inner` of the expressions inside brackets, so that only `expression` is recursive.
How tightly operators bind is left open: it does not matter to what is accepted, nor to targets.

Where two expressions stand side by side in brackets, a comma is missed; where one equals sign stands in a condition, a
comparison is missed; and so for other mistakes that have a wording of their own.
-/
import ApiTypes.Source.Parse

namespace ApiTypes.Source

open Parse

def arithmeticMarks : List String := ["|", "^", "&", "<<", ">>", "+", "-", "*", "/", "//", "%", "@"]

def comparisonMarks : List String := ["==", "!=", "<=", "<", ">=", ">"]

def signs : List String := ["+", "-", "~"]

def softWords : List String := ["_", "case", "match"]

def valueWord? : String → Option Word
  | "None" => some .none
  | "True" => some .true
  | "False" => some .false
  | _ => none

/-- may an expression start with this token, where no operator is expected? -/
def startsExpression : Token → Bool
  | .name text => !Module.isReserved text || ["None", "True", "False", "not", "lambda", "await"].contains text
  | .number _ => true
  | .text .. => true
  | .mark text => ["(", "[", "\x7b", "-", "+", "~", "..."].contains text
  | _ => false

/-! ## Operators -/

/-- operands with operators between them; the first operator gives the form -/
def operands (operator : Parse (Option Form)) (operand : Parse Expr) : Parse Expr := do
  let first ← operand
  match ← operator with
  | none => return first
  | some form => do
    let second ← operand
    let others ← many do
      match ← operator with
      | some _ => return some (← operand)
      | none => return none
    return .compound form (first :: second :: others)

def takesMarkIn (marks : List String) (form : Form) : Parse (Option Form) := do
  match ← token with
  | .mark text =>
    if marks.contains text then
      advance
      return some form
    return none
  | _ => return none

def takesComparison : Parse (Option Form) := do
  match ← token with
  | .name "in" => do
    advance
    return some .membership
  | .name "is" => do
    advance
    discard (takesWord "not")
    return some .comparison
  | .name "not" => do
    if (← second?) == some (.name "in") then
      advance
      advance
      return some .comparison
    return none
  | _ => takesMarkIn comparisonMarks .comparison

def takesLogical : Parse (Option Form) := do
  if ← takesWord "or" then return some .logical
  return if ← takesWord "and" then some .logical else none

/-! ## Strings -/

/-- the texts of adjacent strings as one -/
def joinTexts (parts : List (TextMode × String)) : Expr :=
  if parts.any fun p => p.1.template then .template
  else if parts.any fun p => p.1.bytes then .bytes
  else .text (String.join (parts.map (·.2)))

def string? : Parse (Option (TextMode × String)) := do
  match ← token with
  | .text mode body => do
    let start ← line
    advance
    if mode.bytes && !body.toList.all Text.isAscii then complain .asciiBytes start
    match Literal.decode mode body with
    | .ok value => return some (mode, value)
    | .error complaint => complain complaint start
  | _ => return none

def strings : Parse Expr := do
  let start ← line
  let parts ← many string?
  if (parts.any fun p => p.1.bytes) && (parts.any fun p => !p.1.bytes) then complain .mixedLiterals start
  return joinTexts parts

/-! ## Operations -/

/-- a primary expression with signs and `await` in front, and powers of it -/
def factor (primary : Parse Expr) : Parse Expr := do
  let signed : Parse Bool := do
    let found ← many (takesMarkIn signs .arithmetic)
    return !found.isEmpty
  let awaited : Parse Expr := do
    if ← takesWord "await" then return .compound .awaited [← primary]
    primary
  let signedFirst ← signed
  let first ← awaited
  let powers ← many do
    if ← takesMark "**" then
      discard signed
      return some (← awaited)
    return none
  if signedFirst || !powers.isEmpty then return .compound .arithmetic (first :: powers)
  return first

/-- an operand of comparisons -/
def operand (primary : Parse Expr) : Parse Expr := operands (takesMarkIn arithmeticMarks .arithmetic) (factor primary)

def comparison (primary : Parse Expr) : Parse Expr := operands takesComparison (operand primary)

/-- comparisons with `and`, `or` and `not` -/
def logical (primary : Parse Expr) : Parse Expr :=
  operands takesLogical do
    let negations ← many do
      if ← takesWord "not" then return some ()
      return none
    let e ← comparison primary
    return if negations.isEmpty then e else .compound .logical [e]

/-! ## Mistakes -/

/-- does this reading go through from here, so that `holds` is true behind it? No lexeme is taken. -/
def leadsTo {α : Type} (p : Parse α) (holds : Parse Bool) : Parse Bool := do
  let before ← get
  let found ← do
    if (← attempt p).isSome then holds else pure false
  set before
  return found

/-- an expression right behind another: `start` and `follower` are the first two tokens of the one before -/
def sideBySide (start : Lexeme) (follower : Option Token) (first : Expr) (next : Parse Expr) (several : Parse Expr) :
    Parse Unit := do
  if !startsExpression (← token) then return ()
  let softStart := match start.token with
    | .name text => softWords.contains text
    | _ => false
  let textFollows := match start.token, follower with
    | .name text, some (.text ..) => !Module.isReserved text
    | _, _ => false
  let legacy := match first with
    | .name "print" => some "print"
    | .name "exec" => some "exec"
    | _ => none
  match legacy with
  | some name => if ← leadsTo several (return true) then complain (.legacyCall name) start.line
  | none =>
    if softStart || textFollows then return ()
    if ← leadsTo next (return (← depth) != 0) then complain .missingComma start.line

/-- one equals sign behind `e`, which starts on line `start`, where a comparison may have been meant -/
def singleEquals (primary : Parse Expr) (e : Expr) (start : Nat) : Parse Unit := do
  let alone : Parse Bool := do return !((← isMark "=") || (← isMark ":="))
  let behind : Parse Unit := do
    needMark "="
    discard (operand primary)
  if ← leadsTo behind alone then
    match e with
    | .name _ => complain .comparison start
    | _ => if e.isOperand && !e.isDisplay then complain (.assignToHere e.what) start

/-! ## Parameters -/

/-- the parts of a parameter list, as far as their order goes -/
inductive Parameter where
  | plain (standard : Bool)
  | star (named : Bool)
  | keywords
  | slash
  deriving DecidableEq, Repr

/-- what is wrong with the order of parameters; `defaults` says that one with a default came before -/
def orderFault? (defaults : Bool) : List Parameter → Option Complaint
  | [] => none
  | .plain false :: rest => if defaults then some .defaultOrder else orderFault? false rest
  | .plain true :: rest => orderFault? true rest
  | .slash :: rest => orderFault? defaults rest
  | .star true :: _ => none
  | .star false :: .plain _ :: _ => none
  | .star false :: _ => some .bareStar
  | .keywords :: _ => none

def isStar : Parameter → Bool
  | .star _ => true
  | _ => false

/-- is each kind of parameter where it may be? -/
def wellPlaced (params : List Parameter) : Bool :=
  let beforeStar := params.takeWhile (!isStar ·)
  let behindStar := params.drop (beforeStar.length + 1)
  params.head? != some .slash && beforeStar.count .slash ≤ 1 && behindStar.count .slash == 0 &&
    behindStar.all (!isStar ·) && !(params.dropLast.contains .keywords)

/-- a parameter; `type` reads the type behind its name -/
def parameter (inner : Parse Expr) (type : Parse Unit) (closing : String) : Parse Parameter := do
  if ← takesMark "/" then return .slash
  if ← takesMark "**" then do
    discard needName
    type
    return .keywords
  if ← takesMark "*" then do
    if (← isMark ",") || (← isMark closing) then return .star false
    discard needName
    type
    return .star true
  discard needName
  type
  if ← takesMark "=" then do
    discard inner
    return .plain true
  return .plain false

/-- items with commas up to a closing mark, which is taken; a last comma may stand alone -/
def itemsUpTo {α : Type} (closing : String) (item : Parse α) (before : List α) : Parse (List α) :=
  iterate (fun found => do
    if ← takesMark closing then return .inr found
    if !found.isEmpty then
      needMark ","
      if ← takesMark closing then return .inr found
    return .inl (found ++ [← item])) before

/-- parameters up to a closing mark -/
def parameters (inner : Parse Expr) (type : Parse Unit) (closing : String) : Parse Unit := do
  let start ← line
  let params ← itemsUpTo closing (parameter inner type closing) []
  match orderFault? false params with
  | some complaint => complain complaint start
  | none => if !wellPlaced params then refuse

def lambda (inner : Parse Expr) : Parse Expr := do
  needWord "lambda"
  parameters inner (return ()) ":"
  return .compound .lambda [← inner]

/-! ## Brackets -/

section Brackets

/- the reading of expressions inside brackets, and that of primary expressions -/
variable (inner primary : Parse Expr)

/-- a name that takes a value on the way, or another reading -/
def walrusOr (other : Parse Expr) : Parse Expr := do
  match ← token, ← second? with
  | .name _, some (.mark ":=") => do
    let name ← needName
    advance
    return .compound .named [.name name, ← inner]
  | _, _ => other

/-- an expression that may give a name its value on the way -/
def namedExpression : Parse Expr := do
  let start ← line
  let e ← walrusOr inner inner
  if ← isMark ":=" then
    if ← leadsTo (do
      advance
      inner) (return true) then complain (.namedTarget e.what) start
  if ← isMark "=" then singleEquals primary e start
  return e

/-- an item of a bracket, perhaps starred -/
def starNamed : Parse Expr := do
  if ← takesMark "*" then return .starred (← operand primary)
  namedExpression inner primary

/-- an operand of comparisons, perhaps starred -/
def starOperand : Parse Expr := do
  if ← takesMark "*" then return .starred (← operand primary)
  operand primary

def starExpression : Parse Expr := do
  if ← takesMark "*" then return .starred (← operand primary)
  inner

/-- one or several items with commas; a last comma may stand alone before what `more` does not accept -/
def row (item : Parse Expr) (more : Token → Bool) : Parse Expr := do
  let first ← item
  if !(← isMark ",") then return first
  let found ← iterate (fun found => do
    if !(← takesMark ",") then return .inr found
    if !more (← token) then return .inr found
    return .inl (found ++ [← item])) [first]
  return .row found

/-- one or several expressions with commas, perhaps starred -/
def starExpressions : Parse Expr :=
  row (starExpression inner primary) fun t => startsExpression t || t == .mark "*"

def yieldExpression : Parse Expr := do
  needWord "yield"
  if ← takesWord "from" then return .compound .yielded [← inner]
  let next ← token
  if startsExpression next || next == .mark "*" then return .compound .yielded [← starExpressions inner primary]
  return .compound .yielded []

/-- the targets of a loop -/
def loopTargets : Parse Expr := do
  let start ← line
  let targets ← row (starOperand primary) fun t => t != .name "in"
  match targets.badTarget? .loop with
  | some bad => complain (.assignTo bad.what) start
  | none => return targets

/-- does a clause of a comprehension start here? -/
def startsClause : Parse Bool := do return (← isWord "for") || (← isWord "async")

/-- the clauses of a comprehension of `item`, which starts on line `start` -/
def clauses (item : Expr) (start : Nat) : Parse Unit := do
  match item with
  | .starred _ => complain .starredComprehension start
  | _ => pure ()
  discard (many do
    if !(← startsClause) then return none
    discard (takesWord "async")
    needWord "for"
    discard (loopTargets primary)
    needWord "in"
    discard (logical primary)
    discard (many do
      if !(← takesWord "if") then return none
      return some (← logical primary))
    return some ())

/-- behind an opening parenthesis -/
def parenthesised : Parse Expr := do
  if ← takesMark ")" then return .tuple []
  if ← isWord "yield" then do
    let e ← yieldExpression inner primary
    needMark ")"
    return .group e
  let start ← line
  if ← takesMark "**" then do
    if ← leadsTo inner (isMark ")") then complain (.starredGroup true) start
    refuse
  let first ← starNamed inner primary
  if ← startsClause then
    clauses primary first start
    needMark ")"
    return .compound .generator [first]
  if ← isMark "," then return .tuple (← itemsUpTo ")" (starNamed inner primary) [first])
  needMark ")"
  match first with
  | .starred _ => complain (.starredGroup false) start
  | _ => return .group first

/-- behind an opening square bracket -/
def listed : Parse Expr := do
  if ← takesMark "]" then return .list []
  let start ← line
  let first ← starNamed inner primary
  if ← startsClause then
    clauses primary first start
    needMark "]"
    return .compound .listComprehension [first]
  return .list (← itemsUpTo "]" (starNamed inner primary) [first])

def dictValue : Parse Expr := do
  if (← isMark "\x7d") || (← isMark ",") then complain .missingDictValue (← line)
  inner

/-- an entry of a dictionary, or a mapping whose entries are taken -/
def dictEntry : Parse (Expr × Expr) := do
  if ← takesMark "**" then do
    let mapping ← operand primary
    return (.starred mapping, mapping)
  let start ← line
  let key ← inner
  if !(← takesMark ":") then complain .missingDictColon start
  return (key, ← dictValue inner)

/-- behind an opening brace -/
def braced : Parse Expr := do
  if ← takesMark "\x7d" then return .dict []
  if ← isMark "**" then do
    let first ← dictEntry inner primary
    return .dict (← itemsUpTo "\x7d" (dictEntry inner primary) [first])
  let start ← line
  let first ← starNamed inner primary
  if ← takesMark ":" then do
    let value ← dictValue inner
    if ← startsClause then
      clauses primary first start
      needMark "\x7d"
      return .compound .dictComprehension [first, value]
    return .dict (← itemsUpTo "\x7d" (dictEntry inner primary) [(first, value)])
  if ← startsClause then
    clauses primary first start
    needMark "\x7d"
    return .compound .setComprehension [first]
  return .set (← itemsUpTo "\x7d" (starNamed inner primary) [first])

/-! ## Calls and items -/

/-- what was seen of the arguments of a call -/
structure Arguments where
  positional : List Expr := []
  keywords : List (String × Expr) := []
  /-- was a mapping unpacked? -/
  unpacked : Bool := false

def argument (given : Arguments) : Parse Arguments := do
  let start ← line
  if ← takesMark "*" then do
    if given.unpacked then complain .starredAfterKeywords start
    return { given with positional := given.positional ++ [.starred (← inner)] }
  if ← takesMark "**" then
    return { given with keywords := given.keywords ++ [("**", ← inner)], unpacked := true }
  match ← token, ← second? with
  | .name text, some (.mark "=") => do
    match valueWord? text with
    | some word => complain (.assignTo (Expr.word word).what) start
    | none => do
      let name ← needName
      advance
      return { given with keywords := given.keywords ++ [(name, ← inner)] }
  | _, _ => do
    let item ← walrusOr inner inner
    if ← isMark "=" then complain .keywordAssignment start
    if ← startsClause then do
      clauses primary item start
      let another := (← isMark ",") && (← second?) != some (.mark ")")
      if !(given.positional.isEmpty && given.keywords.isEmpty) || another then complain .generatorParentheses start
      return { given with positional := given.positional ++ [.compound .generator [item]] }
    if !given.keywords.isEmpty then complain (.afterKeywords given.unpacked) (← line)
    return { given with positional := given.positional ++ [item] }

/-- the arguments of a call up to the closing parenthesis, which is taken -/
def arguments : Parse Arguments := do
  if ← takesMark ")" then return {}
  iterate (fun given => do
    let given ← argument inner primary given
    if ← takesMark ")" then return .inr given
    needMark ","
    if ← takesMark ")" then return .inr given
    return .inl given) {}

/-- a bound of a slice, if there is one -/
def bound : Parse Unit := do
  if (← isMark ":") || (← isMark ",") || (← isMark "]") then return ()
  discard inner

def slice : Parse Expr := do
  if ← takesMark ":" then do
    bound inner
    if ← takesMark ":" then bound inner
    return .compound .slice []
  let first ← starNamed inner primary
  if ← takesMark ":" then do
    bound inner
    if ← takesMark ":" then bound inner
    return .compound .slice [first]
  return first

/-- what stands between the brackets of an item -/
def slices : Parse Expr := do
  let first ← slice inner primary
  if ← takesMark "]" then return first
  return .row (← itemsUpTo "]" (slice inner primary) [first])

def atom : Parse Expr := do
  match ← token with
  | .name text =>
    match valueWord? text with
    | some word => do
      advance
      return .word word
    | none => return .name (← needName)
  | .number _ => do
    advance
    return .number
  | .text .. => strings
  | .mark "..." => do
    advance
    return .word .ellipsis
  | .mark "(" => do
    advance
    parenthesised inner primary
  | .mark "[" => do
    advance
    listed inner primary
  | .mark "\x7b" => do
    advance
    braced inner primary
  | _ => refuse

/-- members, calls and items behind an atom -/
def trailers (first : Expr) : Parse Expr :=
  iterate (fun base => do
    if ← takesMark "." then return .inl (.member base (← needName))
    if ← takesMark "(" then do
      let given ← arguments inner primary
      return .inl (.call base given.positional given.keywords)
    if ← takesMark "[" then return .inl (.subscript base (← slices inner primary))
    return .inr base) first

end Brackets

mutual

/-- an expression, inside as many brackets as `depth` says -/
def expressionUpTo : (depth : Nat) → Parse Expr
  | 0 => refuse
  | depth + 1 => do
    let inner := expressionUpTo depth
    let primary := primaryUpTo depth
    if ← isWord "lambda" then lambda inner
    else do
      let start ← peek
      let follower ← second?
      let first ← logical primary
      sideBySide start follower first inner (starExpressions inner primary)
      if ← takesWord "if" then do
        let condition ← logical primary
        if ← takesWord "else" then return .compound .conditional [condition, first, ← inner]
        if ← isMark ":" then refuse
        complain .missingElse start.line
      return first

/-- an atom with what is behind it -/
def primaryUpTo : (depth : Nat) → Parse Expr
  | 0 => refuse
  | depth + 1 => do
    let inner := expressionUpTo depth
    let primary := primaryUpTo depth
    trailers inner primary (← atom inner primary)

end

/-- the number of lexemes that are left bounds the depth -/
def depthFor (a : Ahead) : Nat := 2 * a.bound + 4

def expression : Parse Expr := fun a => expressionUpTo (depthFor a) a

def primary : Parse Expr := fun a => primaryUpTo (depthFor a) a

end ApiTypes.Source
