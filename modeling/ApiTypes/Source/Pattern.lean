/-
Patterns of source texts: what a value is held against in the cases of a `match` statement.

Only what is accepted matters here, so a reading of a pattern gives nothing. Every reading takes the reading `inner` of
the patterns inside brackets, so that only `patternUpTo` is recursive.
-/
import ApiTypes.Source.Expression

namespace ApiTypes.Source

open Parse

/-- does what follows a name say that the name is looked up, rather than bound? -/
def looksUp : Token → Bool
  | .mark text => [".", "(", "="].contains text
  | _ => false

/-! ## Names -/

/-- a name that is bound -/
def captured : Parse Unit := do
  if ← isWord "_" then refuse
  discard needName
  if looksUp (← token) then refuse

/-- what the items that are left are bound to, behind a star -/
def capturedRest : Parse Unit := do
  if !(← takesWord "_") then captured

/-- what the whole is bound to, behind `as` -/
def capturedWhole : Parse Unit := do
  let start ← line
  match ← token with
  | .name "_" => complain .blankTarget start
  | .name text =>
    if Module.isReserved text then
      if ← leadsTo expression (return true) then complain .patternTarget start
  | _ => if ← leadsTo expression (return true) then complain .patternTarget start
  captured

/-! ## Literals -/

/-- a number, perhaps with a sign in front, or the sum of a real and an imaginary one -/
def numberPattern : Parse Unit := do
  discard (takesMark "-")
  let start ← line
  match ← token with
  | .number imaginary => do
    advance
    if (← isMark "+") || (← isMark "-") then
      if imaginary then complain (.complexPart true) start
      advance
      match ← token with
      | .number true => advance
      | .number false => complain (.complexPart false) (← line)
      | _ => refuse
  | _ => refuse

/-- take a literal, if one comes next -/
def takesLiteral : Parse Bool := do
  match ← token with
  | .number _ => do
    numberPattern
    return true
  | .mark "-" => do
    numberPattern
    return true
  | .text .. => do
    discard strings
    return true
  | .name text =>
    if (valueWord? text).isSome then
      advance
      return true
    return false
  | _ => return false

/-! ## Brackets -/

section Brackets

/- the reading of the patterns inside brackets -/
variable (inner : Parse Unit)

/-- an item of a sequence; behind a star, all items that are left -/
def sequenceItem : Parse Unit := do
  if ← takesMark "*" then capturedRest else inner

/-- behind an opening parenthesis: a pattern, or a sequence where a comma is behind the first item -/
def roundPattern : Parse Unit := do
  if ← takesMark ")" then return ()
  let starred ← isMark "*"
  sequenceItem inner
  if ← isMark "," then discard (itemsUpTo ")" (sequenceItem inner) [()])
  else if starred then refuse
  else needMark ")"

/-- an entry of a mapping; is it the one for all entries that are left? -/
def mappingEntry : Parse Bool := do
  if ← takesMark "**" then do
    captured
    return true
  if !(← takesLiteral) then
    if (← memberNames).length < 2 then refuse
  needMark ":"
  inner
  return false

/-- behind an opening brace -/
def mappingPattern : Parse Unit := do
  if ← takesMark "\x7d" then return ()
  iterate (fun () => do
    let last ← mappingEntry inner
    if ← takesMark "\x7d" then return .inr ()
    needMark ","
    if ← takesMark "\x7d" then return .inr ()
    if last then refuse
    return .inl ()) ()

/-- what the attributes of an instance are held against, behind an opening parenthesis -/
def classPattern : Parse Unit := do
  if ← takesMark ")" then return ()
  iterate (fun keyed => do
    let start ← line
    let keyword := (← second?) == some (.mark "=")
    if keyword then
      discard needName
      advance
    inner
    if keyed && !keyword then complain .positionalPattern start
    if ← takesMark ")" then return .inr ()
    needMark ","
    if ← takesMark ")" then return .inr ()
    return .inl (keyed || keyword)) false

/-- a name that is bound, a value to compare with, or a class -/
def namePattern : Parse Unit := do
  if ← takesWord "_" then return ()
  discard memberNames
  if ← takesMark "(" then classPattern inner
  else if looksUp (← token) then refuse

/-- a pattern without alternatives -/
def closedPattern : Parse Unit := do
  if ← takesLiteral then return ()
  if ← takesMark "(" then roundPattern inner
  else if ← takesMark "[" then discard (itemsUpTo "]" (sequenceItem inner) [])
  else if ← takesMark "\x7b" then mappingPattern inner
  else namePattern inner

/-- alternatives, perhaps with a name for the whole -/
def wholePattern : Parse Unit := do
  closedPattern inner
  discard (many do
    if ← takesMark "|" then return some (← closedPattern inner)
    return none)
  if ← takesWord "as" then capturedWhole

end Brackets

/-- a pattern, inside as many brackets as `depth` says -/
def patternUpTo : (depth : Nat) → Parse Unit
  | 0 => refuse
  | depth + 1 => wholePattern (patternUpTo depth)

/-- a pattern; the number of lexemes that are left bounds the depth -/
def pattern : Parse Unit := fun a => patternUpTo (a.bound + 1) a

/-- does the head of a case go on with this token behind its patterns? -/
def endsPatterns : Token → Bool
  | .mark ":" => true
  | .name "if" => true
  | .newline => true
  | _ => false

/-- a pattern, or a sequence without brackets -/
def patterns : Parse Unit := do
  let starred ← isMark "*"
  sequenceItem pattern
  if !(← isMark ",") then
    if starred then refuse
  discard (many do
    if !(← takesMark ",") then return none
    if endsPatterns (← token) then return none
    return some (← sequenceItem pattern))

end ApiTypes.Source
