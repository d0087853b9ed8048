/-
Stubs: the functions of the operations module.

A stub takes the parameters of its operation, then the required properties of its body, then the optional ones. Two
arguments of one identifier cannot stand side by side; the first is kept and the other is reported. Required arguments
come first, then, by keyword only, those that may be left out.

Records are not hoisted into a signature: where one stands, a dictionary does.

Main statement: `components_flat`, the component classes in a type expression are those that its declaration refers to
through lists.
-/
import ApiTypes.Documentation
import ApiTypes.Module.Page
import ApiTypes.Module.Block
import ApiTypes.Declaration

namespace ApiTypes

/-- the components that a declaration refers to by itself or through lists -/
def Declaration.listed : Declaration → List String
  | .reference component => [component]
  | .list item => item.listed
  | _ => []

namespace Module

/-- the type expression of a declaration in a signature -/
def TypeExpr.flat : Declaration → TypeExpr
  | .builtin name => .builtin name
  | .list item => .list (flat item)
  | .record _ => .dictionary
  | .reference name => .component (className name)
  | .any _ => .any

structure Argument where
  /-- its identifier -/
  name : String
  type : Declaration
  required : Bool
  deriving Repr

structure Stub where
  /-- its identifier -/
  name : String
  /-- in order of entry -/
  arguments : List Argument
  response : Declaration
  /-- the lines of its documentation -/
  lines : List String
  deriving Repr

namespace Argument

def annotated (a : Argument) : String := a.name ++ ": " ++ (TypeExpr.flat a.type).text

/-- the argument in a signature; one that may be left out is none by default -/
def text (a : Argument) : String := if a.required then a.annotated else a.annotated ++ " | None = None"

/-- add an argument unless its identifier is taken -/
def accept (operation name : String) (type : Declaration) (required : Bool) (arguments : List Argument) :
    Noted (List Argument) :=
  if arguments.any (·.name == identifier name) then do
    Noted.report (.collidingArgument operation name)
    return arguments
  else return arguments ++ [⟨identifier name, type, required⟩]

def acceptParameters (operation : String) : List Parameter → List Argument → Noted (List Argument)
  | [], arguments => return arguments
  | p :: rest, arguments => do
    let type ← Declaration.ofNode (.scalar p.type)
    acceptParameters operation rest (← accept operation p.name type p.required arguments)

def acceptProperties (operation : String) (required : Bool) : List Property → List Argument → Noted (List Argument)
  | [], arguments => return arguments
  | p :: rest, arguments => do
    let type ← Declaration.ofNode p.type
    acceptProperties operation required rest (← accept operation p.name type required arguments)

/-- the arguments of an operation -/
def ofOperation (op : Operation) : Noted (List Argument) := do
  let arguments ← acceptParameters op.name op.arguments []
  match op.bodySchema? with
  | none => return arguments
  | some schema => do
    let arguments ← acceptProperties op.name true schema.required arguments
    acceptProperties op.name false schema.optional arguments

end Argument

namespace Stub

/-- quotes that would end the documentation are replaced -/
def softenQuotes : List Char → List Char
  | '"' :: '"' :: '"' :: rest => '\'' :: '\'' :: '\'' :: softenQuotes rest
  | c :: rest => c :: softenQuotes rest
  | [] => []

def doubleBackslashes (text : List Char) : List Char := text.flatMap fun c => if c = '\\' then ['\\', '\\'] else [c]

/-- a line of documentation between triple quotes -/
def lineText (line : String) : String := String.ofList (softenQuotes (doubleBackslashes line.toList))

def linesOf (op : Operation) : List String :=
  [Text.oneLine op.summary, "", op.method.name ++ " " ++ op.endpoint] ++ if op.deprecated then ["Deprecated."] else []

def ofOperation (op : Operation) : Noted Stub := do
  let arguments ← Argument.ofOperation op
  let response ← Declaration.ofNode op.responseType
  return ⟨identifier op.name, arguments, response, linesOf op⟩

/-- the arguments in the order of the signature, with the mark before those by keyword only -/
def signature (s : Stub) : List String :=
  let optional := s.arguments.filter (!·.required)
  (s.arguments.filter (·.required)).map Argument.text ++
    if optional.isEmpty then [] else "*" :: optional.map Argument.text

/-- the classes of the components that the signature mentions, in order of mention -/
def references (s : Stub) : List String :=
  (s.arguments.flatMap (·.type.listed) ++ s.response.listed).map className

def text (s : Stub) : String :=
  "def " ++ s.name ++ "(" ++ ", ".intercalate s.signature ++ ") -> " ++ (TypeExpr.flat s.response).text ++ ":\n" ++
    "    \"\"\"" ++ "\n    ".intercalate (s.lines.map lineText) ++ "\n    \"\"\"\n" ++
    "    raise NotImplementedError\n"

end Stub

theorem components_flat (type : Declaration) : (TypeExpr.flat type).components = type.listed.map className := by
  induction type using Declaration.listed.induct with
  | case1 component => rfl
  | case2 item ih => simpa [TypeExpr.flat, TypeExpr.components, Declaration.listed] using ih
  | case3 type h1 h2 =>
    cases type with
    | builtin name => rfl
    | list item => exact absurd rfl (h2 item)
    | record fields => rfl
    | reference component => exact absurd rfl (h1 component)
    | any reason => rfl

end Module

end ApiTypes
