/-
Blocks: the typed dictionaries of a generated module.

A block declares fields with type expressions. It is printed as a class when every field name can stand as it is, and as
a call with quoted names otherwise. A field that is not required is marked so in either form.
-/
import ApiTypes.Module.Name
import ApiTypes.Text.Quoted

namespace ApiTypes.Module

/-- the type expression that stands beside a field or argument -/
inductive TypeExpr where
  /-- a type of the language by its text -/
  | word (text : String)
  | list (item : TypeExpr)
  /-- the class of a component -/
  | component (name : String)
  /-- the class of a hoisted record -/
  | record (name : String)
  deriving DecidableEq, Repr

namespace TypeExpr

def any : TypeExpr := .word "Any"

/-- a type of the language; lists and dictionaries of unknown content hold anything -/
def builtin (name : String) : TypeExpr :=
  .word (if name = "list" then "list[Any]" else if name = "dict" then "dict[str, Any]" else name)

/-- a record where no class can be declared for it -/
def dictionary : TypeExpr := .word "dict[str, Any]"

def text : TypeExpr → String
  | word t => t
  | list item => "list[" ++ item.text ++ "]"
  | component name => name
  | record name => name

/-- the component classes that a type expression mentions -/
def components : TypeExpr → List String
  | word _ => []
  | list item => item.components
  | component name => [name]
  | record _ => []

end TypeExpr

/-- a declared field -/
structure Line where
  field : String
  type : TypeExpr
  description : String := ""
  required : Bool
  deriving DecidableEq, Repr

structure Block where
  name : String
  lines : List Line
  deriving DecidableEq, Repr

namespace Line

def indent : String := "    "

/-- the type expression with the mark of a field that may be absent -/
def marked (required : Bool) (type : String) : String :=
  if required then type else "NotRequired[" ++ type ++ "]"

/-- the lines of a class body: the description as a comment, then the field -/
def classLines (l : Line) : List String :=
  (if l.description = "" then [] else [indent ++ "# " ++ Text.oneLine l.description]) ++
    [indent ++ l.field ++ ": " ++ marked l.required l.type.text]

theorem classLines_ne_nil (l : Line) : l.classLines ≠ [] :=
  List.append_ne_nil_of_right_ne_nil _ (List.cons_ne_nil _ _)

/-- the item of a call: name and type are quoted, the mark is not -/
def callItem (l : Line) : String :=
  Text.quoted l.field ++ ": " ++ marked l.required (Text.quoted l.type.text)

end Line

namespace Block

def isClass (b : Block) : Bool := b.lines.all fun l => isPlainField l.field

def classText (b : Block) : String :=
  let body := b.lines.flatMap Line.classLines
  "class " ++ b.name ++ "(TypedDict):\n" ++ (if body.isEmpty then Line.indent ++ "pass" else "\n".intercalate body)

def callText (b : Block) : String :=
  b.name ++ " = TypedDict(" ++ Text.quoted b.name ++ ", \x7b" ++ ", ".intercalate (b.lines.map Line.callItem) ++ "\x7d)"

def text (b : Block) : String := if b.isClass then b.classText else b.callText

end Block

end ApiTypes.Module
