/-
Values as literals of the generated language, and as running text.

`literal` writes a value so that the generated language reads it back: quoted texts, bracketed sequences, a comma after
the single item of a tuple. `display` is the form inside messages and locations: texts stand for themselves, dates in
calendar form, all else as literals.
-/
import ApiTypes.Number.Decimal
import ApiTypes.Text.Quoted
import ApiTypes.Value.Basic

namespace ApiTypes

namespace ValueType

/-- the name of the type in messages -/
def name : ValueType → String
  | null => "NoneType"
  | bool => "bool"
  | int => "int"
  | float => "float"
  | str => "str"
  | date => "datetime.date"
  | moment => "datetime.datetime"
  | list => "list"
  | tuple => "tuple"
  | map => "dict"

/-- the name without the module that defines the type -/
def shortName : ValueType → String
  | date => "date"
  | moment => "datetime"
  | type => type.name

end ValueType

namespace Value

mutual

def literal : Value → String
  | null => "None"
  | bool true => "True"
  | bool false => "False"
  | int n => toString n
  | float x => x.literal
  | str s => Text.quoted s
  | date d => Calendar.dateLiteral d
  | moment m => Calendar.momentLiteral m
  | list items => "[" ++ ", ".intercalate (literals items) ++ "]"
  | tuple [item] => "(" ++ literal item ++ ",)"
  | tuple items => "(" ++ ", ".intercalate (literals items) ++ ")"
  | map entries => "\x7b" ++ ", ".intercalate (entryLiterals entries) ++ "\x7d"

def literals : List Value → List String
  | [] => []
  | v :: rest => literal v :: literals rest

def entryLiterals : List (Value × Value) → List String
  | [] => []
  | (k, v) :: rest => (literal k ++ ": " ++ literal v) :: entryLiterals rest

end

/-- the value inside a message or a location -/
def display : Value → String
  | str s => s
  | date d => Calendar.dateText d
  | moment m => Calendar.momentText " " m
  | v => v.literal

end Value

end ApiTypes
