/-
Notices: what a run reports beside its result.

A notice names its event; `level`, `channel` and `message` say how a log shows it.
-/
import ApiTypes.Value.Literal

namespace ApiTypes

inductive Level where
  | debug
  | info
  | warning
  deriving DecidableEq, Repr

def Level.name : Level → String
  | debug => "DEBUG"
  | info => "INFO"
  | warning => "WARNING"

inductive Notice where
  /-- a component requires names that it does not define -/
  | unknownRequired (location : String) (names : List Value)
  | builtComponents (count : Nat)
  /-- a path entry whose method has no model -/
  | skippedMethod (method : String) (path : Value)
  /-- a path entry whose operation lacks what a descriptor needs -/
  | skippedMetadata (method : String) (path : Value)
  /-- an operation whose request body has no model -/
  | droppedBody (method : String) (path : Value) (contentType : String)
  | parsed (components operations : Nat)
  /-- a scalar type that the generated language has no type for -/
  | unmappedScalar (name : String)
  /-- a value that is no schema node at all -/
  | unhandledNode (node : Value)
  /-- an argument whose identifier is taken by an earlier one -/
  | collidingArgument (operation argument : String)
  /-- a response field that the description does not declare -/
  | undeclaredField (name : Value)
  deriving Repr

namespace Notice

def level : Notice → Level
  | unknownRequired .. => .debug
  | builtComponents .. => .debug
  | skippedMethod .. => .debug
  | skippedMetadata .. => .debug
  | droppedBody .. => .info
  | parsed .. => .info
  | unmappedScalar .. => .warning
  | unhandledNode .. => .warning
  | collidingArgument .. => .debug
  | undeclaredField .. => .warning

/-- the log channel of the part that reports the event -/
def channel : Notice → String
  | unknownRequired .. => "parser.components"
  | builtComponents .. => "parser.documentation"
  | skippedMethod .. => "parser.operations"
  | skippedMetadata .. => "parser.operations"
  | droppedBody .. => "parser.documentation"
  | parsed .. => "parser.documentation"
  | unmappedScalar .. => "generator.types"
  | unhandledNode .. => "generator.types"
  | collidingArgument .. => "generator.printer"
  | undeclaredField .. => "decoder"

def message : Notice → String
  | unknownRequired location names => location ++ " lists unknown required properties: " ++ (Value.list names).literal
  | builtComponents count => "Built " ++ toString count ++ " components"
  | skippedMethod method path => "Skipping " ++ method ++ " " ++ path.display ++ ": method not modelled"
  | skippedMetadata method path => "Skipping " ++ method ++ " " ++ path.display ++ ": incomplete operation metadata"
  | droppedBody method path contentType =>
    "Dropping " ++ method ++ " " ++ path.display ++ ": unsupported request body " ++ contentType
  | parsed components operations =>
    "Parsed " ++ toString components ++ " components and " ++ toString operations ++ " operations"
  | unmappedScalar name => "No type mapping for scalar " ++ Text.quoted name ++ ", emitting Any"
  | unhandledNode node => "Unhandled IR node " ++ node.literal ++ ", emitting Any"
  | collidingArgument operation argument =>
    operation ++ ": " ++ Text.quoted argument ++ " collides with an earlier argument, keeping the first"
  | undeclaredField name =>
    "Response contains undeclared field " ++ name.literal ++
      "; the API may have changed since the description was generated"

end Notice

end ApiTypes
