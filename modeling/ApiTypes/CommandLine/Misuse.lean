/-
Misuses: what is wrong with a command line.

A misuse is reported below the usage of the command that it concerns; a value that is missing or refused is reported
alone.
-/
import ApiTypes.Text.Quoted
import ApiTypes.Text.Similar

namespace ApiTypes.CommandLine

/-- the name of the program, as it calls itself -/
def program : String := "main"

/-- what the program does to a description -/
inductive Command where
  | inspect
  | generate
  deriving DecidableEq, Repr

def Command.name : Command → String
  | inspect => "inspect"
  | generate => "generate"

def commands : List Command := [.generate, .inspect]

/-- the name of the argument that every command takes -/
def documentArgument : String := "DOC_PATH"

inductive Misuse where
  /-- an option that there is none of this name, with the names that it may have been meant to be -/
  | unknownOption (name : String) (similar : List String)
  | unknownCommand (name : String) (similar : List String)
  | valueMissing (option : String)
  | valueRefused (option : String)
  | noCommand
  | noDocument
  | noOutput
  | extraWords (first : String) (rest : List String)
  | missingFile (word : String)
  /-- a directory where the document is expected -/
  | documentIsDirectory (word : String)
  /-- a directory where a file is to be written -/
  | outputIsDirectory (word : String)
  /-- a file where a directory is to be made -/
  | outputIsFile (word : String)
  deriving DecidableEq, Repr

namespace Misuse

def inQuotes (name : String) : String := "'" ++ name ++ "'"

/-- the names that were perhaps meant -/
def suggestion : List String → String
  | [] => ""
  | [name] => " Did you mean " ++ Text.quoted name ++ "?"
  | names => " (Did you mean one of: " ++ ", ".intercalate ((Text.sorted names).map Text.quoted) ++ "?)"

def outputOption : String := inQuotes "-o" ++ " / " ++ inQuotes "--output"

def invalidValue (parameter explanation : String) : String :=
  "Invalid value for " ++ parameter ++ ": " ++ explanation

def message : Misuse → String
  | unknownOption name similar => "No such option " ++ Text.quoted name ++ "." ++ suggestion similar
  | unknownCommand name similar => "No such command " ++ Text.quoted name ++ "." ++ suggestion similar
  | valueMissing option => "Option " ++ Text.quoted option ++ " requires an argument."
  | valueRefused option => "Option " ++ Text.quoted option ++ " does not take a value."
  | noCommand => "Missing command."
  | noDocument => "Missing argument " ++ inQuotes documentArgument ++ "."
  | noOutput => "Missing option " ++ outputOption ++ "."
  | extraWords first [] => "Got unexpected extra argument (" ++ first ++ ")"
  | extraWords first rest => "Got unexpected extra arguments (" ++ " ".intercalate (first :: rest) ++ ")"
  | missingFile word =>
    invalidValue (inQuotes documentArgument) ("File " ++ Text.quoted word ++ " does not exist.")
  | documentIsDirectory word =>
    invalidValue (inQuotes documentArgument) ("File " ++ Text.quoted word ++ " is a directory.")
  | outputIsDirectory word => invalidValue outputOption ("File " ++ Text.quoted word ++ " is a directory.")
  | outputIsFile word => invalidValue outputOption ("Directory " ++ Text.quoted word ++ " is a file.")

/-- is the usage shown above the message? -/
def showsUsage : Misuse → Bool
  | valueMissing _ => false
  | valueRefused _ => false
  | _ => true

end Misuse

/-! ## Usage -/

/-- the words that call the program, or one of its commands -/
def call : Option Command → String
  | none => program
  | some command => program ++ " " ++ command.name

def usage (command : Option Command) : String :=
  "Usage: " ++ call command ++ " [OPTIONS] " ++ (if command.isNone then "COMMAND [ARGS]..." else documentArgument) ++
    "\n"

/-- a misuse of the program, or of one of its commands -/
def Misuse.report (misuse : Misuse) (command : Option Command) : String :=
  (if misuse.showsUsage then usage command ++ "Try '" ++ call command ++ " --help' for help.\n\n" else "") ++
    "Error: " ++ misuse.message ++ "\n"

end ApiTypes.CommandLine
