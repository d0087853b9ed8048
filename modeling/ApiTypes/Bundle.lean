/-
Bundles: module files that belong together, and what is wrong with them.

Every module must be readable. Where all are, every name that one imports from a module beside it must be defined there.
A module is named by its file, whose name ends in `.py`; other files are not looked at.
-/
import ApiTypes.Fault
import ApiTypes.Source.Module

namespace ApiTypes

/-- the texts of files, by name -/
abbrev Bundle := List (String × String)

/-- what is wrong with a module -/
inductive Defect where
  | unreadable (fault : Source.Fault)
  /-- a module that is imported from is not in the bundle -/
  | missingModule (file : String)
  /-- a module that is imported from does not define these names -/
  | undefinedNames (file : String) (names : List String)
  deriving DecidableEq, Repr

def Defect.message : Defect → String
  | unreadable fault => "SyntaxError: " ++ fault.message
  | missingModule file => "imports missing module " ++ file
  | undefinedNames file names => file ++ " does not define " ++ ", ".intercalate names

namespace Bundle

/-- files and what is wrong with them -/
abbrev Findings := List (String × Defect)

def fileOf (module : String) : String := module ++ ".py"

def isModule (file : String) : Bool := ".py".toList.isSuffixOf file.toList

def modules (bundle : Bundle) : Bundle := bundle.filter fun f => isModule f.1

/-! ## Reading -/

/-- why a text cannot be read; a null character is no defect but a failure of the check -/
def readDefect? (text : String) : Except Fault (Option Defect) :=
  match Source.read text with
  | .ok _ => .ok none
  | .error fault => if fault.complaint = .nullCharacter then .error (.source fault) else .ok (some (.unreadable fault))

def findings (defect? : String → Except Fault (Option Defect)) : Bundle → Except Fault Findings
  | [] => .ok []
  | (file, text) :: rest => do
    let found ← defect? text
    return (found.map (file, ·)).toList ++ (← findings defect? rest)

/-- the modules that cannot be read -/
def unreadable (bundle : Bundle) : Except Fault Findings := findings readDefect? bundle.modules

/-! ## Imports -/

/-- what is wrong with an import of names from the module beside -/
def importDefect? (bundle : Bundle) (module : String) (names : List String) : Except Fault (Option Defect) :=
  match bundle.lookup (fileOf module) with
  | none => .ok (some (.missingModule (fileOf module)))
  | some text =>
    match Source.read text with
    | .error fault => .error (.source fault)
    | .ok statements =>
      let undefined := (Text.sorted (Text.gather [] names)).filter fun name =>
        !(Source.definedNames statements).contains name
      .ok (if undefined.isEmpty then none else some (.undefinedNames (fileOf module) undefined))

/-- the first import with something wrong -/
def firstImportDefect? (bundle : Bundle) : List (String × List String) → Except Fault (Option Defect)
  | [] => .ok none
  | (module, names) :: rest => do
    match ← bundle.importDefect? module names with
    | some defect => return some defect
    | none => firstImportDefect? bundle rest

/-- the modules with an import that does not resolve -/
def unresolved (bundle : Bundle) : Except Fault Findings :=
  findings (fun text =>
    match Source.read text with
    | .error fault => .error (.source fault)
    | .ok statements => bundle.firstImportDefect? (Source.importsBeside statements)) bundle.modules

/-- what is wrong with the bundle; imports are only looked at when every module can be read -/
def defects (bundle : Bundle) : Except Fault Findings := do
  let found ← bundle.unreadable
  if found.isEmpty then bundle.unresolved else return found

end Bundle

end ApiTypes
