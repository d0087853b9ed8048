/-
The program: looks up what a command line names, makes its plan and carries that out.
-/
import ApiTypes.CommandLine.Plan

open ApiTypes ApiTypes.CommandLine

/-- what a word leads to on disk -/
def lookOnDisk (word : String) : IO Found := do
  try
    let path ← IO.FS.realPath word
    if ← path.isDir then return .directory
    return .file (← IO.FS.readBinFile path).toList
  catch _ => return .nothing

def carryOutOnDisk : Effect → IO Unit
  | .print text => IO.print text
  | .warn text => IO.eprint text
  | .makeDirectory path => IO.FS.createDirAll path.text
  | .write path text => IO.FS.writeFile path.text text

def finish : Ending → IO UInt32
  | .exit code => return code.toUInt32
  | .fault fault => do
    IO.eprint (errorLine fault.message)
    return 1

def main (words : List String) : IO UInt32 := do
  let extension ← IO.getEnv "OPENAPI_TYPEGEN_GROUP_EXTENSION"
  let lookUps := match Request.read words extension with
    | .ok request => request.lookUps
    | .error _ => []
  let found ← lookUps.mapM fun word => return (word, ← lookOnDisk word)
  let plan := plan words extension fun word => (found.lookup word).getD .nothing
  plan.effects.forM carryOutOnDisk
  finish plan.ending
