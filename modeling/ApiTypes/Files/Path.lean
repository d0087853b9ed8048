/-
Paths of files.

A path is read from a word by its slashes: empty parts and parts that stand for the same place are left out, parts that
lead upwards are kept. What goes wrong at a path is a `FileFault`.
-/
import ApiTypes.Text.Quoted

namespace ApiTypes

structure Path where
  /-- the slashes that an absolute path starts with -/
  root : String := ""
  parts : List String
  deriving DecidableEq, Repr

namespace Path

/-- the texts between slashes, given the one read so far in reverse -/
def splitFrom (part : List Char) : List Char → List String
  | [] => [String.ofList part.reverse]
  | c :: rest => if c = '/' then String.ofList part.reverse :: splitFrom [] rest else splitFrom (c :: part) rest

/-- the texts between slashes -/
def split (word : String) : List String := splitFrom [] word.toList

/-- a part that leads to the place where it stands -/
def isHere (part : String) : Bool := part = "" || part = "."

/-- two slashes are a root of their own, more are one -/
def rootOf (word : List Char) : String :=
  match word with
  | '/' :: '/' :: '/' :: _ => "/"
  | '/' :: '/' :: _ => "//"
  | '/' :: _ => "/"
  | _ => ""

def ofText (word : String) : Path := ⟨rootOf word.toList, (split word).filter fun part => !isHere part⟩

def text (p : Path) : String :=
  if p.parts.isEmpty && p.root = "" then "." else p.root ++ "/".intercalate p.parts

def parent (p : Path) : Path := { p with parts := p.parts.dropLast }

def child (p : Path) (name : String) : Path := { p with parts := p.parts ++ [name] }

end Path

/-- what goes wrong with a file -/
inductive FileCause where
  | missing
  | taken
  | notDirectory
  | isDirectory
  deriving DecidableEq, Repr

def FileCause.message : FileCause → String
  | missing => "[Errno 2] No such file or directory"
  | taken => "[Errno 17] File exists"
  | notDirectory => "[Errno 20] Not a directory"
  | isDirectory => "[Errno 21] Is a directory"

structure FileFault where
  cause : FileCause
  path : Path
  deriving DecidableEq, Repr

def FileFault.message (f : FileFault) : String := f.cause.message ++ ": " ++ Text.quoted f.path.text

end ApiTypes
