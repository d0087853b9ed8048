/-
Places inside a document, as errors report them.

A location is a root, given as text, and the steps that lead from it: names of the document format, keys of the
document's own mappings, and positions in lists. Its text joins the root and the steps with slashes.
-/
import ApiTypes.Value.Literal

namespace ApiTypes

inductive Location.Step where
  /-- a name of the document format, such as `properties` -/
  | word (name : String)
  /-- a key of one of the document's own mappings -/
  | key (key : Value)
  /-- a position in a list -/
  | index (i : Nat)
  deriving Repr

structure Location where
  root : String
  steps : List Location.Step := []
  deriving Repr

namespace Location

/-- the top of a document -/
def top : Location := ⟨"#", []⟩

def Step.text : Step → String
  | word name => name
  | key k => k.display
  | index i => toString i

def down (l : Location) (steps : List Step) : Location := ⟨l.root, l.steps ++ steps⟩

def text (l : Location) : String :=
  l.steps.foldl (fun text step => text ++ "/" ++ step.text) l.root

/-- the place of a property of the mapping at `l` -/
def property (l : Location) (name : Value) : Location := l.down [.word "properties", .key name]

def items (l : Location) : Location := l.down [.word "items"]

end Location

end ApiTypes
