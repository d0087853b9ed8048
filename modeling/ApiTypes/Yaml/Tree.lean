/-
Trees: the values of nodes.

A node has a value if its kind fits its shape, if its scalars have values, and if no key is a list or mapping. Of
several troubles the one that is met first counts: level by level, and in a level in the order of the text.
-/
import ApiTypes.Yaml.Layout
import ApiTypes.Yaml.Node
import ApiTypes.Yaml.Scalar

namespace ApiTypes.Yaml

namespace Node

/-! ## Values -/

def scalarValue (kind : Kind) (text : String) : Value :=
  match Scalar.read kind text with
  | some (.ok v) => v
  | _ => .null

mutual

/-- the value of a node without trouble -/
def toValue : Node → Value
  | scalar kind text => scalarValue kind text
  | list _ items => .list (itemValues items)
  | map _ entries => .map (Entries.ofPairs (entryValues entries))
  | unmerged _ => .null

def itemValues : List Node → List Value
  | [] => []
  | n :: rest => toValue n :: itemValues rest

def entryValues : List (Node × Node) → List (Value × Value)
  | [] => []
  | (k, v) :: rest => (toValue k, toValue v) :: entryValues rest

end

/-! ## Troubles -/

/-- is the node said to be a list or mapping, whatever its shape? -/
def isCollection (n : Node) : Bool := n.kind == .list || n.kind == .map

/-- the trouble with a node that is not said to be a list or mapping -/
def scalarTrouble? (n : Node) : Option Trouble :=
  if n.isCollection then none
  else
    match n with
    | scalar kind text =>
      match Scalar.read kind text with
      | some (.ok _) => none
      | some (.error cause) => some (.scalar cause)
      | none => some .malformed
    | _ => some .malformed

def keyTrouble? (n : Node) : Option Trouble :=
  match n.scalarTrouble? with
  | some trouble => some trouble
  | none => if n.isCollection then some .malformed else none

def entryTrouble? (entry : Node × Node) : Option Trouble :=
  match entry.1.keyTrouble? with
  | some trouble => some trouble
  | none => entry.2.scalarTrouble?

/-- the trouble with a list or mapping itself -/
def collectionTrouble? : Node → Option Trouble
  | list .list items => items.findSome? scalarTrouble?
  | map .map entries => entries.findSome? entryTrouble?
  | _ => some .malformed

/-- the lists and mappings directly in a node -/
def inner : Node → List Node
  | list _ items => items.filter isCollection
  | map _ entries => (entries.map (·.2)).filter isCollection
  | _ => []

mutual

/-- how many nodes there are in a node -/
def size : Node → Nat
  | list _ items => sizeOfItems items + 1
  | map _ entries => sizeOfEntries entries + 1
  | _ => 1

def sizeOfItems : List Node → Nat
  | [] => 0
  | n :: rest => size n + sizeOfItems rest

def sizeOfEntries : List (Node × Node) → Nat
  | [] => 0
  | (k, v) :: rest => size k + size v + sizeOfEntries rest

end

/-- the first trouble with the collections in a queue, whose own parts follow behind it -/
def firstTrouble? : (fuel : Nat) → (queue : List Node) → Option Trouble
  | 0, _ => none
  | _, [] => none
  | fuel + 1, n :: rest =>
    match n.collectionTrouble? with
    | some trouble => some trouble
    | none => firstTrouble? fuel (rest ++ n.inner)

def trouble? (n : Node) : Option Trouble :=
  if n.isCollection then firstTrouble? n.size [n] else n.scalarTrouble?

end Node

/-- the value that a text writes; that of an empty text is nothing -/
def read (text : List Char) : Except Trouble Value := do
  match Node.ofTokens? (← Token.ofText text) with
  | none => throw .malformed
  | some node =>
    match node.trouble? with
    | some trouble => throw trouble
    | none => return node.toValue

end ApiTypes.Yaml
