/-
Similar words: what a mistyped word may have been meant to be.

Two words are as similar as the runs of characters that they share are long: the longest run that both hold, and the
runs before it and behind it. Of several longest runs the first one in the first word counts, and there the first one in
the second.
-/
import ApiTypes.Text.Order

namespace ApiTypes.Text

/-- the length of the run that two words start with -/
def commonStart : List Char → List Char → Nat
  | a :: as, b :: bs => if a = b then commonStart as bs + 1 else 0
  | _, _ => 0

/-- a run that two words share: where it starts in each, and its length -/
structure SharedRun where
  first : Nat
  second : Nat
  length : Nat
  deriving DecidableEq, Repr

/-- the longer run, the earlier one of two that are equally long -/
def SharedRun.longer (a b : SharedRun) : SharedRun := if a.length < b.length then b else a

/-- the first of the longest runs that two words share -/
def longestRun (a b : List Char) : SharedRun :=
  (List.range a.length).foldl (fun best i =>
    (List.range b.length).foldl (fun best j => best.longer ⟨i, j, commonStart (a.drop i) (b.drop j)⟩) best) ⟨0, 0, 0⟩

/-- the number of characters in shared runs, for runs inside runs as deep as `depth` says -/
def sharedUpTo : (depth : Nat) → List Char → List Char → Nat
  | 0, _, _ => 0
  | depth + 1, a, b =>
    let run := longestRun a b
    if run.length = 0 then 0
    else sharedUpTo depth (a.take run.first) (b.take run.second) + run.length +
      sharedUpTo depth (a.drop (run.first + run.length)) (b.drop (run.second + run.length))

def shared (a b : List Char) : Nat := sharedUpTo a.length a b

/-- a word, the number of characters in runs that it shares with another, and the length of both -/
structure Likeness where
  word : String
  shared : Nat
  total : Nat

/-- at least three in five characters are shared -/
def Likeness.isClose (l : Likeness) : Bool := 3 * l.total ≤ 10 * l.shared

/-- more alike, or as alike and later in the order of characters -/
def Likeness.before (a b : Likeness) : Bool :=
  if a.shared * b.total = b.shared * a.total then !decide (a.word < b.word)
  else b.shared * a.total < a.shared * b.total

/-- at most three of the words offered that are close to a word, the closest first -/
def similar (word : String) (offered : List String) : List String :=
  let found := offered.map fun other =>
    Likeness.mk other (shared other.toList word.toList) (other.length + word.length)
  (((found.filter Likeness.isClose).mergeSort Likeness.before).take 3).map Likeness.word

end ApiTypes.Text
