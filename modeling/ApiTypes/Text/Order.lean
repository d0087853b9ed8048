/-
Sets of names, as lists.

`gather` adds names that are not there yet; `sorted` puts names in the order of their code points.

Main statements: `mem_gather` and `nodup_gather`, gathering adds every name and none twice; `perm_sorted`, sorting only
moves names.
-/

namespace ApiTypes.Text

/-- add names that are not yet there -/
def gather (found names : List String) : List String :=
  names.foldl (fun found name => if found.contains name then found else found ++ [name]) found

/-- put a name in front of the first one that is not before it -/
def insertName (name : String) : List String → List String
  | [] => [name]
  | n :: rest => if n < name then n :: insertName name rest else name :: n :: rest

/-- the names in the order of their characters -/
def sorted (names : List String) : List String := names.foldr insertName []

theorem mem_gather {found names : List String} {name : String} :
    name ∈ gather found names ↔ name ∈ found ∨ name ∈ names := by
  unfold gather
  induction names generalizing found with
  | nil => simp
  | cons n rest ih =>
    rw [List.foldl_cons, ih]
    split <;> grind

theorem nodup_gather {found : List String} (names : List String) (h : found.Nodup) : (gather found names).Nodup := by
  unfold gather
  induction names generalizing found with
  | nil => exact h
  | cons n rest ih =>
    rw [List.foldl_cons]
    apply ih
    split
    · exact h
    · rename_i free
      simp only [List.contains_iff_mem] at free
      rw [List.nodup_append]
      refine ⟨h, by simp, fun a ha b hb eq => ?_⟩
      obtain rfl := List.mem_singleton.1 hb
      exact free (eq ▸ ha)

theorem perm_insertName (name : String) (names : List String) : (insertName name names).Perm (name :: names) := by
  induction names with
  | nil => exact .refl _
  | cons n rest ih =>
    rw [insertName]
    split
    · exact (ih.cons n).trans (.swap name n rest)
    · exact .refl _

theorem perm_sorted (names : List String) : (sorted names).Perm names := by
  induction names with
  | nil => exact .refl _
  | cons name rest ih => exact (perm_insertName name (sorted rest)).trans (ih.cons name)

theorem mem_sorted {names : List String} {name : String} : name ∈ sorted names ↔ name ∈ names :=
  (perm_sorted names).mem_iff

end ApiTypes.Text
