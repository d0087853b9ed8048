/-
Sheets: the blocks of a module while it is printed, and the class names in use.

A record without a name is hoisted: it claims a class name of its own, made from the names of its owner and field, and
its block is added before the block that mentions it. A name that is in use is told apart by the least number from two
on.

Main statement: `fresh_not_mem`, a claimed name was not in use before.
-/
import ApiTypes.Declaration
import ApiTypes.Module.Block

namespace ApiTypes.Module

structure Sheet where
  /-- the blocks, first printed first -/
  blocks : List Block := []
  /-- the class names in use -/
  taken : List String := []
  deriving Repr

/-! ## Names in use -/

def numbered (name : String) (n : Nat) : String := name ++ toString n

/-- the least number from `n` on that tells the name apart; more tries than names in use are never needed -/
def freshFrom (taken : List String) (name : String) : (tries : Nat) → (n : Nat) → String
  | 0, n => numbered name n
  | tries + 1, n =>
    if taken.contains (numbered name n) then freshFrom taken name tries (n + 1) else numbered name n

/-- the name itself if it is free, or else the name with the least number that is -/
def fresh (taken : List String) (name : String) : String :=
  if taken.contains name then freshFrom taken name taken.length 2 else name

namespace Sheet

def use (name : String) (s : Sheet) : Sheet :=
  if s.taken.contains name then s else { s with taken := s.taken ++ [name] }

/-- take names into use without printing anything -/
def reserve (names : List String) (s : Sheet) : Sheet := names.foldl (fun s name => s.use (className name)) s

/-- a name that is free, which is in use from now on -/
def claim (name : String) : StateM Sheet String := fun s =>
  let free := fresh s.taken name
  (free, s.use free)

def addBlock (b : Block) : StateM Sheet Unit := modify fun s => { s with blocks := s.blocks ++ [b] }

mutual

/-- the type expression of a declaration; records in it are hoisted under names made from `owner` -/
def annotate (owner : String) : Declaration → StateM Sheet TypeExpr
  | .builtin name => return .builtin name
  | .list item => return .list (← annotate (owner ++ "Item") item)
  | .record fields => do
    let name ← claim (className (if owner = "" then "Record" else owner))
    let lines ← annotateFields name fields
    addBlock ⟨name, lines⟩
    return .record name
  | .reference component => return .component (className component)
  | .any _ => return .any

/-- the fields of a record, none of which is required -/
def annotateFields (owner : String) : List (String × Declaration) → StateM Sheet (List Line)
  | [] => return []
  | (name, declaration) :: rest => do
    let type ← annotate (owner ++ Text.pascalCase name) declaration
    return ⟨name, type, "", false⟩ :: (← annotateFields owner rest)

end

/-- the declared fields of a component -/
def fieldLines (owner : String) (required : Bool) : List Field → StateM Sheet (List Line)
  | [] => return []
  | f :: rest => do
    let type ← annotate (owner ++ Text.pascalCase f.name) f.type
    return ⟨f.name, type, f.description, required⟩ :: (← fieldLines owner required rest)

/-- add the block of a component, after those of its records -/
def addComponent (c : ComponentDeclaration) : StateM Sheet Unit := do
  let name := className c.name
  modify (use name)
  let required ← fieldLines name true c.required
  let optional ← fieldLines name false c.optional
  addBlock ⟨name, required ++ optional⟩

theorem mem_use (name : String) (s : Sheet) : name ∈ (s.use name).taken := by
  unfold use
  split
  · rename_i h
    simpa using h
  · simp

end Sheet

/-! ## Freshness -/

theorem decimal_injective {m n : Nat} (h : toString m = toString n) : m = n := by
  rw [Nat.toString_eq_ofList_toDigits, Nat.toString_eq_ofList_toDigits] at h
  have digits := congrArg String.toList h
  rw [String.toList_ofList, String.toList_ofList] at digits
  rw [← Nat.ofDigitChars_ten_toDigits (n := m), ← Nat.ofDigitChars_ten_toDigits (n := n), digits]

theorem numbered_injective {name : String} {m n : Nat} (h : numbered name m = numbered name n) : m = n :=
  decimal_injective ((String.append_right_inj name).1 h)

/-- the search answers a numbered name, at or after its start -/
theorem freshFrom_eq_numbered (taken : List String) (name : String) (tries n : Nat) :
    ∃ k, n ≤ k ∧ freshFrom taken name tries n = numbered name k := by
  induction tries generalizing n with
  | zero => exact ⟨n, Nat.le_refl n, rfl⟩
  | succ tries ih =>
    simp only [freshFrom]
    split
    · obtain ⟨k, hk, eq⟩ := ih (n + 1)
      exact ⟨k, by omega, eq⟩
    · exact ⟨n, Nat.le_refl n, rfl⟩

/-- names before the start of the search do not matter to it -/
theorem freshFrom_congr {taken other : List String} {name : String} (tries : Nat) {n : Nat}
    (h : ∀ k, n ≤ k → taken.contains (numbered name k) = other.contains (numbered name k)) :
    freshFrom taken name tries n = freshFrom other name tries n := by
  induction tries generalizing n with
  | zero => rfl
  | succ tries ih =>
    simp only [freshFrom, h n (Nat.le_refl n)]
    rw [ih fun k hk => h k (by omega)]

theorem freshFrom_not_mem {taken : List String} {name : String} {tries : Nat} (n : Nat) (h : taken.length ≤ tries) :
    freshFrom taken name tries n ∉ taken := by
  induction tries generalizing taken n with
  | zero =>
    obtain rfl := List.length_eq_zero_iff.1 (Nat.le_zero.1 h)
    simp
  | succ tries ih =>
    simp only [freshFrom]
    split
    · rename_i inUse
      have later : ∀ k, n + 1 ≤ k → numbered name k ≠ numbered name n := fun k hk eq => by
        have := numbered_injective eq
        omega
      have shorter : (taken.filter (· != numbered name n)).length ≤ tries := by
        have := List.length_filter_lt_length_iff_exists (l := taken) (p := (· != numbered name n)) |>.2
          ⟨numbered name n, by simpa using inUse, by simp⟩
        omega
      have same : ∀ k, n + 1 ≤ k → taken.contains (numbered name k) =
          (taken.filter (· != numbered name n)).contains (numbered name k) := fun k hk => by
        rw [Bool.eq_iff_iff]
        simp [later k hk]
      rw [freshFrom_congr tries same]
      have free := ih (n + 1) shorter
      obtain ⟨k, hk, eq⟩ := freshFrom_eq_numbered (taken.filter (· != numbered name n)) name tries (n + 1)
      rw [eq] at free ⊢
      simpa [later k hk] using free
    · simp_all

theorem fresh_not_mem (taken : List String) (name : String) : fresh taken name ∉ taken := by
  unfold fresh
  split
  · exact freshFrom_not_mem 2 (Nat.le_refl _)
  · simp_all

end ApiTypes.Module
