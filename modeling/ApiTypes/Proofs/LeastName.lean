/-
Names for records.

A record asks for a class name and is given it, or else the name with the least number from two on that is free. What is
in use when it asks is a history: the classes of the components that were reserved or added, and the names given to the
records before it. The history of a run of calls is kept beside the run here (`PrinterCall.log`), record by record in
the order in which the printer claims their names, and it is shown to be all that is in use.

The search tries one name after the other and has no bound of its own. It ends because the names that it tries are
different and all but the last are in use (`Search.rounds_le`), whoever put them there.

Main statements: `search_fresh`, the search ends with the name that is claimed; `annotate_logs`, the names claimed for
a declaration, by recursion on it, and `run_logs` for a run of calls; `claim_least_free`, every claim behind a run of
calls and within it.
-/
import Mathlib.Data.List.Perm.Subperm
import ApiTypes.Proofs.Hoisting

namespace ApiTypes.Module

open ApiTypes.Text

/-! ## The search -/

/-- the search for a free name, from a candidate on: the answer stands so many rounds behind it, where `n` is the number
of the next candidate -/
inductive Search (used : List String) (name : String) : (rounds : Nat) → (candidate : String) → (n : Nat) →
    (answer : String) → Prop
  | found {candidate : String} {n : Nat} (free : candidate ∉ used) : Search used name 0 candidate n candidate
  | next {rounds n : Nat} {candidate answer : String} (inUse : candidate ∈ used)
      (rest : Search used name rounds (name ++ toString n) (n + 1) answer) :
      Search used name (rounds + 1) candidate n answer

section

variable {used other : List String} {name candidate answer : String} {rounds n : Nat}

theorem Search.not_mem (h : Search used name rounds candidate n answer) : answer ∉ used := by
  induction h with
  | found free => exact free
  | next _ _ ih => exact ih

/-- in which order names came into use, and how often, makes no difference -/
theorem Search.congr (h : Search used name rounds candidate n answer) (same : ∀ x, x ∈ used ↔ x ∈ other) :
    Search other name rounds candidate n answer := by
  induction h with
  | found free => exact .found ((same _).not.1 free)
  | next inUse _ ih => exact .next ((same _).1 inUse) ih

/-- the search has one outcome -/
theorem Search.unique {rounds' : Nat} {answer' : String} (h : Search used name rounds candidate n answer)
    (h' : Search used name rounds' candidate n answer') : rounds = rounds' ∧ answer = answer' := by
  induction h generalizing rounds' with
  | found free =>
    cases h' with
    | found => exact ⟨rfl, rfl⟩
    | next inUse => exact absurd inUse free
  | next inUse _ ih =>
    cases h' with
    | found free => exact absurd inUse free
    | next _ rest =>
      obtain ⟨same, eq⟩ := ih rest
      exact ⟨congrArg (· + 1) same, eq⟩

/-- behind its first candidate the search counts: it answers with the number at which it ends, and every number on the
way is in use -/
theorem Search.counted (h : Search used name rounds (name ++ toString n) (n + 1) answer) :
    answer = name ++ toString (n + rounds) ∧ ∀ m, n ≤ m → m < n + rounds → name ++ toString m ∈ used := by
  induction rounds generalizing n with
  | zero =>
    cases h
    exact ⟨rfl, fun m lower upper => by omega⟩
  | succ rounds ih =>
    cases h with
    | next inUse rest =>
      obtain ⟨eq, all⟩ := ih rest
      refine ⟨by rw [eq, Nat.add_right_comm, Nat.add_assoc], fun m lower upper => ?_⟩
      by_cases first : m = n
      · rwa [first]
      · exact all m (by omega) (by omega)

theorem numbered_ne (name : String) (n : Nat) : name ++ toString n ≠ name := by
  intro eq
  have digits := Nat.toDigits_ne_nil (b := 10) (n := n)
  rw [String.append_eq_left_iff, Nat.toString_eq_ofList_toDigits, ← String.toList_eq_nil_iff,
    String.toList_ofList] at eq
  exact digits eq

/-- **The search ends after as many rounds as there are names in use at most:** the candidates of all rounds are
different names in use. -/
theorem Search.rounds_le (h : Search used name rounds name 2 answer) : rounds ≤ used.length := by
  cases h with
  | found => exact Nat.zero_le _
  | @next rounds _ _ _ inUse rest =>
    obtain ⟨-, all⟩ := rest.counted
    let tried := name :: (List.range' 2 rounds).map fun m => name ++ toString m
    have distinct : tried.Nodup := by
      refine List.nodup_cons.2 ⟨?_, ?_⟩
      · intro mem
        obtain ⟨m, -, eq⟩ := List.mem_map.1 mem
        exact numbered_ne name m eq
      · exact (List.nodup_range' ..).map fun m n eq => numbered_injective eq
    have inside : tried ⊆ used := by
      refine List.cons_subset.2 ⟨inUse, ?_⟩
      intro x mem
      obtain ⟨m, range, rfl⟩ := List.mem_map.1 mem
      rw [List.mem_range'_1] at range
      exact all m range.1 range.2
    simpa [tried] using (List.subperm_of_subset distinct inside).length_le

theorem search_freshFrom (tries : Nat) (h : freshFrom used name tries n ∉ used) :
    ∃ rounds, Search used name rounds (name ++ toString n) (n + 1) (freshFrom used name tries n) := by
  induction tries generalizing n with
  | zero => exact ⟨0, .found h⟩
  | succ tries ih =>
    rw [freshFrom] at h ⊢
    by_cases inUse : used.contains (numbered name n) = true
    · rw [if_pos inUse] at h ⊢
      obtain ⟨rounds, rest⟩ := ih h
      exact ⟨rounds + 1, .next (List.contains_iff_mem.1 inUse) rest⟩
    · rw [if_neg inUse] at h ⊢
      exact ⟨0, .found h⟩

/-- **The search ends with the name that is claimed.** -/
theorem search_fresh (used : List String) (name : String) :
    ∃ rounds, Search used name rounds name 2 (fresh used name) := by
  have free := fresh_not_mem used name
  unfold fresh at free ⊢
  by_cases inUse : used.contains name = true
  · rw [if_pos inUse] at free ⊢
    obtain ⟨rounds, rest⟩ := search_freshFrom used.length free
    exact ⟨rounds + 1, .next (List.contains_iff_mem.1 inUse) rest⟩
  · rw [if_neg inUse] at free ⊢
    exact ⟨0, .found free⟩

/-- how a request is answered where these names are in use -/
structure LeastFree (used : List String) (asked given : String) : Prop where
  /-- the search ends, and with nothing else -/
  ends : ∃ rounds ≤ used.length, ∀ rounds' answer,
    Search used asked rounds' asked 2 answer ↔ rounds' = rounds ∧ answer = given
  itself : asked ∉ used → given = asked
  least : asked ∈ used → ∃ n, 2 ≤ n ∧ given = asked ++ toString n ∧ ∀ m, 2 ≤ m → m < n → asked ++ toString m ∈ used
  free : given ∉ used

theorem Search.leastFree {asked given : String} (h : Search used asked rounds asked 2 given) :
    LeastFree used asked given := by
  refine ⟨⟨rounds, h.rounds_le, fun rounds' answer => ?_⟩, fun free => ?_, fun inUse => ?_, h.not_mem⟩
  · constructor
    · exact fun h' => h'.unique h
    · rintro ⟨rfl, rfl⟩
      exact h
  · exact (h.unique (.found free)).2
  · cases h with
    | found free => exact absurd inUse free
    | next _ rest =>
      obtain ⟨eq, all⟩ := rest.counted
      exact ⟨_, Nat.le_add_right 2 _, eq, all⟩

end

/-! ## Histories -/

/-- a name that comes into use -/
inductive Naming where
  /-- the class of a component that is reserved -/
  | reserved (component : String)
  /-- the class of a component that is added -/
  | added (component : String)
  /-- the class of a record: the name that is asked for, and the one that is given -/
  | claimed (asked given : String)
  deriving DecidableEq, Repr

def Naming.name : Naming → String
  | reserved component => className component
  | added component => className component
  | claimed _ given => given

/-- is a claim answered with the name that is free then? -/
def Naming.Answered (taken : List String) : Naming → Prop
  | claimed asked given => given = fresh taken asked
  | _ => True

/-- put a name to those in use -/
def enter (name : String) (taken : List String) : List String :=
  if taken.contains name then taken else taken ++ [name]

/-- the history leads from the names in use before it to those in use behind it -/
inductive Logs : (taken : List String) → List Naming → (later : List String) → Prop
  | nil (taken : List String) : Logs taken [] taken
  | cons {taken later : List String} {e : Naming} {log : List Naming} (answered : e.Answered taken)
      (rest : Logs (enter e.name taken) log later) : Logs taken (e :: log) later

section

variable {taken later last : List String} {log more : List Naming}

theorem use_taken (name : String) (s : Sheet) : (s.use name).taken = enter name s.taken := by
  unfold Sheet.use enter
  split_ifs <;> rfl

theorem mem_enter {name x : String} : x ∈ enter name taken ↔ x ∈ taken ∨ x = name := by
  unfold enter
  split_ifs with inUse
  · constructor
    · exact Or.inl
    · rintro (mem | rfl)
      · exact mem
      · exact List.contains_iff_mem.1 inUse
  · rw [List.mem_append, List.mem_singleton]

theorem Logs.append (h : Logs taken log later) (h' : Logs later more last) : Logs taken (log ++ more) last := by
  induction h with
  | nil => exact h'
  | cons answered _ ih => exact .cons answered (ih h')

/-- what is in use behind a history: what was before it, and its names -/
theorem Logs.mem_iff (h : Logs taken log later) {x : String} : x ∈ later ↔ x ∈ taken ∨ x ∈ log.map Naming.name := by
  induction h with
  | nil => simp
  | cons _ _ ih => rw [ih, mem_enter, List.map_cons, List.mem_cons, or_assoc]

/-- each claim is answered by what the history in front of it leaves in use -/
theorem Logs.answered {e : Naming} {after : List Naming} (h : Logs taken (log ++ e :: after) later) :
    ∃ now, Logs taken log now ∧ e.Answered now := by
  induction log generalizing taken with
  | nil =>
    cases h with
    | cons answered _ => exact ⟨taken, .nil taken, answered⟩
  | cons first log ih =>
    cases h with
    | cons answered rest =>
      obtain ⟨now, logs, own⟩ := ih rest
      exact ⟨now, .cons answered logs, own⟩

end

/-! ## What the printer claims -/

mutual

/-- the names that are claimed for the records of a declaration, in order -/
def claimsOf (owner : String) : Declaration → Sheet → List Naming
  | .list item, s => claimsOf (owner ++ "Item") item s
  | .record fields, s =>
    let asked := className (if owner = "" then "Record" else owner)
    let (given, s) := Sheet.claim asked s
    .claimed asked given :: fieldClaims given fields s
  | _, _ => []

/-- the names that are claimed for the records in fields -/
def fieldClaims (owner : String) : List (String × Declaration) → Sheet → List Naming
  | [], _ => []
  | (name, d) :: rest, s =>
    claimsOf (owner ++ pascalCase name) d s ++ fieldClaims owner rest (Sheet.annotate (owner ++ pascalCase name) d s).2

end

mutual

/-- **What is claimed for a declaration is what comes into use.** -/
theorem annotate_logs : (d : Declaration) → (owner : String) → (s : Sheet) →
    Logs s.taken (claimsOf owner d s) (Sheet.annotate owner d s).2.taken
  | .builtin _, _, s => .nil s.taken
  | .list item, owner, s => by
    rw [annotate_list, claimsOf]
    exact annotate_logs item (owner ++ "Item") s
  | .record fields, owner, s => by
    rw [annotate_record_eq, claimsOf]
    have inner := annotateFields_logs fields (fresh s.taken (className (if owner = "" then "Record" else owner)))
      (s.use (fresh s.taken (className (if owner = "" then "Record" else owner))))
    rw [use_taken] at inner
    exact .cons rfl inner
  | .reference _, _, s => .nil s.taken
  | .any _, _, s => .nil s.taken

theorem annotateFields_logs : (fields : List (String × Declaration)) → (owner : String) → (s : Sheet) →
    Logs s.taken (fieldClaims owner fields s) (Sheet.annotateFields owner fields s).2.taken
  | [], _, s => by
    rw [Sheet.annotateFields, fieldClaims]
    exact .nil s.taken
  | (name, d) :: rest, owner, s => by
    rw [annotateFields_cons, fieldClaims]
    exact (annotate_logs d _ s).append (annotateFields_logs rest owner _)

end

/-! ## Runs -/

/-- what is asked of a printer -/
inductive PrinterCall where
  | reserve (names : List String)
  | annotate (owner : String) (d : Declaration)
  | addComponent (c : ComponentDeclaration)

/-- fields without their descriptions -/
def bare (fields : List Field) : List (String × Declaration) := fields.map fun f => (f.name, f.type)

namespace PrinterCall

def run (s : Sheet) : PrinterCall → Sheet
  | reserve names => s.reserve names
  | annotate owner d => (Sheet.annotate owner d s).2
  | addComponent c => (Sheet.addComponent c s).2

/-- the names that come into use by a call -/
def log (s : Sheet) : PrinterCall → List Naming
  | reserve names => names.map .reserved
  | annotate owner d => claimsOf owner d s
  | addComponent c =>
    .added c.name :: fieldClaims (className c.name) (bare (c.required ++ c.optional)) (s.use (className c.name))

end PrinterCall

/-- descriptions, and which fields are required, make no difference to the names -/
theorem fieldLines_state (owner : String) (required : Bool) (fields : List Field) (s : Sheet) :
    (Sheet.fieldLines owner required fields s).2 = (Sheet.annotateFields owner (bare fields) s).2 := by
  induction fields generalizing s with
  | nil =>
    rw [bare, List.map_nil, Sheet.annotateFields]
    rfl
  | cons f rest ih =>
    rw [bare, List.map_cons, fieldLines_cons, annotateFields_cons]
    exact ih _

theorem annotateFields_append (owner : String) (fields more : List (String × Declaration)) (s : Sheet) :
    (Sheet.annotateFields owner (fields ++ more) s).2 =
      (Sheet.annotateFields owner more (Sheet.annotateFields owner fields s).2).2 := by
  induction fields generalizing s with
  | nil =>
    rw [List.nil_append, Sheet.annotateFields]
    rfl
  | cons f rest ih =>
    obtain ⟨name, d⟩ := f
    rw [List.cons_append, annotateFields_cons, annotateFields_cons]
    exact ih _

theorem addComponent_taken (c : ComponentDeclaration) (s : Sheet) : (Sheet.addComponent c s).2.taken =
    (Sheet.annotateFields (className c.name) (bare (c.required ++ c.optional)) (s.use (className c.name))).2.taken := by
  have split : bare (c.required ++ c.optional) = bare c.required ++ bare c.optional := List.map_append
  rw [split, annotateFields_append, ← fieldLines_state (className c.name) false, ← fieldLines_state _ true]
  rfl

theorem reserve_logs (names : List String) (s : Sheet) :
    Logs s.taken (names.map .reserved) (Sheet.reserve names s).taken := by
  induction names generalizing s with
  | nil => exact .nil s.taken
  | cons name rest ih =>
    refine .cons trivial ?_
    have later := ih (s.use (className name))
    rw [use_taken] at later
    exact later

/-- one call -/
theorem PrinterCall.logs (call : PrinterCall) (s : Sheet) : Logs s.taken (call.log s) (call.run s).taken := by
  cases call with
  | reserve names => exact reserve_logs names s
  | annotate owner d => exact annotate_logs d owner s
  | addComponent c =>
    have inner := annotateFields_logs (bare (c.required ++ c.optional)) (className c.name) (s.use (className c.name))
    rw [use_taken] at inner
    rw [PrinterCall.run, addComponent_taken]
    exact .cons trivial inner

/-- the sheet behind a run of calls -/
def runCalls (calls : List PrinterCall) (s : Sheet) : Sheet := calls.foldl PrinterCall.run s

/-- the names that come into use by a run of calls -/
def logCalls : List PrinterCall → Sheet → List Naming
  | [], _ => []
  | call :: rest, s => call.log s ++ logCalls rest (call.run s)

/-- all calls, by induction -/
theorem run_logs (calls : List PrinterCall) (s : Sheet) : Logs s.taken (logCalls calls s) (runCalls calls s).taken := by
  induction calls generalizing s with
  | nil => exact .nil s.taken
  | cons call rest ih => exact (call.logs s).append (ih (call.run s))

/-! ## Claims -/

/-- a claim on a sheet where these names have come into use -/
structure Claims (used : List String) (s : Sheet) (asked given : String) : Prop where
  inUse : ∀ name, name ∈ s.taken ↔ name ∈ used
  answer : (Sheet.claim asked s).1 = given
  leastFree : LeastFree used asked given
  /-- the name that is given is put to those in use, and no other -/
  taken : ∀ name, name ∈ (Sheet.claim asked s).2.taken ↔ name ∈ used ∨ name = given

theorem claims_of_taken {used : List String} {s : Sheet} (h : ∀ name, name ∈ s.taken ↔ name ∈ used) (asked : String) :
    Claims used s asked (fresh s.taken asked) := by
  obtain ⟨rounds, search⟩ := search_fresh s.taken asked
  refine ⟨h, rfl, (search.congr h).leastFree, fun name => ?_⟩
  have added : (Sheet.claim asked s).2.taken = enter (fresh s.taken asked) s.taken := use_taken _ s
  rw [added, mem_enter, h]

/-- **A claim is answered with the least free name.** Behind any run of calls, and for any name that is asked for, the
search ends; it gives the name itself where that is free and else the name with the least number from two on that is;
what it gives was not reserved, added or claimed before; and nothing else comes into use. The same holds of each claim
that the printer makes within the run, by what the history in front of it has brought into use. -/
theorem claim_least_free (calls : List PrinterCall) :
    (∀ asked, ∃ given, Claims ((logCalls calls {}).map Naming.name) (runCalls calls {}) asked given) ∧
    ∀ before asked given after, logCalls calls {} = before ++ .claimed asked given :: after →
      ∃ s, Claims (before.map Naming.name) s asked given := by
  have logs : Logs [] (logCalls calls {}) (runCalls calls {}).taken := run_logs calls {}
  constructor
  · intro asked
    refine ⟨_, claims_of_taken (fun name => ?_) asked⟩
    rw [logs.mem_iff]
    simp
  · intro before asked given after split
    rw [split] at logs
    obtain ⟨now, front, answered⟩ := logs.answered
    refine ⟨⟨[], now⟩, answered ▸ claims_of_taken (fun name => ?_) asked⟩
    rw [front.mem_iff]
    simp

/-- a component has the name that a record in another one would be given, and a record claims the next one -/
def crowded : List PrinterCall :=
  [.reserve ["Pet", "Pet2"], .annotate "Pet" (.record [("tag", .list (.record []))]),
    .addComponent ⟨"Pet3", [⟨"tagItem", .record [], ""⟩], []⟩, .annotate "Pet" (.record [])]

theorem crowded_claims :
    logCalls crowded {} = [.reserved "Pet", .reserved "Pet2", .claimed "Pet" "Pet3",
      .claimed "Pet3TagItem" "Pet3TagItem", .added "Pet3", .claimed "Pet3TagItem" "Pet3TagItem2",
      .claimed "Pet" "Pet4"] ∧
    (∃ s, Claims ["Pet", "Pet2", "Pet3", "Pet3TagItem", "Pet3"] s "Pet3TagItem" "Pet3TagItem2") ∧
    ∃ given, Claims ((logCalls crowded {}).map Naming.name) (runCalls crowded {}) "Pet" given ∧ given = "Pet5" := by
  have log : logCalls crowded {} = [.reserved "Pet", .reserved "Pet2", .claimed "Pet" "Pet3",
      .claimed "Pet3TagItem" "Pet3TagItem", .added "Pet3", .claimed "Pet3TagItem" "Pet3TagItem2",
      .claimed "Pet" "Pet4"] := by decide +kernel
  obtain ⟨behind, within⟩ := claim_least_free crowded
  refine ⟨log, ?_, ?_⟩
  · obtain ⟨s, claims⟩ := within [.reserved "Pet", .reserved "Pet2", .claimed "Pet" "Pet3",
      .claimed "Pet3TagItem" "Pet3TagItem", .added "Pet3"] "Pet3TagItem" "Pet3TagItem2" [.claimed "Pet" "Pet4"] log
    exact ⟨s, claims⟩
  · obtain ⟨given, claims⟩ := behind "Pet"
    have answer : (Sheet.claim "Pet" (runCalls crowded {})).1 = "Pet5" := by decide +kernel
    exact ⟨given, claims, claims.answer.symm.trans answer⟩

end ApiTypes.Module
