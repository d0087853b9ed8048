/-
Outcomes: what is left when the effects of a plan are carried out on a store.

Effects are carried out in order, up to the first one that fails.

Main statement: `carryOut_append`, effects that do not change the disk only print.
-/
import ApiTypes.CommandLine.Plan

namespace ApiTypes.CommandLine

structure Outcome where
  output : String := ""
  errors : String := ""
  store : Store
  ending : Ending

/-- what an effect prints and the store that it leaves -/
def Effect.apply (s : Store) : Effect → Except FileFault Store
  | print _ => .ok s
  | warn _ => .ok s
  | makeDirectory path => s.makeDirectories path
  | write path text => s.write path text

def Effect.output : Effect → String
  | print text => text
  | _ => ""

def Effect.errors : Effect → String
  | warn text => text
  | _ => ""

/-- carry out effects on a store, behind what is printed already -/
def carryOut (ending : Ending) : List Effect → (output errors : String) → Store → Outcome
  | [], output, errors, store => ⟨output, errors, store, ending⟩
  | e :: rest, output, errors, store =>
    match e.apply store with
    | .error fault => ⟨output, errors, store, .fault (.disk fault)⟩
    | .ok store => carryOut ending rest (output ++ e.output) (errors ++ e.errors) store

theorem apply_unchanged {s : Store} {e : Effect} (h : e.changes = false) : e.apply s = .ok s := by
  cases e <;> simp_all [Effect.apply, Effect.changes]

/-- effects that do not change the disk only print -/
theorem carryOut_append {before : List Effect} (unchanged : before.any Effect.changes = false) (ending : Ending)
    (rest : List Effect) (output errors : String) (store : Store) :
    carryOut ending (before ++ rest) output errors store =
      carryOut ending rest (output ++ String.join (before.map Effect.output))
        (errors ++ String.join (before.map Effect.errors)) store := by
  induction before generalizing output errors with
  | nil => simp
  | cons e before ih =>
    rw [List.any_cons, Bool.or_eq_false_iff] at unchanged
    rw [List.cons_append, carryOut, apply_unchanged unchanged.1]
    dsimp only
    rw [ih unchanged.2, List.map_cons, List.map_cons, String.join_cons, String.join_cons, String.append_assoc,
      String.append_assoc]

/-- what a command line leaves behind -/
def run (words : List String) (extension : Option String) (store : Store) : Outcome :=
  let plan := plan words extension store.look
  carryOut plan.ending plan.effects "" "" store

end ApiTypes.CommandLine
