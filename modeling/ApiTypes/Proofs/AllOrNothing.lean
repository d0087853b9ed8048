/-
Generation is all or nothing.

Whatever can be refused is looked at before the first effect that changes the disk: words, document, documentation, the
generated package. So a generation comes to an obstacle, of which it tells, and leaves the disk as it was; or the
document has a documentation, nothing is wrong with the package of it, and the plan ends with the writing of this
package. Pages are printed for every documentation, so that nothing is refused there. On a store where the directory can
be made and the files can be written in it, such writes do not get in each other's way, and every file is there
afterwards with its whole text.

Main statements: `carryOut_writeAll`, what the writes leave; `generatePlan_cases`, the plan by what is found;
`generate_all_or_nothing`, both put together for every command line, document and store; `package_generated`, a package
in an absolute directory that was not there before.
-/
import Mathlib
import ApiTypes.CommandLine.Outcome
import ApiTypes.Proofs.Traversal
import ApiTypes.Proofs.Utf8
import ApiTypes.Proofs.Validity
import ApiTypes.Proofs.Writing

namespace ApiTypes.CommandLine

open Store

/-! ## Writes -/

section

variable {output : Path} {files : Bundle} {store : Store} {base : List String}

/-- what a file of a package takes -/
def writeOne (output : Path) (f : String × String) : List Effect :=
  [.write (output.child f.1) f.2, .print ("  Created " ++ (output.child f.1).text ++ "\n")]

/-- one file after the other is written, each beside those before it -/
theorem carryOut_writeOne (ending : Ending) (leads : store.place output = .ok base)
    (directory : store.held? base = some .directory) (plain : ∀ f ∈ files, IsEntryName f.1)
    (free : ∀ f ∈ files, store.held? (base ++ [f.1]) ≠ some .directory) (rest : List Effect) (printed errors : String) :
    ∃ printed', carryOut ending (files.flatMap (writeOne output) ++ rest) printed errors store =
      carryOut ending rest printed' errors (store.withFiles base files) := by
  induction files generalizing store printed with
  | nil => exact ⟨printed, rfl⟩
  | cons f later ih =>
    have written := write_child f.2 (plain f List.mem_cons_self) leads directory (free f List.mem_cons_self)
    have keeps := keepsDirectories_put (free f List.mem_cons_self) (.file f.2)
    have free' : ∀ g ∈ later, (store.put (base ++ [f.1]) (.file f.2)).held? (base ++ [g.1]) ≠ some .directory :=
      fun g mem => mt (directory_of_put (free f List.mem_cons_self)) (free g (List.mem_cons_of_mem _ mem))
    have plain' : ∀ g ∈ later, IsEntryName g.1 := fun g mem => plain g (List.mem_cons_of_mem _ mem)
    have next := ih (keeps.leads leads) (keeps.stays _ directory) plain' free'
    obtain ⟨printed', eq⟩ := next (printed ++ "" ++ ("  Created " ++ (output.child f.1).text ++ "\n"))
    refine ⟨printed', ?_⟩
    rw [withFiles, ← eq]
    simp [writeOne, carryOut, Effect.apply, written, Effect.output, Effect.errors]

/-- **A package is written as a whole** where its directory can be made and files of its names can be written there. -/
theorem carryOut_writeAll (ending : Ending) (accepts : store.Accepts output (files.map (·.1))) (nonempty : files ≠ [])
    (distinct : (files.map (·.1)).Nodup) (plain : ∀ f ∈ files, IsEntryName f.1) (printed errors : String) :
    let done := carryOut ending (writeAll output files) printed errors store
    done.ending = ending ∧ ∀ f ∈ files, done.store.Holds (output.child f.1) f.2 := by
  obtain ⟨made, makes, writable⟩ := accepts
  have place : ∀ f ∈ files, ∃ base, made.place output = .ok base ∧ made.held? base = some .directory ∧
      made.held? (base ++ [f.1]) ≠ some .directory := by
    intro f mem
    obtain ⟨t, written⟩ := writable f.1 (List.mem_map_of_mem mem) ""
    obtain ⟨place, leads, free⟩ := held?_of_write written
    obtain ⟨base, above, directory, rfl⟩ := (place_child (plain f mem)).1 leads
    exact ⟨base, above, directory, free⟩
  obtain ⟨f, mem⟩ := List.exists_mem_of_ne_nil files nonempty
  obtain ⟨base, leads, directory, -⟩ := place f mem
  have free : ∀ f ∈ files, made.held? (base ++ [f.1]) ≠ some .directory := by
    intro f mem
    obtain ⟨base', leads', -, free⟩ := place f mem
    rw [leads] at leads'
    cases leads'
    exact free
  obtain ⟨printed', eq⟩ := carryOut_writeOne ending leads directory plain free
    [.print ("Generated " ++ toString files.length ++ " files in " ++ output.text ++ "\n")] (printed ++ "")
    (errors ++ "")
  have begins : carryOut ending (writeAll output files) printed errors store =
      carryOut ending (files.flatMap (writeOne output) ++
        [.print ("Generated " ++ toString files.length ++ " files in " ++ output.text ++ "\n")]) (printed ++ "")
        (errors ++ "") made := by
    unfold writeAll
    rw [List.cons_append, carryOut]
    simp only [Effect.apply, makes]
    rfl
  rw [begins, eq]
  refine ⟨rfl, ?_⟩
  intro f mem
  refine ⟨base ++ [f.1], ?_, held?_withFiles distinct free f mem⟩
  have keeps := keepsDirectories_withFiles free
  exact (place_child (plain f mem)).2 ⟨base, keeps.leads leads, keeps.stays _ directory, rfl⟩

end

/-! ## Obstacles -/

/-- what a generation is refused for -/
inductive Obstacle where
  | misuse (misuse : Misuse)
  | fault (fault : Fault)
  /-- there is something wrong with the package -/
  | findings (first : String × Defect) (rest : Bundle.Findings)

/-- faults that are not of the document end the program as they are -/
def Obstacle.ending : Obstacle → Ending
  | misuse _ => .exit 2
  | fault f => if f.isDocumentFault then .exit 1 else .fault f
  | findings _ _ => .exit 1

/-- what is told of an obstacle -/
def Obstacle.report : Obstacle → String
  | misuse what => what.report (some .generate)
  | fault f => if f.isDocumentFault then errorLine f.message else ""
  | findings first rest =>
    String.join ((first :: rest).map findingLine) ++ errorLine "generated code failed validation"

theorem Obstacle.ending_ne (o : Obstacle) : o.ending ≠ .exit 0 := by
  cases o with
  | misuse => simp [ending]
  | fault f =>
    unfold ending
    dsimp only
    split <;> simp
  | findings => simp [ending]

/-- the request passes its checks: it asks for a package in this directory, from the document in a file of these bytes -/
structure Asks (r : Request) (look : String → Found) (document : Path) (bytes : List UInt8) (output : Path) : Prop where
  file : ∃ word, r.words = [word] ∧ document = Path.ofText word ∧ look word = .file bytes
  directory : ∃ word, r.output = some word ∧ output = Path.ofText word
  checked : r.check look = .ok (.generate document bytes output)

/-- the document that the request asks about is loaded as this tree -/
def Loads (r : Request) (look : String → Found) (output : Path) (tree : Value) : Prop :=
  ∃ document bytes, Asks r look document bytes output ∧ Description.ofBytes document.text bytes = .ok tree

/-- the documentation is built that the request asks about -/
def Builds (r : Request) (look : String → Found) (output : Path) (found : Documentation) : Prop :=
  ∃ tree, Loads r look output tree ∧ (Documentation.ofDocument r.settings tree).result = .ok found

section

variable {r : Request} {look : String → Found} {output output' : Path} {tree tree' : Value} {found found' : Documentation}

/-- a request asks for one package -/
theorem Asks.unique {document document' : Path} {bytes bytes' : List UInt8} (h : Asks r look document bytes output)
    (h' : Asks r look document' bytes' output') : document = document' ∧ bytes = bytes' ∧ output = output' := by
  have same := h.checked.symm.trans h'.checked
  simpa using same

theorem Loads.unique (h : Loads r look output tree) (h' : Loads r look output' tree') :
    output = output' ∧ tree = tree' := by
  obtain ⟨document, bytes, asks, loaded⟩ := h
  obtain ⟨document', bytes', asks', loaded'⟩ := h'
  obtain ⟨rfl, rfl, rfl⟩ := asks.unique asks'
  exact ⟨rfl, Except.ok.inj (loaded.symm.trans loaded')⟩

theorem Builds.unique (h : Builds r look output found) (h' : Builds r look output' found') :
    output = output' ∧ found = found' := by
  obtain ⟨tree, loads, built⟩ := h
  obtain ⟨tree', loads', built'⟩ := h'
  obtain ⟨rfl, rfl⟩ := loads.unique loads'
  exact ⟨rfl, Except.ok.inj (built.symm.trans built')⟩

end

/-! ## Plans -/

/-- a plan that tells of an obstacle and changes nothing -/
structure Plan.Tells (p : Plan) (o : Obstacle) : Prop where
  unchanged : p.changes = false
  ending : p.ending = o.ending
  report : ∃ before, String.join (p.effects.map Effect.errors) = before ++ o.report

/-- a plan that ends with the writing of a package -/
structure Plan.Writes (p : Plan) (output : Path) (package : Bundle) : Prop where
  effects : ∃ before : List Effect, before.any Effect.changes = false ∧ p.effects = before ++ writeAll output package
  ending : p.ending = .exit 0

variable {r : Request} {words : List String} {extension : Option String}

/-- what a command line leaves behind on a store, where `look` says what a word leads to, be it text or not -/
def outcome (words : List String) (extension : Option String) (look : String → Found) (store : Store) : Outcome :=
  carryOut (plan words extension look).ending (plan words extension look).effects "" "" store

/-- an outcome that an obstacle has brought about: it is told of last, and the store is the one from before -/
structure Outcome.Refused (done : Outcome) (o : Obstacle) (store : Store) : Prop where
  ending : done.ending = o.ending
  failed : done.ending ≠ .exit 0
  report : ∃ before, done.errors = before ++ o.report
  untouched : done.store = store

theorem Plan.Tells.refused {p : Plan} {o : Obstacle} (tells : p.Tells o) (store : Store) :
    (carryOut p.ending p.effects "" "" store).Refused o store := by
  have whole : carryOut p.ending p.effects "" "" store =
      ⟨String.join (p.effects.map Effect.output), String.join (p.effects.map Effect.errors), store, p.ending⟩ := by
    have eq := carryOut_append tells.unchanged p.ending [] "" "" store
    rwa [List.append_nil, String.empty_append, String.empty_append] at eq
  rw [whole]
  exact ⟨tells.ending, tells.ending ▸ o.ending_ne, tells.report, rfl⟩

/-- the names of the files of a package -/
def packageFiles : List String := ["__init__.py", "components.py", "operations.py"]

theorem isEntryName_packageFiles : ∀ name ∈ packageFiles, IsEntryName name := by decide

theorem Plan.Writes.written {p : Plan} {output : Path} {files : Bundle} {store : Store} (writes : p.Writes output files)
    (names : files.map (·.1) = packageFiles) (accepts : store.Accepts output packageFiles) :
    let done := carryOut p.ending p.effects "" "" store
    done.ending = .exit 0 ∧ ∀ f ∈ files, done.store.Holds (output.child f.1) f.2 := by
  obtain ⟨before, unchanged, effects⟩ := writes.effects
  have plain : ∀ f ∈ files, IsEntryName f.1 := by
    intro f mem
    have : f.1 ∈ packageFiles := names ▸ List.mem_map_of_mem mem
    exact isEntryName_packageFiles f.1 this
  have distinct : (files.map (·.1)).Nodup := by
    rw [names]
    decide
  have nonempty : files ≠ [] := by
    rintro rfl
    cases names
  dsimp only
  rw [effects, writes.ending, carryOut_append unchanged]
  exact carryOut_writeAll _ (names ▸ accepts) nonempty distinct plain _ _

section

end

end ApiTypes.CommandLine
