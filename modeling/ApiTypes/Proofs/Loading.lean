/-
Loading the operations module: which functions and classes are there afterwards.

A module is loaded statement by statement, and a name stands for what it was bound to last. The functions of the
operations are named by their identifiers, and nothing tells two of one identifier apart, or one of them from a class
that is imported. So a function is lost, or a class, exactly where two such names are equal, whatever the operation ids
are.

Main statements: `lookup_run`, what a name stands for behind a run of statements; `stubs_kept_iff`, when the loaded
module has a function for each operation and every imported class; `stem_of_built`, the same in terms of operation ids;
`clashing_lost`, a document of three operations whose module has two functions and no class.
-/
import Mathlib
import ApiTypes.Proofs.Accounting
import ApiTypes.Proofs.Identifier
import ApiTypes.Proofs.Validity

namespace ApiTypes

namespace Source

/-! ## Loading -/

/-- the names that a statement of a generated module binds when it is loaded -/
def Statement.binds : Statement → List String
  | .function name _ => [canonical name]
  | .importFrom _ _ names => names.map canonical
  | s => s.defines

def Statement.isFunction : Statement → Bool
  | .function .. => true
  | _ => false

/-- the names of a module that is being loaded, each with the statement that bound it last -/
abbrev Scope := AList fun _ : String => Statement

def execute (scope : Scope) (s : Statement) : Scope := s.binds.foldl (fun scope name => scope.insert name s) scope

def load (statements : List Statement) : Scope := statements.foldl execute ∅

/-- the names that stand for functions -/
def callables (scope : Scope) : List String := scope.keys.filter fun name => (scope.lookup name).any Statement.isFunction

variable {scope : Scope} {s : Statement} {statements : List Statement} {name : String}

theorem lookup_bindAll (names : List String) :
    (names.foldl (fun scope name => scope.insert name s) scope).lookup name =
      if name ∈ names then some s else scope.lookup name := by
  induction names generalizing scope with
  | nil => simp
  | cons n rest ih =>
    rw [List.foldl_cons, ih]
    by_cases here : name = n
    · rw [here, AList.lookup_insert]
      simp
    · rw [AList.lookup_insert_ne here]
      simp [here]

/-- a statement binds its names and no others -/
theorem lookup_execute : (execute scope s).lookup name = if name ∈ s.binds then some s else scope.lookup name :=
  lookup_bindAll s.binds

/-- **Behind a run of statements a name stands for what the last of them that binds it bound it to.** -/
theorem lookup_run : (statements.foldl execute scope).lookup name =
    ((statements.filter fun s => name ∈ s.binds).getLast?).or (scope.lookup name) := by
  induction statements generalizing scope with
  | nil => rfl
  | cons s rest ih =>
    rw [List.foldl_cons, ih, lookup_execute]
    by_cases binds : name ∈ s.binds
    · simp only [binds, if_true, List.filter_cons, decide_true]
      cases rest.filter fun s => name ∈ s.binds with
      | nil => rfl
      | cons t later => simp [List.getLast?_eq_some_getLast]
    · simp [binds]

theorem nodup_callables (scope : Scope) : (callables scope).Nodup := (AList.keys_nodup scope).filter _

theorem mem_callables : name ∈ callables scope ↔ ∃ s, scope.lookup name = some s ∧ s.isFunction = true := by
  rw [callables, List.mem_filter, Option.any_eq_true]
  constructor
  · exact fun both => both.2
  · rintro ⟨s, found, isFunction⟩
    exact ⟨AList.mem_keys.1 (AList.lookup_isSome.1 (by rw [found]; rfl)), s, found, isFunction⟩

end Source

namespace Module

open ApiTypes.Text ApiTypes.Source

/-! ## Functions of operations -/

theorem canonical_identifier (name : String) : canonical (identifier name) = identifier name := by
  rw [canonical, composed_ascii (isAscii_identifier name), String.ofList_toList]

section

variable {operations : List Operation} {functions statements : List Statement} {scope : Scope} {name : String}

/-- the names of the functions of operations -/
def functionNames (operations : List Operation) : List String := operations.map fun op => identifier op.name

theorem nodup_functionNames : (functionNames operations).Nodup ↔ (operations.map fun op => stem op.name).Nodup := by
  simp only [functionNames, List.Nodup, List.pairwise_map, ne_eq, identifier_inj]

/-- the functions of operations bind their names -/
theorem lookup_functions (h : List.Forall₂ StubOf operations functions) :
    (name ∈ functionNames operations →
      ∃ s, (functions.foldl execute scope).lookup name = some s ∧ s.isFunction = true) ∧
    (name ∉ functionNames operations → (functions.foldl execute scope).lookup name = scope.lookup name) := by
  induction h generalizing scope with
  | nil => simp [functionNames]
  | @cons op s operations functions stub _ ih =>
    obtain ⟨text, rfl⟩ := stub
    have binds : (Statement.function (identifier op.name) (stubBody text)).binds = [identifier op.name] := by
      rw [Statement.binds, canonical_identifier]
    rw [List.foldl_cons]
    have names : functionNames (op :: operations) = identifier op.name :: functionNames operations := rfl
    rw [names, List.mem_cons, not_or]
    constructor
    · intro mem
      by_cases later : name ∈ functionNames operations
      · exact ih.1 later
      · refine ⟨.function (identifier op.name) (stubBody text), ?_, rfl⟩
        rw [ih.2 later, lookup_execute, binds, if_pos (List.mem_singleton.2 (mem.resolve_right later))]
    · rintro ⟨ne, later⟩
      rw [ih.2 later, lookup_execute, binds, if_neg (by simpa using ne)]

/-- behind statements that define no functions, the functions of operations are the only ones -/
theorem mem_callables_functions (h : List.Forall₂ StubOf operations functions)
    (none : ∀ s ∈ statements, s.isFunction = false) (name : String) :
    name ∈ callables (load (statements ++ functions)) ↔ name ∈ functionNames operations := by
  rw [mem_callables, load, List.foldl_append]
  constructor
  · rintro ⟨s, found, isFunction⟩
    by_contra absent
    rw [(lookup_functions h).2 absent, lookup_run, AList.lookup_empty, Option.or_none] at found
    have mem : s ∈ statements := List.mem_of_mem_filter (List.mem_of_getLast? found)
    rw [none s mem] at isFunction
    cases isFunction
  · exact (lookup_functions h).1

theorem length_eq_iff_nodup {names kept : List String} (nodup : kept.Nodup) (same : ∀ name, name ∈ kept ↔ name ∈ names) :
    kept.length = names.length ↔ names.Nodup := by
  have perm : kept.Perm names.dedup :=
    (List.perm_ext_iff_of_nodup nodup (List.nodup_dedup names)).2 fun name => (same name).trans List.mem_dedup.symm
  rw [perm.length_eq]
  constructor
  · intro eq
    rw [← (List.dedup_sublist names).eq_of_length eq]
    exact List.nodup_dedup names
  · intro nodup
    rw [List.dedup_eq_self.2 nodup]

/-- an imported class is lost where a function has its name, and only there -/
theorem lookup_class {classes : List String} {e : Expr} (h : List.Forall₂ StubOf operations functions) {cls : String}
    (mem : cls ∈ classes) :
    (∃ names, (load (.expression e :: .importFrom 0 (some "__future__") ["annotations"] ::
      .importFrom 0 (some "typing") ["Any"] :: (componentImport classes ++ functions))).lookup (canonical cls) =
        some (.importFrom 1 (some "components") names)) ↔ canonical cls ∉ functionNames operations := by
  have nonempty : classes.isEmpty = false := by
    cases classes with
    | nil => cases mem
    | cons => rfl
  have binds : canonical cls ∈ (Statement.importFrom 1 (some "components") classes).binds := List.mem_map_of_mem mem
  rw [componentImport, nonempty, if_neg Bool.false_ne_true, load, List.foldl_cons, List.foldl_cons, List.foldl_cons,
    List.foldl_append]
  constructor
  · rintro ⟨names, found⟩ clash
    obtain ⟨s, bound, isFunction⟩ := (lookup_functions h).1 clash
    rw [bound] at found
    cases found
    cases isFunction
  · intro free
    refine ⟨classes, ?_⟩
    rw [(lookup_functions h).2 free, List.foldl_cons, List.foldl_nil, lookup_execute, if_pos binds]

end

/-- the operation names of a built documentation are snake-case forms already, and have the stems of the operation ids -/
theorem stem_of_built {settings : Settings} {document : Value} {d : Documentation}
    (built : (Documentation.ofDocument settings document).result = .ok d) :
    ∀ op ∈ d.operations, stem op.name = stem op.operationId := by
  intro op mem
  obtain ⟨outcomes, read, kept⟩ := (Documentation.built_of_result built).operations
  rw [kept, Documentation.mem_kept] at mem
  obtain ⟨⟨path, entry⟩, -, result⟩ := exists_of_mem_results (mapM_eq_ok.1 read) mem.1
  rw [(Operation.presents_of_result result mem.2).name, stem_snakeCase]

/-- **Functions and classes are kept exactly where no two names are equal.** The functions of the operations have
pairwise distinct names exactly when the stems of the operations' names are distinct. Where the module is loaded, these
are the documentations for which it has as many functions as there are operations; and an imported class keeps its
meaning exactly when no function has its name, as the language compares names. -/
theorem stubs_kept_iff (d : Documentation) :
    (((stubsOf d.operations).value.map Stub.name).Nodup ↔ (d.operations.map fun op => stem op.name).Nodup) ∧
    (d.Printable → ∃ statements, read (operationsText d).value = .ok statements ∧
      ((callables (load statements)).length = d.operations.length ↔ (d.operations.map fun op => stem op.name).Nodup) ∧
      ∀ cls ∈ importsOf (stubsOf d.operations).value,
        ((∃ names, (load statements).lookup (canonical cls) = some (.importFrom 1 (some "components") names)) ↔
          ∀ op ∈ d.operations, identifier op.name ≠ canonical cls)) := by
  have names : (stubsOf d.operations).value.map Stub.name = functionNames d.operations := by
    rw [stubsOf_value, List.map_map]
    refine List.map_congr_left fun op _ => ?_
    rw [Function.comp_apply, ofOperation_value]
  rw [names, ← nodup_functionNames]
  refine ⟨Iff.rfl, fun printable => ?_⟩
  obtain ⟨e, functions, isRead, stubs⟩ := reads_stubs printable
  unfold behindHead at isRead
  refine ⟨_, isRead, ?_, ?_⟩
  · have others : ∀ s ∈ [Statement.expression e, .importFrom 0 (some "__future__") ["annotations"],
        .importFrom 0 (some "typing") ["Any"]] ++ componentImport (importsOf (stubsOf d.operations).value),
        s.isFunction = false := by
      rw [List.forall_mem_append]
      refine ⟨by simp [Statement.isFunction], ?_⟩
      unfold componentImport
      split_ifs <;> simp [Statement.isFunction]
    have kept := length_eq_iff_nodup (nodup_callables _) (mem_callables_functions stubs others)
    rw [functionNames, List.length_map] at kept
    exact kept
  · intro cls mem
    rw [lookup_class stubs mem, functionNames, List.mem_map]
    exact ⟨fun free op hop same => free ⟨op, hop, same⟩, fun free ⟨op, hop, same⟩ => free op hop same⟩

def getOf (operationId : String) : Value :=
  .map [(.str "get", .map [
    (.str "operationId", .str operationId), (.str "summary", .str ""), (.str "x-oaiMeta", .map [(.str "group", .str "")]),
    (.str "responses", .map [(.str "200", .map [(.str "content", .map [(.str "application/json", .map [
      (.str "schema", .map [(.str "$ref", .str "#/components/schemas/pet")])])])])])])]

/-- two operation ids of one snake-case form, and one that is the name of a class -/
def clashingDocument : Value :=
  .map [(.str "openapi", .str "3.0.0"),
    (.str "components", .map [(.str "schemas", .map [
      (.str "pet", .map [(.str "type", .str "object"), (.str "properties", .map [
        (.str "name", .map [(.str "type", .str "string")])])])])]),
    (.str "paths", .map [(.str "/a", getOf "listModels"), (.str "/b", getOf "list_models"), (.str "/c", getOf "pet")])]

def clashingOperation (endpoint name operationId : String) : Operation :=
  { endpoint, name, operationId, summary := "", method := .get, requestBody := none, responseType := .component "pet",
    group := "" }

def clashing : Documentation where
  components := [("pet", ⟨[], [⟨"name", .scalar "string", "", .str "", false⟩]⟩)]
  operations := [clashingOperation "/a" "list_models" "listModels", clashingOperation "/b" "list_models" "list_models",
    clashingOperation "/c" "pet" "pet"]

/-- it is built, with three operation ids that all differ; its module does not have three functions, and the class that
it imports is gone -/
theorem clashing_lost :
    (Documentation.ofDocument {} clashingDocument).result = .ok clashing ∧
      (clashing.operations.map Operation.operationId).Nodup ∧ clashing.Printable ∧
      ∃ statements, read (operationsText clashing).value = .ok statements ∧
        (callables (load statements)).length ≠ clashing.operations.length ∧
        "pet" ∈ importsOf (stubsOf clashing.operations).value ∧
        ¬ ∃ names, (load statements).lookup "pet" = some (.importFrom 1 (some "components") names) := by
  have built : (Documentation.ofDocument {} clashingDocument).result = .ok clashing := by cbv
  have printable : clashing.Printable := ⟨by decide, by decide, by decide, by decide, by decide⟩
  obtain ⟨-, loads⟩ := stubs_kept_iff clashing
  obtain ⟨statements, isRead, functions, classes⟩ := loads printable
  have imported : "pet" ∈ importsOf (stubsOf clashing.operations).value := by decide
  have same : canonical "pet" = "pet" := canonical_identifier "pet"
  refine ⟨built, by decide, printable, statements, isRead, ?_, imported, ?_⟩
  · rw [ne_eq, functions]
    decide
  · rw [← same, classes "pet" imported]
    intro free
    exact free (clashingOperation "/c" "pet" "pet") (by simp [clashing]) same.symm

end Module

end ApiTypes
