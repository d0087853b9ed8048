/-
Imports of the operations module: the classes that its signatures mention.

Stubs are printed one after the other, and all of them add to one set. An argument that is given adds the classes of the
components in its type, and so does the response; an argument that is left out adds none. Which classes a type adds is
decided by one walk over its declaration and what is printed of it by another, and a record or a type of anything ends
both. The page imports the set in order, in one line between the import of `Any` and the first stub.

Main statements: `collect_flat`, the two walks agree; `foldl_give`, the classes that the inputs of an operation add;
`collectFrom_eq`, those of operations one after the other; `Annotated`, where a stub's text has its annotations;
`operations_imports`, what is collected behind each operation and the page with the line that imports it.
-/
import ApiTypes.Proofs.Signature
import ApiTypes.Proofs.Validity
import Mathlib.Data.String.Basic

namespace ApiTypes

/-! ## Sets of names -/

namespace Text

variable {name : String} {names : List String}

theorem gather_append (found names more : List String) :
    gather (gather found names) more = gather found (names ++ more) := by
  rw [gather, gather, gather, List.foldl_append]

/-- a name that is new goes between those before it and those behind it -/
theorem pairwise_insertName (increasing : names.Pairwise (· < ·)) (new : name ∉ names) :
    (insertName name names).Pairwise (· < ·) := by
  induction names with
  | nil => exact List.pairwise_singleton _ _
  | cons n rest ih =>
    obtain ⟨least, increasing'⟩ := List.pairwise_cons.1 increasing
    have other : name ≠ n := fun same => new (same ▸ List.mem_cons_self)
    rw [insertName]
    split_ifs with before
    · refine List.pairwise_cons.2 ⟨fun m mem => ?_, ih increasing' (mt (List.mem_cons_of_mem n) new)⟩
      rcases List.mem_cons.1 ((perm_insertName name rest).subset mem) with rfl | mem
      · exact before
      · exact least m mem
    · have behind : name < n := lt_of_le_of_ne (not_lt.1 before) other
      refine List.pairwise_cons.2 ⟨fun m mem => ?_, increasing⟩
      rcases List.mem_cons.1 mem with rfl | mem
      · exact behind
      · exact behind.trans (least m mem)

/-- names that differ are strictly increasing once they are sorted -/
theorem pairwise_sorted (distinct : names.Nodup) : (sorted names).Pairwise (· < ·) := by
  induction names with
  | nil => exact .nil
  | cons name rest ih =>
    obtain ⟨new, distinct⟩ := List.nodup_cons.1 distinct
    exact pairwise_insertName (ih distinct) (mt mem_sorted.1 new)

end Text

namespace Module

open ApiTypes.Text

/-! ## Collecting -/

/-- add the classes of the components in a type, as deep as lists go -/
def collect (found : List String) : Declaration → List String
  | .reference component => gather found [className component]
  | .list item => collect found item
  | _ => found

/-- **What is collected from a type is what its type expression mentions.** -/
theorem collect_flat (found : List String) (type : Declaration) :
    collect found type = gather found (TypeExpr.flat type).components := by
  induction type using Declaration.listed.induct with
  | case1 component => rfl
  | case2 item ih => rw [collect, ih, TypeExpr.flat, TypeExpr.components]
  | case3 type notReference notList =>
    cases type with
    | list item => exact absurd rfl (notList item)
    | reference component => exact absurd rfl (notReference component)
    | builtin | record | any => rfl

/-- a stub while it is printed: the arguments so far, and the classes found so far -/
structure Progress where
  arguments : List Argument
  found : List String

namespace Progress

/-- an input is given an argument, and its type is looked through, unless its identifier is taken -/
def give (s : Progress) (i : Input) : Progress :=
  if isTaken s.arguments i then s
  else ⟨s.arguments ++ [argumentOf i], collect s.found (argumentOf i).type⟩

end Progress

/-- print the stub of an operation, with the classes found so far; the classes found then -/
def collectOperation (found : List String) (op : Operation) : List String :=
  collect (op.asked.foldl Progress.give ⟨[], found⟩).found (Declaration.ofNode op.responseType).value

/-- print operations one after the other with one set of classes -/
def collectFrom (found : List String) (operations : List Operation) : List String :=
  operations.foldl collectOperation found

/-- the type expressions that a signature is printed with, that of the response last -/
def Stub.annotations (s : Stub) : List TypeExpr := s.types.map TypeExpr.flat

theorem Stub.references_eq (s : Stub) : s.references = s.annotations.flatMap TypeExpr.components := by
  rw [Stub.references, Stub.annotations, Stub.types, List.flatMap_map]
  simp only [components_flat, List.flatMap_append, List.flatMap_map, List.flatMap_singleton, List.map_append,
    List.map_flatMap]

/-- inputs one after the other add the classes of the earliest ones -/
theorem foldl_give (found : List String) (inputs : List Input) :
    inputs.foldl Progress.give ⟨[], found⟩ = ⟨(earliest inputs).map argumentOf,
      gather found (((earliest inputs).map argumentOf).flatMap fun a => (TypeExpr.flat a.type).components)⟩ := by
  induction inputs using List.reverseRecOn with
  | nil => rfl
  | append_singleton inputs i ih =>
    rw [List.foldl_append, ih, List.foldl_cons, List.foldl_nil, Progress.give, isTaken_earliest, earliest_snoc]
    by_cases taken : inputs.any (clash · i) = true
    · rw [if_pos taken, if_pos taken, List.append_nil]
    · rw [if_neg taken, if_neg taken, collect_flat, gather_append, List.map_append, List.flatMap_append,
        List.map_singleton, List.flatMap_singleton]

/-- one operation adds the classes that its signature mentions -/
theorem collectOperation_eq (found : List String) (op : Operation) :
    collectOperation found op = gather found (Stub.ofOperation op).value.references := by
  have response : (Stub.ofOperation op).value.response = (Declaration.ofNode op.responseType).value := by
    rw [ofOperation_value]
  rw [collectOperation, foldl_give, collect_flat, gather_append, Stub.references_eq, Stub.annotations, Stub.types,
    arguments_ofOperation, response]
  simp only [List.map_append, List.flatMap_append, List.map_map, List.flatMap_map, List.map_singleton,
    List.flatMap_singleton, Function.comp_apply]

theorem collectFrom_eq (found : List String) (operations : List Operation) :
    collectFrom found operations =
      gather found (operations.flatMap fun op => (Stub.ofOperation op).value.references) := by
  induction operations generalizing found with
  | nil => rfl
  | cons op rest ih =>
    rw [collectFrom, List.foldl_cons, ← collectFrom, ih, collectOperation_eq, gather_append, List.flatMap_cons]

/-! ## The printed page -/

/-- the type expression that is printed for a declared node in a signature -/
def annotationOf (type : Node) : TypeExpr := TypeExpr.flat (Declaration.ofNode type).value

/-- the annotations of a stub are those that its first line is printed with: one behind the name of each parameter, in
the brackets, and the last behind the arrow -/
structure Annotated (op : Operation) (s : Stub) : Prop where
  annotations : s.annotations = (earliest op.asked).map (annotationOf ·.type) ++ [annotationOf op.responseType]
  parameters : parameterTexts (earliest op.asked) =
    let written := fun i : Input => identifier i.name ++ ": " ++ (annotationOf i.type).text
    let optional := (earliest op.asked).filter (!·.required)
    ((earliest op.asked).filter (·.required)).map written ++
      if optional = [] then [] else "*" :: optional.map fun i => written i ++ " | None = None"
  text : ∃ rest, s.text = "def " ++ identifier op.name ++ "(" ++ ", ".intercalate (parameterTexts (earliest op.asked)) ++
    ") -> " ++ (annotationOf op.responseType).text ++ ":\n" ++ rest

theorem annotations_ofOperation (op : Operation) : (Stub.ofOperation op).value.annotations =
    (earliest op.asked).map (annotationOf ·.type) ++ [annotationOf op.responseType] := by
  rw [Stub.annotations, Stub.types, arguments_ofOperation, ofOperation_value, List.map_append, List.map_map, List.map_map]
  rfl

theorem parameterText_required {i : Input} (h : i.required = true) :
    parameterText i = identifier i.name ++ ": " ++ (annotationOf i.type).text := by
  rw [parameterText, if_pos h, String.append_empty]
  rfl

theorem parameterText_optional {i : Input} (h : i.required = false) :
    parameterText i = identifier i.name ++ ": " ++ (annotationOf i.type).text ++ " | None = None" := by
  rw [parameterText, h]
  rfl

theorem annotated_ofOperation (op : Operation) : Annotated op (Stub.ofOperation op).value where
  annotations := annotations_ofOperation op
  parameters := by
    have required := List.map_congr_left fun i (hi : i ∈ (earliest op.asked).filter (·.required)) =>
      parameterText_required (List.mem_filter.1 hi).2
    have optional := List.map_congr_left fun i (hi : i ∈ (earliest op.asked).filter (!·.required)) =>
      parameterText_optional (by simpa using (List.mem_filter.1 hi).2)
    simp only [parameterTexts, List.isEmpty_iff, required, optional]
  text := by
    obtain ⟨rest, text⟩ := (Stub.ofOperation op).value.text_signature
    have name : (Stub.ofOperation op).value.name = identifier op.name := by rw [ofOperation_value]
    have response : TypeExpr.flat (Stub.ofOperation op).value.response = annotationOf op.responseType := by
      rw [ofOperation_value, annotationOf]
    rw [signature_ofOperation, name, response] at text
    exact ⟨rest, text⟩

/-- what the operations module of a documentation imports -/
structure Imported (d : Documentation) : Prop where
  /-- behind any of the operations the set has, once each, the classes of components in the annotations up to there -/
  collected : ∀ printed, printed <+: d.operations → (collectFrom [] printed).Nodup ∧
    ∀ name, name ∈ collectFrom [] printed ↔
      ∃ op ∈ printed, ∃ type ∈ (Stub.ofOperation op).value.annotations, name ∈ type.components
  annotated : ∀ op ∈ d.operations, Annotated op (Stub.ofOperation op).value
  /-- the set is imported in order, by one line that is left out where it is empty -/
  imported : ∃ names, names.Perm (collectFrom [] d.operations) ∧ names.Pairwise (· < ·) ∧
    (operationsText d).value = "\n".intercalate ([head, "from typing import Any\n"] ++
      (if names = [] then [] else ["from .components import " ++ ", ".intercalate names ++ "\n"]) ++
        d.operations.map fun op => "\n" ++ (Stub.ofOperation op).value.text)

/-- the page of some stubs, part by part -/
theorem operationsPage_eq (stubs : List Stub) : operationsPage stubs =
    "\n".intercalate ([head, "from typing import Any\n"] ++
      (if importsOf stubs = [] then [] else ["from .components import " ++ ", ".intercalate (importsOf stubs) ++ "\n"]) ++
        stubs.map fun s => "\n" ++ s.text) := by
  have typing : importLine "typing" ["Any"] = "from typing import Any\n" := by decide
  have beside (names : List String) :
      importLine ".components" names = "from .components import " ++ ", ".intercalate names ++ "\n" := rfl
  simp only [operationsPage, page, typing, beside, List.isEmpty_iff, List.cons_append, List.nil_append]

/-- **The operations module imports the classes that its signatures mention.** -/
theorem operations_imports (d : Documentation) : Imported d where
  collected := by
    intro printed _
    rw [collectFrom_eq]
    refine ⟨nodup_gather _ List.nodup_nil, fun name => ?_⟩
    simp only [mem_gather, Stub.references_eq, List.mem_flatMap, List.not_mem_nil, false_or]
  annotated := fun op _ => annotated_ofOperation op
  imported := by
    have imports : importsOf (stubsOf d.operations).value = sorted (collectFrom [] d.operations) := by
      rw [importsOf, stubsOf_value, List.flatMap_map, collectFrom_eq]
    have distinct : (collectFrom [] d.operations).Nodup := by
      rw [collectFrom_eq]
      exact nodup_gather _ List.nodup_nil
    refine ⟨_, perm_sorted _, pairwise_sorted distinct, ?_⟩
    rw [operationsText, Noted.bind_value, Noted.pure_value, operationsPage_eq, imports, stubsOf_value, List.map_map]
    simp only [Function.comp_def]

end Module

end ApiTypes
