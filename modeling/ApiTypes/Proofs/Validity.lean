/-
Generated modules are valid.

The pages of the components and of the operations are read back part by part: the head, the imports, and a block or a
stub after the other. What the operations import is defined by the blocks of the components. So nothing is found wrong
with the package that is generated.

Main statements: `reads_components`, `reads_stubs`, what the two modules are read as; `modules_valid`, the package
has no defects.
-/
import ApiTypes.Proofs.Legibility

namespace ApiTypes

open ApiTypes.Text

namespace Source

open Lexing

/-! ## Pages -/

/-- a part behind an empty line -/
theorem IsPart.below {part : String} {statements : List Statement} (h : IsPart part statements) :
    IsPart ("\n" ++ part) statements where
  laid := by
    have chars : ("\n" ++ part).toList = '\n' :: part.toList := by simp
    rw [chars, Literal.lineFeeds_cons (by decide)]
    exact .blank h.laid
  ends := by
    rw [String.toList_append, List.getLast?_append, h.ends]
    rfl

/-- a page is read part by part behind its head -/
theorem isPart_page {head : List Statement} {parts : List String} {statements : List (List Statement)}
    (isHead : IsPart Module.head head) (h : List.Forall₂ IsPart parts statements) :
    IsPart (Module.page parts) (head ++ statements.flatten) :=
  isPart_joined isHead h

/-- parts of one statement each -/
theorem exists_statements {α : Type} {text : α → String} {P : α → Statement → Prop} {l : List α}
    (h : ∀ a ∈ l, ∃ s, IsPart (text a) [s] ∧ P a s) :
    ∃ statements, List.Forall₂ IsPart (l.map text) (statements.map fun s => [s]) ∧ List.Forall₂ P l statements := by
  induction l with
  | nil => exact ⟨[], .nil, .nil⟩
  | cons a rest ih =>
    obtain ⟨s, isPart, holds⟩ := h a List.mem_cons_self
    obtain ⟨statements, parts, all⟩ := ih fun b hb => h b (List.mem_cons_of_mem _ hb)
    exact ⟨s :: statements, .cons isPart parts, .cons holds all⟩

theorem flatten_singles (statements : List Statement) : (statements.map fun s => [s]).flatten = statements := by
  rw [← List.flatMap_def, List.flatMap_singleton']

theorem spells_typing : Spells 0 "typing".toList (dotsFor false ++ [.name "typing"]) :=
  spells_name (by decide)

/-- the module of the components, named from beside it -/
theorem spells_beside : Spells 0 ".components".toList (dotsFor true ++ [.name "components"]) := by
  have name : Spells 0 "components".toList [.name "components"] := spells_name (by decide)
  refine ⟨by decide, fun rest columns brackets ends room => ?_⟩
  exact (goes_mark (by decide : ('.', 'c') ∈ plainMarks) _ columns brackets).trans
    (name.goes rest columns brackets ends room)

end Source

namespace Module

open ApiTypes.Source

variable {d : Documentation}

/-! ## The two modules -/

theorem importsBeside_eq_nil {α : Type} {l : List α} {statements : List Statement}
    (h : List.Forall₂ (fun _ s => s.importsBeside? = none) l statements) : importsBeside statements = [] := by
  unfold importsBeside
  induction h with
  | nil => rfl
  | cons first _ ih => rw [List.filterMap_cons, first, ih]

/-- what the statements of blocks define -/
theorem names_of_blocks {blocks : List Block} {statements : List Statement}
    (h : List.Forall₂ (fun b s => s.defines = [canonical b.name] ∧ s.importsBeside? = none) blocks statements) :
    statements.flatMap Statement.defines = blocks.map (fun b => canonical b.name) ∧ importsBeside statements = [] := by
  refine ⟨?_, importsBeside_eq_nil (h.imp fun _ _ both => both.2)⟩
  induction h with
  | nil => rfl
  | cons first _ ih =>
    rw [List.flatMap_cons, List.map_cons, first.1, ih]
    rfl

/-- **The components module is read as a statement for each block**, which defines the name of the block. -/
theorem reads_components (h : d.Printable) : ∃ statements, read (componentsText d).value = .ok statements ∧
    statements.flatMap Statement.defines = (printedBlocks d).map (fun b => canonical b.name) ∧
      importsBeside statements = [] := by
  have table : printedBlocks d = (printedTable d).map Prod.fst := (printedTable_tabled d).1.blocks
  have each : ∀ b ∈ printedBlocks d, ∃ s, IsPart ("\n" ++ b.text ++ "\n") [s] ∧
      (s.defines = [canonical b.name] ∧ s.importsBeside? = none) := by
    intro b hb
    rw [table] at hb
    obtain ⟨e, he, rfl⟩ := List.mem_map.1 hb
    obtain ⟨s, isPart, names⟩ := (legible_of_mem_table h he).isPart
    rw [String.append_assoc]
    exact ⟨s, isPart.below, names⟩
  obtain ⟨statements, parts, names⟩ := exists_statements each
  have typing : IsPart (importLine "typing" ["Any", "NotRequired", "TypedDict"]) _ :=
    isPart_importLine spells_typing (by decide) (by decide) (by decide)
  obtain ⟨e, head⟩ := isPart_head
  have isPart := isPart_page head (.cons typing parts)
  rw [← componentsText_value] at isPart
  obtain ⟨defines, imports⟩ := names_of_blocks names
  refine ⟨_, isPart.read, ?_⟩
  rw [List.flatten_cons, flatten_singles, ← defines]
  exact ⟨rfl, imports⟩

theorem stubsOf_value (operations : List Operation) :
    (stubsOf operations).value = operations.map fun op => (Stub.ofOperation op).value := by
  induction operations with
  | nil => rfl
  | cons op rest ih => rw [stubsOf, Noted.bind_value, Noted.bind_value, ih, Noted.pure_value, List.map_cons]

/-- the classes that stubs mention are those of components -/
theorem component_of_mem_imports (h : d.Printable) {name : String}
    (mem : name ∈ importsOf (stubsOf d.operations).value) : ∃ c ∈ d.components, className c.1 = name := by
  obtain ⟨stub, hstub, mentioned⟩ := mem_importsOf.1 mem
  rw [stubsOf_value] at hstub
  obtain ⟨op, hop, rfl⟩ := List.mem_map.1 hstub
  obtain ⟨type, ht, c, hc, rfl⟩ := mem_references.1 mentioned
  have known := (fine_of_mem_types h hop type ht).emitted.listed c hc
  obtain ⟨e, he, rfl⟩ := List.mem_map.1 known
  exact ⟨e, he, rfl⟩

/-- what a module imports from beside it, when it mentions these classes -/
def besideFor (classes : List String) : List (String × List String) :=
  if classes.isEmpty then [] else [("components", classes.map canonical)]

/-- what the operations import from beside them -/
def besideOperations (d : Documentation) : List (String × List String) :=
  besideFor (importsOf (stubsOf d.operations).value)

/-- the import of the classes that a module mentions, if it mentions any -/
def componentImport (classes : List String) : List Statement :=
  if classes.isEmpty then [] else [.importFrom 1 (some "components") classes]

theorem canonical_components : canonical "components" = "components" := by
  have ascii : "components".toList.all isAscii = true := by decide
  rw [canonical, composed_ascii (List.all_eq_true.1 ascii), String.ofList_toList]

theorem importsBeside_componentImport (classes : List String) :
    importsBeside (componentImport classes) = besideFor classes := by
  unfold componentImport besideFor
  split_ifs
  · rfl
  · simp [importsBeside, Statement.importsBeside?, canonical_components]

theorem exists_componentImport {classes : List String} (plain : ∀ name ∈ classes, isPlainField name = true) :
    ∃ statements, List.Forall₂ IsPart (if classes.isEmpty then [] else [importLine ".components" classes]) statements ∧
      statements.flatten = componentImport classes := by
  unfold componentImport
  split_ifs with empty
  · exact ⟨[], .nil, rfl⟩
  · have part := isPart_importLine spells_beside (by decide) (by simpa using empty) plain
    exact ⟨_, .cons part .nil, rfl⟩

/-- each component has a block of its class -/
theorem exists_block {c : String × Component} (hc : c ∈ d.components) :
    ∃ b ∈ printedBlocks d, b.name = className c.1 := by
  obtain ⟨tabled, nodes⟩ := printedTable_tabled d
  have blocks : printedBlocks d = (printedTable d).map Prod.fst := tabled.blocks
  have printed : Printed.ofComponent c ∈ (printedTable d).map Prod.snd := by
    rw [nodes]
    exact List.mem_flatMap.2 ⟨c, hc, List.mem_append_right _ List.mem_cons_self⟩
  obtain ⟨e, he, eq⟩ := List.mem_map.1 printed
  have drawn := tabled.drawn e he
  rw [Drawn, eq, Printed.ofComponent, ComponentDeclaration.ofComponent_value] at drawn
  rw [blocks]
  exact ⟨e.1, List.mem_map_of_mem he, drawn.1⟩

/-- a statement that is the function of an operation -/
def StubOf (op : Operation) (s : Statement) : Prop := ∃ text, s = .function (identifier op.name) (stubBody text)

/-- the statements of the operations module behind its head -/
def behindHead (d : Documentation) (functions : List Statement) : List Statement :=
  .importFrom 0 (some "typing") ["Any"] :: (componentImport (importsOf (stubsOf d.operations).value) ++ functions)

/-- where the classes that are mentioned are plain and each stub is a part, the operations module is read -/
theorem reads_functions {head : List Statement} (isHead : IsPart Module.head head)
    (plain : ∀ name ∈ importsOf (stubsOf d.operations).value, isPlainField name = true)
    (each : ∀ op ∈ d.operations, ∃ text,
      IsPart (Stub.ofOperation op).value.text [.function (Stub.ofOperation op).value.name (stubBody text)]) :
    ∃ functions, read (operationsText d).value = .ok (head ++ behindHead d functions) ∧
      List.Forall₂ StubOf d.operations functions := by
  have below : ∀ op ∈ d.operations, ∃ s, IsPart ("\n" ++ (Stub.ofOperation op).value.text) [s] ∧ StubOf op s := by
    intro op hop
    obtain ⟨text, isPart⟩ := each op hop
    exact ⟨_, isPart.below, text, by rw [ofOperation_value]⟩
  obtain ⟨functions, parts, stubs⟩ := exists_statements below
  obtain ⟨imports, importParts, beside⟩ := exists_componentImport plain
  have typing : IsPart (importLine "typing" ["Any"]) _ :=
    isPart_importLine spells_typing (by decide) (by decide) (by decide)
  have texts : (stubsOf d.operations).value.map (fun s => "\n" ++ s.text) =
      d.operations.map fun op => "\n" ++ (Stub.ofOperation op).value.text := by
    rw [stubsOf_value, List.map_map]
    rfl
  rw [← texts] at parts
  have isPart := isPart_page isHead (List.rel_append (List.rel_append (.cons typing .nil) importParts) parts)
  refine ⟨functions, ?_, stubs⟩
  rw [List.flatten_append, List.flatten_append, flatten_singles, beside] at isPart
  exact isPart.read

/-- **The operations module is read as its imports and a function for each operation.** -/
theorem reads_stubs (h : d.Printable) : ∃ e functions,
    read (operationsText d).value = .ok (.expression e :: .importFrom 0 (some "__future__") ["annotations"] ::
      behindHead d functions) ∧
      List.Forall₂ StubOf d.operations functions := by
  obtain ⟨e, head⟩ := isPart_head
  refine ⟨e, reads_functions head ?_ ?_⟩
  · intro name mem
    obtain ⟨c, hc, rfl⟩ := component_of_mem_imports h mem
    exact h.classes c hc
  · intro op hop
    exact (legible_ofOperation h hop).isPart.imp fun _ => And.right

/-- **The operations module is read with one import from beside it**, if with any. -/
theorem reads_operations (h : d.Printable) : ∃ statements, read (operationsText d).value = .ok statements ∧
    importsBeside statements = besideOperations d := by
  obtain ⟨e, functions, isRead, stubs⟩ := reads_stubs h
  have alone : importsBeside functions = [] := by
    apply importsBeside_eq_nil (l := d.operations)
    refine stubs.imp fun op s => ?_
    rintro ⟨text, rfl⟩
    rfl
  refine ⟨_, isRead, ?_⟩
  have beside := importsBeside_componentImport (importsOf (stubsOf d.operations).value)
  unfold importsBeside at beside alone ⊢
  unfold behindHead
  rw [List.filterMap_cons, List.filterMap_cons, List.filterMap_cons, List.filterMap_append, beside, alone,
    List.append_nil]
  rfl

end Module

/-! ## The package -/

namespace Bundle

open Source

/-- nothing is found in texts that are all found right -/
theorem findings_eq_nil {defect? : String → Except Fault (Option Defect)} {files : Bundle}
    (h : ∀ f ∈ files, defect? f.2 = .ok none) : findings defect? files = .ok [] := by
  induction files with
  | nil => rfl
  | cons f rest ih =>
    obtain ⟨file, text⟩ := f
    have here : defect? text = .ok none := h _ List.mem_cons_self
    rw [findings, here, ih fun g hg => h g (List.mem_cons_of_mem _ hg)]
    rfl

/-- the import is from a module of the bundle that defines the names -/
def Resolves (bundle : Bundle) (i : String × List String) : Prop :=
  ∃ text statements, bundle.lookup (fileOf i.1) = some text ∧ read text = .ok statements ∧
    ∀ name ∈ i.2, name ∈ definedNames statements

theorem Resolves.importDefect? {bundle : Bundle} {i : String × List String} (h : bundle.Resolves i) :
    bundle.importDefect? i.1 i.2 = .ok none := by
  obtain ⟨text, statements, found, isRead, defined⟩ := h
  have none : (sorted (gather [] i.2)).filter (fun name => !(definedNames statements).contains name) = [] := by
    rw [List.filter_eq_nil_iff]
    intro name mem
    rw [mem_sorted, mem_gather] at mem
    simpa using defined name (mem.resolve_left List.not_mem_nil)
  unfold Bundle.importDefect?
  rw [found]
  simp only [isRead, none, List.isEmpty_nil, ↓reduceIte]

theorem firstImportDefect?_eq_none {bundle : Bundle} {imports : List (String × List String)}
    (h : ∀ i ∈ imports, bundle.Resolves i) : bundle.firstImportDefect? imports = .ok none := by
  induction imports with
  | nil => rfl
  | cons i rest ih =>
    obtain ⟨module, names⟩ := i
    have first : bundle.importDefect? module names = .ok none := (h _ List.mem_cons_self).importDefect?
    rw [firstImportDefect?, first]
    exact ih fun j hj => h j (List.mem_cons_of_mem _ hj)

/-- **A bundle has no defects when its modules are read and their imports resolve.** -/
theorem defects_eq_nil {bundle : Bundle}
    (h : ∀ f ∈ bundle.modules, ∃ statements, read f.2 = .ok statements ∧
      ∀ i ∈ importsBeside statements, bundle.Resolves i) : bundle.defects = .ok [] := by
  have readable : bundle.unreadable = .ok [] := by
    refine findings_eq_nil fun f hf => ?_
    obtain ⟨statements, isRead, -⟩ := h f hf
    simp only [readDefect?, isRead]
  have resolved : bundle.unresolved = .ok [] := by
    refine findings_eq_nil fun f hf => ?_
    obtain ⟨statements, isRead, resolve⟩ := h f hf
    simp only [isRead]
    exact firstImportDefect?_eq_none resolve
  rw [defects, readable]
  exact resolved

end Bundle

namespace Documentation

open ApiTypes.Module Source

variable {d : Documentation}

/-- both modules are read, and what the operations import from the components is defined there -/
theorem Printable.reads_modules (h : d.Printable) :
    ∃ components operations, read (componentsText d).value = .ok components ∧
      read (operationsText d).value = .ok operations ∧ importsBeside components = [] ∧
        ∀ i ∈ importsBeside operations, i.1 = "components" ∧ ∀ name ∈ i.2, name ∈ definedNames components := by
  obtain ⟨components, readComponents, defines, alone⟩ := reads_components h
  obtain ⟨operations, readOperations, beside⟩ := reads_operations h
  refine ⟨components, operations, readComponents, readOperations, alone, fun i hi => ?_⟩
  rw [beside, besideOperations, besideFor] at hi
  split_ifs at hi with empty
  · cases hi
  · obtain rfl := List.mem_singleton.1 hi
    refine ⟨rfl, fun name mem => ?_⟩
    obtain ⟨cls, mentioned, rfl⟩ := List.mem_map.1 mem
    obtain ⟨c, hc, rfl⟩ := component_of_mem_imports h mentioned
    obtain ⟨b, hb, eq⟩ := exists_block hc
    have defined : canonical (className c.1) ∈ components.flatMap Statement.defines := by
      rw [defines, ← eq]
      exact List.mem_map.2 ⟨b, hb, rfl⟩
    exact mem_definedNames.2 (List.mem_flatMap.1 defined)

/-- nothing is wrong with the package -/
theorem Printable.defects_generated (h : d.Printable) : d.generated.value.defects = .ok [] := by
  obtain ⟨components, operations, readComponents, readOperations, alone, resolved⟩ := h.reads_modules
  refine Bundle.defects_eq_nil fun f hf => ?_
  have files : d.generated.value =
      [("__init__.py", ""), ("components.py", (componentsText d).value),
        ("operations.py", (operationsText d).value)] := rfl
  have mem : f ∈ d.generated.value := List.mem_of_mem_filter hf
  rw [files] at mem ⊢
  simp only [List.mem_cons, List.not_mem_nil, or_false] at mem
  rcases mem with rfl | rfl | rfl
  · have empty : Laid (closeLines "".toList) [] := by
      have eq : closeLines "".toList = ['\n'] := by decide
      rw [eq]
      exact .blank .nil
    exact ⟨[], read_of_laid (by decide) empty, by simp [importsBeside]⟩
  · exact ⟨components, readComponents, by simp [alone]⟩
  · refine ⟨operations, readOperations, fun i hi => ?_⟩
    obtain ⟨eq, defined⟩ := resolved i hi
    refine ⟨(componentsText d).value, components, ?_, readComponents, defined⟩
    rw [eq]
    rfl

end Documentation

open ApiTypes.Module Source in
/-- **Generated modules are valid.** Where the classes of components are names and no reserved words, every reference
names a component, descriptions, summaries and endpoints hold no null character, and arrays stand in each other no more
than a hundred deep, both modules are read, the names that the operations import from the components are defined there,
and nothing is found wrong with the package. -/
theorem modules_valid (d : Documentation) (h : d.Printable) :
    d.generated.value.defects = .ok [] ∧
      ∃ components operations, read (componentsText d).value = .ok components ∧
        read (operationsText d).value = .ok operations ∧ importsBeside components = [] ∧
          ∀ i ∈ importsBeside operations, i.1 = "components" ∧ ∀ name ∈ i.2, name ∈ definedNames components :=
  ⟨h.defects_generated, h.reads_modules⟩

/-- a record in a list of lists, a field that is no name, quotes in texts, and two arguments of one identifier -/
def assorted : Documentation where
  components :=
    let rows : Node := .array (.array (.object [("x-y", .scalar "integer"), ("class", .component "Pet")]))
    [("Pet", ⟨[⟨"rows", rows, "two\nlines", .str "", true⟩], [⟨"name", .scalar "string", "", .str "", false⟩]⟩),
      ("pet-2", ⟨[⟨"it's", .component "Pet", "", .str "", true⟩], []⟩)]
  operations :=
    [{ endpoint := "/pets/\"\"\"", name := "list_pets", operationId := "listPets", summary := "Lists \\ \"pets\"",
       method := .post, group := "pets", responseType := .component "pet-2",
       arguments := [⟨"pet-id", "query", "string", .str "", false, ""⟩,
         ⟨"petId", "query", "integer", .str "", true, ""⟩],
       requestBody := some (.json true "application/json"
         ⟨[⟨"owners", .array (.component "Pet"), "", .str "", true⟩], []⟩ none) }]

theorem assorted_valid : assorted.Printable ∧ assorted.generated.value.defects = .ok [] := by
  have printable : assorted.Printable := ⟨by decide, by decide, by decide, by decide, by decide⟩
  exact ⟨printable, (modules_valid assorted printable).1⟩

end ApiTypes
