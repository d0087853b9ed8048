/-
Which names take a meaning away from the generated modules.

The modules use nine words in the meaning that the language or its typing library gives them. Nothing keeps a name that
they define or import from being one of these. It happens in three places only: the class of a component, the class of
a record directly in a property, and an operation whose snake-case name is such a word. Records further inside have
names of two suffixes or more and records in lists have the word for an item in theirs, and no number is part of a
meaning.

Main statements: `annotate_adds`, what the printer adds for a declaration, by recursion on it, and `addAll_adds` for all
components; `captured_iff`, for each of the words exactly the names that take it; `shadowing_captured`, a documentation
that is built and takes three of them.
-/
import Mathlib.Data.List.Permutation
import ApiTypes.Proofs.Validity

namespace ApiTypes

/-! ## What asks for a class name -/

/-- a record asks for the class name that is made for its place; in a list, it asks for another -/
def Declaration.asks (name : String) : Declaration → List String
  | .record _ => [name]
  | _ => []

theorem Declaration.eq_of_mem_asks {name other : String} {d : Declaration} (h : other ∈ d.asks name) :
    other = name := by
  cases d with
  | record fields => exact List.mem_singleton.1 h
  | _ => cases h

def Node.asks (name : String) : Node → List String
  | .object _ => [name]
  | _ => []

theorem Declaration.asks_ofNode (name : String) (node : Node) : (ofNode node).value.asks name = node.asks name := by
  cases node with
  | scalar type =>
    rw [ofNode_scalar]
    rcases ofScalar_cases type with ⟨_, -, eq⟩ | ⟨-, _, eq⟩ <;> rw [eq] <;> rfl
  | array element =>
    rw [ofNode_array]
    rfl
  | object fields =>
    rw [ofNode_object]
    rfl
  | component name =>
    rw [ofNode_component]
    rfl
  | oneOf variants =>
    rw [ofNode_oneOf]
    rfl

namespace Module

open ApiTypes.Text

/-- the words that the generated modules use in the meaning of the language and its typing library -/
def meanings : List String := ["Any", "NotRequired", "TypedDict", "str", "int", "float", "bool", "list", "dict"]

/-! ## Names that are no meaning -/

/-- the characters behind the first that are no small letters -/
def humps (text : String) : Nat := text.toList.tail.countP fun c => !isLower c

theorem humps_suffix {suffix : String} (h : IsSuffix suffix) (ne : suffix ≠ "") :
    1 ≤ suffix.toList.countP fun c => !isLower c := by
  cases chars : suffix.toList with
  | nil => exact absurd (String.toList_eq_nil_iff.1 chars) ne
  | cons c rest =>
    have first : isLower c = false := h.first c (by rw [chars]; rfl)
    rw [List.countP_cons, first]
    exact Nat.le_add_left 1 _

/-- each suffix has one, and a meaning has no two -/
theorem not_meaning_two {name first second : String} (h : name ≠ "") (isFirst : IsSuffix first) (ne : first ≠ "")
    (isSecond : IsSuffix second) (ne' : second ≠ "") : name ++ first ++ second ∉ meanings := by
  intro mem
  have few : ∀ w ∈ meanings, humps w ≤ 1 := by decide
  have count := few _ mem
  have one := humps_suffix isFirst ne
  have other := humps_suffix isSecond ne'
  cases chars : name.toList with
  | nil => exact h (String.toList_eq_nil_iff.1 chars)
  | cons c rest =>
    rw [humps, String.toList_append, String.toList_append, chars, List.cons_append, List.cons_append, List.tail_cons,
      List.countP_append, List.countP_append] at count
    omega

theorem not_meaning_item (name : String) : name ++ "Item" ∉ meanings := by
  intro mem
  have absent : ∀ w ∈ meanings, 'I' ∉ w.toList := by decide
  refine absent _ mem ?_
  rw [String.toList_append]
  exact List.mem_append_right _ (by decide)

theorem not_meaning_number (name : String) (n : Nat) : name ++ toString n ∉ meanings := by
  intro mem
  have absent : ∀ w ∈ meanings, w.toList.all (fun c => !c.isDigit) = true := by decide
  have digits : (toString n).toList = Nat.toDigits 10 n := by
    rw [Nat.toString_eq_ofList_toDigits, String.toList_ofList]
  obtain ⟨c, hc⟩ := List.exists_mem_of_ne_nil _ (Nat.toDigits_ne_nil (b := 10) (n := n))
  have inside : c ∈ (name ++ toString n).toList := by
    rw [String.toList_append, digits]
    exact List.mem_append_right _ hc
  have digit := Nat.isDigit_of_mem_toDigits (by decide) (by decide) hc
  have other := List.all_eq_true.1 (absent _ mem) c inside
  rw [digit] at other
  cases other

/-- a name that had to be told apart is no meaning -/
theorem fresh_meaning {taken : List String} {name : String} (h : fresh taken name ∈ meanings) :
    fresh taken name = name := by
  rcases fresh_cases taken name with ⟨eq, -⟩ | ⟨n, eq⟩
  · exact eq
  · rw [eq] at h
    exact absurd h (not_meaning_number name n)

/-! ## What a step of the printer adds -/

/-- the later sheet has further blocks; every name that came into use is that of a block, the names `asked` for are in
use, and no block takes a meaning under another name -/
structure Adds (asked : List String) (s s' : Sheet) : Prop where
  blocks : s.blocks ⊆ s'.blocks
  taken : s.taken ⊆ s'.taken
  accounted : ∀ name ∈ s'.taken, name ∈ s.taken ∨ name ∈ s'.blocks.map Block.name
  used : asked ⊆ s'.taken
  meaning : ∀ b ∈ s'.blocks, b.name ∈ meanings → b ∈ s.blocks ∨ b.name ∈ asked

/-- what a declaration adds at a place -/
def AnnotationAdds (owner suffix : String) (d : Declaration) (s : Sheet) : Prop :=
  Adds (d.asks (owner ++ suffix)) s (Sheet.annotate (owner ++ suffix) d s).2

section

variable {asked more : List String} {owner suffix name : String} {s s' s'' : Sheet}

theorem Adds.refl (s : Sheet) : Adds [] s s :=
  ⟨List.Subset.refl _, List.Subset.refl _, fun _ => Or.inl, List.nil_subset _, fun _ hb _ => Or.inl hb⟩

theorem Adds.trans (h : Adds asked s s') (h' : Adds more s' s'') : Adds (asked ++ more) s s'' := by
  refine ⟨List.Subset.trans h.blocks h'.blocks, List.Subset.trans h.taken h'.taken, fun name used => ?_,
    List.append_subset.2 ⟨List.Subset.trans h.used h'.taken, h'.used⟩, fun b hb isMeaning => ?_⟩
  · rcases h'.accounted name used with used | printed
    · exact (h.accounted name used).imp_right fun mem => List.map_subset _ h'.blocks mem
    · exact Or.inr printed
  · rcases h'.meaning b hb isMeaning with hb | mem
    · exact (h.meaning b hb isMeaning).imp_right (List.mem_append_left _)
    · exact Or.inr (List.mem_append_right _ mem)

/-- names that are no meaning need not be asked for -/
theorem Adds.forget (h : Adds asked s s') (plain : ∀ name ∈ asked, name ∉ meanings) : Adds [] s s' :=
  ⟨h.blocks, h.taken, h.accounted, List.nil_subset _, fun b hb isMeaning =>
    (h.meaning b hb isMeaning).imp_right fun mem => absurd isMeaning (plain _ mem)⟩

theorem mem_taken_use {other : String} (h : other ∈ (s.use name).taken) : other ∈ s.taken ∨ other = name := by
  unfold Sheet.use at h
  split at h
  · exact Or.inl h
  · simpa using h

/-- a name comes into use, and its block follows those inside it -/
theorem Adds.addTo {lines : List Line} (h : Adds more (s.use name) s') (own : name ∈ meanings → name ∈ asked)
    (inside : ∀ n ∈ more, n ∈ meanings → n ∈ asked) (used : asked ⊆ s'.taken) :
    Adds asked s (addTo s' ⟨name, lines⟩) := by
  obtain ⟨earlier, same⟩ := use_extends s name
  refine ⟨fun b hb => ?_, List.Subset.trans earlier h.taken, fun other taken => ?_, used, fun b hb isMeaning => ?_⟩
  · exact List.mem_append_left _ (h.blocks (same.symm ▸ hb))
  · rw [addTo_blocks, List.map_append, List.mem_append]
    rcases h.accounted other taken with taken | printed
    · exact (mem_taken_use taken).imp_right fun eq => Or.inr (by simp [eq])
    · exact Or.inr (Or.inl printed)
  · rcases List.mem_append.1 hb with hb | hb
    · have inner := h.meaning b hb isMeaning
      rw [same] at inner
      exact inner.imp_right fun mem => inside _ mem isMeaning
    · rw [List.mem_singleton.1 hb] at isMeaning ⊢
      exact Or.inr (own isMeaning)

theorem fieldLines_adds (required : Bool) {fields : List Field}
    (types : ∀ f ∈ fields, ∀ s, owner ∈ s.taken → AnnotationAdds owner (pascalCase f.name) f.type s)
    (used : owner ∈ s.taken) :
    Adds (fields.flatMap fun f => f.type.asks (owner ++ pascalCase f.name)) s
      (Sheet.fieldLines owner required fields s).2 := by
  induction fields generalizing s with
  | nil => exact Adds.refl s
  | cons f rest ih =>
    have first := types f List.mem_cons_self s used
    rw [fieldLines_cons, List.flatMap_cons]
    exact first.trans (ih (fun g hg => types g (List.mem_cons_of_mem _ hg)) (first.taken used))

/-- a record takes a meaning only under the name that it asks for: inside it, every name has a suffix more -/
theorem annotate_record_adds {fields : List (String × Declaration)} (proper : IsClassName owner)
    (used : owner ∈ s.taken) (h : IsSuffix suffix)
    (types : ∀ name, IsClassName name → ∀ f ∈ recordFields fields, ∀ s, name ∈ s.taken →
      AnnotationAdds name (pascalCase f.name) f.type s) :
    AnnotationAdds owner suffix (.record fields) s := by
  have same : className (owner ++ suffix) = owner ++ suffix := className_of_isClassName (proper.append h)
  obtain ⟨more, isSuffix, ne, claimed⟩ := claimed_suffix proper used h
  have told := @fresh_meaning s.taken (className (owner ++ suffix))
  rw [claimed, same] at told
  have isUsed : owner ++ more ∈ (s.use (owner ++ more)).taken := Sheet.mem_use _ s
  have inner := fieldLines_adds false (types _ (proper.append isSuffix)) isUsed
  unfold AnnotationAdds
  rw [annotate_record (proper.append h).ne_empty, claimed]
  refine inner.addTo (fun isMeaning => List.mem_singleton.2 (told isMeaning)) (fun n mem isMeaning => ?_) ?_
  · obtain ⟨f, -, mem⟩ := List.mem_flatMap.1 mem
    rw [Declaration.eq_of_mem_asks mem] at isMeaning ⊢
    by_cases empty : pascalCase f.name = ""
    · rw [empty, String.append_empty] at isMeaning ⊢
      exact List.mem_singleton.2 (told isMeaning)
    · exact absurd isMeaning (not_meaning_two proper.ne_empty isSuffix ne (isSuffix_pascalCase f.name) empty)
  · -- the name is in use before, or it is the one that is claimed
    refine List.cons_subset.2 ⟨?_, List.nil_subset _⟩
    by_cases free : owner ++ suffix ∈ s.taken
    · exact inner.taken ((use_extends s _).1 free)
    · have own : owner ++ suffix = owner ++ more := by
        rw [← claimed, same, fresh, if_neg (by simpa using free)]
      rw [own]
      exact inner.taken isUsed

mutual

/-- **What a declaration adds.** The owner is a class name in use: a list adds the word for an item to the suffix, and a
record takes a class name of its own for its fields. -/
theorem annotate_adds : (d : Declaration) → ∀ owner suffix s, IsClassName owner → owner ∈ s.taken → IsSuffix suffix →
    AnnotationAdds owner suffix d s
  | .builtin _, _, _, s, _, _, _ => Adds.refl s
  | .list item, owner, suffix, s, proper, used, h => by
    have inner := annotate_adds item owner (suffix ++ "Item") s proper used (h.append isSuffix_item)
    unfold AnnotationAdds at inner ⊢
    rw [← String.append_assoc] at inner
    rw [annotate_list]
    exact inner.forget fun name mem => Declaration.eq_of_mem_asks mem ▸ not_meaning_item _
  | .record fields, _, _, s, proper, used, h =>
    annotate_record_adds proper used h fun name proper f hf s used => by
      obtain ⟨g, hg, rfl⟩ := List.mem_map.1 hf
      exact annotateFields_adds fields g hg name (pascalCase g.1) s proper used (isSuffix_pascalCase g.1)
  | .reference _, _, _, s, _, _, _ => Adds.refl s
  | .any _, _, _, s, _, _, _ => Adds.refl s

theorem annotateFields_adds : (fields : List (String × Declaration)) → ∀ f ∈ fields, ∀ owner suffix s,
    IsClassName owner → owner ∈ s.taken → IsSuffix suffix → AnnotationAdds owner suffix f.2 s
  | [] => fun f hf => absurd hf List.not_mem_nil
  | (_, d) :: rest => by
    intro f hf owner suffix s proper used h
    rcases List.mem_cons.1 hf with rfl | hf
    · exact annotate_adds d owner suffix s proper used h
    · exact annotateFields_adds rest f hf owner suffix s proper used h

end

end

/-! ## Components -/

/-- the class names that a component asks for: its own, and those of the records directly in its properties -/
def requests (c : String × Component) : List String :=
  className c.1 :: c.2.properties.flatMap fun p => p.type.asks (className c.1 ++ pascalCase p.name)

theorem requests_eq (c : String × Component) :
    let declaration := (ComponentDeclaration.ofComponent c.1 c.2).value
    requests c = className declaration.name :: ((declaration.required ++ declaration.optional).flatMap fun f =>
      f.type.asks (className declaration.name ++ pascalCase f.name)) := by
  dsimp only
  rw [ComponentDeclaration.ofComponent_value, ← List.map_append, List.flatMap_map]
  simp only [Field.declared, Declaration.asks_ofNode]
  rfl

theorem addComponent_adds (c : ComponentDeclaration) (s : Sheet) :
    Adds (className c.name :: ((c.required ++ c.optional).flatMap fun f =>
      f.type.asks (className c.name ++ pascalCase f.name))) s (Sheet.addComponent c s).2 := by
  have proper := isClassName_className c.name
  have used : className c.name ∈ (s.use (className c.name)).taken := Sheet.mem_use _ s
  have types : ∀ f : Field, ∀ s, className c.name ∈ s.taken →
      AnnotationAdds (className c.name) (pascalCase f.name) f.type s := fun f s used =>
    annotate_adds f.type _ _ s proper used (isSuffix_pascalCase f.name)
  have required := fieldLines_adds true (fun f (_ : f ∈ c.required) => types f) used
  have optional := fieldLines_adds false (fun f (_ : f ∈ c.optional) => types f) (required.taken used)
  have inner := required.trans optional
  rw [addComponent_eq, List.flatMap_append]
  refine inner.addTo (fun _ => List.mem_cons_self) (fun _ mem _ => List.mem_cons_of_mem _ mem) ?_
  exact List.cons_subset.2 ⟨inner.taken used, inner.used⟩

/-- all components, by induction -/
theorem addAll_adds (components : List (String × Component)) (s : Sheet) :
    Adds (components.flatMap requests) s (Sheet.addAll s components).value := by
  induction components generalizing s with
  | nil => exact Adds.refl s
  | cons c rest ih =>
    rw [addAll_cons, List.flatMap_cons, requests_eq]
    exact (addComponent_adds _ s).trans (ih _)

theorem taken_reserve {names : List String} {s : Sheet} {name : String} (h : name ∈ (Sheet.reserve names s).taken) :
    name ∈ s.taken ∨ name ∈ names.map className := by
  induction names generalizing s with
  | nil => exact Or.inl h
  | cons own rest ih =>
    rcases @ih (s.use (className own)) h with used | mem
    · exact (mem_taken_use used).imp_right fun eq => List.mem_cons.2 (Or.inl eq)
    · exact Or.inr (List.mem_cons_of_mem _ mem)

/-- a class of the components module takes a meaning exactly when a component asks for it -/
theorem mem_classes_iff (d : Documentation) {word : String} (h : word ∈ meanings) :
    word ∈ (printedBlocks d).map Block.name ↔ word ∈ d.components.flatMap requests := by
  obtain ⟨blank, -, -⟩ := reserve_taken (d.components.map Prod.fst) {}
  have adds := addAll_adds d.components (Sheet.reserve (d.components.map Prod.fst) {})
  constructor
  · intro mem
    obtain ⟨b, hb, rfl⟩ := List.mem_map.1 mem
    refine (adds.meaning b hb h).resolve_left ?_
    rw [blank]
    exact List.not_mem_nil
  · intro mem
    refine (adds.accounted word (adds.used mem)).elim (fun used => ?_) id
    have isClass := (taken_reserve used).resolve_left List.not_mem_nil
    obtain ⟨name, hname, rfl⟩ := List.mem_map.1 isClass
    obtain ⟨c, hc, rfl⟩ := List.mem_map.1 hname
    obtain ⟨b, hb, eq⟩ := exists_block hc
    exact List.mem_map.2 ⟨b, hb, eq⟩

/-! ## Stubs -/

/-- no guard makes such a word, and none keeps a name from being one -/
theorem identifier_eq_iff {word : String} (h : word ∈ meanings) (name : String) :
    identifier name = word ↔ snakeCase name = word := by
  constructor
  · intro eq
    have plain : ∀ w ∈ meanings, '_' ∉ w.toList ∧ w ≠ "arg" := by decide
    obtain ⟨noUnderscore, notArgument⟩ := plain word h
    unfold identifier unreserve at eq
    split at eq
    · refine absurd ?_ noUnderscore
      rw [← eq, String.toList_append]
      exact List.mem_append_right _ (by decide)
    have nonempty : nonEmptyOr "arg".toList (snakeChars name.toList) ≠ [] := by
      unfold nonEmptyOr
      split
      · decide
      · simp_all
    rcases guardDigit_cases _ nonempty with same | guarded
    · rw [same, nonEmptyOr] at eq
      split at eq
      · exact absurd eq.symm notArgument
      · exact eq
    · rw [guarded] at eq
      refine absurd ?_ noUnderscore
      rw [← eq, String.toList_ofList]
      exact List.mem_cons_self
  · intro eq
    have kept : ∀ w ∈ meanings, unreserve (String.ofList (guardDigit (nonEmptyOr "arg".toList w.toList))) = w := by
      decide
    have chars : snakeChars name.toList = word.toList := by
      rw [← eq, snakeCase, String.toList_ofList]
    rw [identifier, chars]
    exact kept word h

theorem mem_stubNames_iff (d : Documentation) {word : String} (h : word ∈ meanings) :
    word ∈ (stubsOf d.operations).value.map Stub.name ↔ ∃ op ∈ d.operations, snakeCase op.name = word := by
  have names : (stubsOf d.operations).value.map Stub.name = d.operations.map fun op => identifier op.name := by
    rw [stubsOf_value, List.map_map]
    refine List.map_congr_left fun op _ => ?_
    rw [Function.comp_apply, ofOperation_value]
  rw [names, List.mem_map]
  exact exists_congr fun op => and_congr_right fun _ => identifier_eq_iff h op.name

/-! ## Documentations -/

/-- **Generated names capture a meaning exactly when they are asked for it.** A class of the components module has such
a name exactly when it is the class name of a component or, with the Pascal-case name of a property behind it, that of a
record directly in the property. The operations module imports it exactly when a signature mentions a component of that
class, and defines it exactly when it is the snake-case name of an operation. -/
theorem captured_iff (d : Documentation) {word : String} (h : word ∈ meanings) :
    (word ∈ (printedBlocks d).map Block.name ↔ ∃ c ∈ d.components, word = className c.1 ∨
      ∃ p ∈ c.2.properties, word ∈ p.type.asks (className c.1 ++ pascalCase p.name)) ∧
    (word ∈ importsOf (stubsOf d.operations).value ↔
      ∃ stub ∈ (stubsOf d.operations).value, ∃ type ∈ stub.types, ∃ c ∈ type.listed, className c = word) ∧
    (word ∈ (stubsOf d.operations).value.map Stub.name ↔ ∃ op ∈ d.operations, snakeCase op.name = word) := by
  refine ⟨?_, ?_, mem_stubNames_iff d h⟩
  · rw [mem_classes_iff d h]
    simp only [requests, List.mem_flatMap, List.mem_cons]
  · rw [mem_importsOf]
    exact exists_congr fun stub => and_congr_right fun _ => mem_references

/-- a component and the record in another one have names that the modules use themselves, and so has an operation -/
def shadowingDocument : Value :=
  .map [(.str "openapi", .str "3.0.0"),
    (.str "components", .map [(.str "schemas", .map [
      (.str "Any", .map [(.str "type", .str "object"), (.str "properties", .map [
        (.str "x", .map [(.str "type", .str "string")])])]),
      (.str "Typed", .map [(.str "type", .str "object"), (.str "properties", .map [
        (.str "dict", .map [(.str "type", .str "object"), (.str "properties", .map [])])])])])]),
    (.str "paths", .map [(.str "/any", .map [(.str "get", .map [
      (.str "operationId", .str "list"), (.str "summary", .str ""), (.str "x-oaiMeta", .map [(.str "group", .str "")]),
      (.str "responses", .map [(.str "200", .map [(.str "content", .map [(.str "application/json", .map [
        (.str "schema", .map [(.str "$ref", .str "#/components/schemas/Any")])])])])])])])])]

def shadowing : Documentation where
  components := [("Any", ⟨[], [⟨"x", .scalar "string", "", .str "", false⟩]⟩),
    ("Typed", ⟨[], [⟨"dict", .object [], "", .str "", false⟩]⟩)]
  operations :=
    [{ endpoint := "/any", name := "list", operationId := "list", summary := "", method := .get,
       requestBody := none, responseType := .component "Any", group := "" }]

/-- it is built, and three words lose their meaning -/
theorem shadowing_captured :
    (Documentation.ofDocument {} shadowingDocument).result = .ok shadowing ∧
      "Any" ∈ (printedBlocks shadowing).map Block.name ∧ "TypedDict" ∈ (printedBlocks shadowing).map Block.name ∧
      "Any" ∈ importsOf (stubsOf shadowing.operations).value ∧
      "list" ∈ (stubsOf shadowing.operations).value.map Stub.name := by
  have built : (Documentation.ofDocument {} shadowingDocument).result = .ok shadowing := by cbv
  obtain ⟨component, imported, -⟩ := @captured_iff shadowing "Any" (by decide)
  obtain ⟨record, -, -⟩ := @captured_iff shadowing "TypedDict" (by decide)
  obtain ⟨-, -, stub⟩ := @captured_iff shadowing "list" (by decide)
  refine ⟨built, component.2 ⟨_, List.mem_cons_self, Or.inl (by decide)⟩, record.2 ?_, imported.2 ?_, stub.2 ?_⟩
  · exact ⟨_, List.mem_cons_of_mem _ List.mem_cons_self, Or.inr ⟨_, List.mem_cons_self, by decide⟩⟩
  · exact ⟨_, List.mem_cons_self, _, List.mem_cons_self, "Any", List.mem_cons_self, by decide⟩
  · exact ⟨_, List.mem_cons_self, by decide⟩

end Module

end ApiTypes
