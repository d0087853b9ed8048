/-
Printed stubs are read back.

A stub whose names and types are legible is printed as one statement, a function. Its parameters are in an order that the
language takes, and its documentation ends at its own quotes, whatever the summary and the endpoint of the operation hold
but null characters.

Main statement: `Stub.Legible.isPart`.
-/
import ApiTypes.Proofs.PrintedBlock

namespace ApiTypes.Module

open ApiTypes.Source ApiTypes.Source.Lexing ApiTypes.Text

/-! ## Documentation -/

namespace Stub

theorem mem_softenQuotes {c : Char} {text : List Char} (h : c ∈ softenQuotes text) : c = '\'' ∨ c ∈ text := by
  fun_induction softenQuotes text with
  | case1 rest ih =>
    simp only [List.mem_cons] at h ⊢
    tauto
  | case2 d rest _ ih =>
    simp only [List.mem_cons] at h ⊢
    tauto
  | case3 => exact Or.inr h

theorem mem_lineText {c : Char} {line : String} (h : c ∈ (lineText line).toList) : c = '\'' ∨ c ∈ line.toList := by
  rw [lineText, String.toList_ofList] at h
  refine (mem_softenQuotes h).imp id fun mem => ?_
  obtain ⟨d, hd, mem⟩ := List.mem_flatMap.1 mem
  split_ifs at mem with slash
  · have eq : c = '\\' := by simpa using mem
    rwa [eq, ← slash]
  · rwa [List.mem_singleton.1 mem]

/-- what stands between the quotes -/
def documentation (s : Stub) : List Char :=
  ("\n    ".intercalate (s.lines.map lineText) ++ "\n    ").toList

theorem harmless_documentation (s : Stub) (nonempty : s.lines ≠ []) : Literal.Harmless s.documentation := by
  have full : s.lines.map lineText ≠ [] := by simpa using nonempty
  rw [documentation, toList_intercalate_append full]
  clear full nonempty
  induction s.lines with
  | nil => exact .nil
  | cons line rest ih =>
    have margin : Literal.Harmless ("\n    ".toList ++ (rest.map lineText).flatMap fun p => p.toList ++ "\n    ".toList) :=
      ih.behind (Literal.forall_mem_of_all (by decide))
    rw [List.map_cons, List.flatMap_cons, List.append_assoc]
    exact (Literal.harmless_lineText line).append margin (by simp)

theorem ends_documentation (s : Stub) : s.documentation.getLast? = some ' ' := by
  rw [documentation, String.toList_append, List.getLast?_append]
  rfl

/-- what stands between the quotes stands in the lines, between them, or in place of a quote -/
theorem mem_documentation {s : Stub} {c : Char} (h : c ∈ s.documentation) :
    c ∈ "'\n ".toList ∨ ∃ line ∈ s.lines, c ∈ line.toList := by
  have margin : ∀ d ∈ "\n    ".toList, d ∈ "'\n ".toList := by simp
  rw [documentation, String.toList_append, String.toList_intercalate, List.mem_append] at h
  rcases h with mem | mem
  · rcases mem_intercalate mem with mem | ⟨text, known, mem⟩
    · exact Or.inl (margin c mem)
    · rw [List.map_map] at known
      obtain ⟨line, isLine, rfl⟩ := List.mem_map.1 known
      rcases mem_lineText mem with rfl | mem
      · exact Or.inl (by decide)
      · exact Or.inr ⟨line, isLine, mem⟩
  · exact Or.inl (margin c mem)

theorem not_mem_documentation {s : Stub} (h : ∀ line ∈ s.lines, '\x00' ∉ line.toList) : '\x00' ∉ s.documentation := by
  intro mem
  rcases mem_documentation mem with mem | ⟨line, isLine, mem⟩
  · exact absurd mem (by decide)
  · exact h line isLine mem

end Stub

/-! ## Parameters -/

/-- an argument is legible when its name and type are -/
structure Argument.Legible (a : Argument) : Prop where
  name : isPlainField a.name = true
  type : (TypeExpr.flat a.type).Legible
  levels : (TypeExpr.flat a.type).levels ≤ 100

/-- this text is a parameter of a function -/
def IsParameter (p : List Char × List Token × Source.Parameter) : Prop :=
  Spells 101 p.1 p.2.1 ∧ IsItem (parameter expression parameterType ")") ")" p.2.1 p.2.2

theorem Argument.Legible.isParameter {a : Argument} (h : a.Legible) :
    ∃ p : List Char × List Token × Source.Parameter, p.1 = a.text.toList ∧ IsParameter p ∧ p.2.2 = .plain (!a.required) := by
  obtain ⟨isName, notReserved⟩ := isPlainField_iff.1 h.name
  have type := h.type.spells.primary.mono (Nat.succ_le_succ h.levels)
  have name : Spells 101 a.name.toList [.name a.name] := spells_name isName
  cases required : a.required with
  | true =>
    obtain ⟨tokens, e, spells, isPrimary⟩ := type
    have spelled := name.append (glues_colon.before spells) rfl
    refine ⟨⟨_, _, .plain false⟩, ?_, ⟨spelled, isPrimary.expression.isItem_required notReserved⟩, rfl⟩
    simp [text, annotated, required]
  | false =>
    obtain ⟨tokens, e, spells, isExpression⟩ := type.orNone
    have none : Spells 101 "None".toList [.name "None"] := spells_name (by decide)
    have spelled := name.append (glues_colon.before (spells.append (glues_equals.before none) rfl)) rfl
    refine ⟨⟨_, _, .plain true⟩, ?_, ⟨spelled, ?_⟩, rfl⟩
    · simp [text, annotated, required]
    · simpa using isExpression.isItem_optional notReserved

/-- the mark in front of what is given by keyword only -/
theorem isParameter_star : IsParameter (['*'], [.mark "*"], .star false) :=
  ⟨spells_star, isItem_star⟩

/-- a stub is legible when its names and types are -/
structure Stub.Legible (s : Stub) : Prop where
  name : isPlainField s.name = true
  arguments : ∀ a ∈ s.arguments, a.Legible
  response : (TypeExpr.flat s.response).Legible
  levels : (TypeExpr.flat s.response).levels ≤ 100
  documented : s.lines ≠ []
  lines : ∀ line ∈ s.lines, '\x00' ∉ line.toList

/-- the parameters of a group of arguments that are all required, or none of which is -/
theorem exists_parameters {arguments : List Argument} {required : Bool}
    {P : List Char × List Token × Source.Parameter → Prop}
    (h : ∀ a ∈ arguments, ∃ p : List Char × List Token × Source.Parameter,
      p.1 = a.text.toList ∧ P p ∧ p.2.2 = .plain (!a.required))
    (alike : ∀ a ∈ arguments, a.required = required) :
    ∃ params : List (List Char × List Token × Source.Parameter),
      params.map Prod.fst = arguments.map (fun a => a.text.toList) ∧ (∀ p ∈ params, P p) ∧
        params.map (fun p => p.2.2) = List.replicate arguments.length (.plain (!required)) := by
  have each : ∀ a ∈ arguments, ∃ p : List Char × List Token × Source.Parameter,
      p.1 = a.text.toList ∧ P p ∧ p.2.2 = .plain (!required) := by
    intro a ha
    rw [← alike a ha]
    exact h a ha
  obtain ⟨params, eq, all⟩ := exists_map_of_forall each
  have length := congrArg List.length eq
  rw [List.length_map, List.length_map] at length
  refine ⟨params, eq, fun p hp => (all p hp).1, List.eq_replicate_iff.2 ⟨?_, fun q hq => ?_⟩⟩
  · rw [List.length_map, length]
  · obtain ⟨p, hp, rfl⟩ := List.mem_map.1 hq
    exact (all p hp).2

/-- the parameters of a stub, in their order -/
theorem Stub.exists_signature (s : Stub) {P : List Char × List Token × Source.Parameter → Prop}
    (h : ∀ a ∈ s.arguments, ∃ p : List Char × List Token × Source.Parameter,
      p.1 = a.text.toList ∧ P p ∧ p.2.2 = .plain (!a.required))
    (star : P (['*'], [.mark "*"], .star false)) :
    ∃ params : List (List Char × List Token × Source.Parameter),
      params.map Prod.fst = s.signature.map String.toList ∧ (∀ p ∈ params, P p) ∧
        ∃ required optional, params.map (fun p => p.2.2) = order required optional := by
  have must : ∀ a ∈ s.arguments.filter (·.required), a.required = true := fun a ha => (List.mem_filter.1 ha).2
  have may : ∀ a ∈ s.arguments.filter (!·.required), a.required = false :=
    fun a ha => by simpa using (List.mem_filter.1 ha).2
  obtain ⟨first, firstEq, firstAll, firstOrder⟩ :=
    exists_parameters (fun a ha => h a (List.mem_of_mem_filter ha)) must
  obtain ⟨others, othersEq, othersAll, othersOrder⟩ :=
    exists_parameters (fun a ha => h a (List.mem_of_mem_filter ha)) may
  unfold signature
  by_cases empty : s.arguments.filter (!·.required) = []
  · refine ⟨first, ?_, firstAll, (s.arguments.filter (·.required)).length, 0, ?_⟩
    · simp [empty, firstEq]
    · simp [firstOrder, order]
  · refine ⟨first ++ (['*'], [.mark "*"], .star false) :: others, ?_, ?_, (s.arguments.filter (·.required)).length,
      (s.arguments.filter (!·.required)).length, ?_⟩
    · simp [empty, firstEq, othersEq, Function.comp_def]
    · intro p hp
      rcases List.mem_append.1 hp with hp | hp
      · exact firstAll p hp
      · rcases List.mem_cons.1 hp with rfl | hp
        · exact star
        · exact othersAll p hp
    · rw [List.map_append, List.map_cons, firstOrder, othersOrder, order, if_neg (by simpa using empty)]
      rfl

/-- the parameters of a legible stub -/
theorem Stub.Legible.parameters {s : Stub} (h : s.Legible) :
    ∃ params : List (List Char × List Token × Source.Parameter),
      params.map Prod.fst = s.signature.map String.toList ∧ (∀ p ∈ params, IsParameter p) ∧
        ∃ required optional, params.map (fun p => p.2.2) = order required optional :=
  s.exists_signature (fun a ha => (h.arguments a ha).isParameter) isParameter_star

/-! ## Stubs -/

/-- line ends are only looked for in the middle when what stands around it is clean -/
theorem lineFeeds_between {before text after : List Char} (cleanBefore : Clean before) (cleanAfter : Clean after)
    (last : text.getLast? ≠ some '\r') : lineFeeds (before ++ (text ++ after)) = before ++ (lineFeeds text ++ after) := by
  have open_ : before.getLast? ≠ some '\r' := fun eq => cleanBefore.1 (List.mem_of_getLast? eq)
  rw [lineFeeds_append open_, lineFeeds_append last, cleanBefore.lineFeeds, cleanAfter.lineFeeds]

/-- the documentation of a stub can be written -/
structure Stub.Documented (s : Stub) : Prop where
  nonempty : s.lines ≠ []
  lines : ∀ line ∈ s.lines, '\x00' ∉ line.toList

theorem Stub.Legible.written {s : Stub} (h : s.Legible) : s.Documented := ⟨h.documented, h.lines⟩

/-- the documentation between quotes, with line feeds for its line ends, writes this text -/
def Stub.Writes (s : Stub) (text : String) : Prop :=
  Literal.decode {} (String.ofList (lineFeeds s.documentation)) = .ok text

/-- the documentation between quotes, with line feeds for its line ends, is an expression by itself -/
theorem Stub.Documented.isBodyPart {s : Stub} (h : s.Documented) :
    ∃ text, s.Writes text ∧
      IsBodyPart (indentation ++ (threeQuotes ++ (lineFeeds s.documentation ++ threeQuotes)) ++ ['\n'])
        [.text {} (String.ofList (lineFeeds s.documentation)), .newline] (.expression (.text text)) := by
  have harmless := Literal.harmless_lineFeeds (s.harmless_documentation h.nonempty)
  have clean : Clean (lineFeeds s.documentation) := by
    refine ⟨lineFeeds_no_return _, fun mem => not_mem_documentation h.lines ?_⟩
    exact (of_mem_lineFeeds mem).resolve_left (by decide)
  have last : (lineFeeds s.documentation).getLast? ≠ some '"' := by
    rw [getLast?_lineFeeds (by decide) s.ends_documentation]
    decide
  obtain ⟨text, decoded⟩ := Literal.decode_harmless harmless
  have spelled : Spells 0 _ _ := spells_documentation harmless last clean
  exact ⟨text, decoded, isBodyPart_line spelled (by decide) rfl (List.cons_ne_nil _ _) (isSimple_text decoded)⟩

theorem isBodyPart_raise : IsBodyPart (indentation ++ "raise NotImplementedError\n".toList)
    [.name "raise", .name "NotImplementedError", .newline] (.other []) := by
  have word : Spells 0 "raise".toList [.name "raise"] := spells_name (by decide)
  have error : Spells 0 "NotImplementedError".toList [.name "NotImplementedError"] := spells_name (by decide)
  have spelled := word.append (glues_blank.before error) rfl
  have isError : IsExpression [.name "NotImplementedError"] _ := (isPrimary_name (by decide)).expression
  exact isBodyPart_line spelled (by decide) rfl (by decide) isError.isSimple_raising

/-- what stands behind the documentation of a function -/
def behindDocumentation : List Char := threeQuotes ++ '\n' :: (indentation ++ "raise NotImplementedError\n".toList)

/-- the statements of a stub with this documentation -/
def stubBody (text : String) : List Statement := [.expression (.text text), .other []]

/-- the body of a function, part by part -/
theorem Stub.Documented.body {s : Stub} (h : s.Documented) :
    ∃ text, s.Writes text ∧ ∃ parts : List (List Char × List Token × Statement), parts ≠ [] ∧
      (∀ p ∈ parts, IsBodyPart p.1 p.2.1 p.2.2) ∧ (parts.map fun p => p.2.2) = stubBody text ∧
        parts.flatMap Prod.fst = indentation ++ threeQuotes ++ (lineFeeds s.documentation ++ behindDocumentation) := by
  obtain ⟨text, writes, documented⟩ := h.isBodyPart
  refine ⟨text, writes, [(_, _, _), (_, _, _)], List.cons_ne_nil _ _,
    List.forall_mem_cons.2 ⟨documented, List.forall_mem_singleton.2 isBodyPart_raise⟩, rfl, ?_⟩
  simp [behindDocumentation]

/-- the name, the parameters and the result of a stub -/
def Stub.heading (s : Stub) : List Char :=
  "def ".toList ++ (s.name.toList ++ '(' :: (", ".toList.intercalate (s.signature.map String.toList) ++ [')'])) ++
    (" -> ".toList ++ (TypeExpr.flat s.response).text.toList)

theorem Stub.toList_text (s : Stub) : s.text.toList =
    (s.heading ++ ':' :: '\n' :: (indentation ++ threeQuotes)) ++ (s.documentation ++ behindDocumentation) := by
  unfold text heading documentation behindDocumentation indentation threeQuotes
  simp

/-- only the documentation can hold line ends of another kind -/
theorem Stub.lineFeeds_text {s : Stub} (clean : Clean s.heading) : lineFeeds s.text.toList =
    s.heading ++ ':' :: '\n' :: (indentation ++ threeQuotes ++ (lineFeeds s.documentation ++ behindDocumentation)) := by
  have opening : Clean (s.heading ++ ':' :: '\n' :: (indentation ++ threeQuotes)) := clean_append.2 ⟨clean, by decide⟩
  have last : s.documentation.getLast? ≠ some '\r' := by
    rw [s.ends_documentation]
    decide
  rw [s.toList_text, lineFeeds_between opening (by decide) last]
  simp

theorem Stub.ends_text (s : Stub) : s.text.toList.getLast? = some '\n' := by
  rw [s.toList_text, List.getLast?_append, List.getLast?_append]
  rfl

/-- with line feeds for its line ends, a legible stub is one function -/
theorem Stub.Legible.isChunk {s : Stub} (h : s.Legible) :
    ∃ text, s.Writes text ∧ IsChunk (lineFeeds s.text.toList) (.function s.name (stubBody text)) := by
  obtain ⟨params, eq, all, required, optional, ordered⟩ := h.parameters
  obtain ⟨text, writes, parts, full, body, statements, lines⟩ := h.written.body
  have type := (h.response.spells.primary.mono (Nat.succ_le_succ (Nat.le_succ_of_le h.levels))).expression
  have chunk := isChunk_function h.name all ordered type (by decide) full body
  rw [eq, lines, statements] at chunk
  have clean : Clean s.heading := (clean_append.1 chunk.1).1
  refine ⟨text, writes, ?_⟩
  rw [Stub.lineFeeds_text clean]
  exact chunk

/-- **A legible stub is one function**, which opens with what its documentation writes. -/
theorem Stub.Legible.isPart {s : Stub} (h : s.Legible) :
    ∃ text, s.Writes text ∧ IsPart s.text [.function s.name (stubBody text)] := by
  obtain ⟨text, writes, chunk⟩ := h.isChunk
  exact ⟨text, writes, Laid.single chunk, s.ends_text⟩

end ApiTypes.Module
