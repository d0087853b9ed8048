/-
What the documentation of a stub writes.

Between its three quotes a stub has the lines of its documentation, with backslashes doubled and with three quotes in a
row softened. Lexing takes this for one text, which ends at the closing quotes, and reading the text undoes the doubling
and nothing else: doubling leaves the runs of quotes as they are, so that the order of the two steps does not matter.

Main statements: `softens_iff`, three quotes are softened where they are met from the left; `decode_doubled`, a text with
doubled backslashes writes the text; `documentation_exact`, both for the stub of every operation.
-/
import ApiTypes.Proofs.Legibility

namespace ApiTypes.Module

open ApiTypes.Source ApiTypes.Source.Lexing ApiTypes.Text

/-! ## Softened quotes -/

/-- the three quotes that stand where three quotes would end a text -/
def softQuotes : List Char := ['\'', '\'', '\'']

/-- three quotes in a row become soft ones, as they are met from the left; the pieces between them are kept. With two
quotes behind it a piece still has no three in a row: none starts in it. -/
inductive Softens : List Char → List Char → Prop
  | last {piece} : ¬ threeQuotes <:+: piece → Softens piece piece
  | quotes {piece rest soft} : ¬ threeQuotes <:+: piece ++ ['"', '"'] → Softens rest soft →
    Softens (piece ++ (threeQuotes ++ rest)) (piece ++ (softQuotes ++ soft))

namespace Stub

/-- a text that does not start with three quotes -/
theorem apart_of_not_three {c : Char} {text : List Char}
    (h : ∀ rest, c = '"' → text = '"' :: '"' :: rest → False) : c ≠ '"' ∨ text.take 2 ≠ ['"', '"'] := by
  rw [← Decidable.not_and_iff_not_or_not]
  rintro ⟨rfl, front⟩
  match text with
  | [] => cases front
  | [a] => cases front
  | a :: b :: more =>
    obtain ⟨rfl, second⟩ := List.cons.inj front
    obtain ⟨rfl, -⟩ := List.cons.inj second
    exact h more rfl rfl

theorem not_infix_cons {c : Char} {text : List Char} (apart : c ≠ '"' ∨ text.take 2 ≠ ['"', '"'])
    (h : ¬ threeQuotes <:+: text) : ¬ threeQuotes <:+: c :: text := by
  rw [List.infix_cons_iff]
  rintro (⟨rest, eq⟩ | inside)
  · obtain ⟨rfl, rfl⟩ := List.cons.inj eq
    exact apart.elim (fun other => other rfl) fun other => other rfl
  · exact h inside

/-- a character in front of a text that starts no three quotes -/
theorem Softens.cons {c : Char} {text soft : List Char} (apart : c ≠ '"' ∨ text.take 2 ≠ ['"', '"'])
    (h : Softens text soft) : Softens (c :: text) (c :: soft) := by
  cases h with
  | last none => exact .last (not_infix_cons apart none)
  | @quotes piece rest soft none softened =>
    have apart' : c ≠ '"' ∨ (piece ++ ['"', '"']).take 2 ≠ ['"', '"'] := by
      refine apart.imp id fun two => ?_
      match piece, two with
      | [], two => exact absurd rfl two
      | [a], two => simpa [threeQuotes] using two
      | a :: b :: more, two => simpa using two
    exact @Softens.quotes (c :: piece) _ _ (not_infix_cons apart' none) softened

theorem softens_softenQuotes (text : List Char) : Softens text (softenQuotes text) := by
  fun_induction softenQuotes text with
  | case1 rest ih => exact @Softens.quotes [] _ _ (by decide) ih
  | case2 c rest other ih => exact Softens.cons (apart_of_not_three other) ih
  | case3 => exact .last (by decide)

/-- a piece in which no three quotes start is kept -/
theorem softenQuotes_append {piece rest : List Char} (h : ¬ threeQuotes <:+: piece ++ rest.take 2) :
    softenQuotes (piece ++ rest) = piece ++ softenQuotes rest := by
  induction piece with
  | nil => rfl
  | cons c more ih =>
    rw [List.cons_append, List.infix_cons_iff, not_or] at h
    have apart : c ≠ '"' ∨ (more ++ rest).take 2 ≠ ['"', '"'] := by
      rw [← Decidable.not_and_iff_not_or_not]
      rintro ⟨rfl, front⟩
      refine h.1 ?_
      have two : (more ++ rest.take 2).take 2 = ['"', '"'] := by
        rw [← front, List.take_append, List.take_append, List.take_take, Nat.min_eq_left (by omega)]
      exact ⟨(more ++ rest.take 2).drop 2, by rw [threeQuotes, ← two]; simp⟩
    rw [List.cons_append, Literal.softenQuotes_cons apart, ih h.2, List.cons_append]

/-- **There is one way to soften the quotes of a text**, and lines of documentation are softened so. -/
theorem softens_iff {text soft : List Char} : Softens text soft ↔ soft = softenQuotes text := by
  constructor
  · intro h
    induction h with
    | @last piece none =>
      have kept := @softenQuotes_append piece [] (by simpa using none)
      simpa [softenQuotes] using kept.symm
    | @quotes piece rest soft none _ ih =>
      rw [@softenQuotes_append piece _ (by simpa [threeQuotes] using none), ih]
      rfl
  · rintro rfl
    exact softens_softenQuotes text

/-! ## Doubled backslashes -/

theorem doubleBackslashes_cons (c : Char) (rest : List Char) :
    doubleBackslashes (c :: rest) = (if c = '\\' then ['\\', '\\'] else [c]) ++ doubleBackslashes rest := rfl

theorem doubleBackslashes_append (text other : List Char) :
    doubleBackslashes (text ++ other) = doubleBackslashes text ++ doubleBackslashes other :=
  List.flatMap_append

/-- two quotes stand in front where two did before -/
theorem take_two_doubleBackslashes {text : List Char} (h : text.take 2 ≠ ['"', '"']) :
    (doubleBackslashes text).take 2 ≠ ['"', '"'] := by
  refine Literal.take_two_of_step rfl (fun c rest => ?_) h
  rw [doubleBackslashes_cons]
  split_ifs
  · exact Or.inr (by simp)
  · exact Or.inl rfl

/-- quotes may as well be softened before backslashes are doubled -/
theorem softenQuotes_doubleBackslashes (text : List Char) :
    softenQuotes (doubleBackslashes text) = doubleBackslashes (softenQuotes text) := by
  fun_induction softenQuotes text with
  | case1 rest ih =>
    rw [doubleBackslashes_cons, doubleBackslashes_cons, doubleBackslashes_cons, doubleBackslashes_cons,
      doubleBackslashes_cons, doubleBackslashes_cons, ← ih]
    rfl
  | case2 c rest other ih =>
    have apart := apart_of_not_three other
    rw [doubleBackslashes_cons, doubleBackslashes_cons, ← ih]
    split_ifs with slash
    · exact (Literal.softenQuotes_cons (Or.inl (by decide))).trans
        (congrArg _ (Literal.softenQuotes_cons (Or.inl (by decide))))
    · exact Literal.softenQuotes_cons (apart.imp id take_two_doubleBackslashes)
  | case3 => rfl

end Stub

end ApiTypes.Module

namespace ApiTypes.Source.Literal

open ApiTypes.Module.Stub

theorem length_doubleBackslashes (text : List Char) : text.length ≤ (doubleBackslashes text).length := by
  induction text with
  | nil => exact Nat.le_refl 0
  | cons c rest ih =>
    rw [doubleBackslashes_cons]
    split_ifs <;> simp <;> omega

/-- a step reads one character of the text, which may be written as two -/
theorem decodeFrom_doubled {text : List Char} {fuel : Nat} (enough : text.length ≤ fuel) (before : List Char)
    (position : Nat) : decodeFrom fuel before position (doubleBackslashes text) = .ok (before.reverse ++ text) := by
  induction text generalizing fuel before position with
  | nil => cases fuel <;> simp [doubleBackslashes, decodeFrom]
  | cons c rest ih =>
    rw [List.length_cons] at enough
    obtain ⟨fuel, rfl⟩ : ∃ n, fuel = n + 1 := ⟨fuel - 1, by omega⟩
    have enough : rest.length ≤ fuel := by omega
    rw [doubleBackslashes_cons]
    split_ifs with slash
    · have step : decodeFrom (fuel + 1) before position ('\\' :: '\\' :: doubleBackslashes rest) =
          decodeFrom fuel ('\\' :: before) (position + 2) (doubleBackslashes rest) := rfl
      rw [List.cons_append, List.singleton_append, step, ih enough, slash]
      simp
    · rw [List.singleton_append, decodeFrom, ih enough]
      · simp
      · rintro _ _ rfl
        exact absurd rfl slash

/-- **A text with doubled backslashes writes the text.** -/
theorem decode_doubled (text : List Char) :
    decode {} (String.ofList (doubleBackslashes text)) = .ok (String.ofList text) := by
  have enough : text.length ≤ (String.ofList (doubleBackslashes text)).length := by
    rw [String.length_ofList]
    exact length_doubleBackslashes text
  rw [decode, String.toList_ofList, decodeFrom_doubled enough]
  rfl

end ApiTypes.Source.Literal

namespace ApiTypes.Module

open ApiTypes.Source ApiTypes.Source.Lexing ApiTypes.Text

/-! ## Documentation -/

namespace Stub

/-- what stands behind every line of documentation -/
def margin : List Char := "\n    ".toList

/-- the lines of documentation with their quotes softened -/
def softLines (s : Stub) : List (List Char) := s.lines.map fun line => softenQuotes line.toList

/-- the text that the documentation is to write -/
def written (s : Stub) : List Char := s.softLines.flatMap (· ++ margin)

theorem documentation_eq {s : Stub} (nonempty : s.lines ≠ []) : s.documentation = doubleBackslashes s.written := by
  have full : s.lines.map lineText ≠ [] := by simpa using nonempty
  rw [documentation, toList_intercalate_append full, written, softLines, List.flatMap_map]
  clear full nonempty
  induction s.lines with
  | nil => rfl
  | cons line rest ih =>
    have blank : doubleBackslashes margin = "\n    ".toList := by decide
    rw [List.map_cons, List.flatMap_cons, List.flatMap_cons, doubleBackslashes_append, doubleBackslashes_append, ← ih,
      blank, lineText, String.toList_ofList, softenQuotes_doubleBackslashes]

end Stub

theorem clean_documentation {s : Stub} (h : ∀ line ∈ s.lines, Clean line.toList) : Clean s.documentation := by
  constructor <;> intro mem <;> rcases Stub.mem_documentation mem with mem | ⟨line, isLine, mem⟩
  · exact absurd mem (by decide)
  · exact (h line isLine).1 mem
  · exact absurd mem (by decide)
  · exact (h line isLine).2 mem

theorem clean_linesOf {op : Operation} (summary : Clean op.summary.toList) (endpoint : Clean op.endpoint.toList) :
    ∀ line ∈ Stub.linesOf op, Clean line.toList := by
  have method : Clean (op.method.name ++ " ").toList := by
    cases op.method <;> decide
  have called : Clean (op.method.name ++ " " ++ op.endpoint).toList := by
    rw [String.toList_append]
    exact clean_append.2 ⟨method, endpoint⟩
  have deprecated : ∀ line ∈ (if op.deprecated then ["Deprecated."] else []), Clean line.toList := by
    split_ifs <;> decide
  rw [Stub.linesOf, List.forall_mem_append, List.forall_mem_cons, List.forall_mem_cons, List.forall_mem_singleton]
  exact ⟨⟨(clean_oneLine summary.2).1, by decide, called⟩, deprecated⟩

/-- a stub is legible when the types in it are -/
theorem legible_of_types {op : Operation} (summary : Clean op.summary.toList) (endpoint : Clean op.endpoint.toList)
    (types : ∀ type ∈ (Stub.ofOperation op).value.types,
      (TypeExpr.flat type).Legible ∧ (TypeExpr.flat type).levels ≤ 100) : (Stub.ofOperation op).value.Legible := by
  have lines := clean_linesOf summary endpoint
  have plain := isPlainField_identifier op.name
  have names := @fine_ofOperation (fun _ => True) op (fun _ => trivial) fun _ _ => trivial
  rw [ofOperation_value] at types ⊢
  -- the identifier is not to be computed
  generalize identifier op.name = own at types plain ⊢
  rw [Stub.types, List.forall_mem_append, List.forall_mem_singleton] at types
  obtain ⟨arguments, response, levels⟩ := types
  refine ⟨plain, fun a ha => ?_, response, levels, List.cons_ne_nil _ _, fun line mem => (lines line mem).2⟩
  obtain ⟨legible, levels⟩ := arguments a.type (List.mem_map_of_mem ha)
  exact ⟨(names a ha).name, legible, levels⟩

/-- **The documentation of a stub is quoted exactly.** The literal between three quotes is lexed as one text that ends at
the closing quotes, wherever it stands. What it writes are the lines, with three quotes softened as they are met from the
left and nothing else changed, each with a line end and four blanks behind it; and where the types of the stub can be
read, the whole stub is read as a function that opens with this text. -/
theorem documentation_exact (op : Operation) (summary : Clean op.summary.toList) (endpoint : Clean op.endpoint.toList) :
    let stub := (Stub.ofOperation op).value
    ∃ body soft,
      stub.text.toList = stub.heading ++ ":\n    ".toList ++
        (threeQuotes ++ (body ++ (threeQuotes ++ "\n    raise NotImplementedError\n".toList))) ∧
      (∀ rest columns brackets, Goes ⟨false, threeQuotes ++ (body ++ (threeQuotes ++ rest)), columns, brackets⟩
        ⟨false, rest, columns, brackets⟩ [.text {} (String.ofList body)]) ∧
      List.Forall₂ Softens (([oneLine op.summary, "", op.method.name ++ " " ++ op.endpoint] ++
        if op.deprecated then ["Deprecated."] else []).map String.toList) soft ∧
      Literal.decode {} (String.ofList body) = .ok (String.ofList (soft.flatMap (· ++ "\n    ".toList))) ∧
      ((∀ type ∈ stub.types, (TypeExpr.flat type).Legible ∧ (TypeExpr.flat type).levels ≤ 100) →
        read stub.text = .ok [.function stub.name (stubBody (String.ofList (soft.flatMap (· ++ "\n    ".toList))))]) := by
  intro stub
  have lines : stub.lines = Stub.linesOf op := congrArg Stub.lines (ofOperation_value op)
  have nonempty : stub.lines ≠ [] := lines ▸ List.cons_ne_nil _ _
  have last : stub.documentation.getLast? ≠ some '"' := by
    rw [stub.ends_documentation]
    decide
  have writes : Literal.decode {} (String.ofList stub.documentation) = .ok (String.ofList stub.written) := by
    rw [Stub.documentation_eq nonempty]
    exact Literal.decode_doubled stub.written
  refine ⟨stub.documentation, stub.softLines, ?_, ?_, ?_, writes, fun types => ?_⟩
  · rw [stub.toList_text]
    simp [behindDocumentation, threeQuotes, indentation]
  · exact goes_harmless (stub.harmless_documentation nonempty) last
  · rw [Stub.softLines, lines]
    exact List.forall₂_map_left_iff.2
      (List.forall₂_map_right_iff.2 (List.forall₂_same.2 fun line _ => Stub.softens_softenQuotes line.toList))
  · obtain ⟨text, written, isPart⟩ := (legible_of_types summary endpoint types).isPart
    have clean : Clean stub.documentation := clean_documentation (lines ▸ clean_linesOf summary endpoint)
    rw [Stub.Writes, clean.lineFeeds] at written
    obtain rfl : text = String.ofList stub.written := Except.ok.inj (written.symm.trans writes)
    exact isPart.read

/-- an operation whose texts end in backslashes and quotes, with an endpoint of two lines -/
def quoting : Operation :=
  { endpoint := "/\\\"\"\"\"\n\"", name := "quote", operationId := "", summary := " \"a\\ ", method := .get, group := "",
    responseType := .component "Pet" }

/-- the summary on one line, an empty line, and the call, the first three of its four quotes softened -/
theorem quoting_exact : Clean quoting.summary.toList ∧ Clean quoting.endpoint.toList ∧
    read (Stub.ofOperation quoting).value.text =
      .ok [.function "quote" (stubBody "\"a\\\n    \n    GET /\\'''\"\n\"\n    ")] := by
  have summary : Clean quoting.summary.toList := by decide
  have endpoint : Clean quoting.endpoint.toList := by decide
  obtain ⟨body, soft, -, -, softened, -, isRead⟩ := documentation_exact quoting summary endpoint
  have lines := List.forall₂_map_left_iff.2 (softened.imp fun _ _ h => (Stub.softens_iff.1 h).symm)
  rw [List.forall₂_eq_eq_eq] at lines
  subst lines
  refine ⟨summary, endpoint, isRead fun type mem => ?_⟩
  obtain rfl : type = .reference "Pet" := List.mem_singleton.1 mem
  exact ⟨.component (by decide), by decide⟩

end ApiTypes.Module
