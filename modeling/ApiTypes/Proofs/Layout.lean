/-
Texts laid out as statements.

A generated module is a sequence of chunks with empty lines between them. A chunk is the lines of one statement; where it
ends in a block, the block is closed by the next chunk or by the end of the text.

Main statement: `read_of_laid`, a text that is laid out as statements is read as them.
-/
import ApiTypes.Proofs.Spelling

namespace ApiTypes.Source

open Lexing ApiTypes.Text

/-! ## Lines of a block -/

/-- the text is lines of a block with one statement, which may be the first of the block or a later one -/
structure IsBodyPart (text : List Char) (tokens : List Token) (s : Statement) : Prop where
  clean : Clean text
  opens : ∀ rest, Goes ⟨true, text ++ rest, [], []⟩ ⟨true, rest, [(4, 4)], []⟩ (.indent :: tokens)
  goesOn : ∀ rest, Goes ⟨true, text ++ rest, [(4, 4)], []⟩ ⟨true, rest, [(4, 4)], []⟩ tokens
  isStatement : IsStatement 1 tokens s

/-- four blanks, in front of every line of a block -/
def indentation : List Char := List.replicate 4 ' '

section

variable {text comment : List Char} {tokens : List Token} {s : Statement}

/-- a statement on a line of its own is lexed with the end of the line -/
theorem Spells.goes_line {deep : Nat} (h : Spells deep text tokens) (room : deep ≤ 200) (rest : List Char)
    (columns : List (Nat × Nat)) :
    Goes ⟨false, text ++ '\n' :: rest, columns, []⟩ ⟨true, rest, columns, []⟩ (tokens ++ [.newline]) :=
  (h.goes ('\n' :: rest) columns [] rfl (by simpa using room)).trans (goes_newline rest columns)

theorem isBodyPart_line {deep : Nat} (h : Spells deep text tokens) (room : deep ≤ 200) (starts : startsLine text = true)
    (nonempty : text ≠ []) (isSimple : IsSimple tokens s) :
    IsBodyPart (indentation ++ text ++ ['\n']) (tokens ++ [.newline]) s := by
  have starts' (rest : List Char) : startsLine (text ++ '\n' :: rest) = true := by
    obtain ⟨c, more, rfl⟩ := List.exists_cons_of_ne_nil nonempty
    exact starts
  have indented : Clean (indentation ++ text) := clean_append.2 ⟨by decide, h.clean⟩
  refine ⟨clean_append.2 ⟨indented, by decide⟩, fun rest => ?_, fun rest => ?_, isSimple.isStatement⟩
  · rw [List.append_assoc, List.append_assoc]
    exact (goes_indent (starts' rest)).trans (h.goes_line room rest _)
  · rw [List.append_assoc, List.append_assoc]
    exact (goes_same (starts' rest) rfl).trans (h.goes_line room rest _)

/-- a comment in front of a part -/
theorem IsBodyPart.commented (h : IsBodyPart text tokens s) (clean : Clean comment) (oneLine : '\n' ∉ comment) :
    IsBodyPart (indentation ++ '#' :: (comment ++ ['\n']) ++ text) tokens s := by
  have line : Clean (indentation ++ '#' :: (comment ++ ['\n'])) := by
    rw [clean_append, clean_cons, clean_append]
    exact ⟨by decide, by decide, clean, by decide⟩
  refine ⟨clean_append.2 ⟨line, h.clean⟩, fun rest => ?_, fun rest => ?_, h.isStatement⟩
  · have whole := (goes_comment 4 (text ++ rest) [] oneLine).trans (h.opens rest)
    simpa [indentation] using whole
  · have whole := (goes_comment 4 (text ++ rest) [(4, 4)] oneLine).trans (h.goesOn rest)
    simpa [indentation] using whole

/-- the lines of a block, part by part -/
theorem goes_body {parts : List (List Char × List Token × Statement)} (nonempty : parts ≠ [])
    (h : ∀ p ∈ parts, IsBodyPart p.1 p.2.1 p.2.2) (rest : List Char) :
    Goes ⟨true, parts.flatMap Prod.fst ++ rest, [], []⟩ ⟨true, rest, [(4, 4)], []⟩
      (.indent :: parts.flatMap fun p => p.2.1) := by
  have later : ∀ parts : List (List Char × List Token × Statement), (∀ p ∈ parts, IsBodyPart p.1 p.2.1 p.2.2) →
      Goes ⟨true, parts.flatMap Prod.fst ++ rest, [(4, 4)], []⟩ ⟨true, rest, [(4, 4)], []⟩
        (parts.flatMap fun p => p.2.1) := by
    intro parts h
    induction parts with
    | nil => exact Goes.refl _
    | cons p others ih =>
      rw [List.flatMap_cons, List.flatMap_cons, List.append_assoc]
      exact ((h p List.mem_cons_self).goesOn _).trans (ih fun q hq => h q (List.mem_cons_of_mem _ hq))
  obtain ⟨first, others, rfl⟩ := List.exists_cons_of_ne_nil nonempty
  rw [List.flatMap_cons, List.flatMap_cons, List.append_assoc]
  exact ((h first List.mem_cons_self).opens _).trans (later others fun q hq => h q (List.mem_cons_of_mem _ hq))

end

/-! ## Chunks -/

/-- the tokens that close these blocks -/
def closing (columns : List (Nat × Nat)) : List Token := columns.map fun _ => .dedent

/-- what may be open behind a chunk: nothing, or the block that it ends in -/
def blocksBehind : List (List (Nat × Nat)) := [[], [(4, 4)]]

/-- the text is the lines of one statement; a block in which it ends is not closed yet -/
def IsChunk (text : List Char) (s : Statement) : Prop :=
  Clean text ∧ startsLine text = true ∧ text ≠ [] ∧ ∃ tokens, ∃ columns ∈ blocksBehind,
    (∀ rest, Goes ⟨false, text ++ rest, [], []⟩ ⟨true, rest, columns, []⟩ tokens) ∧
      IsStatement 2 (tokens ++ closing columns) s

/-- the text is chunks with empty lines between them -/
inductive Laid : List Char → List Statement → Prop
  | nil : Laid [] []
  | blank {text statements} : Laid text statements → Laid ('\n' :: text) statements
  | chunk {text rest s statements} : IsChunk text s → Laid rest statements → Laid (text ++ rest) (s :: statements)

theorem Laid.clean {text : List Char} {statements : List Statement} (h : Laid text statements) : Clean text := by
  induction h with
  | nil => decide
  | blank _ ih => exact clean_cons.2 ⟨by decide, ih⟩
  | chunk isChunk _ ih => exact clean_append.2 ⟨isChunk.1, ih⟩

theorem Laid.append {text other : List Char} {statements more : List Statement} (h : Laid text statements)
    (h' : Laid other more) : Laid (text ++ other) (statements ++ more) := by
  induction h with
  | nil => exact h'
  | blank _ ih => exact .blank ih
  | chunk isChunk _ ih =>
    rw [List.append_assoc]
    exact .chunk isChunk ih

/-- the line on which a statement starts, or the end of the text, closes what is open -/
theorem goes_closing {text : List Char} (starts : startsLine text = true) {columns : List (Nat × Nat)}
    (known : columns ∈ blocksBehind) : Goes ⟨true, text, columns, []⟩ ⟨false, text, [], []⟩ (closing columns) := by
  simp only [blocksBehind, List.mem_cons, List.not_mem_nil, or_false] at known
  rcases known with rfl | rfl
  · exact goes_same (k := 0) starts rfl
  · exact goes_dedent starts

theorem startsLine_append {text : List Char} (starts : startsLine text = true) (nonempty : text ≠ []) (rest : List Char) :
    startsLine (text ++ rest) = true := by
  obtain ⟨c, more, rfl⟩ := List.exists_cons_of_ne_nil nonempty
  exact starts

/-- by induction on the chunks; each closes the block that the one before it ends in -/
theorem Laid.goes {text : List Char} {statements : List Statement} (h : Laid text statements) :
    ∃ parts : List (List Token × Statement), parts.map Prod.snd = statements ∧
      (∀ part ∈ parts, IsStatement 2 part.1 part.2) ∧
      ∀ columns ∈ blocksBehind, ∃ behind ∈ blocksBehind, ∃ tokens,
        tokens ++ closing behind = closing columns ++ (parts.map Prod.fst).flatten ∧
          ∀ rest, Goes ⟨true, text ++ rest, columns, []⟩ ⟨true, rest, behind, []⟩ tokens := by
  induction h with
  | nil => exact ⟨[], rfl, by simp, fun columns known => ⟨columns, known, [], by simp, fun rest => Goes.refl _⟩⟩
  | @blank text statements _ ih =>
    obtain ⟨parts, eq, all, goes⟩ := ih
    refine ⟨parts, eq, all, fun columns known => ?_⟩
    obtain ⟨behind, known', tokens, same, goesOn⟩ := goes columns known
    exact ⟨behind, known', tokens, same, fun rest => (goes_emptyLine (text ++ rest) columns).trans (goesOn rest)⟩
  | @chunk text more s statements isChunk _ ih =>
    obtain ⟨parts, eq, all, goes⟩ := ih
    obtain ⟨-, starts, nonempty, tokens, inside, known, lexed, isStatement⟩ := isChunk
    refine ⟨(tokens ++ closing inside, s) :: parts, by rw [List.map_cons, eq], ?_, fun columns known' => ?_⟩
    · intro part hp
      rcases List.mem_cons.1 hp with rfl | hp
      · exact isStatement
      · exact all part hp
    · obtain ⟨behind, known'', others, same, goesOn⟩ := goes inside known
      refine ⟨behind, known'', closing columns ++ (tokens ++ others), by simp [same], fun rest => ?_⟩
      have starts' := startsLine_append starts nonempty (more ++ rest)
      rw [List.append_assoc]
      exact (goes_closing starts' known').trans ((lexed _).trans (goesOn rest))

/-- **A text that is laid out as statements is read as them.** -/
theorem read_of_laid {text : String} {statements : List Statement} (noNull : '\x00' ∉ text.toList)
    (h : Laid (closeLines text.toList) statements) : read text = .ok statements := by
  obtain ⟨parts, rfl, all, goes⟩ := h.goes
  obtain ⟨behind, known, tokens, same, goesOn⟩ := goes [] (by decide)
  have whole := (goesOn []).trans (goes_closing rfl known)
  rw [List.append_nil, same, closing, List.map_nil, List.nil_append] at whole
  have lexed : (Lexed.ofText text.toList).lexemes.map Lexeme.token = (parts.map Prod.fst).flatten ++ [.finish] :=
    (Goes.complete whole _ (Nat.le_refl _)).1
  have length := congrArg List.length lexed
  rw [List.length_map] at length
  have stands : Stands { rest := (Lexed.ofText text.toList).lexemes } ((parts.map Prod.fst).flatten ++ [.finish]) :=
    ⟨lexed, Nat.le_of_eq length.symm⟩
  obtain ⟨a, eq, -⟩ := reads_module all _ stands
  have plain : text.toList.contains '\x00' = false := by simpa using noNull
  rw [read, plain]
  simp only [Bool.false_eq_true, ↓reduceIte, eq]

/-! ## The chunks that are printed -/

section

variable {text : List Char} {tokens : List Token} {s : Statement} {deep : Nat}

/-- a simple statement -/
theorem isChunk_line (h : Spells deep text tokens) (room : deep ≤ 200) (starts : startsLine text = true)
    (nonempty : text ≠ []) (isSimple : IsSimple tokens s) : IsChunk (text ++ ['\n']) s := by
  refine ⟨clean_append.2 ⟨h.clean, by decide⟩, ?_, by simp, tokens ++ [.newline], [], by decide, fun rest => ?_, ?_⟩
  · obtain ⟨c, more, rfl⟩ := List.exists_cons_of_ne_nil nonempty
    exact starts
  · rw [List.append_assoc]
    exact h.goes_line room rest []
  · rw [closing, List.map_nil, List.append_nil]
    exact isSimple.isStatement.mono (by decide)

/-- a head with a colon behind it, and a block -/
theorem isChunk_block {parts : List (List Char × List Token × Statement)} (clean : Clean text)
    (passed : ∀ rest, delimited rest = true → Goes ⟨false, text ++ rest, [], []⟩ ⟨false, rest, [], []⟩ tokens)
    (starts : startsLine text = true) (nonempty : text ≠ []) (full : parts ≠ [])
    (body : ∀ p ∈ parts, IsBodyPart p.1 p.2.1 p.2.2)
    (isStatement : IsStatement 2 (tokens ++ .mark ":" :: blockTokens (parts.map Prod.snd)) s) :
    IsChunk (text ++ ':' :: '\n' :: parts.flatMap Prod.fst) s := by
  refine ⟨?_, ?_, by simp, tokens ++ .mark ":" :: .newline :: .indent :: parts.flatMap fun p => p.2.1, [(4, 4)],
    by decide, fun rest => ?_, ?_⟩
  · have lines : Clean (parts.flatMap Prod.fst) := clean_flatMap fun p hp => (body p hp).clean
    exact clean_append.2 ⟨clean, clean_cons.2 ⟨by decide, clean_cons.2 ⟨by decide, lines⟩⟩⟩
  · obtain ⟨c, more, rfl⟩ := List.exists_cons_of_ne_nil nonempty
    exact starts
  · have head := passed (':' :: '\n' :: (parts.flatMap Prod.fst ++ rest)) rfl
    have colon : Goes ⟨false, ':' :: '\n' :: (parts.flatMap Prod.fst ++ rest), [], []⟩
        ⟨false, '\n' :: (parts.flatMap Prod.fst ++ rest), [], []⟩ [.mark ":"] := goes_mark (by decide) _ _ _
    have whole := head.trans (colon.trans ((goes_newline _ []).trans (goes_body full body rest)))
    simpa using whole
  · have eq : tokens ++ .mark ":" :: .newline :: .indent :: (parts.flatMap fun p => p.2.1) ++ closing [(4, 4)] =
        tokens ++ .mark ":" :: blockTokens (parts.map Prod.snd) := by
      simp [closing, blockTokens, List.flatMap_def, Function.comp_def]
    rw [eq]
    exact isStatement

/-- a class of typed dictionaries -/
theorem isChunk_class {name : String} {parts : List (List Char × List Token × Statement)}
    (isName : Module.isPlainField name = true) (full : parts ≠ []) (body : ∀ p ∈ parts, IsBodyPart p.1 p.2.1 p.2.2) :
    IsChunk ("class ".toList ++ (name.toList ++ "(TypedDict)".toList) ++ ':' :: '\n' :: parts.flatMap Prod.fst)
      (.class name (parts.map fun p => p.2.2)) := by
  obtain ⟨isIdentifier, notReserved⟩ := Module.isPlainField_iff.1 isName
  have base : Spells 0 "TypedDict".toList [.name "TypedDict"] := spells_name (by decide)
  have word : Spells 1 "class".toList [.name "class"] := spells_name (by decide)
  have named := (spells_name isIdentifier).append (base.brackets (by decide : '(' ∈ openings) rfl) rfl
  have head : Spells 1 ("class ".toList ++ (name.toList ++ "(TypedDict)".toList)) _ :=
    word.append (glues_blank.before named) rfl
  have passed (rest : List Char) (ends : delimited rest = true) := head.goes rest [] [] ends (by decide)
  refine isChunk_block head.clean passed rfl (by simp) full body ?_
  have statements : ∀ part ∈ parts.map Prod.snd, IsStatement 1 part.1 part.2 := by
    intro part hp
    obtain ⟨p, mem, rfl⟩ := List.mem_map.1 hp
    exact (body p mem).isStatement
  have whole := isStatement_class notReserved (by decide : Module.isReserved "TypedDict" = false) (by simpa using full)
    statements
  simpa [Function.comp_def] using whole

/-- a function with parameters in order and a result type -/
theorem isChunk_function {name result : String} {params : List (List Char × List Token × Parameter)}
    {required optional : Nat} {parts : List (List Char × List Token × Statement)}
    (isName : Module.isPlainField name = true)
    (isItem : ∀ p ∈ params, Spells deep p.1 p.2.1 ∧ IsItem (parameter expression parameterType ")") ")" p.2.1 p.2.2)
    (ordered : params.map (fun p => p.2.2) = order required optional) (isType : SpellsExpression (deep + 1) result)
    (room : deep + 1 ≤ 200) (full : parts ≠ []) (body : ∀ p ∈ parts, IsBodyPart p.1 p.2.1 p.2.2) :
    IsChunk ("def ".toList ++ (name.toList ++ '(' :: (", ".toList.intercalate (params.map Prod.fst) ++ [')'])) ++
      (" -> ".toList ++ result.toList) ++ ':' :: '\n' :: parts.flatMap Prod.fst)
      (.function name (parts.map fun p => p.2.2)) := by
  obtain ⟨isIdentifier, notReserved⟩ := Module.isPlainField_iff.1 isName
  obtain ⟨tokens, e, spells, isExpression⟩ := isType
  have separate : Spells deep (", ".toList.intercalate (params.map Prod.fst)) (separated (params.map fun p => p.2.1)) := by
    have items : ∀ i ∈ params.map fun p => (p.1, p.2.1), Spells deep i.1 i.2 := by
      intro i hi
      obtain ⟨p, mem, rfl⟩ := List.mem_map.1 hi
      exact (isItem p mem).1
    simpa [Function.comp_def] using spells_separated items
  have word : Spells (deep + 1) "def".toList [.name "def"] := spells_name (by decide)
  have named := (spells_name isIdentifier).append (separate.brackets (by decide : '(' ∈ openings) rfl) rfl
  have head : Spells (deep + 1) ("def ".toList ++ (name.toList ++
      '(' :: (", ".toList.intercalate (params.map Prod.fst) ++ [')']))) _ := word.append (glues_blank.before named) rfl
  have whole := head.append (glues_arrow.before spells) rfl
  have passed (rest : List Char) (ends : delimited rest = true) := whole.goes rest [] [] ends (by simpa using room)
  refine isChunk_block whole.clean passed rfl (by simp) full body ?_
  have statements : ∀ part ∈ parts.map Prod.snd, IsStatement 1 part.1 part.2 := by
    intro part hp
    obtain ⟨p, mem, rfl⟩ := List.mem_map.1 hp
    exact (body p mem).isStatement
  have items : ∀ i ∈ params.map Prod.snd, IsItem (parameter expression parameterType ")") ")" i.1 i.2 := by
    intro i hi
    obtain ⟨p, mem, rfl⟩ := List.mem_map.1 hi
    exact (isItem p mem).2
  have whole := isStatement_function notReserved items (by simpa [Function.comp_def] using ordered) isExpression
    (by simpa using full) statements
  simpa [Function.comp_def] using whole

end

end ApiTypes.Source
