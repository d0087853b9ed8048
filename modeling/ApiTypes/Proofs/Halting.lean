/-
Reserved words cannot be imported.

A reading that halts at a lexeme halts whatever is read around it: behind readings that go through, in a loop behind steps
that do, and in a module behind statements. An import of names halts at the first name that is a reserved word.

Main statements: `halts_importFrom`, such an import; `halts_module`, statements and one that halts.
-/
import ApiTypes.Proofs.ParsingStatement
import ApiTypes.Proofs.Placed

namespace ApiTypes.Source

open Parse

/-! ## Loops -/

section

variable {α β : Type} {step : α → Parse (α ⊕ β)}

/-- steps of a loop, each of which takes a token at least, up to one that halts -/
inductive Stalls (step : α → Parse (α ⊕ β)) : α → List Token → Prop
  | here {x tokens} : Halts (step x) tokens → Stalls step x tokens
  | later {x t taken more x'} : Reads (step x) (t :: taken) more (.inl x') → Stalls step x' more →
    Stalls step x (t :: taken ++ more)

theorem halts_iterateUpTo {x : α} {tokens : List Token} (h : Stalls step x tokens) (fuel : Nat)
    (enough : tokens.length < fuel) : Halts (iterateUpTo step fuel x) tokens := by
  induction h generalizing fuel with
  | here halts =>
    obtain ⟨fuel, rfl⟩ : ∃ n, fuel = n + 1 := ⟨fuel - 1, by omega⟩
    rw [iterateUpTo]
    exact halts.bind _
  | later read _ ih =>
    obtain ⟨fuel, rfl⟩ : ∃ n, fuel = n + 1 := ⟨fuel - 1, by omega⟩
    rw [iterateUpTo]
    refine read.halts (ih fuel ?_)
    simp only [List.cons_append, List.length_cons, List.length_append] at enough
    omega

/-- a loop halts when one of its steps does -/
theorem halts_iterate {x : α} {tokens : List Token} (h : Stalls step x tokens) : Halts (iterate step x) tokens := by
  intro a stands
  exact halts_iterateUpTo h (a.bound + 1) (Nat.lt_succ_of_le stands.bounded) a stands

end

/-! ## Imports -/

theorem halts_importedName {name : String} (h : Module.isReserved name = true) (after : List Token) :
    Halts importedName (.name name :: after) := by
  have refused : Halts needName (.name name :: after) := by
    refine (reads_token (.name name) after).halts ?_
    dsimp only
    rw [h]
    exact (halts_refuse _ _).bind _
  exact refused.bind _

/-- by induction on the names behind the first; those before the reserved word are read -/
theorem halts_importedNames {first : String} {rest : List String}
    (h : ∃ name ∈ first :: rest, Module.isReserved name = true) (after : List Token) :
    Halts importedNames (importTokens first rest ++ .newline :: after) := by
  -- what comes behind the comma in front of a name, when that is read and when it is reserved
  suffices stalls : ∀ rest : List String, (∃ name ∈ rest, Module.isReserved name = true) → ∀ before : List String,
      Stalls _ before ((rest.flatMap fun name => [.mark ",", .name name]) ++ .newline :: after) by
    cases reserved : Module.isReserved first with
    | true => exact (halts_importedName reserved _).bind _
    | false =>
      obtain ⟨t, behind, split, notAs⟩ := behind_imported rest after
      have read := reads_importedName reserved notAs behind
      rw [← split] at read
      have later : ∃ name ∈ rest, Module.isReserved name = true := by simpa [reserved] using h
      exact read.halts (halts_iterate (stalls rest later [first]))
  intro rest
  induction rest with
  | nil => simp
  | cons name rest ih =>
    intro isLater before
    rw [List.flatMap_cons, List.append_assoc]
    have comma := reads_takes (.mark ",") (.name name :: ((rest.flatMap fun name => [.mark ",", .name name]) ++
      .newline :: after))
    have notEnd := reads_isToken .newline (.name name) ((rest.flatMap fun name => [.mark ",", .name name]) ++
      .newline :: after)
    cases reserved : Module.isReserved name with
    | true =>
      refine .here (comma.halts (notEnd.halts ?_))
      exact (halts_importedName reserved _).bind _
    | false =>
      obtain ⟨t, behind, split, notAs⟩ := behind_imported rest after
      have read := reads_importedName reserved notAs behind
      rw [← split] at read
      have later : ∃ name ∈ rest, Module.isReserved name = true := by simpa [reserved] using isLater
      refine .later ?_ (ih later (before ++ [name]))
      refine comma.take ?_
      refine notEnd.look ?_
      exact read.last (reads_pure _ _)

/-- an import halts when one of the names is reserved -/
theorem halts_importFrom (beside : Bool) {module first : String} {rest : List String}
    (isName : Module.isReserved module = false) (h : ∃ name ∈ first :: rest, Module.isReserved name = true)
    (after : List Token) :
    Halts simpleStatement (importHead beside module ++ (importTokens first rest ++ .newline :: after)) :=
  (reaches_importedNames beside isName first rest (.newline :: after)).halts ((halts_importedNames h after).bind _)

/-! ## Modules -/

/-- where a simple statement would start that halts, reading the statements halts -/
theorem halts_statements {t : Token} {tokens : List Token} (other : t ∉ otherOpeners) (notMatch : t ≠ .name "match")
    (h : Halts simpleStatement (t :: tokens)) (depth : Nat) : Halts (statementsUpTo (depth + 1)) (t :: tokens) := by
  have noBlock : Reads (blockStatement? (statementsUpTo depth)) [] (t :: tokens) none := by
    refine (reads_token t _).look ?_
    split
    case h_6 => exact absurd rfl notMatch
    case h_11 => exact reads_pure _ _
    all_goals exact absurd (by decide) other
  rw [statementsUpTo]
  exact noBlock.halts (h.bind _)

/-- a module halts behind statements where one would start that halts -/
theorem halts_module {parts : List (List Token × Statement)} (h : ∀ part ∈ parts, IsStatement 2 part.1 part.2)
    {t : Token} {tokens : List Token} (other : t ∉ otherOpeners) (notMatch : t ≠ .name "match")
    (halts : Halts simpleStatement (t :: tokens)) : Halts module ((parts.map Prod.fst).flatten ++ t :: tokens) := by
  intro a stands
  have enough : 2 ≤ a.bound + 1 := by
    have bounded := stands.bounded
    rw [List.length_append, List.length_cons] at bounded
    omega
  suffices stalls : ∀ before : List Statement, Stalls _ before ((parts.map Prod.fst).flatten ++ t :: tokens) from
    halts_iterate (stalls []) a stands
  clear stands
  have goesOn {u : Token} (notFinish : u ≠ .finish) (others : List Token) :
      Reads (isToken .finish) [] (u :: others) false := by
    rw [← beq_eq_false_iff_ne.2 notFinish]
    exact reads_isToken _ u others
  induction parts with
  | nil =>
    intro before
    have notFinish : t ≠ .finish := by
      rintro rfl
      exact other (by decide)
    refine .here ((goesOn notFinish _).halts ?_)
    exact (halts_statements other notMatch halts a.bound).bind _
  | cons part rest ih =>
    intro before
    obtain ⟨u, more, eq, -, notFinish⟩ := (h part List.mem_cons_self).opened
    have read := (h part List.mem_cons_self).reads (a.bound + 1) enough
    have later := ih (fun other hp => h other (List.mem_cons_of_mem _ hp)) (before ++ [part.2])
    rw [List.map_cons, List.flatten_cons, List.append_assoc, eq]
    refine .later ?_ later
    refine (goesOn notFinish _).otherwise ?_
    rw [← eq]
    exact (read _).last (reads_pure _ _)

/-- **A text is not read when a module halts on its tokens.** -/
theorem toOption_read_of_halts {text : String} (h : Halts module (Lexed.ofText text.toList).tokens) :
    (read text).toOption = none := by
  have stands : Stands { rest := (Lexed.ofText text.toList).lexemes } (Lexed.ofText text.toList).tokens :=
    ⟨rfl, Nat.le_of_eq (List.length_map _)⟩
  obtain ⟨halt, eq, -⟩ := h _ stands
  rw [read]
  split_ifs
  · rfl
  · simp only [eq]
    rfl

end ApiTypes.Source
