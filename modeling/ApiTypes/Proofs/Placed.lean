/-
Where lexemes stand.

The bracket depth of a lexeme is told by its token and those before it, so that two texts with the same tokens have them at
the same depths. And the token at the end of a text is only there when lexing has come to it.

What one step of the lexer keeps is `Settled`; `Sound` is what is left of it where lexing stops.

Main statements: `sound_ofText`, for a whole text; `Sound.unplaced_eq`, lexemes with the same tokens differ in their lines
only.
-/
import ApiTypes.Proofs.Blind

namespace ApiTypes.Source

/-! ## Depths -/

/-- the brackets that are open behind a token, by those that were before it -/
def Token.shift (t : Token) (before : Nat) : Nat :=
  match t with
  | .mark sign =>
    match sign.toList with
    | [c] => if (closing? c).isSome then before + 1 else if isClosing c then before - 1 else before
    | _ => before
  | _ => before

theorem shift_singleton (c : Char) (before : Nat) : (Token.mark (String.singleton c)).shift before =
    if (closing? c).isSome then before + 1 else if isClosing c then before - 1 else before := by
  rw [Token.shift, String.toList_singleton]

/-- no mark of several characters is a bracket -/
theorem shift_long {sign : String} (h : sign ∈ longMarks) (before : Nat) : (Token.mark sign).shift before = before := by
  have long : ∀ s ∈ longMarks, s.toList.length ≠ 1 := by decide
  rw [Token.shift]
  split
  · rename_i eq
    exact absurd (congrArg List.length eq) (long sign h)
  · rfl

/-- the brackets that are open behind these tokens, last first -/
def openBehind : List Token → Nat
  | [] => 0
  | t :: earlier => t.shift (openBehind earlier)

/-- each of the lexemes, last first, stands at the depth that the tokens tell -/
def Placed : List Lexeme → Prop
  | [] => True
  | l :: earlier => l.depth = openBehind (l.token :: earlier.map Lexeme.token) ∧ Placed earlier

theorem Placed.unplaced_eq {lexemes others : List Lexeme} (h : Placed lexemes) (h' : Placed others)
    (same : lexemes.map Lexeme.token = others.map Lexeme.token) :
    lexemes.map Lexeme.unplaced = others.map Lexeme.unplaced := by
  induction lexemes generalizing others with
  | nil => rw [List.map_eq_nil_iff.1 same.symm]
  | cons l rest ih =>
    obtain ⟨l', rest', rfl, token, later⟩ := List.map_eq_cons_iff.1 same.symm
    have depth : l.depth = l'.depth := by rw [h.1, h'.1, token, later]
    rw [List.map_cons, List.map_cons, ih h.2 h'.2 later.symm, Lexeme.unplaced, Lexeme.unplaced, token, depth]

def Lexed.tokens (lexed : Lexed) : List Token := lexed.lexemes.map Lexeme.token

/-- where lexing stopped, the lexemes are placed, and the last of them is the end of the text if it is among them -/
structure Lexed.Sound (lexed : Lexed) : Prop where
  placed : Placed lexed.lexemes.reverse
  unfinished : lexed.stop ≠ .complete → .finish ∉ lexed.tokens

theorem Lexed.Sound.unplaced_eq {lexed other : Lexed} (h : lexed.Sound) (h' : other.Sound)
    (same : lexed.tokens = other.tokens) :
    lexed.lexemes.map Lexeme.unplaced = other.lexemes.map Lexeme.unplaced := by
  have reversed : lexed.lexemes.reverse.map Lexeme.token = other.lexemes.reverse.map Lexeme.token := by
    rw [List.map_reverse, List.map_reverse]
    exact congrArg List.reverse same
  have eq := h.placed.unplaced_eq h'.placed reversed
  rwa [List.map_reverse, List.map_reverse, List.reverse_inj] at eq

namespace Lexing

/-! ## Steps of the lexer -/

/-- while a text is lexed, its lexemes are placed, its brackets are those that the tokens open, and it is not at its end -/
structure Settled (l : Lexing) : Prop where
  placed : Placed l.lexemes
  brackets : l.brackets.length = openBehind (l.lexemes.map Lexeme.token)
  unfinished : .finish ∉ l.lexemes.map Lexeme.token

variable {l m : Lexing}

theorem Settled.same (h : l.Settled) (lexemes : m.lexemes = l.lexemes) (brackets : m.brackets = l.brackets) :
    m.Settled := by
  obtain ⟨placed, count, unfinished⟩ := h
  constructor
  · rwa [lexemes]
  · rwa [lexemes, brackets]
  · rwa [lexemes]

/-- a token is added, and brackets are open as it tells -/
theorem Settled.added (h : l.Settled) {t : Token} {line : Nat}
    (lexemes : m.lexemes = ⟨t, line, m.brackets.length⟩ :: l.lexemes)
    (brackets : m.brackets.length = t.shift l.brackets.length) (other : t ≠ .finish) : m.Settled := by
  have count : m.brackets.length = openBehind (t :: l.lexemes.map Lexeme.token) := by
    rw [brackets, h.brackets, openBehind]
  constructor
  · rw [lexemes]
    exact ⟨count, h.placed⟩
  · rw [lexemes]
    exact count
  · rw [lexemes, List.map_cons, List.mem_cons, not_or]
    exact ⟨other.symm, h.unfinished⟩

/-- a token that is no bracket -/
theorem Settled.push (h : l.Settled) {t : Token} (line : Nat) (plain : t.shift l.brackets.length = l.brackets.length)
    (other : t ≠ .finish) : (l.push t line).Settled :=
  h.added rfl plain.symm other

theorem Settled.stopWith (h : l.Settled) (stop : Stop) : (l.stopWith stop).Sound where
  placed := by
    rw [Lexing.stopWith, List.reverse_reverse]
    exact h.placed
  unfinished := by
    intro _
    rw [Lexed.tokens, Lexing.stopWith, List.map_reverse, List.mem_reverse]
    exact h.unfinished

/-- what a step leaves is settled, or sound where it stopped -/
def Kept : Except Lexed Lexing → Prop
  | .ok l => l.Settled
  | .error lexed => lexed.Sound

/-! ## Indentation -/

theorem settled_closeTo (column line : Nat) {columns : List (Nat × Nat)} (h : l.Settled) :
    (closeTo column line columns l).Settled := by
  induction columns generalizing l with
  | nil => exact h
  | cons c rest ih =>
    rw [closeTo]
    split_ifs
    · have closed : (l.push .dedent line).Settled := h.push line rfl (by decide)
      exact ih (closed.same rfl rfl)
    · exact h

theorem settled_indentTo {column narrow line : Nat} (h : l.Settled) (eq : indentTo column narrow line l = .ok m) :
    m.Settled := by
  unfold indentTo at eq
  dsimp only at eq
  split at eq
  · split at eq
    · cases eq
      exact h
    · cases eq
  · split at eq
    · split at eq
      · cases eq
      · split at eq
        · cases eq
        · cases eq
          have opened : ({ l with columns := (column, narrow) :: l.columns } : Lexing).Settled := h.same rfl rfl
          exact opened.push line rfl (by decide)
    · split at eq
      · cases eq
      · split at eq
        · cases eq
        · cases eq
          exact settled_closeTo column line h

/-! ## Tokens -/

theorem kept_readText (mode : TextMode) (quote : Char) (behind : List Char) (h : l.Settled) :
    Kept (readText mode quote behind l) := by
  have done (body : List Char) (lines : Nat) (rest : List Char) : Lexing.Settled
      { l.push (.text mode (String.ofList body)) l.line with rest, line := l.line + lines } :=
    by
    have quoted : (l.push (.text mode (String.ofList body)) l.line).Settled := h.push l.line rfl (by simp)
    exact quoted.same rfl rfl
  unfold readText
  dsimp only
  split
  · rename_i c d rest
    by_cases first : c = quote
    · rw [if_pos first]
      by_cases second : d = quote
      · rw [if_pos second]
        split
        · exact done _ _ _
        · exact h.stopWith _
      · rw [if_neg second]
        exact done [] 0 _
    · rw [if_neg first]
      split
      · exact done _ _ _
      · exact h.stopWith _
  · split
    · exact done _ _ _
    · exact h.stopWith _

theorem kept_readName (h : l.Settled) : Kept l.readName := by
  have named : Lexing.Settled { l.push (.name (String.ofList (l.rest.takeWhile Number.isNameChar))) l.line with
      rest := l.rest.drop (l.rest.takeWhile Number.isNameChar).length } := by
    have pushed : (l.push (.name (String.ofList (l.rest.takeWhile Number.isNameChar))) l.line).Settled :=
      h.push l.line rfl (by simp)
    exact pushed.same rfl rfl
  unfold readName
  dsimp only
  cases badCharacter? (l.rest.takeWhile Number.isNameChar) with
  | some c =>
    split
    · split_ifs
      · split
        · exact kept_readText _ _ _ h
        · exact h.stopWith _
      · exact h.stopWith _
    · exact h.stopWith _
  | none =>
    split
    · split_ifs
      · split
        · exact kept_readText _ _ _ h
        · exact named
      · exact named
    · exact named

theorem kept_readNumber (h : l.Settled) : Kept l.readNumber := by
  unfold readNumber
  cases Number.read l.rest with
  | ok found =>
    have counted : (l.push (.number found.imaginary) l.line).Settled := h.push l.line rfl nofun
    exact counted.same rfl rfl
  | error complaint => exact h.stopWith _

theorem kept_openBracket {c : Char} (opening : (closing? c).isSome = true) (rest : List Char) (h : l.Settled) :
    Kept (l.openBracket c rest) := by
  unfold openBracket
  split_ifs
  · exact h.stopWith _
  · refine h.added rfl ?_ nofun
    rw [shift_singleton, if_pos opening]
    rfl

theorem kept_closeBracket {c : Char} (opening : (closing? c).isSome = false) (closing : isClosing c = true)
    (rest : List Char) (h : l.Settled) : Kept (l.closeBracket c rest) := by
  unfold closeBracket
  split
  · exact h.stopWith _
  · rename_i eq
    split
    · refine h.added rfl ?_ nofun
      rw [shift_singleton, opening, closing, eq]
      rfl
    · exact h.stopWith _

theorem kept_readMark (c : Char) (rest : List Char) (h : l.Settled) : Kept (l.readMark c rest) := by
  unfold readMark
  split
  · rename_i sign found
    have marked : (l.push (.mark sign) l.line).Settled :=
      h.push l.line (shift_long (List.mem_of_find?_eq_some found) _) nofun
    exact marked.same rfl rfl
  · cases opening : (closing? c).isSome with
    | true => exact kept_openBracket opening rest h
    | false =>
      cases closing : isClosing c with
      | true => exact kept_closeBracket opening closing rest h
      | false =>
        simp only [Bool.false_eq_true, ↓reduceIte]
        split_ifs
        · have marked : (l.push (.mark (String.singleton c)) l.line).Settled := by
            refine h.push l.line ?_ nofun
            rw [shift_singleton, opening, closing]
            rfl
          exact marked.same rfl rfl
        · exact h.stopWith _

theorem kept_readToken (c : Char) (rest : List Char) (h : l.Settled) : Kept (l.readToken c rest) := by
  unfold readToken
  split_ifs
  · exact kept_readName h
  · exact kept_readText _ _ _ h
  · exact kept_readNumber h
  · exact kept_readMark c rest h

/-! ## Whole texts -/

theorem sound_atEnd (h : l.Settled) : l.atEnd.Sound := by
  unfold atEnd
  split
  · exact h.stopWith _
  · refine ⟨?_, fun other => absurd rfl other⟩
    rw [Lexing.stopWith, List.reverse_reverse]
    exact ⟨h.brackets, h.placed⟩

/-- by induction on the fuel, along the steps -/
theorem sound_run (fuel : Nat) (start : Bool) (h : l.Settled) : (run fuel start l).Sound := by
  induction fuel generalizing start l with
  | zero => exact sound_atEnd h
  | succ fuel ih =>
    have behind (rest : List Char) (line : Nat) : ({ l with rest, line } : Lexing).Settled := h.same rfl rfl
    cases start with
    | true =>
      rw [run]
      split
      · exact ih false h
      · dsimp only
        split
        · exact ih true (behind _ _)
        · exact ih true (behind _ _)
        · split
          · rename_i opened
            exact ih false (settled_indentTo (behind _ _) opened)
          · exact (behind _ _).stopWith _
    | false =>
      rw [run]
      dsimp only
      split
      · exact sound_atEnd h
      · split_ifs
        · have ended : (l.push .newline l.line).Settled := h.push l.line rfl (by decide)
          exact ih true (ended.same rfl rfl)
        · exact ih true (behind _ _)
      · exact h.stopWith _
      · exact ih false (behind _ _)
      · exact h.stopWith _
      · rename_i c rest _ _ _ _ _
        have kept := kept_readToken c rest (behind (c :: rest) l.line)
        split
        · rename_i read
          rw [read] at kept
          exact ih false kept
        · rename_i read
          rw [read] at kept
          exact kept

end Lexing

/-- the lexemes of a text stand where its tokens tell -/
theorem sound_ofText (text : List Char) : (Lexed.ofText text).Sound :=
  Lexing.sound_run _ true ⟨trivial, rfl, nofun⟩

end ApiTypes.Source
