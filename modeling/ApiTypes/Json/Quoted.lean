/-
Quoted texts in JSON.

The quote, the backslash and the five control characters with a letter of their own are escaped by a backslash, other
control characters by four hexadecimal digits. The ASCII form writes every character beyond the printable ASCII range
that way, in UTF-16 units; the plain form writes them as they are.

Main statement: `asciiEscape_ascii`, the ASCII form holds printable ASCII only.
-/
import ApiTypes.Text.Quoted

namespace ApiTypes.Json

/-- the letter that escapes a character after a backslash -/
def escapeLetter? : Char → Option Char
  | '"' => some '"'
  | '\\' => some '\\'
  | '\n' => some 'n'
  | '\r' => some 'r'
  | '\t' => some 't'
  | '\x08' => some 'b'
  | '\x0c' => some 'f'
  | _ => none

/-- one UTF-16 unit in hexadecimal -/
def unitEscape (n : Nat) : List Char := '\\' :: 'u' :: Text.hexDigits 4 n

def plainEscape (c : Char) : List Char :=
  match escapeLetter? c with
  | some letter => ['\\', letter]
  | none => if c.toNat < 32 then unitEscape c.toNat else [c]

def asciiEscape (c : Char) : List Char :=
  match escapeLetter? c with
  | some letter => ['\\', letter]
  | none =>
    if 32 ≤ c.toNat ∧ c.toNat < 127 then [c]
    else if c.toNat < 0x10000 then unitEscape c.toNat
    else
      let rest := c.toNat - 0x10000
      unitEscape (0xD800 + rest / 0x400) ++ unitEscape (0xDC00 + rest % 0x400)

def quote (escape : Char → List Char) (text : String) : String :=
  String.ofList ('"' :: text.toList.flatMap escape ++ ['"'])

/-- printable ASCII -/
def IsPlain (c : Char) : Prop := 32 ≤ c.toNat ∧ c.toNat < 127

theorem hexDigit_plain {n : Nat} (h : n < 16) : IsPlain (Text.hexDigit n) := by
  have small : ∀ k < 16, 32 ≤ (Text.hexDigit k).toNat ∧ (Text.hexDigit k).toNat < 127 := by decide
  exact small n h

theorem hexDigits_plain (width n : Nat) : ∀ c ∈ Text.hexDigits width n, IsPlain c := by
  induction width generalizing n with
  | zero => simp [Text.hexDigits]
  | succ width ih =>
    intro c hc
    rcases List.mem_append.1 hc with hc | hc
    · exact ih _ c hc
    · obtain rfl := List.mem_singleton.1 hc
      exact hexDigit_plain (Nat.mod_lt _ (by omega))

theorem unitEscape_plain (n : Nat) : ∀ c ∈ unitEscape n, IsPlain c := by
  intro c hc
  simp only [unitEscape, List.mem_cons] at hc
  rcases hc with rfl | rfl | hc
  · exact ⟨by decide, by decide⟩
  · exact ⟨by decide, by decide⟩
  · exact hexDigits_plain 4 n c hc

theorem escapeLetter?_plain {c letter : Char} (h : escapeLetter? c = some letter) : IsPlain letter := by
  unfold escapeLetter? at h
  split at h <;> cases h <;> exact ⟨by decide, by decide⟩

theorem asciiEscape_ascii (c : Char) : ∀ d ∈ asciiEscape c, IsPlain d := by
  intro d hd
  unfold asciiEscape at hd
  split at hd
  · rename_i letter h
    simp only [List.mem_cons, List.not_mem_nil, or_false] at hd
    rcases hd with rfl | rfl
    · exact ⟨by decide, by decide⟩
    · exact escapeLetter?_plain h
  · split at hd
    · rename_i h
      obtain rfl := List.mem_singleton.1 hd
      exact h
    · split at hd
      · exact unitEscape_plain _ d hd
      · rcases List.mem_append.1 hd with hd | hd <;> exact unitEscape_plain _ d hd

end ApiTypes.Json
