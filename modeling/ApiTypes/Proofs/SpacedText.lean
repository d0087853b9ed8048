/-
JSON texts in ASCII.

A value is written on one line, with a blank behind each comma and each colon. Its texts hold printable ASCII only:
other characters are escaped by the digits of their UTF-16 units, of which a character beyond the first plane has two.
Neither of the two means a character alone, so that they are read together.

Main statements: `escapes_ascii`, what is written for a character is read back as it; `isPlain_spaced`, all that is
written is printable ASCII; `read_spaced`, the text of a value is read back.
-/
import ApiTypes.Proofs.JsonText
import ApiTypes.Value.Preview

namespace ApiTypes.Json

/-! ## Escapes -/

/-- the two units of a character beyond the first plane are read together -/
theorem readQuotedFrom_pair (start : List Char) {c : Char} {first second : Nat}
    (high : 0xD800 ≤ first ∧ first < 0xDC00) (low : 0xDC00 ≤ second ∧ second < 0xE000)
    (code : 0x10000 + (first - 0xD800) * 0x400 + (second - 0xDC00) = c.toNat) (fuel : Nat) (before : List Char)
    {rest : List Char} (h : rest ≠ []) :
    readQuotedFrom start (fuel + 1) before (unitEscape first ++ (unitEscape second ++ rest)) =
      readQuotedFrom start fuel (c :: before) rest := by
  obtain ⟨a, b, d, e, digits, number⟩ := exists_digits (n := first) (by omega)
  obtain ⟨a', b', d', e', digits', number'⟩ := exists_digits (n := second) (by omega)
  have back : Char.ofNat (0x10000 + (first - 0xD800) * 0x400 + (second - 0xDC00)) = c := by
    rw [code, Char.ofNat_toNat]
  have pair : pairChar? first ('\\' :: 'u' :: a' :: b' :: d' :: e' :: rest) = some (.ok (c, rest)) := by
    unfold pairChar?
    rw [if_pos high]
    simp [number', low, h, back]
  simp [unitEscape, digits, digits', readQuotedFrom, number, pair]

theorem escapes_ascii : Escapes asciiEscape where
  nonempty c := by
    unfold asciiEscape
    split
    · simp
    · split_ifs <;> simp [unitEscape]
  reads start c fuel before rest h := by
    unfold asciiEscape
    split
    · rename_i letter escape
      exact readQuotedFrom_letter start escape fuel before rest
    · rename_i plain
      split_ifs with own one
      · exact readQuotedFrom_own start plain own.1 fuel before rest
      · exact readQuotedFrom_unit start one fuel before h
      · have valid : c.toNat < 0xD800 ∨ 0xDFFF < c.toNat ∧ c.toNat < 0x110000 := c.valid
        rw [List.append_assoc]
        exact readQuotedFrom_pair start (by omega) (by omega) (by omega) fuel before h

/-! ## Texts -/

mutual

/-- the value on one line, in ASCII -/
def spaced : Value → String
  | .list items => "[" ++ ", ".intercalate (spacedItems items) ++ "]"
  | .tuple items => "[" ++ ", ".intercalate (spacedItems items) ++ "]"
  | .map entries => "\x7b" ++ ", ".intercalate (spacedMembers entries) ++ "\x7d"
  | .str s => quote asciiEscape s
  | scalar => scalarText scalar

def spacedItems : List Value → List String
  | [] => []
  | v :: rest => spaced v :: spacedItems rest

def spacedMembers : List (Value × Value) → List String
  | [] => []
  | (key, v) :: rest => (quote asciiEscape (keyText key) ++ ": " ++ spaced v) :: spacedMembers rest

end

/-! ## Printable ASCII -/

theorem isPlain_append {s t : String} (h : ∀ c ∈ s.toList, IsPlain c) (h' : ∀ c ∈ t.toList, IsPlain c) :
    ∀ c ∈ (s ++ t).toList, IsPlain c := by
  rw [String.toList_append, List.forall_mem_append]
  exact ⟨h, h'⟩

theorem isPlain_joined {parts : List String} (h : ∀ p ∈ parts, ∀ c ∈ p.toList, IsPlain c) :
    ∀ c ∈ (", ".intercalate parts).toList, IsPlain c := by
  have comma : ∀ c ∈ ", ".toList, IsPlain c := by simp [IsPlain]
  induction parts with
  | nil => simp
  | cons p rest ih =>
    have later := ih fun q hq => h q (List.mem_cons_of_mem _ hq)
    cases rest with
    | nil =>
      rw [String.intercalate_singleton]
      exact h p List.mem_cons_self
    | cons q more =>
      rw [String.intercalate_cons_cons]
      exact isPlain_append (isPlain_append (h p List.mem_cons_self) comma) later

theorem isPlain_quote (s : String) : ∀ c ∈ (quote asciiEscape s).toList, IsPlain c := by
  have mark : IsPlain '"' := ⟨by decide, by decide⟩
  rw [toList_quote]
  intro c mem
  rcases List.mem_cons.1 mem with rfl | mem
  · exact mark
  · rcases List.mem_append.1 mem with mem | mem
    · obtain ⟨d, -, written⟩ := List.mem_flatMap.1 mem
      exact asciiEscape_ascii d c written
    · rwa [List.mem_singleton.1 mem]

theorem isPlain_int (n : Int) : ∀ c ∈ (toString n).toList, IsPlain c := by
  obtain ⟨negative, m, text, -, -⟩ := toList_int n
  have sign : ∀ c ∈ (if negative then ['-'] else []), IsPlain c := by cases negative <;> simp [IsPlain]
  rw [text]
  intro c mem
  rcases List.mem_append.1 mem with mem | mem
  · exact sign c mem
  · have digit := isAsciiDigit_toDigits c mem
    simp only [Text.isAsciiDigit, Bool.and_eq_true, decide_eq_true_eq] at digit
    exact ⟨by omega, by omega⟩

mutual

theorem isPlain_spaced : (v : Value) → v.IsJson → ∀ c ∈ (spaced v).toList, IsPlain c
  | .null, _ => by simp [spaced, scalarText, IsPlain]
  | .bool b, _ => by cases b <;> simp [spaced, scalarText, IsPlain]
  | .int n, _ => isPlain_int n
  | .str s, _ => by
    rw [spaced]
    exact isPlain_quote s
  | .list items, json => by
    rw [Value.IsJson] at json
    rw [spaced]
    exact isPlain_append (isPlain_append (by simp [IsPlain]) (isPlain_joined (isPlain_spacedItems items json)))
      (by simp [IsPlain])
  | .map entries, json => by
    rw [Value.IsJson] at json
    rw [spaced]
    exact isPlain_append (isPlain_append (by simp [IsPlain]) (isPlain_joined (isPlain_spacedMembers entries json.2)))
      (by simp [IsPlain])

theorem isPlain_spacedItems : (items : List Value) → Value.IsJsonItems items →
    ∀ p ∈ spacedItems items, ∀ c ∈ p.toList, IsPlain c
  | [], _ => by simp [spacedItems]
  | v :: rest, json => by
    rw [Value.IsJsonItems] at json
    rw [spacedItems, List.forall_mem_cons]
    exact ⟨isPlain_spaced v json.1, isPlain_spacedItems rest json.2⟩

theorem isPlain_spacedMembers : (entries : List (Value × Value)) → Value.IsJsonEntries entries →
    ∀ p ∈ spacedMembers entries, ∀ c ∈ p.toList, IsPlain c
  | [], _ => by simp [spacedMembers]
  | (key, v) :: rest, json => by
    rw [Value.IsJsonEntries] at json
    rw [spacedMembers, List.forall_mem_cons]
    exact ⟨isPlain_append (isPlain_append (isPlain_quote _) (by simp [IsPlain])) (isPlain_spaced v json.2.1),
      isPlain_spacedMembers rest json.2.2⟩

end

/-! ## Reading -/

mutual

theorem spelled_spaced : (v : Value) → v.IsJson → Spelled asciiEscape v (spaced v).toList
  | .list items, json => by
    rw [Value.IsJson] at json
    rw [spaced]
    exact spelled_lineList rfl blank_space (spelledItems_spaced items json)
  | .map entries, json => by
    rw [Value.IsJson] at json
    rw [spaced]
    exact spelled_lineMap rfl blank_space blank_space (spelledMembers_spaced entries json.2)
  | .null, _ => by simp [Spelled, spaced]
  | .bool _, _ => by simp [Spelled, spaced]
  | .int _, _ => by simp [Spelled, spaced]
  | .str _, _ => by simp [Spelled, spaced]

theorem spelledItems_spaced : (items : List Value) → Value.IsJsonItems items →
    List.Forall₂ (fun v p => Spelled asciiEscape v p.toList) items (spacedItems items)
  | [], _ => by
    rw [spacedItems]
    exact .nil
  | v :: rest, json => by
    rw [Value.IsJsonItems] at json
    rw [spacedItems]
    exact .cons (spelled_spaced v json.1) (spelledItems_spaced rest json.2)

theorem spelledMembers_spaced : (entries : List (Value × Value)) → Value.IsJsonEntries entries →
    List.Forall₂ (SpelledMember asciiEscape [' ']) entries (spacedMembers entries)
  | [], _ => by
    rw [spacedMembers]
    exact .nil
  | (key, v) :: rest, json => by
    rw [Value.IsJsonEntries] at json
    rw [spacedMembers]
    exact .cons ⟨_, spelled_spaced v json.2.1, by simp⟩ (spelledMembers_spaced rest json.2.2)

end

/-- **What is written in ASCII is read back.** -/
theorem read_spaced {v : Value} (json : v.IsJson) : read (spaced v) = .ok v :=
  read_spelled escapes_ascii json (spelled_spaced v json)

end ApiTypes.Json
