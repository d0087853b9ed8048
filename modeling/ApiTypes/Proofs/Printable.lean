/-
Texts that are quoted as they stand.

The tables of the word characters and the table of the characters that a quoted text hides are in rising order and have
no code point in common. So word characters are printable, and a text of word characters and the marks of type
expressions is between its quotes as it is.

Main statements: `isPrintable_of_isWord`; `quoted_of_standsAsIs`, such a text is only put between quotes.
-/
import Mathlib.Data.List.Chain
import ApiTypes.Text.Quoted

namespace ApiTypes.Text

/-! ## Spans without a common code point -/

def Rising (spans : List (Nat × Nat)) : Prop := spans.IsChain fun s t => s.1 ≤ t.1

instance (spans : List (Nat × Nat)) : Decidable (Rising spans) :=
  inferInstanceAs (Decidable (spans.IsChain fun s t => s.1 ≤ t.1))

/-- do all spans of the first table lie in the gaps of the second? both are gone through once -/
def apart : List (Nat × Nat) → List (Nat × Nat) → Bool
  | [], _ => true
  | s :: rest, others =>
    let later := others.dropWhile fun t => t.2 < s.1
    (later.head?.all fun t => s.2 < t.1) && apart rest later

theorem Rising.pairwise {spans : List (Nat × Nat)} (h : Rising spans) : spans.Pairwise fun s t => s.1 ≤ t.1 :=
  haveI : IsTrans (Nat × Nat) fun s t => s.1 ≤ t.1 := ⟨fun _ _ _ => Nat.le_trans⟩
  List.isChain_iff_pairwise.1 h

theorem disjoint_of_apart {spans others : List (Nat × Nat)} (rising : spans.Pairwise fun s t => s.1 ≤ t.1)
    (risingOthers : others.Pairwise fun s t => s.1 ≤ t.1) (h : apart spans others = true) :
    ∀ s ∈ spans, ∀ t ∈ others, t.2 < s.1 ∨ s.2 < t.1 := by
  induction spans generalizing others with
  | nil => simp
  | cons first rest ih =>
    rw [apart, Bool.and_eq_true] at h
    obtain ⟨gap, h⟩ := h
    rw [List.pairwise_cons] at rising
    have parts := List.takeWhile_append_dropWhile (p := fun t : Nat × Nat => decide (t.2 < first.1)) (l := others)
    have before : ∀ t ∈ others.takeWhile fun t => t.2 < first.1, t.2 < first.1 := fun t ht => by
      simpa using List.all_eq_true.1 List.all_takeWhile t ht
    have after := risingOthers.sublist (List.dropWhile_sublist fun t => decide (t.2 < first.1))
    intro s hs t ht
    rw [← parts, List.mem_append] at ht
    rcases List.mem_cons.1 hs with rfl | hs <;> rcases ht with ht | ht
    · exact Or.inl (before t ht)
    · revert ht gap after
      cases others.dropWhile fun t => t.2 < s.1 with
      | nil => simp
      | cons next further =>
        intro gap after ht
        have gap : s.2 < next.1 := by simpa using gap
        rcases List.mem_cons.1 ht with rfl | ht
        · exact Or.inr gap
        · exact Or.inr (Nat.lt_of_lt_of_le gap ((List.pairwise_cons.1 after).1 t ht))
    · exact Or.inl (Nat.lt_of_lt_of_le (before t ht) (rising.1 s hs))
    · exact ih rising.2 after h s hs t ht

theorem inSpans_of_apart {spans others : List (Nat × Nat)} (rising : Rising spans) (risingOthers : Rising others)
    (h : apart spans others = true) {c : Char} (hc : inSpans spans c = true) : inSpans others c = false := by
  rw [inSpans, List.any_eq_true] at hc
  obtain ⟨s, hs, low⟩ := hc
  rw [inSpans, List.any_eq_false]
  intro t ht
  rcases disjoint_of_apart rising.pairwise risingOthers.pairwise h s hs t ht with lt | lt
  · simp at low ⊢; omega
  · simp at low ⊢; omega

/-! ## Word characters -/

theorem hidden_rising : Rising Spans.hidden := by decide +kernel

theorem isPrintable_of_isWord {c : Char} (h : isWord c = true) : isPrintable c = true := by
  unfold isWord at h
  unfold isPrintable
  split_ifs at h ⊢ with ascii
  · simp only [isAsciiAlnum, isAsciiLetter, isLower, isUpper, isAsciiDigit, Bool.or_eq_true, Bool.and_eq_true,
      decide_eq_true_eq, beq_iff_eq] at h ⊢
    rcases h with ((h | h) | h) | rfl
    · omega
    · omega
    · omega
    · decide
  · simp only [Bool.or_eq_true] at h
    rw [Bool.not_eq_true']
    rcases h with ((h | h) | h) | h
    · exact inSpans_of_apart (by decide +kernel) hidden_rising (by decide +kernel) h
    · exact inSpans_of_apart (by decide +kernel) hidden_rising (by decide +kernel) h
    · exact inSpans_of_apart (by decide +kernel) hidden_rising (by decide +kernel) h
    · exact inSpans_of_apart (by decide +kernel) hidden_rising (by decide +kernel) h

/-! ## Quoting -/

/-- the character is between single quotes as it is -/
def standsAsIs (c : Char) : Bool := isPrintable c && c != '\\' && c != '\''

theorem standsAsIs_of_isWord {c : Char} (h : isWord c = true) : standsAsIs c = true := by
  have slash : c ≠ '\\' := by rintro rfl; exact absurd h (by decide)
  have quote : c ≠ '\'' := by rintro rfl; exact absurd h (by decide)
  simp [standsAsIs, isPrintable_of_isWord h, slash, quote]

theorem flatMap_escape {text : List Char} (h : text.all standsAsIs = true) :
    text.flatMap (escape '\'') = text := by
  induction text with
  | nil => rfl
  | cons c rest ih =>
    rw [List.all_cons, Bool.and_eq_true] at h
    obtain ⟨asIs, others⟩ := h
    simp only [standsAsIs, Bool.and_eq_true, bne_iff_ne] at asIs
    rw [List.flatMap_cons, escape_printable asIs.1.1 asIs.1.2 asIs.2, ih others]
    rfl

theorem quoted_of_standsAsIs {text : String} (h : text.toList.all standsAsIs = true) :
    (quoted text).toList = '\'' :: text.toList ++ ['\''] := by
  have absent : '\'' ∉ text.toList := fun mem => absurd (List.all_eq_true.1 h _ mem) (by decide)
  have single : quoteFor text.toList = '\'' := by simp [quoteFor, absent]
  rw [quoted, String.toList_ofList, quotedChars, single, flatMap_escape h]

end ApiTypes.Text
