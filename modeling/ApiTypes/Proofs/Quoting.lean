/-
Texts between quotes.

What is written for a text between single or double quotes ends at the closing quote and writes the text. Between three
quotes, a text of lines ends behind the last of them when its backslashes stand in pairs and no three quotes stand
together.

Main statements: `scan_escaped` and `decode_escaped`, a quoted text is read back; `scan_harmless` and `decode_harmless`,
a harmless text ends at the three quotes behind it and writes some text; `harmless_lineText`, the lines of a documentation
are harmless.
-/
import Mathlib.Algebra.Group.Nat.Defs
import Mathlib.Tactic.SplitIfs
import ApiTypes.Module.Stub
import ApiTypes.Source.Literal

namespace ApiTypes.Source.Literal

open ApiTypes.Text

/-- what is decided for each character of a list, and not for every character that there is -/
theorem forall_mem_of_all {P : Char → Prop} [DecidablePred P] {chars : List Char}
    (h : (chars.all fun c => decide (P c)) = true) : ∀ c ∈ chars, P c := by
  simpa using h

/-! ## Hexadecimal digits -/

theorem hexNumber?_hexDigits (width n : Nat) : Json.hexNumber? (hexDigits width n) = some (n % 16 ^ width) := by
  induction width generalizing n with
  | zero => simp [hexDigits, Json.hexNumber?, Nat.mod_one]
  | succ width ih =>
    have front := ih (n / 16)
    rw [Json.hexNumber?] at front
    rw [hexDigits, Json.hexNumber?, List.foldl_append, front, List.foldl_cons, List.foldl_nil,
      Json.hexValue?_hexDigit (Nat.mod_lt n (by omega)), Nat.pow_succ, Nat.mul_comm (16 ^ width) 16, Nat.mod_mul]
    simp only [Option.some.injEq]
    omega

theorem hexDigits_isSome (width n : Nat) : ∀ d ∈ hexDigits width n, (Json.hexValue? d).isSome = true := by
  induction width generalizing n with
  | zero => simp [hexDigits]
  | succ width ih =>
    intro d hd
    rcases List.mem_append.1 hd with hd | hd
    · exact ih _ d hd
    · rw [List.mem_singleton.1 hd, Json.hexValue?_hexDigit (Nat.mod_lt n (by omega))]
      rfl

theorem toNat_lt (c : Char) : c.toNat < 0x110000 := by
  have valid : c.toNat < 0xD800 ∨ 0xDFFF < c.toNat ∧ c.toNat < 0x110000 := c.valid
  omega

/-- a code point in hexadecimal digits, enough of them, is read back -/
theorem decodeFrom_code {letter : Char} {width : Nat} {form : String} (none : letterEscape? letter = none)
    (code : codeForm? letter = some (width, form)) (fuel : Nat) (before : List Char) (position : Nat) {c : Char}
    (holds : c.toNat < 16 ^ width) (rest : List Char) :
    decodeFrom (fuel + 1) before position ('\\' :: letter :: (hexDigits width c.toNat ++ rest)) =
      decodeFrom fuel (c :: before) (position + 2 + width) rest := by
  have length := length_hexDigits width c.toNat
  have front : (hexDigits width c.toNat ++ rest).take width = hexDigits width c.toNat :=
    List.take_left' length
  have behind : (hexDigits width c.toNat ++ rest).drop width = rest :=
    List.drop_left' length
  have digits : (hexDigits width c.toNat).takeWhile (fun d => (Json.hexValue? d).isSome) = hexDigits width c.toNat := by
    have all : (hexDigits width c.toNat ++ []).takeWhile (fun d => (Json.hexValue? d).isSome) =
        hexDigits width c.toNat ++ [] := List.takeWhile_append_of_pos (hexDigits_isSome width c.toNat)
    simpa using all
  rw [decodeFrom, none, code]
  simp only [front, behind, digits, length, Nat.lt_irrefl, ↓reduceIte, hexNumber?_hexDigits,
    Nat.mod_eq_of_lt holds, Option.getD_some, Json.unitChar_toNat, Nat.not_le.2 (toNat_lt c)]

/-! ## Quoted texts -/

def quotes : List Char := ['\'', '"']

/-- what is written for a character is read back as it -/
theorem decodeFrom_escape {quote : Char} (isQuote : quote ∈ quotes) (c : Char) (fuel : Nat) (before : List Char)
    (position : Nat) (rest : List Char) :
    ∃ position', decodeFrom (fuel + 1) before position (escape quote c ++ rest) =
      decodeFrom fuel (c :: before) position' rest := by
  unfold escape
  split_ifs with own feed carriage tab printable two four
  · have self : letterEscape? c = some c := by
      have all : ∀ q ∈ '\\' :: quotes, letterEscape? q = some q := forall_mem_of_all (by decide)
      refine all c ?_
      rcases Bool.or_eq_true_iff.1 own with eq | eq
      · rw [beq_iff_eq.1 eq]
        exact List.mem_cons_self
      · rw [beq_iff_eq.1 eq]
        exact List.mem_cons_of_mem _ isQuote
    refine ⟨position + 2, ?_⟩
    rw [List.cons_append, List.cons_append, List.nil_append, decodeFrom, self]
  · rw [beq_iff_eq.1 feed]
    exact ⟨position + 2, rfl⟩
  · rw [beq_iff_eq.1 carriage]
    exact ⟨position + 2, rfl⟩
  · rw [beq_iff_eq.1 tab]
    exact ⟨position + 2, rfl⟩
  · refine ⟨position + span c, ?_⟩
    rw [List.cons_append, List.nil_append, decodeFrom]
    rintro d more rfl _
    exact own rfl
  · exact ⟨_, decodeFrom_code rfl rfl fuel before position (by simpa using two) rest⟩
  · exact ⟨_, decodeFrom_code rfl rfl fuel before position (by simpa using four) rest⟩
  · refine ⟨_, decodeFrom_code rfl rfl fuel before position ?_ rest⟩
    have bound := toNat_lt c
    omega

theorem escape_ne_nil (quote c : Char) : escape quote c ≠ [] := by
  unfold escape
  split_ifs <;> simp

theorem decodeFrom_escaped {quote : Char} (isQuote : quote ∈ quotes) (text : List Char) (fuel : Nat)
    (before : List Char) (position : Nat) (enough : text.length ≤ fuel) :
    decodeFrom fuel before position (text.flatMap (escape quote)) = .ok (before.reverse ++ text) := by
  induction text generalizing fuel before position with
  | nil => cases fuel <;> simp [decodeFrom]
  | cons c rest ih =>
    obtain ⟨fuel, rfl⟩ : ∃ n, fuel = n + 1 := ⟨fuel - 1, by rw [List.length_cons] at enough; omega⟩
    obtain ⟨position', step⟩ := decodeFrom_escape isQuote c fuel before position (rest.flatMap (escape quote))
    rw [List.flatMap_cons, step, ih fuel (c :: before) position' (by rw [List.length_cons] at enough; omega)]
    simp

theorem length_le_escaped (quote : Char) (text : List Char) : text.length ≤ (text.flatMap (escape quote)).length := by
  induction text with
  | nil => exact Nat.le_refl 0
  | cons c rest ih =>
    have pos : 0 < (escape quote c).length := List.length_pos_iff.2 (escape_ne_nil quote c)
    rw [List.flatMap_cons, List.length_append, List.length_cons]
    omega

/-- **A quoted text writes itself.** -/
theorem decode_escaped {quote : Char} (isQuote : quote ∈ quotes) (text : List Char) :
    decode {} (String.ofList (text.flatMap (escape quote))) = .ok (String.ofList text) := by
  have enough : text.length ≤ (String.ofList (text.flatMap (escape quote))).length := by
    rw [← String.length_toList, String.toList_ofList]
    exact length_le_escaped quote text
  have read := decodeFrom_escaped isQuote text _ [] 0 enough
  rw [decode, String.toList_ofList, read]
  rfl

/-- a character that a text between quotes goes on behind -/
def isInner (quote c : Char) : Bool := c != quote && c != '\n' && c != '\\'

/-- between single quotes, a character ends the text, breaks it off or belongs to it -/
theorem scan_cons (quote : Char) {c : Char} (notSlash : c ≠ '\\') (body : List Char) (lines : Nat) (rest : List Char) :
    scan quote false body lines (c :: rest) =
      if c = quote then .ok (body.reverse, lines, rest)
      else if c = '\n' then .error lines
      else scan quote false (c :: body) lines rest := by
  rw [scan.eq_def]
  split
  · contradiction
  · rename_i eq
    exact absurd (List.cons.inj eq).1 notSlash
  · rename_i eq
    obtain ⟨rfl, rfl⟩ := List.cons.inj eq
    rfl

theorem scan_inner {quote : Char} {piece : List Char} (h : piece.all (isInner quote) = true) (body : List Char)
    (lines : Nat) (rest : List Char) :
    scan quote false body lines (piece ++ rest) = scan quote false (piece.reverse ++ body) lines rest := by
  induction piece generalizing body with
  | nil => rfl
  | cons c more ih =>
    rw [List.all_cons, Bool.and_eq_true] at h
    obtain ⟨inner, others⟩ := h
    simp only [isInner, Bool.and_eq_true, bne_iff_ne] at inner
    rw [List.cons_append, scan_cons quote inner.2, if_neg inner.1.1, if_neg inner.1.2, ih others]
    simp

theorem scan_backslash (quote : Char) {c : Char} (h : c ≠ '\n') (body : List Char) (lines : Nat) (rest : List Char) :
    scan quote false body lines ('\\' :: c :: rest) = scan quote false (c :: '\\' :: body) lines rest := by
  rw [scan, if_neg h]

theorem isInner_hexDigits {quote : Char} (isQuote : quote ∈ quotes) (width n : Nat) :
    (hexDigits width n).all (isInner quote) = true := by
  have digits : ∀ q ∈ quotes, ∀ k < 16, isInner q (hexDigit k) = true := forall_mem_of_all (by decide)
  induction width generalizing n with
  | zero => rfl
  | succ width ih =>
    rw [hexDigits, List.all_append, ih, List.all_cons, digits quote isQuote _ (Nat.mod_lt n (by omega))]
    rfl

/-- what is written for a character does not end the text -/
theorem scan_escape {quote : Char} (isQuote : quote ∈ quotes) (c : Char) (body : List Char) (lines : Nat)
    (rest : List Char) :
    scan quote false body lines (escape quote c ++ rest) = scan quote false ((escape quote c).reverse ++ body) lines rest := by
  have code (letter : Char) (width : Nat) (h : letter ≠ '\n') :
      scan quote false body lines ('\\' :: letter :: hexDigits width c.toNat ++ rest) =
        scan quote false (('\\' :: letter :: hexDigits width c.toNat).reverse ++ body) lines rest := by
    rw [List.cons_append, List.cons_append, scan_backslash quote h, scan_inner (isInner_hexDigits isQuote width c.toNat)]
    simp
  unfold escape
  split_ifs with own feed carriage tab printable two four
  · have notFeed : c ≠ '\n' := by
      have all : ∀ q ∈ '\\' :: quotes, q ≠ '\n' := forall_mem_of_all (by decide)
      refine all c ?_
      rcases Bool.or_eq_true_iff.1 own with eq | eq
      · rw [beq_iff_eq.1 eq]
        exact List.mem_cons_self
      · rw [beq_iff_eq.1 eq]
        exact List.mem_cons_of_mem _ isQuote
    exact scan_backslash quote notFeed body lines rest
  · exact scan_backslash quote (by decide) body lines rest
  · exact scan_backslash quote (by decide) body lines rest
  · exact scan_backslash quote (by decide) body lines rest
  · refine scan_inner ?_ body lines rest
    simp only [Bool.or_eq_true, beq_iff_eq, not_or] at own feed
    simp [isInner, own.1, own.2, feed]
  · exact code 'x' 2 (by decide)
  · exact code 'u' 4 (by decide)
  · exact code 'U' 8 (by decide)

/-- **A quoted text ends at the closing quote.** -/
theorem scan_escaped {quote : Char} (isQuote : quote ∈ quotes) (text : List Char) (body : List Char) (lines : Nat)
    (rest : List Char) :
    scan quote false body lines (text.flatMap (escape quote) ++ quote :: rest) =
      .ok (body.reverse ++ text.flatMap (escape quote), lines, rest) := by
  induction text generalizing body with
  | nil =>
    have notSlash : quote ≠ '\\' := by
      rintro rfl
      exact absurd isQuote (by decide)
    rw [List.flatMap_nil, List.nil_append, List.append_nil, scan_cons quote notSlash, if_pos rfl]
  | cons c more ih =>
    rw [List.flatMap_cons, List.append_assoc, scan_escape isQuote, ih]
    simp

/-! ## Lines of documentation -/

/-- a text that may stand between three quotes: its backslashes stand in pairs, and no three quotes stand together -/
inductive Harmless : List Char → Prop
  | nil : Harmless []
  | slashes {rest} : Harmless rest → Harmless ('\\' :: '\\' :: rest)
  | quote {rest} : rest.take 2 ≠ ['"', '"'] → Harmless rest → Harmless ('"' :: rest)
  | char {c rest} : c ≠ '\\' → c ≠ '"' → Harmless rest → Harmless (c :: rest)

theorem take_two_append {text behind : List Char} (h : text.take 2 ≠ ['"', '"']) (open_ : behind.head? ≠ some '"') :
    (text ++ behind).take 2 ≠ ['"', '"'] := by
  match text, behind with
  | [], [] => simp
  | [], c :: rest =>
    intro eq
    simp only [List.nil_append, List.take_succ_cons] at eq
    exact open_ (by rw [List.head?_cons, (List.cons.inj eq).1])
  | [a], [] => simp
  | [a], c :: rest =>
    intro eq
    simp only [List.cons_append, List.nil_append, List.take_succ_cons] at eq
    exact open_ (by rw [List.head?_cons, (List.cons.inj (List.cons.inj eq).2).1])
  | a :: b :: rest, behind => simpa using h

theorem Harmless.append {text behind : List Char} (h : Harmless text) (h' : Harmless behind)
    (open_ : behind.head? ≠ some '"') : Harmless (text ++ behind) := by
  induction h with
  | nil => exact h'
  | slashes _ ih => exact .slashes ih
  | quote apart _ ih => exact .quote (take_two_append apart open_) ih
  | char slash quote _ ih => exact .char slash quote ih

/-- characters that start nothing, in front of a harmless text -/
theorem Harmless.behind {text rest : List Char} (h : Harmless rest) (plain : ∀ c ∈ text, c ≠ '\\' ∧ c ≠ '"') :
    Harmless (text ++ rest) := by
  induction text with
  | nil => exact h
  | cons c more ih =>
    obtain ⟨slash, quote⟩ := plain c List.mem_cons_self
    exact .char slash quote (ih fun d hd => plain d (List.mem_cons_of_mem _ hd))

/-- a harmless text writes some text -/
theorem decodeFrom_harmless {body : List Char} (h : Harmless body) (fuel : Nat) (before : List Char) (position : Nat) :
    ∃ text, decodeFrom fuel before position body = .ok text := by
  induction h generalizing fuel before position with
  | nil => cases fuel <;> exact ⟨before.reverse, rfl⟩
  | slashes _ ih =>
    cases fuel with
    | zero => exact ⟨_, rfl⟩
    | succ fuel => exact ih fuel ('\\' :: before) (position + 2)
  | @quote rest _ _ ih =>
    cases fuel with
    | zero => exact ⟨_, rfl⟩
    | succ fuel => exact ih fuel ('"' :: before) (position + span '"')
  | @char c rest slash _ _ ih =>
    cases fuel with
    | zero => exact ⟨_, rfl⟩
    | succ fuel =>
      rw [decodeFrom]
      · exact ih fuel (c :: before) (position + span c)
      · rintro _ _ rfl
        exact absurd rfl slash

theorem decode_harmless {body : List Char} (h : Harmless body) : ∃ text, decode {} (String.ofList body) = .ok text := by
  obtain ⟨text, read⟩ := decodeFrom_harmless h (String.ofList body).length [] 0
  refine ⟨String.ofList text, ?_⟩
  rw [decode, String.toList_ofList, read]
  rfl

/-- between three quotes, a character other than the quote belongs to the text -/
theorem scan_triple_char {c : Char} (slash : c ≠ '\\') (quote : c ≠ '"') (body : List Char) (lines : Nat)
    (rest : List Char) :
    scan '"' true body lines (c :: rest) = scan '"' true (c :: body) (if c = '\n' then lines + 1 else lines) rest := by
  rw [scan.eq_def]
  split
  · contradiction
  · rename_i eq
    exact absurd (List.cons.inj eq).1 slash
  · rename_i eq
    obtain ⟨rfl, rfl⟩ := List.cons.inj eq
    rw [if_neg quote]
    simp only [↓reduceIte]
    split_ifs <;> rfl

/-- and so does a quote, unless two more stand behind it -/
theorem scan_triple_quote {rest : List Char} (apart : rest.take 2 ≠ ['"', '"']) (body : List Char) (lines : Nat) :
    scan '"' true body lines ('"' :: rest) = scan '"' true ('"' :: body) lines rest := by
  match rest with
  | [] => rfl
  | [a] => rfl
  | a :: b :: more =>
    have other : ¬ (a = '"' ∧ b = '"') := by
      rintro ⟨rfl, rfl⟩
      exact apart rfl
    have step : scan '"' true body lines ('"' :: a :: b :: more) =
        if a = '"' ∧ b = '"' then .ok (body.reverse, lines, more)
        else scan '"' true ('"' :: body) lines (a :: b :: more) := rfl
    rw [step, if_neg other]

/-- a harmless text ends at the three quotes behind it, unless it has a quote at its own end -/
theorem scan_harmless {body : List Char} (h : Harmless body) (last : body.getLast? ≠ some '"') (before : List Char)
    (lines : Nat) (rest : List Char) :
    ∃ lines', scan '"' true before lines (body ++ '"' :: '"' :: '"' :: rest) =
      .ok (before.reverse ++ body, lines', rest) := by
  induction h generalizing before lines with
  | nil =>
    refine ⟨lines, ?_⟩
    rw [scan.eq_def]
    simp
  | @slashes more _ ih =>
    have last' : more.getLast? ≠ some '"' := by
      cases more with
      | nil => simp
      | cons c rest => simpa using last
    obtain ⟨lines', eq⟩ := ih last' ('\\' :: '\\' :: before) lines
    refine ⟨lines', ?_⟩
    rw [List.cons_append, List.cons_append, scan, if_neg (by decide), eq]
    simp
  | @quote more apart _ ih =>
    have nonempty : more ≠ [] := by
      rintro rfl
      exact last rfl
    have last' : more.getLast? ≠ some '"' := by
      rwa [List.getLast?_cons_of_ne_nil nonempty] at last
    have apart' : (more ++ '"' :: '"' :: '"' :: rest).take 2 ≠ ['"', '"'] := by
      match more with
      | [] => exact absurd rfl nonempty
      | [a] =>
        intro eq
        simp only [List.cons_append, List.take_succ_cons] at eq
        exact last' (by rw [(List.cons.inj eq).1]; rfl)
      | a :: b :: more => simpa using apart
    obtain ⟨lines', eq⟩ := ih last' ('"' :: before) lines
    refine ⟨lines', ?_⟩
    rw [List.cons_append, scan_triple_quote apart', eq]
    simp
  | @char c more slash quote _ ih =>
    have last' : more.getLast? ≠ some '"' := by
      cases more with
      | nil => simp
      | cons d rest => simpa using last
    obtain ⟨lines', eq⟩ := ih last' (c :: before) (if c = '\n' then lines + 1 else lines)
    refine ⟨lines', ?_⟩
    rw [List.cons_append, scan_triple_char slash quote, eq]
    simp

/-! ## Softened quotes -/

section

open Module.Stub

/-- the backslashes of the text stand in pairs -/
inductive Paired : List Char → Prop
  | nil : Paired []
  | slashes {rest} : Paired rest → Paired ('\\' :: '\\' :: rest)
  | char {c rest} : c ≠ '\\' → Paired rest → Paired (c :: rest)

theorem paired_doubleBackslashes (text : List Char) : Paired (doubleBackslashes text) := by
  induction text with
  | nil => exact .nil
  | cons c rest ih =>
    rw [doubleBackslashes, List.flatMap_cons]
    split_ifs with slash
    · exact .slashes ih
    · exact .char slash ih

theorem softenQuotes_cons {c : Char} {rest : List Char} (h : c ≠ '"' ∨ rest.take 2 ≠ ['"', '"']) :
    softenQuotes (c :: rest) = c :: softenQuotes rest := by
  rw [softenQuotes]
  rintro more rfl rfl
  exact h.elim (fun other => other rfl) fun other => other rfl

/-- where characters are kept or replaced by others than quotes, two quotes stand together only where two did before -/
theorem take_two_of_step {f : List Char → List Char} (nil : f [] = [])
    (step : ∀ c rest, f (c :: rest) = c :: f rest ∨ (f (c :: rest)).head? ≠ some '"') {text : List Char}
    (h : text.take 2 ≠ ['"', '"']) : (f text).take 2 ≠ ['"', '"'] := by
  have head {l : List Char} (other : l.head? ≠ some '"') : l.take 1 ≠ ['"'] := by
    cases l with
    | nil => simp
    | cons a more => simpa using other
  cases text with
  | nil => simp [nil]
  | cons c rest =>
    intro eq
    have first : (f (c :: rest)).take 1 = ['"'] := by
      have shorter : (f (c :: rest)).take 1 = ((f (c :: rest)).take 2).take 1 := by
        rw [List.take_take]
        rfl
      rw [shorter, eq]
      rfl
    rcases step c rest with kept | replaced
    · rw [kept, List.take_succ_cons] at eq
      obtain ⟨rfl, second⟩ := List.cons.inj eq
      refine head ?_ second
      cases rest with
      | nil => simp [nil]
      | cons d more =>
        have other : d ≠ '"' := fun same => h (by rw [same]; rfl)
        rcases step d more with kept | replaced
        · simpa [kept] using other
        · exact replaced
    · exact head replaced first

theorem step_softenQuotes (c : Char) (rest : List Char) :
    softenQuotes (c :: rest) = c :: softenQuotes rest ∨ (softenQuotes (c :: rest)).head? ≠ some '"' := by
  rw [softenQuotes.eq_def]
  split
  · rename_i eq
    exact Or.inr (by simp)
  · rename_i eq
    obtain ⟨rfl, rfl⟩ := List.cons.inj eq
    exact Or.inl rfl
  · contradiction

/-- by induction on the length, since three quotes are taken at once -/
theorem harmless_softenQuotes {text : List Char} (h : Paired text) : Harmless (softenQuotes text) := by
  induction length : text.length using Nat.strongRecOn generalizing text with
  | ind n ih =>
    subst length
    cases h with
    | nil => exact .nil
    | @slashes rest inner =>
      rw [softenQuotes_cons (Or.inl (by decide)), softenQuotes_cons (Or.inl (by decide))]
      exact .slashes (ih rest.length (by simp only [List.length_cons]; omega) inner rfl)
    | @char c rest slash inner =>
      by_cases three : c = '"' ∧ rest.take 2 = ['"', '"']
      · obtain ⟨rfl, front⟩ := three
        match rest with
        | [] => cases front
        | [a] => cases front
        | a :: b :: more =>
          simp only [List.take_succ_cons, List.take_zero] at front
          obtain ⟨rfl, second⟩ := List.cons.inj front
          obtain ⟨rfl, -⟩ := List.cons.inj second
          have behind : Paired more := by
            cases inner with
            | char _ inner =>
              cases inner with
              | char _ inner => exact inner
          have softened := ih more.length (by simp only [List.length_cons]; omega) behind rfl
          rw [softenQuotes]
          exact .char (by decide) (by decide) (.char (by decide) (by decide) (.char (by decide) (by decide) softened))
      · have softened := ih rest.length (by simp only [List.length_cons]; omega) inner rfl
        have apart : c ≠ '"' ∨ rest.take 2 ≠ ['"', '"'] := Decidable.not_and_iff_not_or_not.1 three
        rw [softenQuotes_cons apart]
        by_cases isQuote : c = '"'
        · subst isQuote
          exact .quote (take_two_of_step rfl step_softenQuotes (apart.resolve_left fun ne => ne rfl)) softened
        · exact .char slash isQuote softened

/-- **A line of documentation is harmless**, whatever stands in it. -/
theorem harmless_lineText (line : String) : Harmless (lineText line).toList := by
  rw [lineText, String.toList_ofList]
  exact harmless_softenQuotes (paired_doubleBackslashes line.toList)

theorem lineFeeds_cons {c : Char} (h : c ≠ '\r') (rest : List Char) : lineFeeds (c :: rest) = c :: lineFeeds rest := by
  rw [lineFeeds]
  · rintro _ rfl
    exact absurd rfl h
  · exact h

theorem lineFeeds_return (rest : List Char) :
    ∃ more, lineFeeds ('\r' :: rest) = '\n' :: lineFeeds more ∧ (more = rest ∨ rest = '\n' :: more) := by
  rw [lineFeeds.eq_def]
  split
  · rename_i more eq
    exact ⟨more, rfl, Or.inr (List.cons.inj eq).2⟩
  · rename_i more _ eq
    exact ⟨more, rfl, Or.inl (List.cons.inj eq).2.symm⟩
  · rename_i c more _ other eq
    exact absurd (List.cons.inj eq).1.symm other
  · contradiction

theorem step_lineFeeds (c : Char) (rest : List Char) :
    lineFeeds (c :: rest) = c :: lineFeeds rest ∨ (lineFeeds (c :: rest)).head? ≠ some '"' := by
  by_cases h : c = '\r'
  · subst h
    obtain ⟨more, eq, -⟩ := lineFeeds_return rest
    exact Or.inr (by simp [eq])
  · exact Or.inl (lineFeeds_cons h rest)

/-- and so it is with line feeds for its line ends -/
theorem harmless_lineFeeds {text : List Char} (h : Harmless text) : Harmless (lineFeeds text) := by
  induction length : text.length using Nat.strongRecOn generalizing text with
  | ind n ih =>
    subst length
    cases h with
    | nil => exact .nil
    | @slashes rest inner =>
      rw [lineFeeds_cons (by decide), lineFeeds_cons (by decide)]
      exact .slashes (ih rest.length (by simp only [List.length_cons]; omega) inner rfl)
    | @quote rest apart inner =>
      rw [lineFeeds_cons (by decide)]
      exact .quote (take_two_of_step rfl step_lineFeeds apart) (ih rest.length (by simp) inner rfl)
    | @char c rest slash quote inner =>
      by_cases isReturn : c = '\r'
      · subst isReturn
        obtain ⟨more, eq, rfl | rfl⟩ := lineFeeds_return rest
        · rw [eq]
          exact .char (by decide) (by decide) (ih more.length (by simp) inner rfl)
        · rw [eq]
          cases inner with
          | char _ _ inner =>
            exact .char (by decide) (by decide) (ih more.length (by simp only [List.length_cons]; omega) inner rfl)
      · rw [lineFeeds_cons isReturn]
        exact .char slash quote (ih rest.length (by simp) inner rfl)

end

end ApiTypes.Source.Literal
