/-
The words of a snake-case form.

The snake-case form of a text can be made in one pass: the maximal runs of ASCII letters and digits are cut between a
small letter or digit and a capital, and before a capital behind another one where a small letter follows; what comes
out is lowered and joined by single underscores. The rules that write underscores find the same places, also where they
meet: a place that both find gets one, and one beside a digit of another script falls together with that digit.

Main statements: `cutAll_eq`, the places of the underscores; `trim_separate`, what is between separators, joined;
`wordsOf_eq_runs`, words as pieces of runs; `snakeCase_words`, the snake-case form by its words.
-/
import ApiTypes.Proofs.Identifier
import ApiTypes.Proofs.Substitution

namespace ApiTypes.Text

open ApiTypes.Module

/-! ## Words -/

/-- is a run cut between `a` and `b`, where `next` stands behind `b`? -/
def cut (a b : Char) (next : Option Char) : Bool :=
  ((isLower a || isAsciiDigit a) && isUpper b) || (isUpper a && isUpper b && next.any isLower)

/-- is a letter or digit `a` in one word with what stands behind it? -/
def joined (a : Char) : List Char → Bool
  | [] => false
  | b :: rest => isAsciiAlnum b && !cut a b rest.head?

/-- a character more in the first word -/
def enlarge (c : Char) : List (List Char) → List (List Char)
  | [] => [[c]]
  | word :: words => (c :: word) :: words

/-- the words of a text, in one pass -/
def wordsOf : List Char → List (List Char)
  | [] => []
  | a :: rest =>
    if isAsciiAlnum a then if joined a rest then enlarge a (wordsOf rest) else [a] :: wordsOf rest
    else wordsOf rest

/-- the pieces of a run -/
def piecesOf : List Char → List (List Char)
  | [] => []
  | [a] => [[a]]
  | a :: b :: rest => if cut a b rest.head? then [a] :: piecesOf (b :: rest) else enlarge a (piecesOf (b :: rest))

/-! ## Runs -/

/-- the maximal runs of a class of characters -/
def runsOf (keep : Char → Bool) (text : List Char) : List (List Char) := wordsBy (fun c => !keep c) text

theorem wordsFrom_of_ne_nil {separator : Char → Bool} {word : List Char} (h : word ≠ []) (text : List Char) :
    wordsFrom separator word text =
      (word.reverse ++ text.takeWhile (!separator ·)) :: wordsBy separator (text.dropWhile (!separator ·)) := by
  induction text generalizing word with
  | nil => simp [wordsFrom, wordsBy, h]
  | cons c rest ih =>
    cases separates : separator c with
    | true => simp [wordsFrom, wordsBy, separates, h]
    | false => simp [wordsFrom, separates, ih (List.cons_ne_nil c word)]

section

variable {keep : Char → Bool} {c : Char} {rest : List Char}

/-- a character of another class is in no run -/
theorem runsOf_other (h : keep c = false) : runsOf keep (c :: rest) = runsOf keep rest := by
  simp [runsOf, wordsBy, wordsFrom, h]

theorem runsOf_kept (h : keep c = true) : runsOf keep (c :: rest) =
    (c :: rest.takeWhile keep) :: runsOf keep (rest.dropWhile keep) := by
  have first : runsOf keep (c :: rest) = wordsFrom (fun c => !keep c) [c] rest := by
    simp [runsOf, wordsBy, wordsFrom, h]
  rw [first, wordsFrom_of_ne_nil (List.cons_ne_nil c [])]
  simp [runsOf]

/-- a run of one character -/
theorem runsOf_last (h : keep c = true) (ends : rest.head?.any keep = false) :
    runsOf keep (c :: rest) = [c] :: runsOf keep rest := by
  rw [runsOf_kept h]
  cases rest with
  | nil => rfl
  | cons b rest =>
    have other : keep b = false := ends
    simp [other]

/-- a character in front of a run is in it -/
theorem runsOf_enlarge (h : keep c = true) (goes : rest.head?.any keep = true) :
    runsOf keep (c :: rest) = enlarge c (runsOf keep rest) := by
  cases rest with
  | nil => cases goes
  | cons b rest =>
    have kept : keep b = true := goes
    rw [runsOf_kept h, runsOf_kept kept, enlarge]
    simp [kept]

theorem mem_runsOf {text : List Char} : ∀ run ∈ runsOf keep text, run ≠ [] ∧ ∀ c ∈ run, keep c = true := by
  intro run mem
  obtain ⟨nonempty, all⟩ := wordsFrom_all (fun c => !keep c) [] text (by simp) run mem
  exact ⟨nonempty, fun c hc => by simpa using all c hc⟩

end

/-! ## Underscores -/

/-- does a rule write an underscore behind `a`? -/
def cuts (a : Char) (rest : List Char) : Bool :=
  ((isLower a || isDecimal a) && rest.head?.any isUpper) || (isUpper a && opensWord rest)

/-- an underscore at all places of both rules -/
def cutAll : List Char → List Char
  | [] => []
  | a :: rest => a :: if cuts a rest then '_' :: cutAll rest else cutAll rest

theorem head?_cutAll (text : List Char) : (cutAll text).head? = text.head? := by
  cases text <;> rfl

theorem head?_splitCapitals (text : List Char) : (splitCapitals text).head? = text.head? := by
  cases text with
  | nil => rfl
  | cons a rest => rw [splitCapitals_cons]; rfl

/-- the second rule takes no notice of an underscore of the first -/
theorem splitHumps_underscore (rest : List Char) : splitHumps ('_' :: rest) = '_' :: splitHumps rest := by
  have plain : (isLower '_' || isDecimal '_') = false := by decide
  rw [splitHumps_cons, plain]
  rfl

/-- **Both rules write their underscores at once.** -/
theorem cutAll_eq (text : List Char) : splitHumps (splitCapitals text) = cutAll text := by
  induction text with
  | nil => rfl
  | cons a rest ih =>
    rw [splitCapitals_cons, splitHumps_cons, cutAll, cuts]
    cases word : isUpper a && opensWord rest with
    | true =>
      have plain : isUpper '_' = false := by decide
      simp [splitHumps_underscore, ih, plain]
    | false => simp [head?_splitCapitals, ih]

theorem opensWord_cons (b : Char) (rest : List Char) :
    opensWord (b :: rest) = (isUpper b && rest.head?.any isLower) := by
  cases rest <;> simp [opensWord]

/-- on letters and digits of ASCII the places are those between two words -/
theorem cuts_cons {a : Char} (h : isAsciiAlnum a = true) (b : Char) (rest : List Char) :
    cuts a (b :: rest) = cut a b rest.head? := by
  have digit : isDecimal a = isAsciiDigit a := by rw [isDecimal, if_pos (isAscii_of_isAsciiAlnum h)]
  rw [cuts, cut, digit, opensWord_cons, List.head?_cons, Option.any_some, Bool.and_assoc]

/-- **The runs between the underscores are the words.** -/
theorem runsOf_cutAll (text : List Char) : runsOf isAsciiAlnum (cutAll text) = wordsOf text := by
  have underscore : isAsciiAlnum '_' = false := by decide
  induction text with
  | nil => rfl
  | cons a rest ih =>
    rw [cutAll, wordsOf]
    by_cases own : isAsciiAlnum a = true
    · rw [if_pos own]
      cases rest with
      | nil =>
        have alone : cuts a [] = false := by simp [cuts, opensWord]
        rw [alone, joined]
        exact runsOf_last own rfl
      | cons b more =>
        rw [cuts_cons own, joined]
        cases place : cut a b more.head? with
        | true => simp [runsOf_last own, underscore, runsOf_other underscore, ih]
        | false =>
          cases next : isAsciiAlnum b with
          | true => simp [runsOf_enlarge own, head?_cutAll, next, ih]
          | false => simp [runsOf_last own, head?_cutAll, next, ih]
    · have other : isAsciiAlnum a = false := by simpa using own
      rw [runsOf_other other, if_neg own]
      split_ifs
      · rw [runsOf_other underscore, ih]
      · exact ih

/-! ## Joined runs -/

section

variable {keep : Char → Bool}

theorem intercalate_enlarge {c : Char} {words : List (List Char)} (h : words ≠ []) :
    List.intercalate ['_'] (enlarge c words) = c :: List.intercalate ['_'] words := by
  cases words with
  | nil => exact absurd rfl h
  | cons word words => exact List.intercalate_cons_cons_left

theorem runsOf_ne_nil {text : List Char} (h : text.head?.any keep = true) : runsOf keep text ≠ [] := by
  cases text with
  | nil => cases h
  | cons c rest =>
    rw [runsOf_kept h]
    exact List.cons_ne_nil _ _

/-- outside a run an underscore is written before other characters -/
theorem separateFrom_false (keep : Char → Bool) (text : List Char) : separateFrom keep false text =
    (if text.head?.any (!keep ·) then ['_'] else []) ++ separateFrom keep true text := by
  cases text with
  | nil => rfl
  | cons c rest => cases own : keep c <;> simp [separateFrom, own]

/-- what is written of a text behind another character: its runs, joined, and perhaps an underscore -/
theorem separateFrom_runs (keep : Char → Bool) (text : List Char) : ∃ trail, (trail = [] ∨ trail = ['_']) ∧
    (runsOf keep text = [] → trail = []) ∧
    separateFrom keep true text = List.intercalate ['_'] (runsOf keep text) ++ trail := by
  induction text with
  | nil => exact ⟨[], .inl rfl, fun _ => rfl, rfl⟩
  | cons c rest ih =>
    obtain ⟨trail, short, none, eq⟩ := ih
    by_cases own : keep c = true
    · rw [separateFrom, if_pos own, separateFrom_false, eq]
      by_cases goes : rest.head?.any keep = true
      · have nonempty := runsOf_ne_nil goes
        have lead : rest.head?.any (!keep ·) = false := by
          cases rest with
          | nil => rfl
          | cons b more => simpa using goes
        refine ⟨trail, short, ?_, ?_⟩
        · rw [runsOf_enlarge own goes]
          intro empty
          cases found : runsOf keep rest <;> simp [enlarge, found] at empty
        · rw [runsOf_enlarge own goes, intercalate_enlarge nonempty, lead]
          rfl
      · have ends : rest.head?.any keep = false := by simpa using goes
        rw [runsOf_last own ends]
        cases rest with
        | nil =>
          obtain rfl := none rfl
          exact ⟨[], .inl rfl, fun _ => rfl, rfl⟩
        | cons b more =>
          have other : keep b = false := ends
          cases runs : runsOf keep (b :: more) with
          | nil =>
            obtain rfl := none runs
            exact ⟨['_'], .inr rfl, fun h => absurd h (List.cons_ne_nil _ _), by simp [other]⟩
          | cons run runs =>
            exact ⟨trail, short, fun h => absurd h (List.cons_ne_nil _ _), by simp [other, List.intercalate_cons_cons]⟩
    · have other : keep c = false := by simpa using own
      refine ⟨trail, short, ?_, ?_⟩
      · rwa [runsOf_other other]
      · rw [separateFrom, if_neg own, if_pos rfl, eq, runsOf_other other]

theorem trimBoth_snoc {c : Char} {text : List Char} (nonempty : text ≠ []) (head : text.head? ≠ some c)
    (last : text.getLast? ≠ some c) : trimBoth c (text ++ [c]) = text := by
  have opens : (text ++ [c]).head? ≠ some c := by rwa [List.head?_append_of_ne_nil _ nonempty]
  have closes : text.reverse.head? ≠ some c := by rwa [List.head?_reverse]
  rw [trimBoth, dropWhile_of_head? opens, List.reverse_concat, List.dropWhile_cons, beq_self_eq_true, if_pos rfl,
    dropWhile_of_head? closes, List.reverse_reverse]

theorem intercalate_ne_nil {word : List Char} (h : word ≠ []) (words : List (List Char)) :
    List.intercalate ['_'] (word :: words) ≠ [] := by
  cases words with
  | nil => rwa [List.intercalate_singleton]
  | cons => simp [List.intercalate_cons_cons]

/-- words without underscores, joined, neither begin nor end with one -/
theorem intercalate_ends {words : List (List Char)} (h : ∀ word ∈ words, word ≠ [] ∧ ∀ c ∈ word, c ≠ '_') :
    (List.intercalate ['_'] words).head? ≠ some '_' ∧ (List.intercalate ['_'] words).getLast? ≠ some '_' := by
  induction words with
  | nil => simp
  | cons word words ih =>
    obtain ⟨nonempty, plain⟩ := h word List.mem_cons_self
    have head : word.head? ≠ some '_' := fun first => plain '_' (List.mem_of_mem_head? first) rfl
    have last : word.getLast? ≠ some '_' := fun final => plain '_' (List.mem_of_mem_getLast? final) rfl
    cases words with
    | nil => rw [List.intercalate_singleton]; exact ⟨head, last⟩
    | cons next words =>
      have later := intercalate_ne_nil (h next (by simp)).1 words
      rw [List.intercalate_cons_cons, List.getLast?_append_of_ne_nil _ later, List.append_assoc,
        List.head?_append_of_ne_nil _ nonempty]
      exact ⟨head, (ih fun w hw => h w (List.mem_cons_of_mem _ hw)).2⟩

/-- **What is written, less the outer underscores, is the runs, joined.** -/
theorem trim_separate (kept : keep '_' = false) (text : List Char) :
    trimBoth '_' (separate keep text) = List.intercalate ['_'] (runsOf keep text) := by
  have words : ∀ run ∈ runsOf keep text, run ≠ [] ∧ ∀ c ∈ run, c ≠ '_' := by
    intro run mem
    obtain ⟨nonempty, all⟩ := mem_runsOf run mem
    refine ⟨nonempty, fun c hc eq => ?_⟩
    rw [← eq, all c hc] at kept
    cases kept
  obtain ⟨head, last⟩ := intercalate_ends words
  obtain ⟨trail, short, none, eq⟩ := separateFrom_runs keep text
  have lead (rest : List Char) : trimBoth '_' ((if text.head?.any (!keep ·) then ['_'] else []) ++ rest) =
      trimBoth '_' rest := by
    split_ifs
    · exact trimBoth_cons '_' rest
    · rfl
  rw [separate, separateFrom_false, lead, eq]
  rcases short with rfl | rfl
  · rw [List.append_nil, trimBoth_of_ends head last]
  · refine trimBoth_snoc (fun empty => ?_) head last
    cases runs : runsOf keep text with
    | nil => cases none runs
    | cons run others =>
      rw [runs] at empty words
      exact intercalate_ne_nil (words run List.mem_cons_self).1 others empty

end

/-! ## Pieces of runs -/

theorem piecesOf_ne_nil (a : Char) (rest : List Char) : piecesOf (a :: rest) ≠ [] := by
  cases rest with
  | nil => exact List.cons_ne_nil _ _
  | cons b rest =>
    rw [piecesOf]
    split_ifs
    · exact List.cons_ne_nil _ _
    · cases piecesOf (b :: rest) <;> exact List.cons_ne_nil _ _

theorem enlarge_append {c : Char} {words : List (List Char)} (h : words ≠ []) (others : List (List Char)) :
    enlarge c words ++ others = enlarge c (words ++ others) := by
  cases words with
  | nil => exact absurd rfl h
  | cons => rfl

/-- what stands behind a run is no small letter, so that it makes no difference whether the run or the text is asked -/
theorem cut_takeWhile (a b : Char) (rest : List Char) :
    cut a b (rest.takeWhile isAsciiAlnum).head? = cut a b rest.head? := by
  cases rest with
  | nil => rfl
  | cons c rest =>
    cases own : isAsciiAlnum c with
    | true => simp [own]
    | false =>
      have small : isLower c = false := by simp_all [isAsciiAlnum, isAsciiLetter]
      simp [cut, own, small]

/-- **The words are the pieces of the maximal runs.** -/
theorem wordsOf_eq_runs (text : List Char) : wordsOf text = (runsOf isAsciiAlnum text).flatMap piecesOf := by
  induction text with
  | nil => rfl
  | cons a rest ih =>
    rw [wordsOf]
    by_cases own : isAsciiAlnum a = true
    · rw [if_pos own]
      cases rest with
      | nil => rw [joined, runsOf_last own rfl]; rfl
      | cons b more =>
        cases next : isAsciiAlnum b with
        | true =>
          have goes : (b :: more).head?.any isAsciiAlnum = true := next
          rw [runsOf_kept next, List.flatMap_cons] at ih
          rw [runsOf_enlarge own goes, runsOf_kept next, enlarge, List.flatMap_cons, piecesOf, cut_takeWhile, joined,
            next, ih]
          cases place : cut a b more.head? with
          | true => rfl
          | false => exact (enlarge_append (piecesOf_ne_nil b _) _).symm
        | false =>
          have ends : (b :: more).head?.any isAsciiAlnum = false := next
          rw [joined, next, runsOf_last own ends, List.flatMap_cons, ← ih]
          rfl
    · have other : isAsciiAlnum a = false := by simpa using own
      rw [if_neg own, runsOf_other other, ih]

theorem flatten_wordsOf (text : List Char) : (wordsOf text).flatten = text.filter isAsciiAlnum := by
  have enlarged (c : Char) (words : List (List Char)) : (enlarge c words).flatten = c :: words.flatten := by
    cases words <;> rfl
  induction text with
  | nil => rfl
  | cons a rest ih =>
    rw [wordsOf]
    split_ifs with own goes
    · rw [enlarged, ih, List.filter_cons_of_pos own]
    · rw [List.flatten_cons, ih, List.filter_cons_of_pos own]
      rfl
    · rw [ih, List.filter_cons_of_neg own]

/-! ## Snake case -/

theorem map_lowerChar_intercalate (words : List (List Char)) : (List.intercalate ['_'] words).map lowerChar =
    List.intercalate ['_'] (words.map (·.map lowerChar)) := by
  have underscore : lowerChar '_' = '_' := by decide
  induction words with
  | nil => rfl
  | cons word words ih =>
    cases words with
    | nil => simp
    | cons next words =>
      rw [List.map_cons] at ih
      rw [List.map_cons, List.map_cons, List.intercalate_cons_cons, List.intercalate_cons_cons, ← ih]
      simp [underscore]

theorem filter_intercalate {words : List (List Char)} (h : ∀ word ∈ words, ∀ c ∈ word, isAsciiAlnum c = true) :
    (List.intercalate ['_'] words).filter isAsciiAlnum = words.flatten := by
  have underscore : isAsciiAlnum '_' = false := by decide
  induction words with
  | nil => rfl
  | cons word words ih =>
    have own : word.filter isAsciiAlnum = word := List.filter_eq_self.2 (h word List.mem_cons_self)
    cases words with
    | nil => simpa using own
    | cons next words =>
      rw [List.intercalate_cons_cons, List.filter_append, List.filter_append, own,
        ih fun w hw => h w (List.mem_cons_of_mem _ hw)]
      simp [underscore]

theorem snakeChars_eq (text : List Char) :
    snakeChars text = List.intercalate ['_'] ((wordsOf text).map (·.map lowerChar)) := by
  rw [snakeChars, cutAll_eq, trim_separate (by decide), runsOf_cutAll, map_lowerChar_intercalate]

/-- no letter or digit is lost or moved -/
theorem filter_snakeChars (text : List Char) :
    (snakeChars text).filter isAsciiAlnum = (text.filter isAsciiAlnum).map lowerChar := by
  have lowered : ∀ word ∈ (wordsOf text).map (·.map lowerChar), ∀ c ∈ word, isAsciiAlnum c = true := by
    intro word mem c hc
    obtain ⟨word, inside, rfl⟩ := List.mem_map.1 mem
    obtain ⟨d, hd, rfl⟩ := List.mem_map.1 hc
    have kept : d ∈ text.filter isAsciiAlnum := by
      rw [← flatten_wordsOf]
      exact List.mem_flatten.2 ⟨word, inside, hd⟩
    exact lowerChar_alnum (List.mem_filter.1 kept).2
  rw [snakeChars_eq, filter_intercalate lowered, ← List.map_flatten, flatten_wordsOf]

/-- **The snake-case form of a text is its words, lowered and joined by single underscores.** The words are found in one
pass, as the maximal runs of ASCII letters and digits, cut further by a look at two characters and the next one; three
replacements in a row find the same. So no letter or digit is lost or moved, no underscore stands at either end or
beside another, and the form is its own. -/
theorem snakeCase_words (text : String) :
    (snakeCase text).toList = List.intercalate ['_'] ((wordsOf text.toList).map (·.map lowerChar)) ∧
    wordsOf text.toList = (runsOf isAsciiAlnum text.toList).flatMap piecesOf ∧
    (snakeCase text).toList = (trimBoth '_' (substitute (others isAsciiAlnum) (fun _ => ['_'])
      (substitute humps underscoreBehind (substitute capitals underscoreBehind text.toList)))).map lowerChar ∧
    (snakeCase text).toList.filter isAsciiAlnum = (text.toList.filter isAsciiAlnum).map lowerChar ∧
    (snakeCase text).toList.head? ≠ some '_' ∧ (snakeCase text).toList.getLast? ≠ some '_' ∧
    Single (snakeCase text).toList ∧ snakeCase (snakeCase text) = snakeCase text := by
  have chars : (snakeCase text).toList = snakeChars text.toList := String.toList_ofList
  have again : snakeCase (snakeCase text) = snakeCase text := by
    rw [snakeCase, chars, snakeChars_snakeChars, snakeCase]
  obtain ⟨head, last⟩ := snakeChars_ends text.toList
  rw [chars]
  exact ⟨snakeChars_eq _, wordsOf_eq_runs _, snakeChars_substitute _, filter_snakeChars _, head, last,
    single_snakeChars _, again⟩

example : wordsOf "getHTTPResponse2XX-v1".toList =
    ["get", "HTTP", "Response2", "XX", "v1"].map String.toList := by decide

end ApiTypes.Text
