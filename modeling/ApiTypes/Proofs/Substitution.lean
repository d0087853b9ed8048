/-
Replacing what a pattern matches.

A pattern is a run of steps: a character of a class, or as many of a class as there are. It is tried at every place of a
text from the left, the longest first, giving back what it has taken where it cannot go on. What it matches is replaced
as a whole, and the search goes on behind it, so that matches do not overlap.

The snake-case form is made by three such replacements. Each is a rule that looks only at a character and those next to
it, since a match that is given up, or that takes a character away from a later one, never makes a difference to them.

Main statements: `substitute_capitals`, `substitute_humps` and `substitute_others`, the three replacements;
`snakeChars_substitute`, the snake-case form by them.
-/
import Mathlib.Tactic.SplitIfs
import ApiTypes.Text.Words

namespace ApiTypes.Text

/-! ## Patterns -/

/-- a step of a pattern: one character of a class, or one and as many more as there are -/
inductive Step where
  | one (allowed : Char → Bool)
  | many (allowed : Char → Bool)

/-- the ways to take characters of a class from the front, the longest first, each with what is left -/
def takeMany (allowed : Char → Bool) : List Char → List (List Char × List Char)
  | [] => []
  | c :: rest => if allowed c then (takeMany allowed rest).map (fun t => (c :: t.1, t.2)) ++ [([c], rest)] else []

def Step.take : Step → List Char → List (List Char × List Char)
  | one _, [] => []
  | one allowed, c :: rest => if allowed c then [([c], rest)] else []
  | many allowed, text => takeMany allowed text

/-- the ways to match a pattern at the front, in the order in which they are tried: what each step takes, and what is
left -/
def tries : List Step → List Char → List (List (List Char) × List Char)
  | [], text => [([], text)]
  | step :: pattern, text => (step.take text).flatMap fun t => (tries pattern t.2).map fun m => (t.1 :: m.1, m.2)

/-- the match at the front -/
def front? (pattern : List Step) (text : List Char) : Option (List (List Char) × List Char) :=
  (tries pattern text).head?

/-- what the pattern matches, replaced by what `write` makes of its parts -/
def substitute (pattern : List Step) (write : List (List Char) → List Char) : List Char → List Char
  | [] => []
  | c :: rest =>
    match front? pattern (c :: rest) with
    | some (parts, behind) =>
      -- a match takes a character at least
      if behind.length ≤ rest.length then write parts ++ substitute pattern write behind
      else c :: substitute pattern write rest
    | none => c :: substitute pattern write rest
  termination_by text => text.length

/-- an underscore behind the first part -/
def underscoreBehind : List (List Char) → List Char
  | [] => []
  | first :: others => first ++ '_' :: others.flatten

section

variable {pattern : List Step} {write : List (List Char) → List Char} {allowed : Char → Bool} {c : Char}
  {rest behind : List Char} {parts : List (List Char)}

theorem substitute_of_match (h : front? pattern (c :: rest) = some (parts, behind))
    (shorter : behind.length ≤ rest.length) :
    substitute pattern write (c :: rest) = write parts ++ substitute pattern write behind := by
  rw [substitute, h]
  exact if_pos shorter

theorem substitute_of_none (h : front? pattern (c :: rest) = none) :
    substitute pattern write (c :: rest) = c :: substitute pattern write rest := by
  rw [substitute, h]

theorem front?_one_nil : front? (.one allowed :: pattern) [] = none := rfl

theorem front?_one_cons : front? (.one allowed :: pattern) (c :: rest) =
    if allowed c then (front? pattern rest).map fun m => ([c] :: m.1, m.2) else none := by
  unfold front?
  rw [tries, Step.take]
  split_ifs
  · simp
  · rfl

/-- a character more in the first part -/
def grow (c : Char) : List (List Char) × List Char → List (List Char) × List Char
  | (first :: others, behind) => ((c :: first) :: others, behind)
  | ([], behind) => ([], behind)

/-- as many characters as there are, and one only where the rest does not go on -/
theorem front?_many_cons : front? (.many allowed :: pattern) (c :: rest) =
    if allowed c then ((front? (.many allowed :: pattern) rest).map (grow c)).or
      ((front? pattern rest).map fun m => ([c] :: m.1, m.2)) else none := by
  unfold front?
  rw [tries, tries, Step.take, Step.take, takeMany]
  split_ifs
  · rw [List.flatMap_append, List.head?_append, List.flatMap_map]
    congr 1
    · rw [← List.head?_map, List.map_flatMap]
      simp [grow, Function.comp_def]
    · simp
  · rfl

end

/-- a replacement that follows a rule: what the rule does to a match at the front, and without one -/
theorem substitute_eq {pattern : List Step} {write : List (List Char) → List Char} {rule : List Char → List Char}
    (nil : rule [] = [])
    (matched : ∀ c rest m, front? pattern (c :: rest) = some m →
      m.2.length ≤ rest.length ∧ rule (c :: rest) = write m.1 ++ rule m.2)
    (none : ∀ c rest, front? pattern (c :: rest) = none → rule (c :: rest) = c :: rule rest) (text : List Char) :
    substitute pattern write text = rule text := by
  induction size : text.length using Nat.strongRecOn generalizing text with
  | _ n ih =>
    cases text with
    | nil => rw [substitute, nil]
    | cons c rest =>
      have below (behind : List Char) (shorter : behind.length ≤ rest.length) :
          substitute pattern write behind = rule behind :=
        ih behind.length (by rw [← size, List.length_cons]; omega) behind rfl
      cases front : front? pattern (c :: rest) with
      | some m =>
        obtain ⟨shorter, does⟩ := matched c rest m front
        rw [substitute_of_match front shorter, does, below m.2 shorter]
      | none => rw [substitute_of_none front, none c rest front, below rest (Nat.le_refl _)]

/-! ## Capitals -/

/-- capitals, one more, and a small letter -/
def capitals : List Step := [.many isUpper, .one isUpper, .one isLower]

theorem isUpper_of_isLower {c : Char} (h : isLower c = true) : isUpper c = false := by
  simp only [isLower, isUpper, Bool.and_eq_true, decide_eq_true_eq, Bool.and_eq_false_iff, decide_eq_false_iff_not] at *
  omega

theorem isLower_of_isUpper {c : Char} (h : isUpper c = true) : isLower c = false := by
  simp only [isLower, isUpper, Bool.and_eq_true, decide_eq_true_eq, Bool.and_eq_false_iff, decide_eq_false_iff_not] at *
  omega

/-- does a small letter follow behind a capital? -/
def opensWord : List Char → Bool
  | b :: c :: _ => isUpper b && isLower c
  | _ => false

theorem splitCapitals_cons (a : Char) (rest : List Char) : splitCapitals (a :: rest) =
    a :: if isUpper a && opensWord rest then '_' :: splitCapitals rest else splitCapitals rest := by
  match rest with
  | [] => simp [splitCapitals, opensWord]
  | [b] => simp [splitCapitals, opensWord]
  | b :: c :: rest =>
    rw [splitCapitals, opensWord, ← Bool.and_assoc]
    split_ifs <;> rfl

theorem front?_word (text : List Char) : front? [.one isUpper, .one isLower] text =
    match text with
    | b :: c :: rest => if opensWord text then some ([[b], [c]], rest) else none
    | _ => none := by
  match text with
  | [] => rfl
  | [b] => simp [front?_one_cons, front?_one_nil]
  | b :: c :: rest =>
    rw [front?_one_cons, front?_one_cons]
    by_cases upper : isUpper b = true <;> by_cases lower : isLower c = true <;>
      simp [opensWord, upper, lower, front?, tries]

/-- what a match at the front of a text says about the rule -/
structure CapitalsMatched (text : List Char) (parts : List (List Char)) (behind : List Char) : Prop where
  opens : ∃ a b more, text = a :: b :: more ∧ isUpper a = true ∧ isUpper b = true
  shorter : behind.length < text.length
  nonempty : parts ≠ []
  split : splitCapitals text = underscoreBehind parts ++ splitCapitals behind

theorem splitCapitals_of_no_word {a : Char} {rest : List Char} (h : (isUpper a && opensWord rest) = false) :
    splitCapitals (a :: rest) = a :: splitCapitals rest := by
  rw [splitCapitals_cons, h]
  rfl

/-- a capital in front of a match is one more in its first part -/
theorem CapitalsMatched.grow {a : Char} {text : List Char} {m : List (List Char) × List Char}
    (h : CapitalsMatched text m.1 m.2) (upper : isUpper a = true) :
    CapitalsMatched (a :: text) (Text.grow a m).1 (Text.grow a m).2 := by
  obtain ⟨parts, behind⟩ := m
  obtain ⟨opens, shorter, nonempty, split⟩ := h
  obtain ⟨first, others, rfl⟩ := List.exists_cons_of_ne_nil nonempty
  obtain ⟨b, c, more, rfl, first', second⟩ := opens
  have apart : (isUpper a && opensWord (b :: c :: more)) = false := by
    simp [opensWord, isLower_of_isUpper second]
  refine ⟨⟨a, b, _, rfl, upper, first'⟩, Nat.lt_succ_of_lt shorter, List.cons_ne_nil _ _, ?_⟩
  rw [splitCapitals_of_no_word apart, split]
  rfl

/-- a capital in front of a word, where it is the only one to take -/
theorem capitalsMatched_word {a b c : Char} {rest : List Char} (upper : isUpper a = true)
    (word : opensWord (b :: c :: rest) = true)
    (none : splitCapitals (b :: c :: rest) = b :: splitCapitals (c :: rest)) :
    CapitalsMatched (a :: b :: c :: rest) [[a], [b], [c]] rest := by
  obtain ⟨second, lower⟩ : isUpper b = true ∧ isLower c = true := by simpa [opensWord] using word
  have apart : (isUpper c && opensWord rest) = false := by simp [isUpper_of_isLower lower]
  refine ⟨⟨a, b, _, rfl, upper, second⟩, by simp only [List.length_cons]; omega, List.cons_ne_nil _ _, ?_⟩
  rw [splitCapitals_cons, upper, word, none, splitCapitals_of_no_word apart]
  rfl

/-- **The rule follows the match at the front**, which is the longest run of capitals before a small letter, and does
nothing to the first character where there is none. -/
theorem splitCapitals_front (text : List Char) :
    (∀ m, front? capitals text = some m → CapitalsMatched text m.1 m.2) ∧
    (front? capitals text = none → ∀ a rest, text = a :: rest → splitCapitals text = a :: splitCapitals rest) := by
  induction text with
  | nil => exact ⟨fun m h => (nomatch h), fun _ a rest h => (nomatch h)⟩
  | cons a rest ih =>
    obtain ⟨matched, none⟩ := ih
    rw [capitals, front?_many_cons, ← capitals]
    by_cases upper : isUpper a = true
    · rw [if_pos upper]
      cases front : front? capitals rest with
      | some m =>
        refine ⟨fun _ h => ?_, fun h => (nomatch h)⟩
        cases h
        exact (matched m front).grow upper
      | none =>
        rw [front?_word]
        cases word : opensWord rest with
        | true =>
          obtain ⟨b, c, more, rfl⟩ : ∃ b c more, rest = b :: c :: more := by
            unfold opensWord at word
            split at word
            · exact ⟨_, _, _, rfl⟩
            · cases word
          refine ⟨fun _ h => ?_, fun h => (nomatch h)⟩
          cases h
          exact capitalsMatched_word upper word (none front _ _ rfl)
        | false =>
          refine ⟨fun m h => ?_, fun _ b more h => ?_⟩
          · exfalso
            revert h
            split <;> simp
          · cases h
            exact splitCapitals_of_no_word (by simp [word])
    · rw [if_neg upper]
      refine ⟨fun m h => (nomatch h), fun _ b more h => ?_⟩
      cases h
      exact splitCapitals_of_no_word (by simp [upper])

theorem substitute_capitals (text : List Char) : substitute capitals underscoreBehind text = splitCapitals text := by
  refine substitute_eq rfl (fun c rest m front => ?_) (fun c rest front => ?_) text
  · have h := (splitCapitals_front (c :: rest)).1 m front
    exact ⟨Nat.le_of_lt_succ h.shorter, h.split⟩
  · exact (splitCapitals_front (c :: rest)).2 front c rest rfl

/-! ## Humps -/

/-- a small letter or a digit of any script, and a capital -/
def humps : List Step := [.one fun c => isLower c || isDecimal c, .one isUpper]

theorem splitHumps_cons (a : Char) (rest : List Char) : splitHumps (a :: rest) =
    a :: if (isLower a || isDecimal a) && rest.head?.any isUpper then '_' :: splitHumps rest else splitHumps rest := by
  cases rest with
  | nil => simp [splitHumps]
  | cons b rest =>
    rw [splitHumps, List.head?_cons, Option.any_some]
    split_ifs <;> rfl

theorem isDecimal_of_isUpper {c : Char} (h : isUpper c = true) : isDecimal c = false := by
  have bounds : 65 ≤ c.toNat ∧ c.toNat ≤ 90 := by simpa [isUpper] using h
  have ascii : isAscii c = true := by
    simp only [isAscii, decide_eq_true_eq]
    omega
  simp only [isDecimal, ascii, if_true, isAsciiDigit, Bool.and_eq_false_iff, decide_eq_false_iff_not]
  omega

theorem front?_humps (a : Char) (rest : List Char) : front? humps (a :: rest) =
    match rest with
    | b :: behind => if (isLower a || isDecimal a) && isUpper b then some ([[a], [b]], behind) else none
    | [] => none := by
  rw [humps, front?_one_cons]
  cases rest with
  | nil => simp [front?_one_nil]
  | cons b behind =>
    rw [front?_one_cons]
    by_cases small : (isLower a || isDecimal a) = true <;> by_cases upper : isUpper b = true <;>
      simp [small, upper, front?, tries]

theorem substitute_humps (text : List Char) : substitute humps underscoreBehind text = splitHumps text := by
  refine substitute_eq rfl (fun a rest m front => ?_) (fun a rest front => ?_) text
  · rw [front?_humps] at front
    cases rest with
    | nil => cases front
    | cons b behind =>
      dsimp only at front
      split_ifs at front with hump
      cases front
      -- a capital is no small letter, so that it cannot begin a match of its own
      have upper : isUpper b = true := (Bool.and_eq_true_iff.1 hump).2
      refine ⟨Nat.le_succ _, ?_⟩
      rw [splitHumps_cons, List.head?_cons, Option.any_some, hump, splitHumps_cons, isLower_of_isUpper upper,
        isDecimal_of_isUpper upper]
      rfl
  · rw [front?_humps] at front
    rw [splitHumps_cons]
    cases rest with
    | nil => simp
    | cons b behind =>
      dsimp only at front
      split_ifs at front with hump
      rw [List.head?_cons, Option.any_some, if_neg hump]

/-! ## Other characters -/

section

variable {keep : Char → Bool}

/-- the longest run of characters that are not kept -/
def others (keep : Char → Bool) : List Step := [.many fun c => !keep c]

theorem front?_others (keep : Char → Bool) (text : List Char) : front? (others keep) text =
    if text.takeWhile (!keep ·) = [] then none
    else some ([text.takeWhile (!keep ·)], text.dropWhile (!keep ·)) := by
  induction text with
  | nil => rfl
  | cons c rest ih =>
    rw [others, front?_many_cons, ← others, ih]
    cases kept : keep c with
    | true => simp [kept]
    | false =>
      by_cases last : rest.takeWhile (!keep ·) = []
      · have behind : rest.dropWhile (!keep ·) = rest := by
          have whole := List.takeWhile_append_dropWhile (p := (!keep ·)) (l := rest)
          rwa [last, List.nil_append] at whole
        simp [kept, last, behind, front?, tries]
      · simp [kept, last, grow]

/-- in a run nothing is written until it ends -/
theorem separateFrom_run (text : List Char) :
    separateFrom keep true text = separateFrom keep false (text.dropWhile (!keep ·)) := by
  induction text with
  | nil => rfl
  | cons c rest ih =>
    cases kept : keep c with
    | true => simp [separateFrom, kept]
    | false => simp [separateFrom, kept, ih]

theorem substitute_others (text : List Char) :
    substitute (others keep) (fun _ => ['_']) text = separate keep text := by
  refine substitute_eq rfl (fun c rest m front => ?_) (fun c rest front => ?_) text
  · rw [front?_others] at front
    split_ifs at front with none
    cases front
    cases kept : keep c with
    | true => simp [kept] at none
    | false =>
      have drops : (c :: rest).dropWhile (!keep ·) = rest.dropWhile (!keep ·) := by simp [kept]
      rw [drops, separate, separateFrom, kept, separateFrom_run]
      exact ⟨(List.dropWhile_suffix _).length_le, rfl⟩
  · rw [front?_others] at front
    split_ifs at front with none
    cases kept : keep c with
    | true => simp [separate, separateFrom, kept]
    | false => simp [kept] at none

end

/-- **The snake-case form by replacements**: an underscore before the last capital of a run that a small letter follows,
one between a small letter or digit and a capital, and one for each run of other characters than ASCII letters and
digits; then the outer underscores are dropped, and capitals lowered. -/
theorem snakeChars_substitute (text : List Char) : snakeChars text =
    (trimBoth '_' (substitute (others isAsciiAlnum) (fun _ => ['_'])
      (substitute humps underscoreBehind (substitute capitals underscoreBehind text)))).map lowerChar := by
  rw [substitute_capitals, substitute_humps, substitute_others, snakeChars]

end ApiTypes.Text
