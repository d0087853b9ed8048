/-
Words inside names: one-line texts, snake case and Pascal case.

`snakeCase` separates words in three steps: before the last capital of a run of capitals that a small letter follows,
between a small letter or digit and a capital, and wherever characters other than ASCII letters and digits stand, a run
of which becomes one underscore. Outer underscores are dropped and capitals lowered.

Main statements: `separate_all` says that what the third step writes holds characters of the class that is kept and
underscores only; `words_oneLine`, no word of a text is empty or holds a blank.
-/
import ApiTypes.Text.Class

namespace ApiTypes.Text

/-! ## Lines -/

/-- the maximal runs of characters outside the class `separator`, given the run `word` read so far in reverse -/
def wordsFrom (separator : Char → Bool) (word : List Char) : List Char → List (List Char)
  | [] => if word.isEmpty then [] else [word.reverse]
  | c :: rest =>
    if separator c then
      if word.isEmpty then wordsFrom separator [] rest else word.reverse :: wordsFrom separator [] rest
    else wordsFrom separator (c :: word) rest

def wordsBy (separator : Char → Bool) (text : List Char) : List (List Char) :=
  wordsFrom separator [] text

/-- the words of a text, one blank between two of them -/
def oneLine (text : String) : String :=
  String.ofList (List.intercalate [' '] (wordsBy isBlank text.toList))

/-! ## Snake case -/

/-- an underscore before a capital that ends a run of capitals and starts a word -/
def splitCapitals : List Char → List Char
  | a :: b :: c :: rest =>
    if isUpper a && isUpper b && isLower c then a :: '_' :: splitCapitals (b :: c :: rest)
    else a :: splitCapitals (b :: c :: rest)
  | short => short

/-- an underscore between a small letter or digit and a capital -/
def splitHumps : List Char → List Char
  | a :: b :: rest =>
    if (isLower a || isDecimal a) && isUpper b then a :: '_' :: splitHumps (b :: rest)
    else a :: splitHumps (b :: rest)
  | short => short

/-- runs of characters outside the class `keep` become one underscore; `inRun` says that one is written -/
def separateFrom (keep : Char → Bool) (inRun : Bool) : List Char → List Char
  | [] => []
  | c :: rest =>
    if keep c then c :: separateFrom keep false rest
    else if inRun then separateFrom keep true rest
    else '_' :: separateFrom keep true rest

def separate (keep : Char → Bool) (text : List Char) : List Char :=
  separateFrom keep false text

/-- the text without the characters `c` at both ends -/
def trimBoth (c : Char) (text : List Char) : List Char :=
  ((text.dropWhile (· == c)).reverse.dropWhile (· == c)).reverse

def lowerChar (c : Char) : Char := if isUpper c then Char.ofNat (c.toNat + 32) else c

def upperChar (c : Char) : Char := if isLower c then Char.ofNat (c.toNat - 32) else c

def snakeChars (text : List Char) : List Char :=
  (trimBoth '_' (separate isAsciiAlnum (splitHumps (splitCapitals text)))).map lowerChar

/-- the snake-case form of an identifier, such as `list_models` for `listModels` -/
def snakeCase (text : String) : String :=
  String.ofList (snakeChars text.toList)

/-! ## Pascal case -/

def capitalize : List Char → List Char
  | [] => []
  | c :: rest => upperChar c :: rest

/-- the words of ASCII letters and digits, each with a capital in front -/
def pascalCase (text : String) : String :=
  String.ofList ((wordsBy (fun c => !isAsciiAlnum c) text.toList).flatMap capitalize)

/-! ## Facts -/

theorem separateFrom_all (keep : Char → Bool) (inRun : Bool) (text : List Char) :
    ∀ c ∈ separateFrom keep inRun text, keep c = true ∨ c = '_' := by
  induction text generalizing inRun with
  | nil => simp [separateFrom]
  | cons c rest ih =>
    intro d hd
    simp only [separateFrom] at hd
    split at hd
    · rename_i h
      rcases List.mem_cons.1 hd with rfl | hd
      · exact Or.inl h
      · exact ih false d hd
    · split at hd
      · exact ih true d hd
      · rcases List.mem_cons.1 hd with rfl | hd
        · exact Or.inr rfl
        · exact ih true d hd

theorem separate_all (keep : Char → Bool) (text : List Char) : ∀ c ∈ separate keep text, keep c = true ∨ c = '_' :=
  separateFrom_all keep false text

/-- no word is empty and none holds a separator -/
theorem wordsFrom_all (separator : Char → Bool) (word text : List Char) (h : ∀ c ∈ word, separator c = false) :
    ∀ w ∈ wordsFrom separator word text, w ≠ [] ∧ ∀ c ∈ w, separator c = false := by
  induction text generalizing word with
  | nil =>
    intro w hw
    simp only [wordsFrom] at hw
    split at hw
    · simp at hw
    · rename_i ne
      obtain rfl := List.mem_singleton.1 hw
      exact ⟨by simpa using ne, fun c hc => h c (List.mem_reverse.1 hc)⟩
  | cons c rest ih =>
    intro w hw
    simp only [wordsFrom] at hw
    split at hw
    · split at hw
      · exact ih [] (by simp) w hw
      · rename_i ne
        rcases List.mem_cons.1 hw with rfl | hw
        · exact ⟨by simpa using ne, fun c hc => h c (List.mem_reverse.1 hc)⟩
        · exact ih [] (by simp) w hw
    · rename_i hc
      refine ih (c :: word) (fun d hd => ?_) w hw
      rcases List.mem_cons.1 hd with rfl | hd
      · simpa using hc
      · exact h d hd

theorem words_oneLine (text : List Char) :
    ∀ w ∈ wordsBy isBlank text, w ≠ [] ∧ ∀ c ∈ w, isBlank c = false :=
  wordsFrom_all isBlank [] text (by simp)

end ApiTypes.Text
