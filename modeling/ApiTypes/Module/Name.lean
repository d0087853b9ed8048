/-
Names in generated modules.

A class name keeps the word characters of a component's name and joins them by underscores; an identifier is the
snake-case form of a name. Both are kept from starting with a digit, and an identifier from being a reserved word.

Main statement: `identifier_not_reserved`.
-/
import ApiTypes.Text.Words

namespace ApiTypes.Module

/-- the words that the language reserves -/
def reservedWords : List String :=
  ["False", "None", "True", "and", "as", "assert", "async", "await", "break", "class", "continue", "def", "del", "elif",
    "else", "except", "finally", "for", "from", "global", "if", "import", "in", "is", "lambda", "nonlocal", "not", "or",
    "pass", "raise", "return", "try", "while", "with", "yield"]

def isReserved (name : String) : Bool := reservedWords.contains name

/-- an underscore before a first digit -/
def guardDigit (name : List Char) : List Char :=
  match name with
  | [] => []
  | c :: rest => if Text.isDigit c then '_' :: c :: rest else c :: rest

def nonEmptyOr (standard : List Char) (name : List Char) : List Char :=
  if name.isEmpty then standard else name

def classNameChars (name : List Char) : List Char :=
  guardDigit (nonEmptyOr "Component".toList (Text.trimBoth '_' (Text.separate Text.isWord name)))

/-- the class name of a component or record -/
def className (name : String) : String := String.ofList (classNameChars name.toList)

/-- an underscore after a reserved word -/
def unreserve (name : String) : String := if isReserved name then name ++ "_" else name

/-- the identifier of a function or argument -/
def identifier (name : String) : String :=
  unreserve (String.ofList (guardDigit (nonEmptyOr "arg".toList (Text.snakeChars name.toList))))

/-- can the name stand as a field of a class as it is? -/
def isPlainField (name : String) : Bool := Text.isIdentifier name.toList && !isReserved name

theorem guardDigit_nonempty {name : List Char} (h : name ≠ []) : guardDigit name ≠ [] := by
  cases name with
  | nil => exact absurd rfl h
  | cons c rest => simp only [guardDigit]; split <;> simp

/-- no reserved word is another with an underscore behind it -/
theorem not_reserved_underscore (name : String) (h : isReserved name = true) : isReserved (name ++ "_") = false := by
  have all : ∀ w ∈ reservedWords, isReserved (w ++ "_") = false := by decide
  exact all name (by simpa [isReserved] using h)

theorem unreserve_not_reserved (name : String) : isReserved (unreserve name) = false := by
  unfold unreserve
  split
  · rename_i h
    exact not_reserved_underscore name h
  · simp_all

theorem identifier_not_reserved (name : String) : isReserved (identifier name) = false :=
  unreserve_not_reserved _

end ApiTypes.Module
