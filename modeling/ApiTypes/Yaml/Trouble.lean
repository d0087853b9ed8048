/-
Trouble with a text in block or flow notation.

Either the text breaks the notation, and may be read by another, or it writes a scalar that has no value.
-/
import ApiTypes.Fault

namespace ApiTypes.Yaml

inductive Trouble where
  /-- the text is not in this notation -/
  | malformed
  /-- a scalar without a value -/
  | scalar (cause : ScalarCause)
  deriving DecidableEq, Repr

end ApiTypes.Yaml
