/-
Runs: computations that report notices and may fail.

`Noted` carries a value and the notices reported on the way to it. `Run` adds failure on top, so that the notices up
to a fault are kept. Both are plain data; nothing is written anywhere.

Main statement: `Noted` is a lawful monad, so notices are appended in the order of evaluation however a run is
bracketed.
-/
import ApiTypes.Fault
import ApiTypes.Notice

namespace ApiTypes

/-- a value and the notices reported on the way to it, oldest first -/
structure Noted (α : Type) where
  value : α
  notices : List Notice

namespace Noted

instance : Monad Noted where
  pure a := ⟨a, []⟩
  bind x f := ⟨(f x.value).value, x.notices ++ (f x.value).notices⟩

def report (notice : Notice) : Noted Unit := ⟨(), [notice]⟩

@[simp] theorem pure_value {α : Type} (a : α) : (pure a : Noted α).value = a := rfl

@[simp] theorem pure_notices {α : Type} (a : α) : (pure a : Noted α).notices = [] := rfl

@[simp] theorem bind_value {α β : Type} (x : Noted α) (f : α → Noted β) : (x >>= f).value = (f x.value).value := rfl

@[simp] theorem bind_notices {α β : Type} (x : Noted α) (f : α → Noted β) :
    (x >>= f).notices = x.notices ++ (f x.value).notices := rfl

@[simp] theorem map_value {α β : Type} (f : α → β) (x : Noted α) : (f <$> x).value = f x.value := rfl

@[simp] theorem map_notices {α β : Type} (f : α → β) (x : Noted α) : (f <$> x).notices = x.notices :=
  List.append_nil _

@[ext] theorem ext {α : Type} {x y : Noted α} (value : x.value = y.value) (notices : x.notices = y.notices) :
    x = y := by
  cases x; cases y; simp_all

instance : LawfulMonad Noted :=
  LawfulMonad.mk' _
    (fun x => by apply ext <;> simp)
    (fun a f => by apply ext <;> simp)
    (fun x f g => by apply ext <;> simp [List.append_assoc])

end Noted

/-- a computation that reports notices and may fail; a failure keeps the notices before it -/
abbrev Run (α : Type) := ExceptT Fault Noted α

namespace Run

def report (notice : Notice) : Run Unit := ExceptT.lift (Noted.report notice)

/-- a step that reports nothing -/
def ofExcept {α : Type} (x : Except Fault α) : Run α := ExceptT.mk (pure x)

def ofNoted {α : Type} (x : Noted α) : Run α := ExceptT.lift x

/-- the outcome of a run -/
def result {α : Type} (x : Run α) : Except Fault α := (ExceptT.run x).value

/-- the notices of a run, oldest first -/
def notices {α : Type} (x : Run α) : List Notice := (ExceptT.run x).notices

end Run

end ApiTypes
