/-
Traversals: a check made on every item of a list, up to the first fault.

A traversal is `List.mapM` in `Except`. It succeeds with the results of its items in order, or ends with the fault of
the first item that is not accepted; what stands behind that item is never looked at.

Main statements: `mapM_eq_ok` and `mapM_eq_error` say when a traversal succeeds and with which fault it ends;
`result_bind`, the result of a run does not depend on its notices.
-/
import Mathlib.Data.List.Forall2
import ApiTypes.Run

namespace ApiTypes

section Checks

variable {α β γ ε : Type}

/-! ## One step -/

theorem bind_eq_ok {x : Except ε α} {f : α → Except ε β} {b : β} :
    x >>= f = .ok b ↔ ∃ a, x = .ok a ∧ f a = .ok b := by
  cases x <;> simp [bind, Except.bind]

theorem bind_eq_error {x : Except ε α} {f : α → Except ε β} {e : ε} :
    x >>= f = .error e ↔ x = .error e ∨ ∃ a, x = .ok a ∧ f a = .error e := by
  cases x <;> simp [bind, Except.bind]

theorem map_eq_ok {x : Except ε α} {f : α → β} {b : β} : f <$> x = .ok b ↔ ∃ a, x = .ok a ∧ f a = b := by
  cases x <;> simp [Functor.map, Except.map]

theorem map_eq_error {x : Except ε α} {f : α → β} {e : ε} : f <$> x = .error e ↔ x = .error e := by
  cases x <;> simp [Functor.map, Except.map]

/-! ## Lists -/

/-- everything before `x` is accepted, so that the traversal comes to `x` -/
def Reaches (check : α → Except ε β) (items : List α) (x : α) : Prop :=
  ∃ before after, items = before ++ x :: after ∧ ∀ y ∈ before, ∃ b, check y = .ok b

theorem Reaches.mem {check : α → Except ε β} {items : List α} {x : α} (h : Reaches check items x) : x ∈ items := by
  obtain ⟨before, after, rfl, -⟩ := h
  simp

theorem reaches_cons {check : α → Except ε β} {y x : α} {rest : List α} :
    Reaches check (y :: rest) x ↔ x = y ∨ (∃ b, check y = .ok b) ∧ Reaches check rest x := by
  constructor
  · rintro ⟨before, after, h, accepted⟩
    cases before with
    | nil =>
      rw [List.nil_append] at h
      exact Or.inl (List.cons.inj h).1.symm
    | cons z before =>
      obtain ⟨rfl, rfl⟩ := List.cons.inj h
      exact Or.inr ⟨accepted y List.mem_cons_self, before, after, rfl,
        fun w hw => accepted w (List.mem_cons_of_mem _ hw)⟩
  · rintro (rfl | ⟨hy, before, after, rfl, accepted⟩)
    · exact ⟨[], rest, rfl, by simp⟩
    · refine ⟨y :: before, after, rfl, fun w hw => ?_⟩
      rcases List.mem_cons.1 hw with rfl | hw
      · exact hy
      · exact accepted w hw

theorem not_reaches_nil {check : α → Except ε β} {x : α} : ¬ Reaches check [] x := by
  rintro ⟨before, after, h, -⟩
  simp at h

theorem mapM_eq_ok {check : α → Except ε β} {items : List α} {results : List β} :
    items.mapM check = .ok results ↔ List.Forall₂ (fun x b => check x = .ok b) items results := by
  induction items generalizing results with
  | nil => cases results <;> simp [pure, Except.pure]
  | cons x rest ih =>
    rw [List.mapM_cons, bind_eq_ok]
    constructor
    · rintro ⟨b, hb, h⟩
      obtain ⟨bs, hbs, h⟩ := bind_eq_ok.1 h
      cases h
      exact .cons hb (ih.1 hbs)
    · intro h
      cases h with
      | cons hb hbs => exact ⟨_, hb, bind_eq_ok.2 ⟨_, ih.2 hbs, rfl⟩⟩

theorem mapM_eq_error {check : α → Except ε β} {items : List α} {e : ε} :
    items.mapM check = .error e ↔ ∃ x, Reaches check items x ∧ check x = .error e := by
  induction items with
  | nil => simp [pure, Except.pure, not_reaches_nil]
  | cons y rest ih =>
    rw [List.mapM_cons, bind_eq_error]
    constructor
    · rintro (hy | ⟨b, hb, h⟩)
      · exact ⟨y, reaches_cons.2 (Or.inl rfl), hy⟩
      · rcases bind_eq_error.1 h with h | ⟨bs, -, h⟩
        · obtain ⟨x, hx, he⟩ := ih.1 h
          exact ⟨x, reaches_cons.2 (Or.inr ⟨⟨b, hb⟩, hx⟩), he⟩
        · cases h
    · rintro ⟨x, hx, he⟩
      rcases reaches_cons.1 hx with rfl | ⟨⟨b, hb⟩, hx⟩
      · exact Or.inl he
      · exact Or.inr ⟨b, hb, bind_eq_error.2 (Or.inl (ih.2 ⟨x, hx, he⟩))⟩

theorem exists_of_mem_items {r : α → β → Prop} {items : List α} {results : List β} (h : List.Forall₂ r items results)
    {x : α} (hx : x ∈ items) : ∃ b ∈ results, r x b := by
  induction h with
  | nil => simp at hx
  | cons head tail ih =>
    rcases List.mem_cons.1 hx with rfl | hx
    · exact ⟨_, List.mem_cons_self, head⟩
    · obtain ⟨b, hb, hr⟩ := ih hx
      exact ⟨b, List.mem_cons_of_mem _ hb, hr⟩

theorem exists_of_mem_results {r : α → β → Prop} {items : List α} {results : List β} (h : List.Forall₂ r items results)
    {b : β} (hb : b ∈ results) : ∃ x ∈ items, r x b :=
  exists_of_mem_items h.flip hb

/-- a property of some item is a property of some result, where each item and its result share it -/
theorem exists_iff_of_forall₂ {r : α → β → Prop} {p : α → Prop} {q : β → Prop} {items : List α} {results : List β}
    (h : List.Forall₂ r items results) (iff : ∀ x ∈ items, ∀ b, r x b → (p x ↔ q b)) :
    (∃ x ∈ items, p x) ↔ ∃ b ∈ results, q b := by
  induction h with
  | nil => simp
  | @cons x b rest bs head tail ih =>
    have here := iff x List.mem_cons_self b head
    have there := ih fun y hy => iff y (List.mem_cons_of_mem _ hy)
    simp [here, there]

end Checks

/-! ## Results of runs -/

namespace Run

variable {α β : Type}

@[simp] theorem result_pure (a : α) : result (pure a : Run α) = .ok a := rfl

@[simp] theorem result_throw (fault : Fault) : result (throw fault : Run α) = .error fault := rfl

@[simp] theorem result_report (notice : Notice) : result (report notice) = .ok () := rfl

@[simp] theorem result_ofExcept (x : Except Fault α) : result (ofExcept x) = x := rfl

@[simp] theorem result_bind (x : Run α) (f : α → Run β) : result (x >>= f) = result x >>= fun a => result (f a) := by
  show (ExceptT.run (x >>= f)).value = _
  simp only [ExceptT.run_bind, Noted.bind_value, result]
  cases (ExceptT.run x).value <;> rfl

@[simp] theorem result_map (f : α → β) (x : Run α) : result (f <$> x) = f <$> result x := by
  show (ExceptT.run (f <$> x)).value = _
  rw [ExceptT.run_map, Noted.map_value]
  rfl

end Run

end ApiTypes
