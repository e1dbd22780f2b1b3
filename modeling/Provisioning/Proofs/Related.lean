import Mathlib.Data.List.Forall2
import Mathlib.Data.Option.Basic

/-!
# Functions that do not tell values apart

Two runs over values that differ only in what does not matter end in one result. Each of these lemmas
carries this from one value to an option or a row of them.
-/

namespace Provisioning

variable {α β γ : Type} {R : α → α → Prop}

/-! ## Options -/

/-- Related options are both empty, or what they hold is related. -/
theorem rel_cases {o o' : Option α} (h : Option.Rel R o o') :
    (o = none ∧ o' = none) ∨ ∃ x y, o = some x ∧ o' = some y ∧ R x y := by
  cases h with
  | none => exact .inl ⟨rfl, rfl⟩
  | some hx => exact .inr ⟨_, _, rfl, rfl, hx⟩

/-- Functions that do not tell related values apart have one result for related options. -/
theorem map_congr_of_rel {f : α → β} {o o' : Option α} (hf : ∀ {x x'}, R x x' → f x = f x')
    (h : Option.Rel R o o') : o.map f = o'.map f := by
  cases h with
  | none => rfl
  | some hx => exact congrArg some (hf hx)

theorem bind_congr_of_rel {f : α → Option β} {o o' : Option α}
    (hf : ∀ {x x'}, R x x' → f x = f x') (h : Option.Rel R o o') : o.bind f = o'.bind f := by
  cases h with
  | none => rfl
  | some hx => exact hf hx

/-! ## Rows -/

variable {as bs : List α}

theorem rel_head? (h : List.Forall₂ R as bs) : Option.Rel R as.head? bs.head? := by
  cases h with
  | nil => exact .none
  | cons hx _ => exact .some hx

theorem map_congr_of_forall₂ {f : α → β} (hf : ∀ {x x'}, R x x' → f x = f x')
    (h : List.Forall₂ R as bs) : as.map f = bs.map f := by
  induction h with
  | nil => rfl
  | cons hx _ ih => rw [List.map_cons, List.map_cons, hf hx, ih]

theorem filterMap_congr_of_forall₂ {f : α → Option β} (hf : ∀ {x x'}, R x x' → f x = f x')
    (h : List.Forall₂ R as bs) : as.filterMap f = bs.filterMap f := by
  induction h with
  | nil => rfl
  | cons hx _ ih => rw [List.filterMap_cons, List.filterMap_cons, hf hx, ih]

theorem mapM_congr_of_forall₂ {ε : Type} {f : α → Except ε β} (hf : ∀ {x x'}, R x x' → f x = f x')
    (h : List.Forall₂ R as bs) : as.mapM f = bs.mapM f := by
  induction h with
  | nil => rfl
  | cons hx _ ih => rw [List.mapM_cons, List.mapM_cons, hf hx, ih]

/-- A row that is taken in step by step. -/
theorem foldl_congr_of_forall₂ {f : γ → α → γ} (hf : ∀ c {x x'}, R x x' → f c x = f c x')
    (h : List.Forall₂ R as bs) (c : γ) : as.foldl f c = bs.foldl f c := by
  induction h generalizing c with
  | nil => rfl
  | cons hx _ ih => rw [List.foldl_cons, List.foldl_cons, hf c hx, ih]

/-! ## Results -/

/-- Two computations in two steps: the first steps agree in what the second ones look at. -/
theorem map_bind_congr {ε δ : Type} {m m' : Except ε α} {f g : α → Except ε β} {view : α → δ}
    {t : β → γ} (hm : m.map view = m'.map view)
    (h : ∀ x y, view x = view y → (f x).map t = (g y).map t) :
    (m >>= f).map t = (m' >>= g).map t := by
  cases m with
  | error fault =>
      cases m' with
      | error fault' => cases hm; rfl
      | ok y => cases hm
  | ok x =>
      cases m' with
      | error fault' => cases hm
      | ok y => exact h x y (Except.ok.inj hm)

/-- The first step is the same. -/
theorem map_bind_congr_right {ε : Type} {m : Except ε α} {f g : α → Except ε β} {t : β → γ}
    (h : ∀ x, (f x).map t = (g x).map t) : (m >>= f).map t = (m >>= g).map t := by
  cases m with
  | error fault => rfl
  | ok x => exact h x

end Provisioning
