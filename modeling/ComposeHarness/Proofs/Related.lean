import Mathlib.Data.List.Forall2

/-!
# Related lists

Two lists whose members are related one by one.
-/
namespace ComposeHarness

variable {α β γ : Type} {R : α → β → Prop} {xs : List α} {ys : List β}

/-- What holds of each element and its image holds along the lists. -/
theorem forall₂_map_self {R : β → α → Prop} {f : α → β} (h : ∀ x ∈ xs, R (f x) x) :
    List.Forall₂ R (xs.map f) xs := by
  rw [List.forall₂_map_left_iff, List.forall₂_same]
  exact h

/-- Related lists have related values at all places. -/
theorem map_eq_map_of_forall₂ {f : α → γ} {g : β → γ} (h : List.Forall₂ R xs ys)
    (heq : ∀ x y, R x y → g y = f x) : ys.map g = xs.map f := by
  induction h with
  | nil => rfl
  | cons hx _ ih => rw [List.map_cons, List.map_cons, heq _ _ hx, ih]

theorem exists_getElem?_of_forall₂ (h : List.Forall₂ R xs ys) {i : Nat} {y : β}
    (hy : ys[i]? = some y) : ∃ x, xs[i]? = some x ∧ R x y := by
  induction h generalizing i with
  | nil => simp at hy
  | @cons x y' xs ys hx _ ih =>
    cases i with
    | zero =>
      cases hy
      exact ⟨x, rfl, hx⟩
    | succ i => exact ih (by simpa using hy)

theorem exists_of_mem_forall₂ (h : List.Forall₂ R xs ys) {x : α} (hx : x ∈ xs) :
    ∃ y ∈ ys, R x y := by
  obtain ⟨i, hi⟩ := List.mem_iff_getElem?.1 hx
  obtain ⟨y, hy, hr⟩ := exists_getElem?_of_forall₂ h.flip hi
  exact ⟨y, List.mem_of_getElem? hy, hr⟩

/-- Related lists divide alike around an element. -/
theorem exists_of_forall₂_append_cons {before after : List α} {x : α}
    (h : List.Forall₂ R (before ++ x :: after) ys) :
    ∃ before' y after', ys = before' ++ y :: after' ∧ List.Forall₂ R before before' ∧ R x y ∧
      List.Forall₂ R after after' := by
  induction before generalizing ys with
  | nil =>
    cases h with
    | cons hx hafter => exact ⟨[], _, _, rfl, .nil, hx, hafter⟩
  | cons b before ih =>
    cases h with
    | cons hb h =>
      obtain ⟨before', y, after', rfl, hbefore, hx, hafter⟩ := ih h
      exact ⟨_ :: before', y, after', rfl, .cons hb hbefore, hx, hafter⟩

theorem forall₂_replace {before after : List α} {x : α} {y : β} {before' after' : List β}
    (hbefore : List.Forall₂ R before before') (hx : R x y) (hafter : List.Forall₂ R after after') :
    List.Forall₂ R (before ++ x :: after) (before' ++ y :: after') :=
  List.rel_append hbefore (.cons hx hafter)

end ComposeHarness
