import Mathlib.Data.List.Forall2

/-!
# Sequences that stop at the first failure

A list of checks or computations with failures succeeds exactly if each of its members does, and
fails with the failure of the first member that does not.
-/
namespace ComposeHarness.Sequence

variable {ε α β : Type}

theorem bind_eq_ok_iff {x : Except ε α} {f : α → Except ε β} {b : β} :
    x >>= f = .ok b ↔ ∃ a, x = .ok a ∧ f a = .ok b := by
  cases x with
  | error e => simp [bind, Except.bind]
  | ok a => simp [bind, Except.bind]

theorem bind_eq_error_iff {x : Except ε α} {f : α → Except ε β} {e : ε} :
    x >>= f = .error e ↔ x = .error e ∨ ∃ a, x = .ok a ∧ f a = .error e := by
  cases x with
  | error e => simp [bind, Except.bind]
  | ok a => simp [bind, Except.bind]

/-- Two checks, the second after the first. -/
theorem seq_eq_ok_iff {x : Except ε Unit} {y : Except ε β} {b : β} :
    (x >>= fun _ => y) = .ok b ↔ x = .ok () ∧ y = .ok b := by
  rw [bind_eq_ok_iff]
  exact ⟨fun ⟨⟨⟩, h⟩ => h, fun h => ⟨(), h⟩⟩

theorem exists_bind_eq_ok_iff {x : Except ε α} {f : α → Except ε β} :
    (∃ b, x >>= f = .ok b) ↔ ∃ a, x = .ok a ∧ ∃ b, f a = .ok b := by
  simp only [bind_eq_ok_iff]
  rw [exists_comm]
  simp only [exists_and_left]

theorem map_eq_ok_iff {x : Except ε α} {f : α → β} {b : β} :
    f <$> x = .ok b ↔ ∃ a, x = .ok a ∧ f a = b := by
  cases x with
  | error e => simp [Functor.map, Except.map]
  | ok a => simp [Functor.map, Except.map]

theorem map_eq_error_iff {x : Except ε α} {f : α → β} {e : ε} :
    f <$> x = .error e ↔ x = .error e := by
  cases x with
  | error e => simp [Functor.map, Except.map]
  | ok a => simp [Functor.map, Except.map]

theorem mapError_eq_ok_iff {x : Except ε α} {f : ε → ε} {a : α} :
    x.mapError f = .ok a ↔ x = .ok a := by
  cases x <;> simp [Except.mapError]

theorem mapError_eq_error_iff {x : Except ε α} {f : ε → ε} {e : ε} :
    x.mapError f = .error e ↔ ∃ cause, x = .error cause ∧ f cause = e := by
  cases x <;> simp [Except.mapError]

theorem mapM_eq_ok_iff {f : α → Except ε β} {xs : List α} {ys : List β} :
    xs.mapM f = .ok ys ↔ List.Forall₂ (fun x y => f x = .ok y) xs ys := by
  induction xs generalizing ys with
  | nil => simp [pure, Except.pure, eq_comm]
  | cons x xs ih =>
    rw [List.mapM_cons, List.forall₂_cons_left_iff]
    simp only [bind_eq_ok_iff, ih, pure, Except.pure, Except.ok.injEq]
    constructor
    · rintro ⟨y, hy, ys', h, rfl⟩
      exact ⟨y, ys', hy, h, rfl⟩
    · rintro ⟨y, ys', hy, h, rfl⟩
      exact ⟨y, hy, ys', h, rfl⟩

theorem exists_mapM_eq_ok_iff {f : α → Except ε β} {xs : List α} :
    (∃ ys, xs.mapM f = .ok ys) ↔ ∀ x ∈ xs, ∃ y, f x = .ok y := by
  simp only [mapM_eq_ok_iff]
  induction xs with
  | nil => simp
  | cons x xs ih =>
    simp only [List.forall₂_cons_left_iff, List.forall_mem_cons, ← ih]
    constructor
    · rintro ⟨ys, y, ys', hy, h, -⟩
      exact ⟨⟨y, hy⟩, ys', h⟩
    · rintro ⟨⟨y, hy⟩, ys', h⟩
      exact ⟨y :: ys', y, ys', hy, h, rfl⟩

theorem mapM_eq_error_iff {f : α → Except ε β} {xs : List α} {e : ε} :
    xs.mapM f = .error e ↔ ∃ before x after, xs = before ++ x :: after ∧
      (∀ b ∈ before, ∃ y, f b = .ok y) ∧ f x = .error e := by
  induction xs with
  | nil => simp [pure, Except.pure]
  | cons x xs ih =>
    rw [List.mapM_cons, bind_eq_error_iff]
    constructor
    · rintro (hx | ⟨y, hy, h⟩)
      · exact ⟨[], x, xs, rfl, by simp, hx⟩
      · obtain h | ⟨ys, -, h⟩ := bind_eq_error_iff.1 h
        · obtain ⟨before, z, after, rfl, hb, hz⟩ := ih.1 h
          exact ⟨x :: before, z, after, rfl, by simpa using ⟨⟨y, hy⟩, hb⟩, hz⟩
        · cases h
    · rintro ⟨before, z, after, h, hb, hz⟩
      cases before with
      | nil =>
        cases h
        exact .inl hz
      | cons w before =>
        cases h
        obtain ⟨y, hy⟩ := hb x (by simp)
        have hrest := ih.2 ⟨before, z, after, rfl, fun b hb' => hb b (by simp [hb']), hz⟩
        exact .inr ⟨y, hy, bind_eq_error_iff.2 (.inl hrest)⟩

theorem forM_eq_ok_iff {f : α → Except ε Unit} {xs : List α} :
    xs.forM f = .ok () ↔ ∀ x ∈ xs, f x = .ok () := by
  induction xs with
  | nil => simp [List.forM, pure, Except.pure]
  | cons x xs ih =>
    change (f x >>= fun _ => xs.forM f) = .ok () ↔ _
    simp only [bind_eq_ok_iff, ih, List.forall_mem_cons]
    constructor
    · rintro ⟨⟨⟩, hx, h⟩
      exact ⟨hx, h⟩
    · rintro ⟨hx, h⟩
      exact ⟨(), hx, h⟩

/-- The failure of a list of checks is that of the first member that fails. -/
theorem forM_eq_error_iff {f : α → Except ε Unit} {xs : List α} {e : ε} :
    xs.forM f = .error e ↔ ∃ before x after, xs = before ++ x :: after ∧
      (∀ b ∈ before, f b = .ok ()) ∧ f x = .error e := by
  induction xs with
  | nil => simp [List.forM, pure, Except.pure]
  | cons x xs ih =>
    change (f x >>= fun _ => xs.forM f) = .error e ↔ _
    rw [bind_eq_error_iff]
    constructor
    · rintro (hx | ⟨⟨⟩, hx, h⟩)
      · exact ⟨[], x, xs, rfl, by simp, hx⟩
      · obtain ⟨before, z, after, rfl, hb, hz⟩ := ih.1 h
        exact ⟨x :: before, z, after, rfl, List.forall_mem_cons.2 ⟨hx, hb⟩, hz⟩
    · rintro ⟨before, z, after, h, hb, hz⟩
      cases before with
      | nil =>
        cases h
        exact .inl hz
      | cons w before =>
        cases h
        obtain ⟨hx, hb⟩ := List.forall_mem_cons.1 hb
        exact .inr ⟨(), hx, ih.2 ⟨before, z, after, rfl, hb, hz⟩⟩

theorem forM_flatMap {f : β → Except ε Unit} {g : α → List β} (xs : List α) :
    (xs.flatMap g).forM f = xs.forM fun x => (g x).forM f := by
  induction xs with
  | nil => rfl
  | cons x xs ih =>
    rw [List.forM_eq_forM, List.forM_eq_forM] at ih ⊢
    rw [List.flatMap_cons, List.forM_append, List.forM_cons, ih]

/-- If all members can be changed, changing each before it is checked is checking what they are
changed to. -/
theorem forM_bind_of_mapM {g : α → Except ε β} {xs : List α} {ys : List β}
    (h : xs.mapM g = .ok ys) (f : β → Except ε Unit) :
    (xs.forM fun x => g x >>= f) = ys.forM f := by
  have hall := mapM_eq_ok_iff.1 h
  clear h
  induction hall with
  | nil => rfl
  | @cons x y xs ys hxy _ ih =>
    change ((g x >>= f) >>= fun _ => xs.forM fun x => g x >>= f) = (f y >>= fun _ => ys.forM f)
    rw [hxy, ih]
    rfl

/-- Members that are changed and then checked pass exactly if all can be changed and what they are
changed to passes. -/
theorem forM_bind_eq_ok_iff {g : α → Except ε β} {f : β → Except ε Unit} {xs : List α} :
    (xs.forM fun x => g x >>= f) = .ok () ↔ ∃ ys, xs.mapM g = .ok ys ∧ ∀ y ∈ ys, f y = .ok () := by
  constructor
  · intro h
    obtain ⟨ys, hys⟩ : ∃ ys, xs.mapM g = .ok ys := by
      refine exists_mapM_eq_ok_iff.2 fun x hx => ?_
      obtain ⟨y, hy, -⟩ := bind_eq_ok_iff.1 (forM_eq_ok_iff.1 h x hx)
      exact ⟨y, hy⟩
    rw [forM_bind_of_mapM hys] at h
    exact ⟨ys, hys, forM_eq_ok_iff.1 h⟩
  · rintro ⟨ys, hys, h⟩
    rw [forM_bind_of_mapM hys]
    exact forM_eq_ok_iff.2 h

end ComposeHarness.Sequence
