import ComposeHarness.Host

/-!
# Worlds that are watched

A watched world keeps a log beside the world. What a computation of the world does there leaves the
log alone; a computation of the watched world can also note something in it.
-/
namespace ComposeHarness

/-- A world with what has been noted so far. -/
abbrev Watched (ε σ : Type) := σ × List ε

namespace Watched

variable {ε σ α β : Type}

def note (event : ε) : Timed (Watched ε σ) Unit :=
  Timed.modify fun (world, log) => (world, log ++ [event])

@[simp] theorem run_note (event : ε) (now : Duration) (world : σ) (log : List ε) :
    (note event).run now (world, log) = ⟨(), .zero, (world, log ++ [event])⟩ := rfl

/-- The computation in a watched world, whose log it cannot reach. -/
def lift (x : Timed σ α) : Timed (Watched ε σ) α := fun now world =>
  let span := x.run now world.1
  ⟨span.value, span.spent, (span.world, world.2)⟩

@[simp] theorem run_lift (x : Timed σ α) (now : Duration) (world : σ) (log : List ε) :
    (lift x).run now (world, log) =
      ⟨(x.run now world).value, (x.run now world).spent, ((x.run now world).world, log)⟩ := rfl

/-! ### Computations that may fail -/

/-- A computation that may fail, in a watched world. -/
def liftAct (x : Act σ α) : Act (Watched ε σ) α := ExceptT.mk (lift x.run)

/-- In a watched world `x` does what `y` does. It notes the events of `log` one by one, and all of
them if it succeeds. -/
def Notes (x : Act (Watched ε σ) α) (y : Act σ α) (log : List ε) : Prop :=
  ∀ (now : Duration) (world : σ) (past : List ε),
    let span := y.run.run now world
    ∃ made, x.run.run now (world, past) = ⟨span.value, span.spent, (span.world, past ++ made)⟩ ∧
      made <+: log ∧ ∀ a, span.value = .ok a → made = log

theorem notes_liftAct (x : Act σ α) : Notes (liftAct x : Act (Watched ε σ) α) x [] := by
  intro now world past
  exact ⟨[], by simp [liftAct], by simp, by simp⟩

theorem notes_pure (a : α) : Notes (pure a : Act (Watched ε σ) α) (pure a) [] := by
  intro now world past
  exact ⟨[], by simp, by simp, by simp⟩

theorem notes_bind {x : Act (Watched ε σ) α} {y : Act σ α} {f : α → Act (Watched ε σ) β}
    {g : α → Act σ β} {log more : List ε} (h : Notes x y log) (hf : ∀ a, Notes (f a) (g a) more) :
    Notes (x >>= f) (y >>= g) (log ++ more) := by
  intro now world past
  obtain ⟨made, hx, hfront, hall⟩ := h now world past
  simp only [ExceptT.run_bind, Timed.run_bind, hx]
  cases hv : (y.run.run now world).value with
  | error failure =>
    exact ⟨made, by simp, hfront.trans (List.prefix_append _ _), by simp⟩
  | ok a =>
    obtain ⟨later, hrun, hlater, hdone⟩ :=
      hf a (now + (y.run.run now world).spent) (y.run.run now world).world (past ++ made)
    refine ⟨made ++ later, by simp [hrun], ?_, fun b hb => ?_⟩
    · rw [hall a hv]
      exact (List.prefix_append_right_inj log).2 hlater
    · rw [hall a hv, hdone b hb]

/-- What reaches only the world notes nothing. -/
theorem notes_liftAct_bind (y : Act σ α) {f : α → Act (Watched ε σ) β} {g : α → Act σ β}
    {log : List ε} (h : ∀ a, Notes (f a) (g a) log) :
    Notes (liftAct y >>= f) (y >>= g) log :=
  notes_bind (notes_liftAct y) h

theorem notes_map {x : Act (Watched ε σ) α} {y : Act σ α} {log : List ε} (f : α → β)
    (h : Notes x y log) : Notes (f <$> x) (f <$> y) log := by
  have hall := notes_bind h fun a => notes_pure (f a)
  rw [List.append_nil] at hall
  rw [map_eq_pure_bind, map_eq_pure_bind]
  exact hall

theorem notes_forM {f : α → Act (Watched ε σ) Unit} {g : α → Act σ Unit} {event : α → ε}
    (xs : List α) (h : ∀ x, Notes (f x) (g x) [event x]) :
    Notes (xs.forM f) (xs.forM g) (xs.map event) := by
  induction xs with
  | nil => exact notes_pure ()
  | cons x xs ih => exact notes_bind (h x) fun _ => ih

theorem notes_mapM {f : α → Act (Watched ε σ) β} {g : α → Act σ β} {logs : α → List ε}
    (xs : List α) (h : ∀ x, Notes (f x) (g x) (logs x)) :
    Notes (xs.mapM f) (xs.mapM g) (xs.flatMap logs) := by
  induction xs with
  | nil => exact notes_pure []
  | cons x xs ih =>
    have hall := notes_bind (h x) fun b => notes_bind ih fun bs => notes_pure (b :: bs)
    simpa [List.mapM_cons] using hall

end Watched
end ComposeHarness
