import ComposeHarness.Timed

/-!
# Computations and parts of the world

A computation may depend on a part of the world only, and it may leave other parts as they are.
What is put together from such computations is one again.
-/
namespace ComposeHarness

variable {σ τ α β : Type}

/-- Two spans that agree in all but what lies outside a part of the world. -/
structure Span.Agree (part : σ → τ) (a b : Span σ α) : Prop where
  value : a.value = b.value
  spent : a.spent = b.spent
  world : part a.world = part b.world

namespace Timed

/-- What the computation gives and what becomes of a part of the world depend on that part only. -/
def DependsOn (part : σ → τ) (x : Timed σ α) : Prop :=
  ∀ now world world', part world = part world' →
    Span.Agree part (x.run now world) (x.run now world')

/-- The computation leaves a part of the world as it is. -/
def Keeps (part : σ → τ) (x : Timed σ α) : Prop :=
  ∀ now world, part (x.run now world).world = part world

variable {part : σ → τ} {x : Timed σ α}

theorem dependsOn_pure (part : σ → τ) (a : α) : (pure a : Timed σ α).DependsOn part :=
  fun _ _ _ same => ⟨rfl, rfl, same⟩

theorem DependsOn.bind {f : α → Timed σ β} (hx : x.DependsOn part)
    (hf : ∀ a, (f a).DependsOn part) : (x >>= f).DependsOn part := by
  intro now world world' same
  have first := hx now world world' same
  have second := hf (x.run now world).value (now + (x.run now world).spent) _ _ first.world
  simp only [run_bind, ← first.value, ← first.spent]
  exact ⟨second.value, congrArg ((x.run now world).spent + ·) second.spent, second.world⟩

theorem DependsOn.measured (hx : x.DependsOn part) : x.measured.DependsOn part := by
  intro now world world' same
  have h := hx now world world' same
  exact ⟨Prod.ext h.value h.spent, h.spent, h.world⟩

theorem DependsOn.mapM {f : α → Timed σ β} {xs : List α}
    (h : ∀ x ∈ xs, (f x).DependsOn part) : (xs.mapM f).DependsOn part := by
  induction xs with
  | nil => exact dependsOn_pure part []
  | cons x xs ih =>
    obtain ⟨hx, hxs⟩ := List.forall_mem_cons.1 h
    rw [List.mapM_cons]
    exact hx.bind fun b => (ih hxs).bind fun bs => dependsOn_pure part (b :: bs)

theorem keeps_pure (part : σ → τ) (a : α) : (pure a : Timed σ α).Keeps part := fun _ _ => rfl

theorem Keeps.bind {f : α → Timed σ β} (hx : x.Keeps part) (hf : ∀ a, (f a).Keeps part) :
    (x >>= f).Keeps part :=
  fun now world => (hf _ _ _).trans (hx now world)

theorem Keeps.measured (hx : x.Keeps part) : x.measured.Keeps part := hx

theorem Keeps.mapM {f : α → Timed σ β} {xs : List α} (h : ∀ x ∈ xs, (f x).Keeps part) :
    (xs.mapM f).Keeps part := by
  induction xs with
  | nil => exact keeps_pure part []
  | cons x xs ih =>
    obtain ⟨hx, hxs⟩ := List.forall_mem_cons.1 h
    rw [List.mapM_cons]
    exact hx.bind fun b => (ih hxs).bind fun bs => keeps_pure part (b :: bs)

/-- One more computation after a list of them. -/
theorem run_mapM_concat (f : α → Timed σ β) (xs : List α) (x : α) (now : Duration) (world : σ) :
    ((xs ++ [x]).mapM f).run now world =
      let first := (xs.mapM f).run now world
      let last := (f x).run (now + first.spent) first.world
      ⟨first.value ++ [last.value], first.spent + last.spent, last.world⟩ := by
  simp [List.mapM_append]

end Timed
end ComposeHarness
