import ComposeHarness.Duration

/-!
# Computations that take time

A timed computation is given the time that has passed so far and a world; it gives a value, how long
it took and the world it leaves behind. Time only grows, because a computation says what it spends
and not when it ends.
-/
namespace ComposeHarness

/-- What a computation gives: its value, the time it took, and the world after it. -/
structure Span (σ α : Type) where
  value : α
  spent : Duration
  world : σ

/-- A computation in a world `σ`, started at a time. -/
def Timed (σ α : Type) : Type := Duration → σ → Span σ α

namespace Timed

variable {σ α β : Type}

def run (x : Timed σ α) (now : Duration) (world : σ) : Span σ α := x now world

@[ext] theorem ext {x y : Timed σ α} (h : ∀ now world, x.run now world = y.run now world) :
    x = y :=
  funext fun now => funext fun world => h now world

instance : Monad (Timed σ) where
  pure a := fun _ world => ⟨a, .zero, world⟩
  bind x f := fun now world =>
    let first := x now world
    let second := f first.value (now + first.spent) first.world
    ⟨second.value, first.spent + second.spent, second.world⟩

@[simp] theorem run_pure (a : α) (now : Duration) (world : σ) :
    (pure a : Timed σ α).run now world = ⟨a, .zero, world⟩ := rfl

@[simp] theorem run_bind (x : Timed σ α) (f : α → Timed σ β) (now : Duration) (world : σ) :
    (x >>= f).run now world =
      ⟨((f (x.run now world).value).run (now + (x.run now world).spent)
          (x.run now world).world).value,
        (x.run now world).spent +
          ((f (x.run now world).value).run (now + (x.run now world).spent)
            (x.run now world).world).spent,
        ((f (x.run now world).value).run (now + (x.run now world).spent)
          (x.run now world).world).world⟩ := rfl

@[simp] theorem run_map (f : α → β) (x : Timed σ α) (now : Duration) (world : σ) :
    (f <$> x).run now world =
      ⟨f (x.run now world).value, (x.run now world).spent, (x.run now world).world⟩ := rfl

instance : LawfulMonad (Timed σ) := LawfulMonad.mk' _
  (fun x => by
    apply Timed.ext
    intro now world
    show Span.mk (x.run now world).value ((x.run now world).spent + .zero)
      (x.run now world).world = x.run now world
    rw [Duration.add_zero])
  (fun a f => by
    apply Timed.ext
    intro now world
    simp only [run_bind, run_pure, Duration.add_zero, Duration.zero_add])
  (fun x f g => by
    apply Timed.ext
    intro now world
    simp only [run_bind, Duration.add_assoc])

/-- A list of computations runs one after the other. -/
theorem run_mapM_cons (f : α → Timed σ β) (x : α) (xs : List α) (now : Duration) (world : σ) :
    ((x :: xs).mapM f).run now world =
      let first := (f x).run now world
      let rest := (xs.mapM f).run (now + first.spent) first.world
      ⟨first.value :: rest.value, first.spent + rest.spent, rest.world⟩ := by
  simp

/-- The time that has passed when the computation starts. -/
def now : Timed σ Duration := fun now world => ⟨now, .zero, world⟩

@[simp] theorem run_now (time : Duration) (world : σ) :
    (now : Timed σ Duration).run time world = ⟨time, .zero, world⟩ := rfl

/-- Lets time pass. -/
def wait (d : Duration) : Timed σ Unit := fun _ world => ⟨(), d, world⟩

def get : Timed σ σ := fun _ world => ⟨world, .zero, world⟩

def modify (f : σ → σ) : Timed σ Unit := fun _ world => ⟨(), .zero, f world⟩

@[simp] theorem run_modify (f : σ → σ) (now : Duration) (world : σ) :
    (modify f).run now world = ⟨(), .zero, f world⟩ := rfl

/-- A step that takes no time. -/
def ofState (f : σ → α × σ) : Timed σ α := fun _ world =>
  let (a, next) := f world
  ⟨a, .zero, next⟩

theorem run_ofState (f : σ → α × σ) (now : Duration) (world : σ) :
    (ofState f).run now world = ⟨(f world).1, .zero, (f world).2⟩ := rfl

/-- A computation together with the time it took. -/
def measured (x : Timed σ α) : Timed σ (α × Duration) := fun now world =>
  let span := x now world
  ⟨(span.value, span.spent), span.spent, span.world⟩

@[simp] theorem run_measured (x : Timed σ α) (now : Duration) (world : σ) :
    x.measured.run now world =
      ⟨((x.run now world).value, (x.run now world).spent), (x.run now world).spent,
        (x.run now world).world⟩ := rfl

end Timed
end ComposeHarness
