import ComposeHarness.Proofs.Watched
import ComposeHarness.Scenario.Basic

/-!
# Watching a scenario run

Each step of a watched scenario notes when its action begins, performs the action, and notes when
and how it ended. Watching changes neither the report nor the world, so the log tells what the
scenario itself does.
-/
namespace ComposeHarness

variable {σ : Type}

/-- What a watcher notes. A step is known by its place in the order of registration. -/
inductive Event where
  | began (step : Nat) (time : Duration)
  | ended (step : Nat) (time : Duration) (ending : Ending)
  deriving Repr, DecidableEq

/-- The step at place `i`, watched. -/
def Step.watched (i : Nat) (step : Step σ) : Step (Watched Event σ) where
  name := step.name
  kind := step.kind
  action ctx := do
    Watched.note (.began i (← Timed.now))
    let ending ← Watched.lift (step.action ctx)
    Watched.note (.ended i (← Timed.now) ending)
    return ending

def Scenario.watched (s : Scenario σ) : Scenario (Watched Event σ) :=
  { name := s.name
    session := s.session
    project := s.project
    naming := s.naming
    poll := s.poll
    steps := s.steps.mapIdx Step.watched }

/-- One execution of a step: when its action began, and when and how it ended. -/
structure Execution where
  step : Nat
  start : Duration
  finish : Duration
  ending : Ending
  deriving Repr, DecidableEq

namespace Execution

def events (x : Execution) : List Event :=
  [.began x.step x.start, .ended x.step x.finish x.ending]

/-- What is to be reported of the execution of one of `steps`. -/
def report? (steps : List (Step σ)) (x : Execution) : Option StepReport :=
  steps[x.step]?.map fun step =>
    ⟨step.name, step.kind, .ofEnding step.kind x.ending, x.finish - x.start⟩

/-- Executions that follow each other without a gap or an overlap. -/
inductive Unbroken : Duration → List Execution → Duration → Prop where
  | nil (now : Duration) : Unbroken now [] now
  | cons {x : Execution} {xs : List Execution} {finish : Duration} (h : x.start ≤ x.finish)
      (rest : Unbroken x.finish xs finish) : Unbroken x.start (x :: xs) finish

/-- The executions of steps, each with its place, one after the other. -/
def all (ctx : Context) : List (Step σ × Nat) → Duration → σ → List Execution
  | [], _, _ => []
  | (step, i) :: rest, now, world =>
    let span := (step.action ctx).run now world
    ⟨i, now, now + span.spent, span.value⟩ :: all ctx rest (now + span.spent) span.world

theorem map_step_all (ctx : Context) (xs : List (Step σ × Nat)) (now : Duration) (world : σ) :
    (all ctx xs now world).map Execution.step = xs.map (·.2) := by
  induction xs generalizing now world with
  | nil => rfl
  | cons x rest ih => simp [all, ih]

end Execution

theorem Step.run_run (ctx : Context) (step : Step σ) (now : Duration) (world : σ) :
    (step.run ctx).run now world =
      let span := (step.action ctx).run now world
      ⟨⟨step.name, step.kind, .ofEnding step.kind span.value, span.spent⟩, span.spent,
        span.world⟩ := by
  simp [Step.run]

theorem Step.run_watched (ctx : Context) (step : Step σ) (i : Nat) (now : Duration) (world : σ)
    (log : List Event) :
    ((step.watched i).run ctx).run now (world, log) =
      let span := (step.action ctx).run now world
      ⟨((step.run ctx).run now world).value, span.spent,
        (span.world, log ++ [.began i now, .ended i (now + span.spent) span.value])⟩ := by
  simp [Step.run_run, Step.watched]

/-- Steps run one after the other in a watched world do what they do unwatched, and their log
tells of all executions. -/
theorem mapM_run_watched (ctx : Context) (xs : List (Step σ × Nat)) (now : Duration) (world : σ)
    (log : List Event) :
    ((xs.map fun x => x.1.watched x.2).mapM (Step.run ctx)).run now (world, log) =
      let span := ((xs.map (·.1)).mapM (Step.run ctx)).run now world
      ⟨span.value, span.spent,
        (span.world, log ++ (Execution.all ctx xs now world).flatMap Execution.events)⟩ := by
  induction xs generalizing now world log with
  | nil => simp [Execution.all]
  | cons x rest ih =>
    simp only [List.map_cons, Timed.run_mapM_cons, Step.run_watched, ih]
    simp only [Step.run_run, Execution.all, List.flatMap_cons, Execution.events,
      List.append_assoc]

/-- The executions fill the time that the steps take. -/
theorem unbroken_all (ctx : Context) (xs : List (Step σ × Nat)) (now : Duration) (world : σ) :
    Execution.Unbroken now (Execution.all ctx xs now world)
      (now + (((xs.map (·.1)).mapM (Step.run ctx)).run now world).spent) := by
  induction xs generalizing now world with
  | nil => simpa [Execution.all] using Execution.Unbroken.nil now
  | cons x rest ih =>
    obtain ⟨step, i⟩ := x
    have h := ih (now + ((step.action ctx).run now world).spent)
      ((step.action ctx).run now world).world
    simp only [List.map_cons, Timed.run_mapM_cons, Step.run_run, ← Duration.add_assoc]
    exact .cons (x := ⟨i, now, _, _⟩) (Nat.le_add_right ..) h

/-- Each report is that of the execution at its place. -/
theorem map_some_reports (ctx : Context) {steps : List (Step σ)} {xs : List (Step σ × Nat)}
    (h : ∀ x ∈ xs, steps[x.2]? = some x.1) (now : Duration) (world : σ) :
    (((xs.map (·.1)).mapM (Step.run ctx)).run now world).value.map some =
      (Execution.all ctx xs now world).map (Execution.report? steps) := by
  induction xs generalizing now world with
  | nil => rfl
  | cons x rest ih =>
    have hx := h x (by simp)
    have hrest := ih (fun y hy => h y (by simp [hy]))
    simp only [List.map_cons, Timed.run_mapM_cons, Step.run_run, Execution.all,
      Execution.report?, hx, hrest, Option.map_some, Duration.add_sub_cancel_left]

end ComposeHarness
