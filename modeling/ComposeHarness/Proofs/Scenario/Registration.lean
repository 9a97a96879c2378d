import ComposeHarness.Scenario.Basic

/-!
# Scenarios built by registrations

A scenario is built by calls that each register one more step: a regular one, a best-effort one or
a cleanup. Whatever the order of the calls, the scenario holds the steps in that order.
-/
namespace ComposeHarness

variable {σ : Type}

/-- One call that registers a step. -/
inductive Registration (σ : Type) where
  | step (name : String) (action : Context → Timed σ Ending)
  | bestEffort (name : String) (action : Context → Timed σ Ending)
  | cleanup (name : String) (action : Context → Timed σ Ending)

def Registration.toStep : Registration σ → Step σ
  | .step name action => ⟨name, .regular, action⟩
  | .bestEffort name action => ⟨name, .bestEffort, action⟩
  | .cleanup name action => ⟨name, .cleanup, action⟩

namespace Scenario

def register (s : Scenario σ) : Registration σ → Scenario σ
  | .step name action => s.step name action
  | .bestEffort name action => s.bestEffort name action
  | .cleanup name action => s.cleanup name action

/-- Makes the calls one after the other. -/
def registerAll (s : Scenario σ) (calls : List (Registration σ)) : Scenario σ :=
  calls.foldl register s

@[simp] theorem register_eq_push (s : Scenario σ) (call : Registration σ) :
    s.register call = s.push call.toStep := by
  cases call <;> rfl

theorem registerAll_eq (s : Scenario σ) (calls : List (Registration σ)) :
    s.registerAll calls = { s with steps := s.steps ++ calls.map Registration.toStep } := by
  induction calls generalizing s with
  | nil => simp [registerAll]
  | cons call calls ih =>
    have h := ih (s.register call)
    simpa [registerAll, push] using h

end Scenario
end ComposeHarness
