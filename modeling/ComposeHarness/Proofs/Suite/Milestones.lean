import ComposeHarness.Proofs.Related
import ComposeHarness.Proofs.ScenarioFile.Calls
import ComposeHarness.Proofs.Scenario.RunningOrder
import ComposeHarness.ScenarioFile.Loading

/-!
# Milestones of a run

The milestones of a run are what is done at the host, the moment at which the suite is built, and
the end of each step. A suite on a watched host shadows the one on the host itself: every step does
the same, and notes the commands and requests that it makes.
-/
namespace ComposeHarness

open Watched (AllOf Follows FollowsChange)

variable {σ : Type}

inductive Milestone where
  | called (call : HostCall)
  | building
  /-- The step at a place of the scenario at a place has ended. -/
  | ended (scenario step : Nat)

deriving instance DecidableEq for HostCall, Milestone

namespace Milestone

/-- The place of the step that has ended, if it is one of the scenario at place `i`. -/
def endedIn? (i : Nat) : Milestone → Option Nat
  | .ended k j => if k = i then some j else none
  | _ => none

/-- A command or a request. -/
inductive IsReach : Milestone → Prop where
  | called {call : HostCall} (h : call.IsReach) : IsReach (.called call)

/-- What steps do, and that they have ended. -/
inductive InSuite : Milestone → Prop where
  | reach {m : Milestone} (h : m.IsReach) : InSuite m
  | ended (i j : Nat) : InSuite (.ended i j)

end Milestone

/-- The steps of the scenario at place `i` that have ended, in the order of their ends. -/
def endingsOf (i : Nat) (log : List Milestone) : List Nat := log.filterMap (Milestone.endedIn? i)

@[simp] theorem endingsOf_append (i : Nat) (log later : List Milestone) :
    endingsOf i (log ++ later) = endingsOf i log ++ endingsOf i later :=
  List.filterMap_append

theorem endingsOf_reach (i : Nat) {log : List Milestone} (h : AllOf Milestone.IsReach log) :
    endingsOf i log = [] := by
  refine List.filterMap_eq_nil_iff.2 fun m hm => ?_
  cases h m hm
  rfl

/-- The log of a part of a suite: what its steps do, and for each scenario which of them end. -/
structure Tells (endings : Nat → List Nat) (log : List Milestone) : Prop where
  inSuite : AllOf Milestone.InSuite log
  endings : ∀ i, endingsOf i log = endings i

/-- Endings of one scenario only. -/
def endingsAt (i : Nat) (js : List Nat) : Nat → List Nat := fun k => if k = i then js else []

theorem Tells.append {f g h : Nat → List Nat} {log later : List Milestone} (hf : Tells f log)
    (hg : Tells g later) (sum : ∀ i, f i ++ g i = h i) : Tells h (log ++ later) where
  inSuite := hf.inSuite.append hg.inSuite
  endings i := by rw [endingsOf_append, hf.endings, hg.endings, sum]

theorem Tells.nil {f : Nat → List Nat} (h : ∀ i, f i = []) : Tells f [] :=
  ⟨Watched.allOf_nil _, fun i => (h i).symm⟩

/-! ### Suites that note the ends of their steps -/

/-- The step at place `j` of the scenario at place `i`, with a note of its end. -/
def Step.noted (i j : Nat) (step : Step (Watched Milestone σ)) : Step (Watched Milestone σ) :=
  { step with
    action := fun ctx => do
      let ending ← step.action ctx
      Watched.note (.ended i j)
      return ending }

def Scenario.noted (i : Nat) (s : Scenario (Watched Milestone σ)) :
    Scenario (Watched Milestone σ) :=
  { s with steps := s.steps.zipIdx.map fun x => x.1.noted i x.2 }

def Suite.noted (s : Suite (Watched Milestone σ)) : Suite (Watched Milestone σ) :=
  { s with scenarios := s.scenarios.zipIdx.map fun x => x.1.noted x.2 }

/-- The noted steps run in the same order. -/
theorem Scenario.order_noted (i : Nat) (s : Scenario (Watched Milestone σ)) :
    order (s.noted i).steps = (placed s.steps).map fun x => x.1.noted i x.2 := by
  rw [Scenario.noted, order_eq_putOff, putOff_map]
  rfl

/-! ### Suites that shadow others -/

/-- A step that does what another does, and notes its commands and requests. -/
structure Step.Shadows (w : Step (Watched Milestone σ)) (s : Step σ) : Prop where
  name : w.name = s.name
  kind : w.kind = s.kind
  action : ∀ ctx, Follows (AllOf Milestone.IsReach) (w.action ctx) (s.action ctx)

structure Scenario.Shadows (w : Scenario (Watched Milestone σ)) (s : Scenario σ) : Prop where
  context : w.context = s.context
  steps : List.Forall₂ Step.Shadows w.steps s.steps

structure Suite.Shadows (w : Suite (Watched Milestone σ)) (s : Suite σ) : Prop where
  maxParallel : w.maxParallel = s.maxParallel
  scenarios : List.Forall₂ Scenario.Shadows w.scenarios s.scenarios

/-- A suite in a watched world, whose steps do not reach the log. -/
def Suite.lifted (s : Suite σ) : Suite (Watched Milestone σ) where
  maxParallel := s.maxParallel
  scenarios := s.scenarios.map fun scenario =>
    { name := scenario.name
      session := scenario.session
      project := scenario.project
      naming := scenario.naming
      poll := scenario.poll
      steps := scenario.steps.map fun step =>
        ⟨step.name, step.kind, fun ctx => Watched.lift (step.action ctx)⟩ }

theorem Suite.shadows_lifted (s : Suite σ) : s.lifted.Shadows s where
  maxParallel := rfl
  scenarios := forall₂_map_self fun _ _ =>
    ⟨rfl, forall₂_map_self fun _ _ =>
      ⟨rfl, rfl, fun _ => Watched.follows_lift (Watched.allOf_nil _) _⟩⟩

/-! ### Suites of files -/

/-- Of two outcomes, both are the same failure, or both are values in a relation. -/
inductive Alike {α β : Type} (R : α → β → Prop) : Except Failure α → Except Failure β → Prop where
  | error (failure : Failure) : Alike R (.error failure) (.error failure)
  | ok {a : α} {b : β} (h : R a b) : Alike R (.ok a) (.ok b)

theorem Alike.map {α β γ δ : Type} {R : α → β → Prop} {S : γ → δ → Prop} {x : Except Failure α}
    {y : Except Failure β} {f : α → γ} {g : β → δ} (h : Alike R x y)
    (hfg : ∀ a b, R a b → S (f a) (g b)) : Alike S (x.map f) (y.map g) := by
  cases h with
  | error failure => exact .error failure
  | ok h => exact .ok (hfg _ _ h)

namespace ScenarioFile

variable (host : Host σ)

/-- On a watched host, the steps of a file shadow those on the host itself. -/
theorem shadows_toSteps (f : ScenarioFile) :
    List.Forall₂ Step.Shadows (f.toSteps (host.watched .called)) (f.toSteps host) := by
  have hstep : ∀ (d : StepDefinition) (kind : StepKind),
      Step.Shadows (d.toStep (host.watched .called) kind) (d.toStep host kind) := fun d kind =>
    ⟨rfl, rfl, d.follows_action (fun _ reach => .called reach) host kind⟩
  refine List.rel_append ?_ ?_
  · simp only [List.forall₂_map_left_iff, List.forall₂_map_right_iff, List.forall₂_same]
    exact fun d _ => hstep d _
  · simp only [List.forall₂_map_left_iff, List.forall₂_map_right_iff, List.forall₂_same]
    exact fun d _ => hstep d _

theorem alike_toScenario (f : ScenarioFile) (session : Session) (config : Config)
    (seed : BitVec 32) :
    Alike Scenario.Shadows (f.toScenario (host.watched .called) session config seed)
      (f.toScenario host session config seed) := by
  unfold toScenario
  cases f.projectId seed with
  | error failure => exact .error failure
  | ok project => exact .ok ⟨rfl, f.shadows_toSteps host⟩

theorem toScenarios_cons (session : Session) (config : Config) (f : ScenarioFile)
    (rest : List ScenarioFile) (world : σ) :
    toScenarios host session config (f :: rest) world =
      let drawn := host.seed world
      match f.toScenario host session config drawn.1 with
      | .error failure => (.error failure, drawn.2)
      | .ok scenario =>
        let later := toScenarios host session config rest drawn.2
        (later.1.map (scenario :: ·), later.2) := rfl

/-- Binding files on a watched host leaves the log alone. -/
theorem alike_toScenarios (session : Session) (config : Config) (files : List ScenarioFile)
    (world : σ) (past : List Milestone) :
    let made := toScenarios (host.watched .called) session config files (world, past)
    let plain := toScenarios host session config files world
    Alike (List.Forall₂ Scenario.Shadows) made.1 plain.1 ∧ made.2 = (plain.2, past) := by
  induction files generalizing world with
  | nil => exact ⟨.ok .nil, rfl⟩
  | cons f rest ih =>
    have hseed : (host.watched Milestone.called).seed (world, past) =
        ((host.seed world).1, ((host.seed world).2, past)) := rfl
    have hfirst := f.alike_toScenario host session config (host.seed world).1
    obtain ⟨hrest, hworld⟩ := ih (host.seed world).2
    simp only [toScenarios_cons, hseed]
    generalize f.toScenario (host.watched Milestone.called) session config (host.seed world).1 =
      made at hfirst ⊢
    generalize f.toScenario host session config (host.seed world).1 = plain at hfirst ⊢
    cases hfirst with
    | error failure => exact ⟨.error failure, rfl⟩
    | ok hshadows => exact ⟨hrest.map fun _ _ h => .cons hshadows h, hworld⟩

theorem alike_toSuite (session : Session) (config : Config) (files : List ScenarioFile)
    (world : σ) (past : List Milestone) :
    let made := toSuite (host.watched .called) session config files (world, past)
    let plain := toSuite host session config files world
    Alike Suite.Shadows made.1 plain.1 ∧ made.2 = (plain.2, past) := by
  obtain ⟨halike, hworld⟩ := alike_toScenarios host session config files world past
  exact ⟨halike.map fun _ _ h => ⟨rfl, h⟩, hworld⟩

end ScenarioFile
end ComposeHarness
