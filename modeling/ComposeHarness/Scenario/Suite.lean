import ComposeHarness.Scenario.Basic

/-!
# Suites

A suite runs its scenarios side by side, at most a given number at a time; zero means all at once.
Waiting scenarios start in the order of their registration, each as soon as a slot is free. The
reports keep that order, whatever ends first.
-/
namespace ComposeHarness

/-! ### Start times of jobs that share slots -/

namespace Schedule

/-- The earliest of some times, and the others. -/
def takeLeast (first : Nat) : List Nat → Nat × List Nat
  | [] => (first, [])
  | t :: ts =>
    let (least, others) := takeLeast t ts
    if first ≤ least then (first, least :: others) else (least, first :: others)

/-- Each job starts when the earliest slot is free, and takes it for its duration. The first two
arguments hold, for each slot, the time from which on it is free. -/
def assign (slot : Nat) (slots : List Nat) : List Nat → List Nat
  | [] => []
  | d :: ds =>
    let (start, others) := takeLeast slot slots
    start :: assign (start + d) others ds

/-- The start times of jobs with these durations on `cap` slots. There are never more slots than
jobs, and a cap of zero gives each job its own. -/
def starts (cap : Nat) (durations : List Nat) : List Nat :=
  if cap = 0 then durations.map (fun _ => 0)
  else assign 0 (List.replicate (min cap durations.length - 1) 0) durations

/-- The time at which the last job has ended. -/
def makespan (starts durations : List Nat) : Nat :=
  (List.zipWith (· + ·) starts durations).foldl max 0

end Schedule

structure Suite (σ : Type) where
  scenarios : List (Scenario σ) := []
  maxParallel : Nat := 0

/-- A finished suite: its report, when each scenario started, and the world it leaves behind. -/
structure SuiteRun (σ : Type) where
  report : SuiteReport
  starts : List Duration
  world : σ

namespace Suite

variable {σ : Type}

def push (s : Suite σ) (scenario : Scenario σ) : Suite σ :=
  { s with scenarios := s.scenarios ++ [scenario] }

def size (s : Suite σ) : Nat := s.scenarios.length

def isEmpty (s : Suite σ) : Bool := s.scenarios.isEmpty

/-- Runs scenarios one after the other in a world, each with a clock of its own. -/
def runAll : List (Scenario σ) → σ → List ScenarioReport × σ
  | [], world => ([], world)
  | s :: rest, world =>
    let span := s.run.run .zero world
    let (reports, last) := runAll rest span.world
    (span.value :: reports, last)

/-- Runs every scenario and collects the reports in the order of registration. A scenario's own
report does not depend on how long it waits for a slot. -/
def run (s : Suite σ) (world : σ) : SuiteRun σ :=
  let (reports, last) := runAll s.scenarios world
  let durations := reports.map (fun r => r.duration.nanos)
  let starts := Schedule.starts s.maxParallel durations
  ⟨⟨reports, ⟨Schedule.makespan starts durations⟩⟩, starts.map Duration.mk, last⟩

end Suite
end ComposeHarness
