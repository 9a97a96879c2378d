import ComposeHarness.Proofs.Related
import ComposeHarness.Proofs.Scenario.RunningOrder
import ComposeHarness.Scenario.Suite

/-!
# The verdict on a suite

Only the regular steps of its scenarios have a part in the verdict on a suite: which scenarios
passed, what failed in the others, how many there are of each, and the exit code. How best-effort
steps and cleanups end is noted, and that is all.
-/
namespace ComposeHarness

variable {σ : Type}

/-! ### What came of the steps -/

/-- How a step that was executed has ended. -/
structure StepResult where
  name : String
  kind : StepKind
  ending : Ending
  deriving Repr, DecidableEq

/-- A report without the time that the step took. -/
def StepReport.untimed (r : StepReport) : StepReport := { r with duration := .zero }

namespace StepResult

def isRegular (x : StepResult) : Bool := x.kind = .regular

def report (x : StepResult) : StepReport := ⟨x.name, x.kind, .ofEnding x.kind x.ending, .zero⟩

variable (x : StepResult)

theorem isPass_report : x.report.isPass = decide (x.ending = .done) := by
  obtain ⟨name, kind, ending⟩ := x
  cases ending <;> cases kind <;> rfl

/-- Only a regular step can fail. -/
theorem isFailure_report : x.report.isFailure = (x.isRegular && decide (x.ending ≠ .done)) := by
  obtain ⟨name, kind, ending⟩ := x
  cases ending <;> cases kind <;> rfl

/-- The failure of another step is no more than noted. -/
theorem isCleanupFailure_report :
    x.report.isCleanupFailure = (!x.isRegular && decide (x.ending ≠ .done)) := by
  obtain ⟨name, kind, ending⟩ := x
  cases ending <;> cases kind <;> rfl

end StepResult

/-- Every step has passed, has failed, or its failure is noted. -/
theorem outcomes_perm (steps : List StepReport) :
    (steps.filter StepReport.isPass ++ (steps.filter StepReport.isFailure ++
      steps.filter StepReport.isCleanupFailure)).Perm steps := by
  induction steps with
  | nil => exact .refl _
  | cons r steps ih =>
    obtain ⟨name, kind, outcome, duration⟩ := r
    cases outcome with
    | passed => exact ih.cons _
    | failed => exact List.perm_middle.trans (ih.cons _)
    | cleanupFailed =>
      refine List.Perm.trans ?_ (ih.cons _)
      exact (List.perm_middle.append_left _).trans List.perm_middle

/-! ### One scenario -/

/-- A scenario and the executions of its steps. -/
structure Performance (σ : Type) where
  scenario : Scenario σ
  executions : List Execution

/-- The result of the execution of one of `steps`. -/
def Execution.result? (steps : List (Step σ)) (x : Execution) : Option StepResult :=
  steps[x.step]?.map fun step => ⟨step.name, step.kind, x.ending⟩

namespace Performance

def events (p : Performance σ) : List Event := p.executions.flatMap Execution.events

/-- The results of the steps in the order in which they ran. -/
def results (p : Performance σ) : List StepResult :=
  p.executions.filterMap (Execution.result? p.scenario.steps)

def regularResults (p : Performance σ) : List StepResult := p.results.filter StepResult.isRegular

/-- Every regular step went well. -/
def Flawless (p : Performance σ) : Prop := ∀ x ∈ p.results, x.kind = .regular → x.ending = .done

/-- The report says of every execution what became of it. -/
structure ToldBy (p : Performance σ) (r : ScenarioReport) : Prop where
  name : r.name = p.scenario.name
  endings : p.results.map StepResult.ending = p.executions.map Execution.ending
  steps : r.steps.map StepReport.untimed = p.results.map StepResult.report

end Performance

/-- Where every execution is reported, each has a result. -/
theorem results_of_map_some {steps : List (Step σ)} {xs : List Execution} {rs : List StepReport}
    (h : rs.map some = xs.map (Execution.report? steps)) :
    let results := xs.filterMap (Execution.result? steps)
    results.map StepResult.ending = xs.map Execution.ending ∧
      rs.map StepReport.untimed = results.map StepResult.report := by
  induction xs generalizing rs with
  | nil => simp_all
  | cons x xs ih =>
    obtain ⟨r, rest, rfl, hr, hrest⟩ := List.map_eq_cons_iff.1 h
    obtain ⟨step, hstep, rfl⟩ := Option.map_eq_some_iff.1 hr.symm
    have hx : x.result? steps = some ⟨step.name, step.kind, x.ending⟩ := by
      rw [Execution.result?, hstep, Option.map_some]
    obtain ⟨hendings, hreports⟩ := ih hrest
    rw [List.filterMap_cons_some hx]
    exact ⟨congrArg (x.ending :: ·) hendings, congrArg (StepReport.untimed _ :: ·) hreports⟩

theorem Scenario.toldBy (s : Scenario σ) (now : Duration) (world : σ) :
    Performance.ToldBy ⟨s, s.executions now world⟩ (s.run.run now world).value := by
  have h := map_some_reports s.context
    (fun x (hx : x ∈ placed s.steps) => getElem?_of_mem_placed hx) now world
  rw [map_fst_placed] at h
  obtain ⟨hendings, hreports⟩ := results_of_map_some h
  exact ⟨rfl, hendings, hreports⟩

namespace Performance.ToldBy

variable {p : Performance σ} {r : ScenarioReport}

theorem map_isPass (h : p.ToldBy r) :
    r.steps.map StepReport.isPass = p.results.map fun x => decide (x.ending = .done) := by
  have heq := congrArg (List.map StepReport.isPass) h.steps
  rw [List.map_map, List.map_map] at heq
  exact heq.trans (List.map_congr_left fun x _ => x.isPass_report)

/-- The failures are those of regular steps. -/
theorem map_failures (h : p.ToldBy r) :
    r.failures.map StepReport.untimed =
      (p.regularResults.filter (·.ending ≠ .done)).map StepResult.report := by
  have heq := congrArg (List.filter StepReport.isFailure) h.steps
  rw [List.filter_map, List.filter_map] at heq
  refine Eq.trans heq ?_
  rw [Performance.regularResults, List.filter_filter]
  congr 1
  exact List.filter_congr fun x _ => by simp [StepResult.isFailure_report, Bool.and_comm]

theorem passed_eq (h : p.ToldBy r) :
    r.passed = (p.regularResults.filter (·.ending ≠ .done)).isEmpty := by
  have hfailures : r.passed = r.failures.isEmpty := by
    rw [Bool.eq_iff_iff]
    simp [ScenarioReport.passed, ScenarioReport.failures]
  rw [hfailures, ← List.isEmpty_map (f := StepReport.untimed), h.map_failures, List.isEmpty_map]

theorem passed_iff (h : p.ToldBy r) : r.passed ↔ p.Flawless := by
  rw [h.passed_eq, List.isEmpty_iff, Performance.regularResults, List.filter_filter,
    List.filter_eq_nil_iff]
  refine forall₂_congr fun x _ => ?_
  by_cases hkind : x.kind = .regular <;> simp [StepResult.isRegular, hkind]

/-- What is reported of a step is what is to be reported of a result. -/
theorem exists_result (h : p.ToldBy r) {x : StepReport} (hx : x ∈ r.steps) :
    ∃ y ∈ p.results, y.report = x.untimed :=
  List.mem_map.1 (h.steps ▸ List.mem_map_of_mem hx)

theorem kind_of_failure (h : p.ToldBy r) {x : StepReport} (hx : x ∈ r.failures) :
    x.kind = .regular := by
  obtain ⟨hmem, hfailure⟩ := List.mem_filter.1 hx
  obtain ⟨y, -, hy⟩ := h.exists_result hmem
  have hregular : y.report.isFailure := hy ▸ hfailure
  rw [StepResult.isFailure_report, Bool.and_eq_true] at hregular
  exact (congrArg StepReport.kind hy).symm.trans (of_decide_eq_true hregular.1)

theorem kind_of_cleanupFailure (h : p.ToldBy r) {x : StepReport} (hx : x ∈ r.cleanupFailures) :
    x.kind ≠ .regular := by
  obtain ⟨hmem, hfailure⟩ := List.mem_filter.1 hx
  obtain ⟨y, -, hy⟩ := h.exists_result hmem
  have hother : y.report.isCleanupFailure := hy ▸ hfailure
  rw [StepResult.isCleanupFailure_report, Bool.and_eq_true] at hother
  have hkind : y.kind ≠ .regular := by simpa [StepResult.isRegular] using hother.1
  exact fun hregular => hkind ((congrArg StepReport.kind hy).trans hregular)

end Performance.ToldBy

/-- What a scenario's report makes of its performance. -/
structure Performance.JudgedBy (p : Performance σ) (r : ScenarioReport) : Prop where
  told : p.ToldBy r
  /-- Exactly the steps that went well have passed. -/
  passes : r.steps.map StepReport.isPass = p.results.map fun x => decide (x.ending = .done)
  failures : ∀ x ∈ r.failures, x.kind = .regular
  cleanupFailures : ∀ x ∈ r.cleanupFailures, x.kind = .bestEffort ∨ x.kind = .cleanup
  partition : (r.steps.filter StepReport.isPass ++ (r.failures ++ r.cleanupFailures)).Perm r.steps
  passed : r.passed ↔ p.Flawless

theorem Performance.ToldBy.judgedBy {p : Performance σ} {r : ScenarioReport} (h : p.ToldBy r) :
    p.JudgedBy r where
  told := h
  passes := h.map_isPass
  failures _ hx := h.kind_of_failure hx
  cleanupFailures x hx := by
    have hkind := h.kind_of_cleanupFailure hx
    cases hx : x.kind with
    | regular => exact absurd hx hkind
    | bestEffort => exact .inl rfl
    | cleanup => exact .inr rfl
  partition := outcomes_perm r.steps
  passed := h.passed_iff

/-! ### All scenarios -/

namespace Suite

/-- The performances of scenarios that run one after the other in a world. -/
def performAll : List (Scenario σ) → σ → List (Performance σ)
  | [], _ => []
  | s :: rest, world =>
    ⟨s, s.executions .zero world⟩ :: performAll rest (s.run.run .zero world).world

def performances (s : Suite σ) (world : σ) : List (Performance σ) := performAll s.scenarios world

theorem map_scenario_performAll (scenarios : List (Scenario σ)) (world : σ) :
    (performAll scenarios world).map Performance.scenario = scenarios := by
  induction scenarios generalizing world with
  | nil => rfl
  | cons s rest ih => simp [performAll, ih]

/-- Watching scenarios changes nothing, and the log tells of their performances. -/
theorem runAll_watched (scenarios : List (Scenario σ)) (world : σ) (log : List Event) :
    runAll (scenarios.map Scenario.watched) (world, log) =
      ((runAll scenarios world).1, (runAll scenarios world).2,
        log ++ (performAll scenarios world).flatMap Performance.events) := by
  induction scenarios generalizing world log with
  | nil => simp [runAll, performAll]
  | cons s rest ih =>
    simp [runAll, performAll, Scenario.run_watched, ih, Performance.events]

theorem toldBy_runAll (scenarios : List (Scenario σ)) (world : σ) :
    List.Forall₂ Performance.ToldBy (performAll scenarios world) (runAll scenarios world).1 := by
  induction scenarios generalizing world with
  | nil => exact .nil
  | cons s rest ih => exact .cons (s.toldBy .zero world) (ih _)

end Suite

namespace SuiteReport

variable (r : SuiteReport)

theorem succeeded_iff : r.succeeded ↔ ∀ x ∈ r.scenarios, x.passed := List.all_eq_true

theorem exitCode_eq_zero_iff : r.exitCode = 0 ↔ r.succeeded := by
  unfold exitCode
  split <;> simp_all

theorem passedCount_le : r.passedCount ≤ r.scenarios.length := List.length_filter_le ..

theorem passedCount_add_failedCount : r.passedCount + r.failedCount = r.scenarios.length :=
  Nat.add_sub_cancel' r.passedCount_le

theorem failedCount_eq_zero_iff : r.failedCount = 0 ↔ r.succeeded := by
  have hsum := r.passedCount_add_failedCount
  have hall : r.passedCount = r.scenarios.length ↔ ∀ x ∈ r.scenarios, x.passed :=
    List.length_filter_eq_length_iff
  rw [succeeded_iff, ← hall]
  omega

/-- The verdicts of two reports are the same: which scenarios passed, what failed and how, and all
that is counted. -/
structure SameVerdict (r r' : SuiteReport) : Prop where
  passed : r.scenarios.map ScenarioReport.passed = r'.scenarios.map ScenarioReport.passed
  failures : r.scenarios.map (·.failures.map StepReport.untimed) =
    r'.scenarios.map (·.failures.map StepReport.untimed)
  passedCount : r.passedCount = r'.passedCount
  failedCount : r.failedCount = r'.failedCount
  succeeded : r.succeeded = r'.succeeded
  exitCode : r.exitCode = r'.exitCode

variable {r} {r' : SuiteReport}

theorem SameVerdict.of_passed
    (passed : r.scenarios.map ScenarioReport.passed = r'.scenarios.map ScenarioReport.passed)
    (failures : r.scenarios.map (·.failures.map StepReport.untimed) =
      r'.scenarios.map (·.failures.map StepReport.untimed)) : SameVerdict r r' := by
  have hcount : r.passedCount = r'.passedCount := by
    have h := congrArg (List.countP id) passed
    rw [List.countP_map, List.countP_map] at h
    simpa [SuiteReport.passedCount, ← List.countP_eq_length_filter] using h
  have hsucceeded : r.succeeded = r'.succeeded := by
    have h := congrArg (List.all · id) passed
    simpa [SuiteReport.succeeded, List.all_map] using h
  have hlength : r.scenarios.length = r'.scenarios.length := by
    simpa using congrArg List.length passed
  refine ⟨passed, failures, hcount, ?_, hsucceeded, ?_⟩
  · rw [SuiteReport.failedCount, SuiteReport.failedCount, hlength, hcount]
  · rw [SuiteReport.exitCode, SuiteReport.exitCode, hsucceeded]

end SuiteReport

namespace Suite

theorem toldBy_run (s : Suite σ) (world : σ) :
    List.Forall₂ Performance.ToldBy (s.performances world) (s.run world).report.scenarios :=
  toldBy_runAll s.scenarios world

theorem length_scenarios_run (s : Suite σ) (world : σ) :
    (s.run world).report.scenarios.length = s.size := by
  have hscenarios := congrArg List.length (map_scenario_performAll s.scenarios world)
  rw [List.length_map] at hscenarios
  exact (s.toldBy_run world).length_eq.symm.trans hscenarios

/-- Which scenarios pass is a matter of the results of their regular steps. -/
theorem map_passed_run (s : Suite σ) (world : σ) :
    (s.run world).report.scenarios.map ScenarioReport.passed =
      ((s.performances world).map Performance.regularResults).map
        fun xs => (xs.filter (·.ending ≠ .done)).isEmpty := by
  rw [List.map_map]
  exact map_eq_map_of_forall₂ (s.toldBy_run world) fun _ _ told => told.passed_eq

/-- So is what fails in them. -/
theorem map_failures_run (s : Suite σ) (world : σ) :
    (s.run world).report.scenarios.map (·.failures.map StepReport.untimed) =
      ((s.performances world).map Performance.regularResults).map
        fun xs => (xs.filter (·.ending ≠ .done)).map StepResult.report := by
  rw [List.map_map]
  exact map_eq_map_of_forall₂ (s.toldBy_run world) fun _ _ told => told.map_failures

theorem sameVerdict_of_regularResults {s s' : Suite σ} {world world' : σ}
    (same : (s.performances world).map Performance.regularResults =
      (s'.performances world').map Performance.regularResults) :
    SuiteReport.SameVerdict (s.run world).report (s'.run world').report := by
  refine .of_passed ?_ ?_
  · rw [map_passed_run, map_passed_run, same]
  · rw [map_failures_run, map_failures_run, same]

theorem succeeded_run_iff (s : Suite σ) (world : σ) :
    (s.run world).report.succeeded ↔ ∀ p ∈ s.performances world, p.Flawless := by
  have heq := map_eq_map_of_forall₂ (f := Performance.Flawless) (g := (·.passed = true))
    (s.toldBy_run world) fun _ _ told => propext told.passed_iff
  have hall : (∀ h ∈ (s.run world).report.scenarios.map (·.passed = true), h) ↔
      ∀ h ∈ (s.performances world).map Performance.Flawless, h := by rw [heq]
  rwa [List.forall_mem_map, List.forall_mem_map, ← SuiteReport.succeeded_iff] at hall

/-- Every step of a suite is judged by its kind and by how its action ended, and the suite by its
regular steps. Here the performances of its scenarios are what somebody who watches them sees. -/
theorem regular_steps_decide (s : Suite σ) (world : σ) :
    let r := (s.run world).report
    let ps := s.performances world
    (ps.map Performance.scenario = s.scenarios ∧
      runAll (s.scenarios.map Scenario.watched) (world, []) =
        (r.scenarios, (s.run world).world, ps.flatMap Performance.events)) ∧
    List.Forall₂ Performance.JudgedBy ps r.scenarios ∧
    (r.succeeded ↔ ∀ p ∈ ps, p.Flawless) ∧
    (r.exitCode = 0 ↔ ∀ p ∈ ps, p.Flawless) ∧
    (r.failedCount = 0 ↔ ∀ p ∈ ps, p.Flawless) ∧
    (r.passedCount ≤ s.size ∧ r.passedCount + r.failedCount = s.size) ∧
    ∀ (s' : Suite σ) (world' : σ),
      ps.map Performance.regularResults =
        (s'.performances world').map Performance.regularResults →
      SuiteReport.SameVerdict r (s'.run world').report := by
  intro r ps
  have hsucceeded := s.succeeded_run_iff world
  have hlength := s.length_scenarios_run world
  refine ⟨⟨map_scenario_performAll s.scenarios world, runAll_watched s.scenarios world []⟩,
    (s.toldBy_run world).imp fun _ _ h => h.judgedBy, hsucceeded,
    r.exitCode_eq_zero_iff.trans hsucceeded, r.failedCount_eq_zero_iff.trans hsucceeded,
    ⟨hlength ▸ r.passedCount_le, hlength ▸ r.passedCount_add_failedCount⟩,
    fun s' world' same => sameVerdict_of_regularResults same⟩

/-- A regular step that is all right, and two others that end as the world says. -/
def forgiving : Suite (Ending × Ending) where
  scenarios := [{
    name := "forgiving"
    session := .ofBinary ⟨"docker"⟩
    project := ⟨"forgiving"⟩
    steps := [
      ⟨"remove", .cleanup, fun _ => do return (← Timed.get).1⟩,
      ⟨"warm", .bestEffort, fun _ => do return (← Timed.get).2⟩,
      ⟨"up", .regular, fun _ => pure .done⟩] }]

/-- The verdict is the same whether the two go well or not. -/
theorem forgiving_regular_steps_decide :
    let well := (Ending.done, Ending.done)
    let badly := (Ending.panicked .opaqueValue, Ending.failed (.config "cold"))
    (forgiving.run badly).report.scenarios.map (·.cleanupFailures.map (·.name)) =
        [["warm", "remove"]] ∧
      (forgiving.performances well).map Performance.regularResults =
        (forgiving.performances badly).map Performance.regularResults ∧
      SuiteReport.SameVerdict (forgiving.run well).report (forgiving.run badly).report := by
  intro well badly
  have same : (forgiving.performances well).map Performance.regularResults =
      (forgiving.performances badly).map Performance.regularResults := by decide
  obtain ⟨-, -, -, -, -, -, hverdict⟩ := regular_steps_decide forgiving well
  exact ⟨by decide, same, hverdict forgiving badly same⟩

end Suite
end ComposeHarness
