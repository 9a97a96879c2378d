import ComposeHarness.Proofs.Naming.Slug
import ComposeHarness.Proofs.Scenario.RunningOrder
import ComposeHarness.Proofs.ScenarioFile.Offences
import ComposeHarness.Proofs.ScenarioFile.StepCourse
import ComposeHarness.ScenarioFile.Loading

/-!
# Files bound to sessions

A file that passes its checks can be bound to every session and configuration. The scenario has the
file's project or a generated one, and a session with the file's directory and variables. It runs the
steps of the file in their order and then the cleanups, the last one first. Each takes the course of
its own actions, and their calls are all that a watched host notes.
-/
namespace ComposeHarness

open Watched (AllOf)

variable {σ : Type}

/-! ### Projects -/

namespace ProjectId

theorem accepted_of_ofString? {id : String} {p : ProjectId} (h : ofString? id = .ok p) :
    p.Accepted ∧ p.text = id := by
  have htext : p.text = id := by
    unfold ofString? at h
    split at h
    · cases h
    · split at h <;> cases h
      rfl
  exact ⟨by rw [Accepted, htext, h], htext⟩

theorem accepted_generate (name : String) (seed : BitVec 32) : (generate name seed).Accepted := by
  obtain ⟨runs, h⟩ := Text.exists_runs Char.isAlphanum name.toList
  exact accepted_of_isStem (isStem_stemOf h.forall_mem) seed (text_generate h seed)

end ProjectId

/-! ### Directories -/

namespace Path

variable {p q : Path}

theorem isEmpty_of_isAbsolute (h : p.isAbsolute) : p.isEmpty = false := by
  cases hp : p.isEmpty with
  | false => rfl
  | true =>
    rw [isEmpty, String.isEmpty_iff] at hp
    simp [isAbsolute, hp] at h

/-- A path that is taken relative to a directory starts with it; one slash comes in between. -/
theorem text_join (relative : p.isAbsolute = false) (full : q.isEmpty = false) :
    (q.join p).text =
      q.text ++ (if q.text.toList.getLast? = some '/' then "" else "/") ++ p.text := by
  by_cases slash : q.text.toList.getLast? = some '/' <;> simp [join, relative, full, slash]

theorem isEmpty_join (full : q.isEmpty = false) : (q.join p).isEmpty = false := by
  cases h : p.isAbsolute with
  | true => rw [join_absolute h, isEmpty_of_isAbsolute h]
  | false =>
    have htext : q.text ≠ "" := by simpa [isEmpty] using full
    rw [isEmpty, text_join h full]
    simp [htext]

end Path

/-! ### Variables -/

namespace Session

theorem withVariables_eq (s : Session) (vars : List (String × String)) :
    s.withVariables vars = { s with env := vars.foldl (fun d v => d.insert v.1 v.2) s.env } := by
  induction vars generalizing s with
  | nil => rfl
  | cons v vars ih =>
    rw [withVariables, List.foldl_cons]
    exact ih (s.withVariable v.1 v.2)

/-- The variables of a dictionary win over those of the session, key by key. -/
theorem get?_withVariables (s : Session) (vars : Dict String) (key : String) :
    (s.withVariables vars.entries).env.get? key = (vars.get? key).or (s.env.get? key) := by
  rw [withVariables_eq]
  exact Dict.get?_foldl_insert vars.sorted s.env key

end Session

/-! ### Turns -/

/-- The kind under which a step of a file runs. -/
def StepDefinition.stepKind (d : StepDefinition) : StepKind :=
  if d.bestEffort then .bestEffort else .regular

/-- Runs definitions one after the other, each under a kind. -/
def runTurns (host : Host σ) (ctx : Context) (turns : List (StepKind × StepDefinition)) :
    Timed σ (List StepReport) :=
  (turns.map fun t => t.2.toStep host t.1).mapM (Step.run ctx)

/-- The first definition performs its actions, and the others go on from there. -/
theorem runTurns_cons_run (host : Host σ) (ctx : Context) (kind : StepKind) (d : StepDefinition)
    (turns : List (StepKind × StepDefinition)) (now : Duration) (world : σ) :
    (runTurns host ctx ((kind, d) :: turns)).run now world =
      let span := (Action.performAll host ctx d.actions).run.run now world
      let later := (runTurns host ctx turns).run (now + span.spent) span.world
      ⟨⟨d.name, kind, .ofEnding kind (.ofExcept span.value), span.spent⟩ :: later.value,
        span.spent + later.spent, later.world⟩ := by
  simp only [runTurns, List.map_cons, Timed.run_mapM_cons, Step.run_run, StepDefinition.toStep,
    Timed.run_map]

/-- A step that has been run: its report, and the calls that it has made at the host. -/
structure TracedStep where
  report : StepReport
  calls : List HostCall

/-- Some definitions are run one after the other, each under a kind, from a time on and in a watched
world: what is told of each, and when and in which world they end. Each takes the course of its own
actions, whose performances make the calls that are noted of it. -/
inductive Performed (host : Host σ) (ctx : Context) :
    List (StepKind × StepDefinition) → Duration → Watched HostCall σ → List TracedStep →
      Duration → Watched HostCall σ → Prop where
  | nil {now : Duration} {before : Watched HostCall σ} :
      Performed host ctx [] now before [] now before
  | cons {kind : StepKind} {d : StepDefinition} {turns : List (StepKind × StepDefinition)}
      {now : Duration} {before : Watched HostCall σ} {span : Span σ (Except Failure Unit)}
      {ps : List (Action.Performance host ctx)} {traced : List TracedStep} {finish : Duration}
      {after : Watched HostCall σ}
      (performs : (Action.performAll host ctx d.actions).run.run now before.1 = span)
      (course : Action.Course d.actions now before ps)
      (accounts : ∀ p ∈ ps, AllOf (p.action.Makes ctx) p.calls ∧
        (p.outcome = .ok () → p.action.Grounds ctx p.calls))
      (rest : Performed host ctx turns (now + span.spent)
        (span.world, before.2 ++ ps.flatMap Action.Performance.calls) traced finish after) :
      Performed host ctx ((kind, d) :: turns) now before
        (⟨⟨d.name, kind, .ofEnding kind (.ofExcept span.value), span.spent⟩,
          ps.flatMap Action.Performance.calls⟩ :: traced) finish after

/-- What a watched host tells of definitions that are run one after the other. -/
def traceTurns (host : Host σ) (ctx : Context) :
    List (StepKind × StepDefinition) → Duration → Watched HostCall σ → List TracedStep
  | [], _, _ => []
  | (kind, d) :: turns, now, before =>
    let span := (Action.performAll (host.watched id) ctx d.actions).run.run now before
    ⟨⟨d.name, kind, .ofEnding kind (.ofExcept span.value), span.spent⟩,
      span.world.2.drop before.2.length⟩ :: traceTurns host ctx turns (now + span.spent) span.world

namespace Performed

variable {host : Host σ} {ctx : Context} {turns : List (StepKind × StepDefinition)}
  {now finish : Duration} {before after : Watched HostCall σ} {traced : List TracedStep}

/-- There is one report for each turn, under its name and kind. -/
theorem map_reports (h : Performed host ctx turns now before traced finish after) :
    (traced.map TracedStep.report).map (fun r => (r.name, r.kind)) =
      turns.map fun t => (t.2.name, t.1) := by
  induction h with
  | nil => rfl
  | cons performs course accounts rest ih => rw [List.map_cons, List.map_cons, List.map_cons, ih]

theorem eq_traceTurns (h : Performed host ctx turns now before traced finish after) :
    traced = traceTurns host ctx turns now before := by
  induction h with
  | nil => rfl
  | cons performs course accounts rest ih =>
    rw [traceTurns, course.run_eq, performs, ih]
    simp

end Performed

/-- Definitions perform their actions in turn, and a watched host notes the calls of each. -/
theorem exists_performed (host : Host σ) (ctx : Context)
    (turns : List (StepKind × StepDefinition)) (now : Duration) (before : Watched HostCall σ) :
    let span := (runTurns host ctx turns).run now before.1
    ∃ traced : List TracedStep,
      let after := (span.world, before.2 ++ traced.flatMap TracedStep.calls)
      traced.map TracedStep.report = span.value ∧
        (runTurns (host.watched id) ctx turns).run now before = ⟨span.value, span.spent, after⟩ ∧
        Performed host ctx turns now before traced (now + span.spent) after := by
  induction turns generalizing now before with
  | nil => exact ⟨[], rfl, by simp [runTurns], by simpa [runTurns] using .nil⟩
  | cons t turns ih =>
    obtain ⟨kind, d⟩ := t
    obtain ⟨ps, course⟩ := Action.exists_course host ctx d.actions now before
    obtain ⟨span, hspan⟩ :
        ∃ span, (Action.performAll host ctx d.actions).run.run now before.1 = span := ⟨_, rfl⟩
    let calls := ps.flatMap Action.Performance.calls
    obtain ⟨traced, hreports, hrun, performed⟩ :=
      ih (now + span.spent) (span.world, before.2 ++ calls)
    rw [runTurns_cons_run, runTurns_cons_run, course.run_eq, hspan]
    refine ⟨⟨⟨d.name, kind, .ofEnding kind (.ofExcept span.value), span.spent⟩, calls⟩ :: traced,
      ?_, ?_, ?_⟩
    · rw [List.map_cons, hreports]
    · simp [hrun, calls]
    · have turn : Performed host ctx ((kind, d) :: turns) now before _ _ _ :=
        .cons hspan course (fun p _ => p.accounts) performed
      simpa [Duration.add_assoc, calls] using turn

namespace ScenarioFile

variable {f : ScenarioFile}

/-- The definitions of the file in the order in which they run, with their kinds: the steps, then
the cleanups, the last one first and all of them as cleanups. -/
def schedule (f : ScenarioFile) : List (StepKind × StepDefinition) :=
  f.steps.map (fun d => (d.stepKind, d)) ++ f.cleanup.reverse.map (fun d => (.cleanup, d))

/-- Each definition has one turn. -/
theorem schedule_perm (f : ScenarioFile) : (f.schedule.map Prod.snd).Perm f.definitions := by
  simp only [schedule, definitions, List.map_append, List.map_map, Function.comp_def, List.map_id']
  exact f.cleanup.reverse_perm.append_left f.steps

theorem order_toSteps (host : Host σ) (f : ScenarioFile) :
    Scenario.order (f.toSteps host) = f.schedule.map fun t => t.2.toStep host t.1 := by
  have hstep : ∀ d : StepDefinition, Scenario.isCleanup (d.toStep host d.stepKind) = false :=
    fun d => by cases h : d.bestEffort <;>
      simp [Scenario.isCleanup, StepDefinition.toStep, StepDefinition.stepKind, h]
  have hcleanup : ∀ d : StepDefinition, Scenario.isCleanup (d.toStep host .cleanup) = true :=
    fun d => rfl
  have hsteps : f.toSteps host = f.steps.map (fun d => d.toStep host d.stepKind) ++
      f.cleanup.map fun d => d.toStep host .cleanup := rfl
  simp [hsteps, Scenario.order, schedule, List.filter_map, Function.comp_def, hstep, hcleanup]

/-! ### The project -/

/-- A file whose project is accepted has a project in every run. -/
theorem exists_projectId (h : f.checkProject = .ok ()) (seed : BitVec 32) :
    ∃ p : ProjectId, f.projectId seed = .ok p ∧ p.Accepted ∧
      (∀ id, f.project = some id → p.text = id) ∧
      (f.project = none → p = .generate f.name seed) := by
  unfold projectId
  rw [checkProject_eq_ok_iff] at h
  cases hproject : f.project with
  | none => exact ⟨_, rfl, ProjectId.accepted_generate f.name seed, by simp, fun _ => rfl⟩
  | some id =>
    obtain ⟨p, hp⟩ := h id hproject
    obtain ⟨accepted, htext⟩ := ProjectId.accepted_of_ofString? hp
    exact ⟨p, hp, accepted, by simp [htext], by simp⟩

/-! ### The directory -/

theorem isEmpty_baseDirectory (f : ScenarioFile) : f.baseDirectory.isEmpty = false := by
  unfold baseDirectory
  split
  · split
    · rfl
    · simp_all
  · rfl

/-- The directory that the file names, or else the one that it is in: an absolute one stays as it
is, and any other starts at the directory that the file is in. -/
inductive RunsIn (f : ScenarioFile) : Option Path → Path → Prop where
  | here : RunsIn f none f.baseDirectory
  | absolute {dir : Path} (h : dir.isAbsolute) : RunsIn f (some dir) dir
  | relative {dir target : Path} (h : dir.isAbsolute = false)
      (text : target.text = f.baseDirectory.text ++
        (if f.baseDirectory.text.toList.getLast? = some '/' then "" else "/") ++ dir.text) :
      RunsIn f (some dir) target

theorem runsIn_commandDirectory (f : ScenarioFile) : RunsIn f f.workingDir f.commandDirectory := by
  unfold commandDirectory
  cases f.workingDir with
  | none => exact .here
  | some dir =>
    dsimp only
    rw [Path.resolve_eq_join]
    cases h : dir.isAbsolute with
    | true =>
      rw [Path.join_absolute h]
      exact .absolute h
    | false => exact .relative h (Path.text_join h f.isEmpty_baseDirectory)

theorem isEmpty_commandDirectory (f : ScenarioFile) : f.commandDirectory.isEmpty = false := by
  unfold commandDirectory
  cases f.workingDir with
  | none => exact f.isEmpty_baseDirectory
  | some dir =>
    dsimp only
    rw [Path.resolve_eq_join]
    exact Path.isEmpty_join f.isEmpty_baseDirectory

/-! ### Binding -/

/-- A scenario made of a file for a session and a configuration. -/
structure Bound (host : Host σ) (f : ScenarioFile) (session : Session) (config : Config)
    (seed : BitVec 32) (s : Scenario σ) : Prop where
  name : s.name = f.name
  naming : s.naming = config.naming
  poll : s.poll = config.poll
  project : ∀ id, f.project = some id → s.project.text = id
  generated : f.project = none → s.project = .generate f.name seed
  accepted : s.project.Accepted
  binary : s.session.binary = session.binary
  workingDir : ∃ dir, s.session.workingDir = some dir ∧ RunsIn f f.workingDir dir ∧
    dir.isEmpty = false
  env : ∀ key, s.session.env.get? key = (f.env.get? key).or (session.env.get? key)
  steps : s.steps = f.toSteps host

theorem exists_bound (h : f.validate = .ok ()) (host : Host σ) (session : Session)
    (config : Config) (seed : BitVec 32) :
    ∃ s, f.toScenario host session config seed = .ok s ∧ Bound host f session config seed s := by
  obtain ⟨-, h⟩ := Sequence.seq_eq_ok_iff.1 h
  obtain ⟨p, hp, accepted, fixed, generated⟩ :=
    exists_projectId (Sequence.seq_eq_ok_iff.1 h).1 seed
  refine ⟨_, Sequence.bind_eq_ok_iff.2 ⟨p, hp, rfl⟩, ?_⟩
  exact {
    name := rfl
    naming := rfl
    poll := rfl
    project := fixed
    generated
    accepted
    binary := by rw [Session.withVariables_eq]; rfl
    workingDir := ⟨f.commandDirectory, by rw [Session.withVariables_eq]; rfl,
      f.runsIn_commandDirectory, f.isEmpty_commandDirectory⟩
    env := Session.get?_withVariables _ f.env
    steps := rfl }

/-! ### Running -/

/-- What a run of the scenario of a file does and reports. -/
structure ReportsFile (host : Host σ) (f : ScenarioFile) (s : Scenario σ) (now : Duration)
    (world : σ) (span : Span σ ScenarioReport) (traced : List TracedStep) : Prop where
  name : span.value.name = f.name
  project : span.value.project = s.project.text
  reports : span.value.steps = traced.map TracedStep.report
  performed : Performed host s.context f.schedule now (world, []) traced (now + span.spent)
    (span.world, traced.flatMap TracedStep.calls)
  steps : span.value.steps.map (fun r => (r.name, r.kind)) =
    f.steps.map (fun d => (d.name, d.stepKind)) ++
      (f.cleanup.map fun d => (d.name, StepKind.cleanup)).reverse

theorem run_run_of_steps {host : Host σ} {s : Scenario σ} (h : s.steps = f.toSteps host)
    (now : Duration) (world : σ) :
    s.run.run now world =
      let span := (runTurns host s.context f.schedule).run now world
      ⟨⟨s.name, s.project.text, span.value, span.spent⟩, span.spent, span.world⟩ := by
  rw [Scenario.run_run, h, order_toSteps]
  rfl

/-- To a watched host the same scenario is bound. -/
theorem toScenario_watched {host : Host σ} {session : Session} {config : Config}
    {seed : BitVec 32} {s : Scenario σ} (h : f.toScenario host session config seed = .ok s) :
    f.toScenario (host.watched id) session config seed =
      .ok ⟨s.name, s.session, s.project, s.naming, s.poll, f.toSteps (host.watched id)⟩ := by
  obtain ⟨p, hp, made⟩ := Sequence.bind_eq_ok_iff.1 h
  cases made
  exact Sequence.bind_eq_ok_iff.2 ⟨p, hp, rfl⟩

/-- A run performs the definitions of the file, and the calls of their actions are all that a
watched host notes of it. -/
theorem Bound.exists_watched {host : Host σ} {session : Session} {config : Config}
    {seed : BitVec 32} {s : Scenario σ} (bound : Bound host f session config seed s)
    (h : f.toScenario host session config seed = .ok s) :
    ∃ w, f.toScenario (host.watched id) session config seed = .ok w ∧ ∀ now world,
      let span := s.run.run now world
      ∃ traced : List TracedStep,
        w.run.run now (world, []) =
          ⟨span.value, span.spent, (span.world, traced.flatMap TracedStep.calls)⟩ ∧
        ReportsFile host f s now world span traced := by
  refine ⟨_, toScenario_watched h, fun now world => ?_⟩
  obtain ⟨traced, hreports, hrun, performed⟩ :=
    exists_performed host s.context f.schedule now (world, [])
  rw [run_run_of_steps bound.steps, run_run_of_steps rfl]
  have context : Scenario.context ⟨s.name, s.session, s.project, s.naming, s.poll,
      f.toSteps (host.watched id)⟩ = s.context := rfl
  refine ⟨traced, by rw [context, hrun]; rfl, bound.name, rfl, hreports.symm, performed, ?_⟩
  change List.map _ ((runTurns host s.context f.schedule).run now world).value = _
  rw [← hreports, performed.map_reports]
  simp [schedule, Function.comp_def]

end ScenarioFile
end ComposeHarness
