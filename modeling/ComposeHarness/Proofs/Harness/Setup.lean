import ComposeHarness.Bootstrap
import ComposeHarness.Proofs.ScenarioFile.Calls
import ComposeHarness.Proofs.Sequence

/-!
# What a setup does at its host

A setup runs the build command, if there is one, and stages the binary. On a watched host it does
the same, and the log tells of at most one build and at most one staging; a staging that does not
come to its end is undone. Whatever fails, the failure is one of the bootstrap.
-/
namespace ComposeHarness.Bootstrap

open Watched (Follows follows_inspect_run)

variable {ε σ : Type}

/-- Finds the binary or builds it. -/
def prepare (host : Host σ) (config : BinaryConfig) : Act σ Path :=
  match config.buildCommand with
  | [] => Act.inspect (locate host config)
  | program :: arguments => build host config program arguments

theorem setup_eq (host : Host σ) (config : BinaryConfig) :
    setup host config =
      prepare host config >>= fun source => Act.ofState (stage host source config.name) := by
  unfold setup prepare
  cases config.buildCommand <;> rfl

/-- The command that builds the binary. -/
def buildInvocation (config : BinaryConfig) (program : String)
    (arguments : List String) : Invocation :=
  ⟨⟨program⟩, arguments, some (config.buildDir.getD ⟨"."⟩), .empty⟩

/-- What is done until the binary is there. -/
inductive PrepareLog (config : BinaryConfig) : List HostCall → Prop where
  | located (h : config.buildCommand = []) : PrepareLog config []
  | built {program : String} {arguments : List String}
      (h : config.buildCommand = program :: arguments) (outcome : Except SystemError Completion) :
      PrepareLog config [.spawned (buildInvocation config program arguments) outcome]

/-- What is done when a binary is staged, and what comes of it. -/
inductive StageLog (name : String) : Except Failure StagedBinary → List HostCall → Prop where
  | unresolved (message : String) : StageLog name (.error (.bootstrap message)) []
  | unstaged (message : String) (cause : PathError) :
      StageLog name (.error (.bootstrap message)) [.staged (.error cause)]
  | unlinked (message : String) (dir source : Path) (cause : SystemError)
      (outcome : Except PathError Unit) :
      StageLog name (.error (.bootstrap message))
        [.staged (.ok dir), .linked source (dir.join ⟨name⟩) (.error cause), .removed dir outcome]
  | ready (dir source : Path) :
      StageLog name (.ok ⟨dir, name⟩)
        [.staged (.ok dir), .linked source (dir.join ⟨name⟩) (.ok ())]

/-- What is done in a setup, and what comes of it. -/
inductive SetupLog (config : BinaryConfig) :
    Except Failure StagedBinary → List HostCall → Prop where
  | unprepared (message : String) {calls : List HostCall} (prepared : PrepareLog config calls) :
      SetupLog config (.error (.bootstrap message)) calls
  | prepared {outcome : Except Failure StagedBinary} {calls later : List HostCall}
      (prepared : PrepareLog config calls) (staged : StageLog config.name outcome later) :
      SetupLog config outcome (calls ++ later)

/-- A setup that fails is a bootstrap that fails. -/
theorem SetupLog.exists_message {config : BinaryConfig} {failure : Failure} {calls : List HostCall}
    (h : SetupLog config (.error failure) calls) : ∃ message, failure = .bootstrap message := by
  cases h with
  | unprepared message => exact ⟨message, rfl⟩
  | prepared _ staged => cases staged <;> exact ⟨_, rfl⟩

variable (event : HostCall → ε) (host : Host σ) (config : BinaryConfig)

theorem follows_build (program : String) (arguments : List String) :
    Follows (fun made => ∃ outcome,
        made = [event (.spawned (buildInvocation config program arguments) outcome)])
      (build (host.watched event) config program arguments).run
      (build host config program arguments).run := by
  let i := buildInvocation config program arguments
  have hspawn : Follows (fun made => ∃ outcome, made = [event (.spawned i outcome)])
      ((host.watched event).spawn i) (host.spawn i) :=
    Watched.follows_noteOutcome (fun outcome => ⟨outcome, rfl⟩) _
  -- nothing is noted after the command
  refine (hspawn.map Except.ok).bind_run (S := (· = [])) (fun outcome => ?_) rfl ?_
  · have hcheck := Watched.follows_pure (Q := (· = [])) (σ := σ) (ε := ε) rfl
      (checkBuild (Command.line program arguments) outcome)
    refine Follows.bind_run (S := (· = [])) hcheck (fun _ => ?_) rfl ?_
    · exact follows_inspect_run rfl fun _ _ => rfl
    · rintro _ _ rfl rfl
      rfl
  · rintro _ _ ⟨outcome, rfl⟩ rfl
    exact ⟨outcome, rfl⟩

theorem follows_prepare :
    Follows (fun made => ∃ calls, made = calls.map event ∧ PrepareLog config calls)
      (prepare (host.watched event) config).run (prepare host config).run := by
  unfold prepare
  split
  · next h => exact follows_inspect_run ⟨[], rfl, .located h⟩ fun _ _ => rfl
  · next program arguments h =>
    refine (follows_build event host config program arguments).imp ?_
    rintro _ ⟨outcome, rfl⟩
    exact ⟨_, rfl, .built h outcome⟩

/-- All failures of a computation are of the bootstrap. -/
def FailsInBootstrap {α : Type} (x : Act σ α) : Prop :=
  ∀ now world failure, (x.run.run now world).value = .error failure →
    ∃ message, failure = .bootstrap message

theorem FailsInBootstrap.bind {α β : Type} {x : Act σ α} {f : α → Act σ β}
    (h : FailsInBootstrap x) (hf : ∀ a, FailsInBootstrap (f a)) : FailsInBootstrap (x >>= f) := by
  intro now world failure hfail
  rw [ExceptT.run_bind, Timed.run_bind] at hfail
  cases hx : (x.run.run now world).value with
  | error cause =>
    simp only [hx] at hfail
    cases hfail
    exact h now world _ hx
  | ok a =>
    simp only [hx] at hfail
    exact hf a _ _ failure hfail

theorem failsInBootstrap_ofExcept {α : Type} {outcome : Except Failure α}
    (h : ∀ failure, outcome = .error failure → ∃ message, failure = .bootstrap message) :
    FailsInBootstrap (Act.ofExcept outcome : Act σ α) := fun _ _ => h

theorem failsInBootstrap_inspect {α : Type} {look : σ → Except Failure α}
    (h : ∀ world failure, look world = .error failure → ∃ message, failure = .bootstrap message) :
    FailsInBootstrap (Act.inspect look) := fun _ world => h world

theorem exists_message_of_locate {world : σ} {failure : Failure}
    (h : locate host config world = .error failure) : ∃ message, failure = .bootstrap message := by
  have hcheck : ∀ path : Path, (if host.isFile path world then Except.ok path
      else Except.error (Failure.bootstrap ("binary not found at " ++ path.text))) =
        .error failure → ∃ message, failure = .bootstrap message := by
    intro path hfile
    split at hfile
    · cases hfile
    · cases hfile
      exact ⟨_, rfl⟩
  unfold locate at h
  split at h
  · exact hcheck _ h
  · split at h
    · exact hcheck _ h
    · cases h
      exact ⟨_, rfl⟩

theorem exists_message_of_checkBuild {command : String} {outcome : Except SystemError Completion}
    {failure : Failure} (h : checkBuild command outcome = .error failure) :
    ∃ message, failure = .bootstrap message := by
  unfold checkBuild at h
  split at h
  · cases h
    exact ⟨_, rfl⟩
  · split at h
    · cases h
    · cases h
      exact ⟨_, rfl⟩

/-- A binary that cannot be found or built is a failure of the bootstrap. -/
theorem failsInBootstrap_prepare : FailsInBootstrap (prepare host config) := by
  unfold prepare
  split
  · exact failsInBootstrap_inspect fun _ _ => exists_message_of_locate host config
  · have hspawn : ∀ i, FailsInBootstrap (ExceptT.lift (host.spawn i)) := by
      intro i now world failure hfail
      cases hfail
    refine (hspawn _).bind fun outcome => ?_
    refine (failsInBootstrap_ofExcept fun _ => exists_message_of_checkBuild).bind fun _ => ?_
    refine failsInBootstrap_inspect fun world failure hfile => ?_
    split at hfile
    · cases hfile
    · cases hfile
      exact ⟨_, rfl⟩

/-- Staging on a watched host is staging on the host. -/
theorem exists_stage_watched (source : Path) (name : String) (world : σ) (past : List ε) :
    let staged := stage host source name world
    ∃ calls, stage (host.watched event) source name (world, past) =
        (staged.1, (staged.2, past ++ calls.map event)) ∧ StageLog name staged.1 calls := by
  unfold stage
  have hcanonical : (host.watched event).canonical source (world, past) =
      host.canonical source world := rfl
  rw [hcanonical]
  cases host.canonical source world with
  | error cause => exact ⟨[], by simp, .unresolved _⟩
  | ok source =>
    have hmake : (host.watched event).makeStaging (world, past) =
        ((host.makeStaging world).1,
          ((host.makeStaging world).2, past ++ [event (.staged (host.makeStaging world).1)])) := rfl
    dsimp only
    rw [hmake]
    obtain ⟨made, next⟩ := host.makeStaging world
    cases made with
    | error cause => exact ⟨[.staged (.error cause)], rfl, .unstaged _ cause⟩
    | ok dir =>
      let target := (StagedBinary.mk dir name).path
      have hlink : (host.watched event).link source target
            (next, past ++ [event (.staged (.ok dir))]) =
          ((host.link source target next).1, ((host.link source target next).2,
            past ++ [event (.staged (.ok dir))] ++
              [event (.linked source target (host.link source target next).1)])) := rfl
      dsimp only
      rw [hlink]
      obtain ⟨linked, last⟩ := host.link source target next
      cases linked with
      | ok =>
        exact ⟨[.staged (.ok dir), .linked source target (.ok ())], by simp, .ready dir source⟩
      | error cause =>
        refine ⟨[.staged (.ok dir), .linked source target (.error cause),
          .removed dir (host.removeTree dir last).1], ?_, .unlinked _ dir source cause _⟩
        simp [Host.watched, Watched.noteChange]

theorem run_ofState {α : Type} (f : σ → Except Failure α × σ) (now : Duration) (world : σ) :
    (Act.ofState f).run.run now world = ⟨(f world).1, .zero, (f world).2⟩ := rfl

/-- A setup on a watched host is the setup on the host, and the log tells of it. -/
theorem exists_setup_watched (now : Duration) (world : σ) (past : List ε) :
    let done := (setup host config).run.run now world
    ∃ calls, (setup (host.watched event) config).run.run now (world, past) =
        ⟨done.value, done.spent, (done.world, past ++ calls.map event)⟩ ∧
      SetupLog config done.value calls := by
  intro done
  obtain ⟨_, hrun, first, rfl, prepared⟩ := follows_prepare event host config now world past
  have hfails := failsInBootstrap_prepare host config now world
  simp only [done, setup_eq, ExceptT.run_bind, Timed.run_bind, hrun]
  generalize (prepare host config).run.run now world = span at hfails ⊢
  obtain ⟨value, spent, next⟩ := span
  cases value with
  | error failure =>
    obtain ⟨message, rfl⟩ := hfails failure rfl
    exact ⟨first, rfl, .unprepared message prepared⟩
  | ok source =>
    obtain ⟨later, hstage, staged⟩ :=
      exists_stage_watched event host source config.name next (past ++ first.map event)
    refine ⟨first ++ later, ?_, .prepared prepared staged⟩
    simp only [run_ofState, hstage, List.map_append, List.append_assoc]

/-- A setup fails in no other way than as a bootstrap. -/
theorem exists_message_of_setup {now : Duration} {world : σ} {failure : Failure}
    (h : ((setup host config).run.run now world).value = .error failure) :
    ∃ message, failure = .bootstrap message := by
  obtain ⟨calls, -, log⟩ := exists_setup_watched id host config now world []
  exact (h ▸ log).exists_message

/-! ### Removals -/

/-- The same host, but for how it removes directories. -/
def removingBy (removal : Path → σ → Except PathError Unit × σ) : Host σ :=
  { host with removeTree := removal }

/-- A binary that is staged has been staged without a removal. -/
theorem stage_removingBy (removal : Path → σ → Except PathError Unit × σ) (source : Path)
    (name : String) (world : σ) :
    (stage (removingBy host removal) source name world).1 = (stage host source name world).1 ∧
      ∀ staged, (stage host source name world).1 = .ok staged →
        stage (removingBy host removal) source name world = stage host source name world := by
  have hfields : (removingBy host removal).canonical = host.canonical ∧
      (removingBy host removal).makeStaging = host.makeStaging ∧
      (removingBy host removal).link = host.link := ⟨rfl, rfl, rfl⟩
  simp only [stage, hfields]
  cases host.canonical source world with
  | error cause => exact ⟨rfl, fun _ _ => rfl⟩
  | ok source =>
    dsimp only
    obtain ⟨made, next⟩ := host.makeStaging world
    cases made with
    | error cause => exact ⟨rfl, fun _ _ => rfl⟩
    | ok dir =>
      dsimp only
      obtain ⟨linked, last⟩ := host.link source (StagedBinary.mk dir name).path next
      cases linked with
      | error cause => exact ⟨rfl, fun _ h => by cases h⟩
      | ok => exact ⟨rfl, fun _ _ => rfl⟩

/-- What comes of a setup is not a matter of removals. -/
theorem setup_removingBy (removal : Path → σ → Except PathError Unit × σ) (now : Duration)
    (world : σ) :
    let done := (setup host config).run.run now world
    let other := (setup (removingBy host removal) config).run.run now world
    other.value = done.value ∧ ∀ staged, done.value = .ok staged → other = done := by
  have hprepare : prepare (removingBy host removal) config = prepare host config := rfl
  simp only [setup_eq, hprepare, ExceptT.run_bind, Timed.run_bind]
  obtain ⟨value, spent, next⟩ := (prepare host config).run.run now world
  cases value with
  | error failure => exact ⟨rfl, fun _ _ => rfl⟩
  | ok source =>
    obtain ⟨hvalue, hsame⟩ := stage_removingBy host removal source config.name next
    simp only [run_ofState, hvalue, true_and]
    exact fun staged hstaged => by rw [hsame staged hstaged]

end ComposeHarness.Bootstrap
