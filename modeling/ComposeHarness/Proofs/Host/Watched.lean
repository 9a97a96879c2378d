import ComposeHarness.Proofs.Poll.Loop
import ComposeHarness.Proofs.Watched

/-!
# Hosts that are watched

A watched host does what the host does, and notes what has been done and what came of it. A
computation that is carried out on a watched host follows the same computation on the host itself:
the outcome, the time and the world are the same, and the log tells of everything that it did there.
-/
namespace ComposeHarness

variable {ε σ α β : Type}

/-- Something that has been done at a host, and what came of it. To look at the world is not to do
something. -/
inductive HostCall where
  | spawned (invocation : Invocation) (outcome : Except SystemError Completion)
  | requested (url : String) (outcome : Except Failure Response)
  | staged (outcome : Except PathError Path)
  | linked (source target : Path) (outcome : Except SystemError Unit)
  | removed (dir : Path) (outcome : Except PathError Unit)

namespace Watched

/-- Carries something out in the world, and notes what came of it. -/
def noteOutcome (event : α → ε) (x : Timed σ α) : Timed (Watched ε σ) α := do
  let outcome ← lift x
  note (event outcome)
  return outcome

/-- Changes the world, and notes what came of it. -/
def noteChange (event : α → ε) (f : σ → α × σ) (world : Watched ε σ) : α × Watched ε σ :=
  let (outcome, next) := f world.1
  (outcome, (next, world.2 ++ [event outcome]))

/-- Changes the world without a note. -/
def liftChange (f : σ → α × σ) (world : Watched ε σ) : α × Watched ε σ :=
  let (outcome, next) := f world.1
  (outcome, (next, world.2))

end Watched

open Watched in
/-- The host, with a note of everything that it does. -/
def Host.watched (event : HostCall → ε) (host : Host σ) : Host (Watched ε σ) where
  spawn i := noteOutcome (fun outcome => event (.spawned i outcome)) (host.spawn i)
  request url := noteOutcome (fun outcome => event (.requested url outcome)) (host.request url)
  readText path world := host.readText path world.1
  pathExists path world := host.pathExists path world.1
  isFile path world := host.isFile path world.1
  search name world := host.search name world.1
  canonical path world := host.canonical path world.1
  makeStaging := noteChange (fun outcome => event (.staged outcome)) host.makeStaging
  link source target :=
    noteChange (fun outcome => event (.linked source target outcome)) (host.link source target)
  removeTree dir := noteChange (fun outcome => event (.removed dir outcome)) (host.removeTree dir)
  lookupVariable name world := host.lookupVariable name world.1
  accountHome world := host.accountHome world.1
  seed := liftChange host.seed

namespace Watched

/-! ### Computations that follow others -/

/-- In a watched world `x` does what `y` does, and what it notes satisfies `Q`. -/
def Follows (Q : List ε → Prop) (x : Timed (Watched ε σ) α) (y : Timed σ α) : Prop :=
  ∀ (now : Duration) (world : σ) (past : List ε),
    let span := y.run now world
    ∃ made, x.run now (world, past) = ⟨span.value, span.spent, (span.world, past ++ made)⟩ ∧ Q made

/-- The same for changes of the world. -/
def FollowsChange (Q : List ε → Prop) (f : Watched ε σ → α × Watched ε σ) (g : σ → α × σ) : Prop :=
  ∀ (world : σ) (past : List ε),
    ∃ made, f (world, past) = ((g world).1, ((g world).2, past ++ made)) ∧ Q made

/-- Everything that is noted satisfies `P`. -/
def AllOf (P : ε → Prop) (made : List ε) : Prop := ∀ e ∈ made, P e

variable {P : ε → Prop} {Q S R : List ε → Prop} {x : Timed (Watched ε σ) α} {y : Timed σ α}

theorem allOf_nil (P : ε → Prop) : AllOf P [] := by simp [AllOf]

theorem AllOf.append {made later : List ε} (h : AllOf P made) (h' : AllOf P later) :
    AllOf P (made ++ later) :=
  List.forall_mem_append.2 ⟨h, h'⟩

theorem Follows.imp (h : Follows Q x y) (imp : ∀ made, Q made → R made) : Follows R x y := by
  intro now world past
  obtain ⟨made, hx, hmade⟩ := h now world past
  exact ⟨made, hx, imp made hmade⟩

theorem follows_pure (nil : Q []) (a : α) :
    Follows Q (pure a : Timed (Watched ε σ) α) (pure a) := by
  intro now world past
  exact ⟨[], by simp, nil⟩

theorem follows_lift (nil : Q []) (y : Timed σ α) : Follows Q (lift y) y := by
  intro now world past
  exact ⟨[], by simp, nil⟩

/-- One after the other, two computations note first what the one and then what the other notes. -/
theorem Follows.bind {f : α → Timed (Watched ε σ) β} {g : α → Timed σ β} (h : Follows Q x y)
    (hf : ∀ a, Follows S (f a) (g a))
    (append : ∀ made later, Q made → S later → R (made ++ later)) :
    Follows R (x >>= f) (y >>= g) := by
  intro now world past
  obtain ⟨made, hx, hmade⟩ := h now world past
  obtain ⟨later, hrun, hlater⟩ := hf (y.run now world).value (now + (y.run now world).spent)
    (y.run now world).world (past ++ made)
  exact ⟨made ++ later, by simp [hx, hrun], append made later hmade hlater⟩

theorem Follows.map (h : Follows Q x y) (f : α → β) : Follows Q (f <$> x) (f <$> y) := by
  intro now world past
  obtain ⟨made, hx, hmade⟩ := h now world past
  exact ⟨made, by simp [hx], hmade⟩

theorem follows_noteOutcome {event : α → ε} (h : ∀ a, Q [event a]) (y : Timed σ α) :
    Follows Q (noteOutcome event y) y := by
  intro now world past
  exact ⟨[event (y.run now world).value], by simp [noteOutcome], h _⟩

/-! ### Computations that may fail -/

section
variable {x : Act (Watched ε σ) α} {y : Act σ α} {f : α → Act (Watched ε σ) β} {g : α → Act σ β}

/-- A computation that may fail goes on after another one, or it notes no more. -/
theorem Follows.bind_run (h : Follows Q x.run y.run) (hf : ∀ a, Follows S (f a).run (g a).run)
    (nil : S []) (append : ∀ made later, Q made → S later → R (made ++ later)) :
    Follows R (x >>= f).run (y >>= g).run := by
  rw [ExceptT.run_bind, ExceptT.run_bind]
  refine h.bind (fun outcome => ?_) append
  cases outcome with
  | error failure => exact follows_pure nil _
  | ok a => exact hf a

theorem follows_bind_run (h : Follows (AllOf P) x.run y.run)
    (hf : ∀ a, Follows (AllOf P) (f a).run (g a).run) :
    Follows (AllOf P) (x >>= f).run (y >>= g).run :=
  h.bind_run hf (allOf_nil P) fun _ _ => AllOf.append

theorem follows_pure_run (a : α) :
    Follows (AllOf P) (pure a : Act (Watched ε σ) α).run (pure a : Act σ α).run :=
  follows_pure (allOf_nil P) _

/-- To look at the world is to leave the log alone. -/
theorem follows_inspect_run {look : Watched ε σ → Except Failure α} {plain : σ → Except Failure α}
    (nil : Q []) (h : ∀ world past, look (world, past) = plain world) :
    Follows Q (Act.inspect look).run (Act.inspect plain).run := by
  intro now world past
  refine ⟨[], ?_, nil⟩
  rw [List.append_nil]
  exact congrArg (Span.mk · .zero (world, past)) (h world past)

theorem follows_ofExcept_run (outcome : Except Failure α) :
    Follows (AllOf P) (Act.ofExcept outcome : Act (Watched ε σ) α).run
      (Act.ofExcept outcome : Act σ α).run :=
  follows_pure (allOf_nil P) _

theorem follows_forM_run {f : α → Act (Watched ε σ) Unit} {g : α → Act σ Unit} (xs : List α)
    (h : ∀ x ∈ xs, Follows (AllOf P) (f x).run (g x).run) :
    Follows (AllOf P) (xs.forM f).run (xs.forM g).run := by
  induction xs with
  | nil => exact follows_pure_run ()
  | cons x xs ih =>
    obtain ⟨hx, hxs⟩ := List.forall_mem_cons.1 h
    exact follows_bind_run hx fun _ => ih hxs

end

/-! ### Polls -/

section
variable {probe : Probe (Watched ε σ) α} {plain : Probe σ α}

theorem followsChange_attempt (h : FollowsChange Q probe plain) (spec : PollSpec)
    (elapsed : Duration) :
    FollowsChange Q (Poll.attempt spec probe elapsed) (Poll.attempt spec plain elapsed) := by
  intro world past
  obtain ⟨made, hprobe, hmade⟩ := h world past
  refine ⟨made, ?_, hmade⟩
  unfold Poll.attempt
  rw [hprobe]
  obtain ⟨reply, next⟩ := plain world
  cases reply with
  | never => rfl
  | after delay answer =>
    dsimp only
    split <;> rfl

/-- A poll of a watched world takes the rounds that the poll of the world takes. -/
theorem exists_go_watched (h : FollowsChange (AllOf P) probe plain) (what : String)
    (spec : PollSpec) (render : α → String) (limit : Nat) (elapsed : Duration) (world : σ)
    (past : List ε) (attempts : List (Attempt α)) :
    ∃ made, AllOf P made ∧
      Poll.go what spec render probe limit elapsed (world, past) attempts =
        (Poll.go what spec render plain limit elapsed world attempts).map
          fun r => ⟨r.outcome, r.attempts, r.elapsed, (r.world, past ++ made)⟩ := by
  induction limit generalizing elapsed world past attempts with
  | zero => exact ⟨[], allOf_nil P, rfl⟩
  | succ limit ih =>
    obtain ⟨made, hattempt, hmade⟩ := followsChange_attempt h spec elapsed world past
    rw [Poll.go_succ, Poll.go_succ, hattempt]
    obtain ⟨attempt, next⟩ := Poll.attempt spec plain elapsed world
    dsimp only
    cases attempt.value? with
    | some value => exact ⟨made, hmade, rfl⟩
    | none =>
      dsimp only
      by_cases late : spec.timeout ≤ attempt.finish
      · exact ⟨made, hmade, by simp only [late, if_true]; rfl⟩
      · obtain ⟨later, hlater, hgo⟩ := ih (attempt.finish + Poll.pause spec attempt.finish) next
          (past ++ made) (attempt :: attempts)
        refine ⟨made ++ later, hmade.append hlater, ?_⟩
        simp only [late, if_false, hgo, List.append_assoc]

theorem follows_timed (h : FollowsChange (AllOf P) probe plain) (what : String) (spec : PollSpec)
    (render : α → String) :
    Follows (AllOf P) (Poll.timed what spec render probe) (Poll.timed what spec render plain) := by
  intro now world past
  obtain ⟨made, hmade, hgo⟩ :=
    exists_go_watched h what spec render Poll.attemptLimit .zero world past []
  simp only [Timed.run, Poll.timed, Poll.run, hgo]
  cases Poll.go what spec render plain Poll.attemptLimit .zero world [] with
  | none => exact ⟨[], by simp, allOf_nil P⟩
  | some r => exact ⟨made, rfl, hmade⟩

end

end Watched
end ComposeHarness
