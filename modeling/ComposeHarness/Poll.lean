import ComposeHarness.Failure
import ComposeHarness.Timed

/-!
# Polling

A poll repeats a probe until it converges or the timeout has passed. The first attempt starts at
once. After an attempt that did not converge the poll sleeps for one interval, or up to the deadline
if that comes earlier, so that the last attempt starts on the deadline and not past it. Each attempt
has a budget: the time that is left, or one interval if that is more. An attempt that has given no
answer by then is cut off.
-/
namespace ComposeHarness

/-- How often and how long a poll probes. -/
structure PollSpec where
  interval : Duration
  timeout : Duration
  deriving Repr, DecidableEq

namespace PollSpec

def standard : PollSpec := ⟨.ofSeconds 2, .ofSeconds 20⟩

instance : Inhabited PollSpec := ⟨standard⟩

/-- Replaces the parts that are given. -/
def override (spec : PollSpec) (interval timeout : Option Duration) : PollSpec :=
  ⟨interval.getD spec.interval, timeout.getD spec.timeout⟩

end PollSpec

/-- What a probe has seen: the condition holds, or it does not hold yet. -/
inductive Observation (α : Type) where
  | converged (value : α)
  | pending (value : α)
  deriving Repr, DecidableEq

/-- How a probe answers: never, or after some time with an observation or a failure. -/
inductive Reply (α : Type) where
  | never
  | after (delay : Duration) (answer : Except Failure (Observation α))

/-- A repeatable observation of a world. -/
abbrev Probe (σ α : Type) := σ → Reply α × σ

/-- One attempt of a poll: when it started and ended, counted from the start of the poll, and its
answer unless it was cut off. -/
structure Attempt (α : Type) where
  start : Duration
  finish : Duration
  answer : Option (Except Failure (Observation α))

/-- A finished poll. -/
structure PollRun (σ α : Type) where
  outcome : Except Failure α
  attempts : List (Attempt α)
  elapsed : Duration
  world : σ

namespace Poll

variable {σ α : Type}

/-- How long an attempt that starts after `elapsed` may take. -/
def budget (spec : PollSpec) (elapsed : Duration) : Duration :=
  max (spec.timeout - elapsed) spec.interval

def noAnswer (allowed : Duration) : Failure :=
  .internal ("probe gave no answer within " ++ allowed.exact)

/-- How an attempt that did not converge is told of in a timeout. -/
def lastSeen (render : α → String) (allowed : Duration) :
    Option (Except Failure (Observation α)) → String
  | some (.ok (.converged value)) => render value
  | some (.ok (.pending value)) => render value
  | some (.error failure) => "probe error: " ++ failure.message
  | none => "probe error: " ++ (noAnswer allowed).message

/-- One attempt that starts after `elapsed`. An answer that comes exactly when the budget ends still
counts. -/
def attempt (spec : PollSpec) (probe : Probe σ α) (elapsed : Duration) (world : σ) :
    Attempt α × σ :=
  let allowed := budget spec elapsed
  match probe world with
  | (.never, next) => (⟨elapsed, elapsed + allowed, none⟩, next)
  | (.after delay answer, next) =>
    if delay ≤ allowed then (⟨elapsed, elapsed + delay, some answer⟩, next)
    else (⟨elapsed, elapsed + allowed, none⟩, next)

/-- The pause after an attempt that ended before the deadline. -/
def pause (spec : PollSpec) (finish : Duration) : Duration :=
  min spec.interval (spec.timeout - finish)

/-- Polls from `elapsed` on; `past` holds the attempts made before, the latest in front. Gives
nothing if the number of attempts reaches its limit. -/
def go (what : String) (spec : PollSpec) (render : α → String) (probe : Probe σ α) :
    (limit : Nat) → (elapsed : Duration) → σ → List (Attempt α) → Option (PollRun σ α)
  | 0, _, _, _ => none
  | limit + 1, elapsed, world, past =>
    let (made, next) := attempt spec probe elapsed world
    match made.answer with
    | some (.ok (.converged value)) =>
      some ⟨.ok value, (made :: past).reverse, made.finish, next⟩
    | answer =>
      if spec.timeout ≤ made.finish then
        let seen := lastSeen render (budget spec elapsed) answer
        some ⟨.error (.unconverged what (some seen) made.finish), (made :: past).reverse,
          made.finish, next⟩
      else
        go what spec render probe limit (made.finish + pause spec made.finish) next (made :: past)

/-- Attempts are counted in 32 bits. -/
def attemptLimit : Nat := Nat.pow 2 32 - 1

/-- Polls until the probe converges or the timeout has passed. -/
def run (what : String) (spec : PollSpec) (render : α → String) (probe : Probe σ α) (world : σ) :
    Option (PollRun σ α) :=
  go what spec render probe attemptLimit .zero world []

/-- A poll as a part of a longer computation. -/
def timed (what : String) (spec : PollSpec) (render : α → String) (probe : Probe σ α) :
    Timed σ (Except Failure α) := fun _ world =>
  match run what spec render probe world with
  | some done => ⟨done.outcome, done.elapsed, done.world⟩
  | none => ⟨.error (.internal "too many attempts"), spec.timeout, world⟩

end Poll
end ComposeHarness
