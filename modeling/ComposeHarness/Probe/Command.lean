import ComposeHarness.Command.Run
import ComposeHarness.Poll

/-!
# Polling a command

The command is run again until the stream that the expectation speaks of satisfies it, whatever the
exit code.
-/
namespace ComposeHarness

structure CommandProbe where
  session : Session
  arguments : List String
  expectation : Expectation
  deriving Repr, DecidableEq

namespace CommandProbe

variable {σ : Type}

/-- A probe whose pattern does not compile is refused before anything is run. -/
def make (session : Session) (arguments : List String) (expectation : Expectation) :
    Except Failure CommandProbe :=
  match expectation.matcher.evaluate "" with
  | .ok _ => .ok ⟨session, arguments, expectation⟩
  | .error reason => .error (.config reason)

def describe (p : CommandProbe) : String :=
  "'" ++ p.session.commandLine p.arguments ++ "' until " ++ p.expectation.describe

def observe (p : CommandProbe) (r : Command.Result) : Except Failure (Observation String) :=
  let text := r.text p.expectation.stream
  match p.expectation.matcher.evaluate text with
  | .ok true => .ok (.converged text)
  | .ok false => .ok (.pending text)
  | .error reason => .error (.config reason)

def probe (host : Host σ) (p : CommandProbe) : Probe σ String := fun world =>
  let span := Timed.run (p.session.runAllowingError host p.arguments).run .zero world
  (.after span.spent (span.value.bind p.observe), span.world)

/-- Runs the command until its output satisfies the expectation, and gives that output. -/
def await (host : Host σ) (p : CommandProbe) (spec : PollSpec) : Act σ String :=
  ExceptT.mk (Poll.timed p.describe spec Text.quoted (p.probe host))

end CommandProbe
end ComposeHarness
