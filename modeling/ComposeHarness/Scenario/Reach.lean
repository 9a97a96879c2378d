import ComposeHarness.Inspection.Run
import ComposeHarness.Probe.Command
import ComposeHarness.Probe.Http
import ComposeHarness.Scenario.Basic

/-!
# What a step can do

A step reaches the binary of its scenario and the web. Whatever it waits for, it waits for as long
as the scenario says.
-/
namespace ComposeHarness.Context

variable {σ : Type}

/-- The same reach with another poll. -/
def withPoll (ctx : Context) (poll : PollSpec) : Context := { ctx with poll }

/-- Runs the binary and requires the exit code zero. -/
def run (host : Host σ) (ctx : Context) (arguments : List String) : Act σ Command.Result :=
  ctx.session.run host arguments

/-- Runs the binary and gives the result, whatever its exit code. -/
def runAllowingError (host : Host σ) (ctx : Context) (arguments : List String) :
    Act σ Command.Result :=
  ctx.session.runAllowingError host arguments

/-- Requests a URL until it answers with a status, and gives the body. -/
def fetch (host : Host σ) (ctx : Context) (url : String) (status : Nat) : Act σ String :=
  HttpProbe.fetch host url status ctx.poll

/-- Runs the binary until its output satisfies an expectation, and gives that output. -/
def await (host : Host σ) (ctx : Context) (arguments : List String) (expectation : Expectation) :
    Act σ String := do
  let probe ← Act.ofExcept (CommandProbe.make ctx.session arguments expectation)
  probe.await host ctx.poll

/-- Inspects one object through the binary. -/
def inspect (host : Host σ) (ctx : Context) (kind : ObjectKind) (name : String) :
    Act σ InspectedObject :=
  ctx.session.inspect host kind name

end ComposeHarness.Context
