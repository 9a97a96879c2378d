import ComposeHarness.Command.Line
import ComposeHarness.Expectation

/-!
# Results of commands

What is known of a command that has ended, and the checks on it.
-/
namespace ComposeHarness.Command

structure Result where
  /-- The command line as it is quoted in failures. -/
  command : String
  /-- The exit code, or -1 after a signal. -/
  exitCode : Int
  stdout : String
  stderr : String
  /-- Both streams in the order of their arrival. -/
  combined : String
  deriving Repr, DecidableEq, Inhabited

namespace Result

def succeeded (r : Result) : Bool := r.exitCode == 0

def text (r : Result) : Stream → String
  | .stdout => r.stdout
  | .stderr => r.stderr
  | .combined => r.combined

/-- Checks one expectation on the stream it speaks of. -/
def check (r : Result) (e : Expectation) : Except Failure Unit :=
  e.matcher.check (e.stream.label ++ " of '" ++ r.command ++ "'") (r.text e.stream)

/-- Checks expectations in order, up to the first that fails. -/
def checkAll (r : Result) (es : List Expectation) : Except Failure Unit :=
  es.forM r.check

def checkExitCode (r : Result) (expected : Int) : Except Failure Unit :=
  if r.exitCode = expected then .ok ()
  else
    .error (.expectation
      ("exit code " ++ toString expected ++ " (got " ++ toString r.exitCode ++ ")")
      ("'" ++ r.command ++ "'") r.combined)

/-- The failure of a command that was required to succeed. -/
def requireSuccess (r : Result) : Except Failure Result :=
  if r.succeeded then .ok r else .error (.exit r.command r.exitCode r.combined)

end Result
end ComposeHarness.Command
