import ComposeHarness.Duration
import ComposeHarness.SystemError

/-!
# Failures

Everything that can go wrong while scenarios are loaded or run. Each failure belongs to one of four
kinds, so that a report tells a broken setup from a regression, a timeout or a failed cleanup.
-/
namespace ComposeHarness

/-- How a report classifies a failure. -/
inductive FailureKind where
  | bootstrap
  | command
  | timeout
  | cleanup
  deriving Repr, DecidableEq

def FailureKind.label : FailureKind → String
  | .bootstrap => "bootstrap failure"
  | .command => "command failure"
  | .timeout => "convergence timeout"
  | .cleanup => "cleanup failure"

inductive Failure where
  /-- No usable binary could be set up. -/
  | bootstrap (reason : String)
  | spawn (command : String) (cause : SystemError)
  /-- A command ended with a code other than zero, or with -1 from a signal. -/
  | exit (command : String) (code : Int) (output : String)
  | expectation (expected subject actual : String)
  /-- A poll ran out of time. -/
  | unconverged (what : String) (lastObserved : Option String) (elapsed : Duration)
  | cleanup (reason : String)
  | config (reason : String)
  | configSyntax (reason : String)
  | scenarioFile (path reason : String)
  | system (cause : SystemError)
  | unreadable (path reason : String)
  | json (reason : String)
  | http (reason : String)
  | internal (reason : String)
  deriving Repr, DecidableEq

namespace Failure

def kind : Failure → FailureKind
  | .bootstrap _ => .bootstrap
  | .unconverged .. => .timeout
  | .cleanup _ => .cleanup
  | _ => .command

def message : Failure → String
  | .bootstrap reason => "Bootstrap failed: " ++ reason
  | .spawn command cause => "Failed to spawn '" ++ command ++ "': " ++ cause.message
  | .exit command code output =>
    "Command '" ++ command ++ "' exited with code " ++ toString code ++
      "\n--- output ---\n" ++ output
  | .expectation expected subject actual =>
    "Expectation failed: " ++ expected ++ " on " ++ subject ++ "\n--- actual ---\n" ++ actual
  | .unconverged what lastObserved elapsed =>
    what ++ " did not converge after " ++ elapsed.exact ++ "; last observed: " ++
      lastObserved.getD "nothing"
  | .cleanup reason => "Cleanup failed: " ++ reason
  | .config reason => "Configuration error: " ++ reason
  | .configSyntax reason => "Invalid configuration file: " ++ reason
  | .scenarioFile path reason => "Invalid scenario file '" ++ path ++ "': " ++ reason
  | .system cause => "IO error: " ++ cause.message
  | .unreadable path reason => "Failed to read file '" ++ path ++ "': " ++ reason
  | .json reason => "JSON error: " ++ reason
  | .http reason => "HTTP error: " ++ reason
  | .internal reason => "Internal error: " ++ reason

end Failure
end ComposeHarness
