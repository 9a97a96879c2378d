import ComposeHarness.Command.Result
import ComposeHarness.Host
import ComposeHarness.Session

/-!
# Running commands

Runs the binary of a session once and captures what it writes. Only a program that cannot be started
is a failure, unless success is required.
-/
namespace ComposeHarness.Session

variable {σ : Type}

def invocation (s : Session) (arguments : List String) : Invocation :=
  ⟨s.binary, arguments, s.workingDir, s.env⟩

def commandLine (s : Session) (arguments : List String) : String :=
  Command.line s.binary.text arguments

/-- What a completed process means as a result. -/
def result (s : Session) (arguments : List String) (done : Completion) : Command.Result :=
  let captured := Command.Captured.ofReads done.reads
  { command := s.commandLine arguments
    exitCode := done.status.code?.getD (-1)
    stdout := Text.decodeLossy captured.stdout
    stderr := Text.decodeLossy captured.stderr
    combined := Text.decodeLossy captured.combined }

/-- Runs the binary and gives the result, whatever its exit code. -/
def runAllowingError (host : Host σ) (s : Session) (arguments : List String) :
    Act σ Command.Result := do
  match ← host.spawn (s.invocation arguments) with
  | .error cause => throw (.spawn (s.commandLine arguments) cause)
  | .ok done => return s.result arguments done

/-- Runs the binary and requires the exit code zero. -/
def run (host : Host σ) (s : Session) (arguments : List String) : Act σ Command.Result := do
  let r ← s.runAllowingError host arguments
  Act.ofExcept r.requireSuccess

end ComposeHarness.Session
