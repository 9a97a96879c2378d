import ComposeHarness.Text.Lossy

/-!
# Capturing two pipes

The output of a command arrives in parts, in whatever order the reads of its two pipes complete. An
empty read is the end of its pipe; after it nothing of that pipe is read. The capture has ended when
both pipes have.
-/
namespace ComposeHarness.Command

open Text (Bytes)

inductive Pipe where
  | stdout
  | stderr
  deriving Repr, DecidableEq

/-- A completed read; no bytes mean the end of the pipe. -/
structure Read where
  pipe : Pipe
  bytes : Bytes
  deriving Repr, DecidableEq

/-- How many bytes one read gives at most. -/
def readSize : Nat := 8192

/-- What has been captured so far, and which pipes are still open. -/
structure Captured where
  stdout : Bytes := []
  stderr : Bytes := []
  combined : Bytes := []
  stdoutOpen : Bool := true
  stderrOpen : Bool := true
  deriving Repr, DecidableEq

namespace Captured

def isOpen (c : Captured) : Pipe → Bool
  | .stdout => c.stdoutOpen
  | .stderr => c.stderrOpen

def hasEnded (c : Captured) : Bool := !c.stdoutOpen && !c.stderrOpen

/-- Takes a completed read in. -/
def take (c : Captured) (r : Read) : Captured :=
  if !c.isOpen r.pipe then c
  else
    match r.pipe, r.bytes with
    | .stdout, [] => { c with stdoutOpen := false }
    | .stderr, [] => { c with stderrOpen := false }
    | .stdout, bytes =>
      { c with stdout := c.stdout ++ bytes, combined := c.combined ++ bytes }
    | .stderr, bytes =>
      { c with stderr := c.stderr ++ bytes, combined := c.combined ++ bytes }

/-- Takes reads in, in the order in which they complete, until both pipes have ended. -/
def ofReads (reads : List Read) : Captured := reads.foldl take {}

end Captured

/-- Cuts written bytes into parts that one read can give. -/
def cutReads (pipe : Pipe) : (fuel : Nat) → Bytes → List Read
  | 0, _ => []
  | fuel + 1, bytes =>
    if bytes.isEmpty then []
    else ⟨pipe, bytes.take readSize⟩ :: cutReads pipe fuel (bytes.drop readSize)

/-- The reads of a command whose writes are taken in one by one, and the ends of both pipes. -/
def readsOf (writes : List (Pipe × Bytes)) : List Read :=
  writes.flatMap (fun w => cutReads w.1 w.2.length w.2) ++ [⟨.stdout, []⟩, ⟨.stderr, []⟩]

end ComposeHarness.Command
