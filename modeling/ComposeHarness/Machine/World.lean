import ComposeHarness.Command.Capture
import ComposeHarness.Duration
import ComposeHarness.Host
import ComposeHarness.Machine.FileTree
import ComposeHarness.Machine.Signal

/-!
# Worlds

What the processes of a machine share: its files and their open places, the pipes between them, the
clock, and what becomes of the processes themselves.
-/
namespace ComposeHarness.Machine

open Text (Bytes)

/-- An open file: how far it has been read or written. -/
structure Stream where
  location : Location
  offset : Nat := 0
  /-- Whether everything written goes to the end. -/
  appends : Bool := false
  deriving Repr, DecidableEq

/-- What waits to be read, and who is there to read and to write it. -/
structure Pipe where
  buffer : Bytes := []
  hasReader : Bool := true
  hasWriter : Bool := true
  /-- Whether something was written that nobody is there to read. -/
  refused : Bool := false
  deriving Repr, DecidableEq

/-- Where a descriptor leads. -/
inductive Channel where
  /-- Out of the machine. -/
  | outside (p : Command.Pipe)
  | stream (number : Nat) (reads writes : Bool)
  /-- The end of a pipe that is read. -/
  | pipeOutput (number : Nat)
  /-- The end of a pipe that is written. -/
  | pipeInput (number : Nat)
  /-- Gives nothing and keeps nothing. -/
  | void (reads writes : Bool)
  | zeros
  deriving Repr, DecidableEq

/-- The descriptors of a process, each with where it leads. -/
abbrev Descriptors := List (Nat × Channel)

structure World where
  files : FileTree
  now : Duration := .zero
  /-- What has left the machine, the latest first. -/
  writes : List (Command.Pipe × Bytes) := []
  streams : List (Nat × Stream) := []
  pipes : List (Nat × Pipe) := []
  /-- How many numbers have been given to streams and pipes. -/
  issued : Nat := 0
  /-- The greatest number of a process so far. -/
  lastProcess : Nat := 0
  /-- The processes that run. -/
  running : List Nat := []
  /-- The processes that have ended and that nobody has asked about. -/
  endings : List (Nat × ExitStatus) := []
  /-- Signals on their way to processes. -/
  sent : List (Nat × Signal) := []

namespace World

/-- Changes the value under a number. -/
def alter {α : Type} (number : Nat) (f : α → α) (xs : List (Nat × α)) : List (Nat × α) :=
  xs.map fun x => if x.1 = number then (x.1, f x.2) else x

/-- Lets time pass. -/
def moveTo (w : World) (t : Duration) : World :=
  { w with now := t, files := { w.files with now := t } }

def addStream (w : World) (s : Stream) : Nat × World :=
  (w.issued, { w with streams := (w.issued, s) :: w.streams, issued := w.issued + 1 })

/-- Makes a pipe with something in it. -/
def addPipe (w : World) (p : Pipe) : Nat × World :=
  (w.issued, { w with pipes := (w.issued, p) :: w.pipes, issued := w.issued + 1 })

def alterPipe (w : World) (number : Nat) (f : Pipe → Pipe) : World :=
  { w with pipes := alter number f w.pipes }

/-- Writes bytes where a channel leads. -/
def write (w : World) (c : Channel) (bytes : Bytes) : World :=
  match c with
  | .outside p => { w with writes := (p, bytes) :: w.writes }
  | .pipeInput n => w.alterPipe n fun p =>
    if p.hasReader then { p with buffer := p.buffer ++ bytes } else { p with refused := true }
  | .stream n _ true =>
    match w.streams.lookup n with
    | some s =>
      let offset := if s.appends then (w.files.contentAt s.location).length else s.offset
      { w with
        files := w.files.writeAt s.location offset bytes
        streams := alter n (fun s => { s with offset := offset + bytes.length }) w.streams }
    | none => w
  | _ => w

/-- How many bytes an endless source is taken to give. -/
def endless : Nat := Nat.pow 2 16

/-- The bytes that can be read from a channel now. -/
def available (w : World) : Channel → Bytes
  | .stream n true _ =>
    match w.streams.lookup n with
    | some s => (w.files.contentAt s.location).drop s.offset
    | none => []
  | .pipeOutput n => ((w.pipes.lookup n).map Pipe.buffer).getD []
  | .zeros => List.replicate endless 0
  | _ => []

/-- Whether reading from a channel would give what is written to another one. -/
def feedsItself (w : World) (source goal : Channel) : Bool :=
  match source, goal with
  | .stream n _ _, .stream m _ _ =>
    match w.streams.lookup n, w.streams.lookup m with
    | some input, some output =>
      let place := if output.appends then (w.files.contentAt output.location).length
        else output.offset
      input.location == output.location && input.offset < place
    | _, _ => false
  | _, _ => false

/-- Takes bytes from the front of what can be read. -/
def consume (w : World) (c : Channel) (count : Nat) : World :=
  match c with
  | .stream n _ _ =>
    { w with streams := alter n (fun s => { s with offset := s.offset + count }) w.streams }
  | .pipeOutput n => w.alterPipe n fun p => { p with buffer := p.buffer.drop count }
  | _ => w

/-- Whether nothing more will come from a channel than what is there. -/
def isDry (w : World) : Channel → Bool
  | .pipeOutput n => !((w.pipes.lookup n).any Pipe.hasWriter)
  | _ => true

/-- How many bytes a pipe holds before its writer has to wait. -/
def pipeSize : Nat := 4096

/-- Whether a writer has to wait for what it wrote to be read. -/
def isClogged (w : World) : Channel → Bool
  | .pipeInput n => (w.pipes.lookup n).any fun p => p.hasReader && pipeSize < p.buffer.length
  | _ => false

/-- Whether something was written to a channel that nobody reads. -/
def isRefused (w : World) : Channel → Bool
  | .pipeInput n => (w.pipes.lookup n).any Pipe.refused
  | _ => false

def sendSignal (w : World) (process : Nat) (s : Signal) : World :=
  { w with sent := w.sent ++ [(process, s)] }

/-- Notes that a process has ended, and lets its parent know. -/
def settleEnd (w : World) (process parent : Nat) (status : ExitStatus) : World :=
  { w with
    running := w.running.filter (· != process)
    endings := (process, status) :: w.endings }.sendSignal parent .child

/-- Notes which ends of its pipes processes hold. -/
def census (w : World) (held : List Channel) : World :=
  { w with
    pipes := w.pipes.map fun (n, p) =>
      (n, { p with
        hasReader := held.contains (.pipeOutput n)
        hasWriter := held.contains (.pipeInput n) }) }

end World
end ComposeHarness.Machine
