import ComposeHarness.Machine.Process

/-!
# Processes at work

A process runs until it has to wait, and tells what it waits for. Of those that can go on the one that
has waited longest does; if none can, time moves on to the next moment that one of them waits for.
What a process does is written as a computation with a continuation, so that it can be left and
taken up again anywhere.
-/
namespace ComposeHarness.Machine

open Text (Bytes)

/-- Something that a process waits for. -/
inductive Event where
  | moment (t : Duration)
  | readable (pipe : Nat)
  | writable (pipe : Nat)
  | ending (process : Nat)
  /-- A signal that the process itself is to answer. -/
  | signal
  deriving Repr, DecidableEq

/-- How a process goes on. -/
inductive Step where
  | ended (p : Process) (status : ExitStatus)
  | pause (events : List Event) (p : Process) (resume : Process → Step)
  /-- Starts another process, and goes on. -/
  | start (child : Process) (begin : Process → Step) (p : Process) (resume : Process → Step)

/-- What ends a script or a part of it early. -/
inductive Interrupt where
  | exit
  /-- An error that the shell does not survive. -/
  | failure
  | leaveLoop (levels : Nat)
  | nextRound (levels : Nat)
  | leaveFunction
  deriving Repr, DecidableEq

/-- A computation of a process. What it has done stays when it is interrupted. -/
def Run (α : Type) : Type := Process → (Except Interrupt α → Process → Step) → Step

namespace Run

variable {α β : Type}

instance : Monad Run where
  pure a := fun p k => k (.ok a) p
  bind x f := fun p k => x p fun outcome p =>
    match outcome with
    | .ok a => f a p k
    | .error i => k (.error i) p

instance : MonadStateOf Process Run where
  get := fun p k => k (.ok p) p
  set p := fun _ k => k (.ok ()) p
  modifyGet f := fun p k => let (a, p) := f p; k (.ok a) p

instance : MonadExceptOf Interrupt Run where
  throw i := fun p k => k (.error i) p
  tryCatch x handle := fun p k => x p fun outcome p =>
    match outcome with
    | .ok a => k (.ok a) p
    | .error i => handle i p k

instance [Inhabited α] : Inhabited (Run α) := ⟨pure default⟩

/-- Runs a computation and gives its interrupt, if there is one. -/
def attempt (x : Run Unit) : Run (Option Interrupt) := fun p k => x p fun outcome p =>
  match outcome with
  | .ok _ => k (.ok none) p
  | .error i => k (.ok (some i)) p

def resume : Option Interrupt → Run Unit
  | some i => throw i
  | none => pure ()

def update (f : Process → Process) : Run Unit := modify f

/-- Waits for the first of some events. -/
def await (events : List Event) : Run Unit := fun p k => .pause events p fun p => k (.ok ()) p

/-- Lets the others go on that can. -/
def yield : Run Unit := do await [.moment (← get).world.now]

/-- Lets time pass. -/
def sleep (d : Duration) : Run Unit := do await [.moment ((← get).world.now + d)]

/-- What a whole process does: it ends with its status. -/
def whole (x : Run Unit) : Process → Step := fun p =>
  x p fun _ p => .ended p (.code (p.status % 256))

/-- Starts another process that does something. Its number has to be new. -/
def start (child : Process) (x : Run Unit) : Run Unit := fun p k =>
  .start child (whole x) p fun p => k (.ok ()) p

/-- Ends the process by a signal. -/
def dieOf (s : Signal) : Run α := fun p _ => .ended p (.signal s.number)

/-- Ends the process with the status that it has. -/
def halt : Run α := fun p _ => .ended p (.code (p.status % 256))

/-- Makes a pipe, and gives its number. -/
def newPipe : Run Nat := do
  let p ← get
  let (n, world) := p.world.addPipe {}
  set (p.withWorld world)
  return n

/-- Does something while a channel is held. -/
def holding (c : Channel) (x : Run α) : Run α := do
  update fun p => { p with kept := [(0, c)] :: p.kept }
  let a ← x
  update fun p => { p with kept := p.kept.drop 1 }
  return a

/-- Takes a new number for a process. -/
def newNumber : Run Nat := do
  let p ← get
  let number := p.world.lastProcess + 1
  set { p with world.lastProcess := number }
  return number

/-! ### Channels -/

/-- Waits until what was written has been read, as far as a pipe cannot hold it. A process that writes
what nobody reads is ended. -/
def settle : Run Unit := do
  let p ← get
  match p.held.find? p.world.isClogged with
  | some (.pipeInput n) => await [.writable n]
  | _ => pure ()
  let p ← get
  match p.held.find? p.world.isRefused with
  | some (.pipeInput n) =>
    set (p.withWorld (p.world.alterPipe n fun pipe => { pipe with refused := false }))
    dieOf .brokenPipe
  | _ => pure ()

/-- Reads from a channel until there is enough or nothing more comes. `enough` says how much of what
has come is wanted, once that is known. -/
def readFrom (c : Channel) (enough : Bytes → Option Nat) : (fuel : Nat) → Bytes → Run Bytes
  | 0, before => pure before
  | fuel + 1, before => do
    let p ← get
    let bytes := before ++ p.world.available c
    match enough bytes with
    | some n =>
      set (p.withWorld (p.world.consume c (n - before.length)))
      return bytes.take n
    | none =>
      set (p.withWorld (p.world.consume c (bytes.length - before.length)))
      match p.world.isDry c, c with
      | false, .pipeOutput n =>
        await [.readable n]
        readFrom c enough fuel bytes
      | _, _ => return bytes

/-- How often a process waits for more of its input at most. -/
def readings : Nat := Nat.pow 10 8

/-- Reads what a channel gives until there is enough. -/
def readUntil (c : Channel) (enough : Bytes → Option Nat) : Run Bytes :=
  readFrom c enough readings []

/-- Reads everything that a channel gives. -/
def readAll (c : Channel) : Run Bytes := readUntil c fun _ => none

end Run

/-! ### Scheduling -/

/-- A process that waits. -/
structure Thread where
  process : Process
  events : List Event
  resume : Process → Step

namespace Schedule

/-- How long it takes until a new process does something. -/
def startDelay : Duration := ⟨200000⟩

/-- Whether an event has happened for a process. -/
def hasHappened (w : World) (p : Process) : Event → Bool
  | .moment t => decide (t ≤ w.now)
  | .readable n => (w.pipes.lookup n).all fun pipe => !pipe.buffer.isEmpty || !pipe.hasWriter
  | .writable n => (w.pipes.lookup n).all fun pipe => pipe.buffer.isEmpty || !pipe.hasReader
  | .ending n => !w.running.contains n
  | .signal => !p.pending.isEmpty

def isReady (w : World) (t : Thread) : Bool := t.events.any (hasHappened w t.process)

/-- The first moment that a thread waits for. -/
def nextMoment (threads : List Thread) : Option Duration :=
  (threads.flatMap Thread.events).foldl (fun best e =>
    match e, best with
    | .moment t, some b => some (min t b)
    | .moment t, none => some t
    | _, best => best) none

/-- Counts which ends of pipes the threads hold. -/
def census (w : World) (threads : List Thread) : World :=
  w.census (threads.flatMap fun t => t.process.held)

/-- Lets a signal reach its process. -/
def deliver (w : World) (threads : List Thread) (target : Nat) (s : Signal) :
    World × List Thread :=
  match threads.find? fun t => t.process.id = target with
  | none => (w, threads)
  | some t =>
    match t.process.response s with
    | .nothing => (w, threads)
    | .answer =>
      (w, threads.map fun t =>
        if t.process.id = target then
          { t with process := { t.process with pending := t.process.pending ++ [s] } }
        else t)
    | .ending =>
      (w.settleEnd target t.process.parent (.signal s.number), threads.filter fun t => t.process.id != target)

/-- Lets all signals reach their processes. -/
def deliverAll (w : World) (threads : List Thread) : World × List Thread :=
  w.sent.foldl (fun (w, threads) (target, s) => deliver w threads target s)
    ({ w with sent := [] }, threads)

/-- Takes a thread out of the others. -/
def takeReady (w : World) : List Thread → Option (Thread × List Thread)
  | [] => none
  | t :: rest =>
    if isReady w t then some (t, rest)
    else (takeReady w rest).map fun (found, others) => (found, t :: others)

/-- The world and the threads after a step of a process. One that does not have to wait stays in
front. -/
def after (threads : List Thread) : Step → World × List Thread
  | .ended p status => (p.world.settleEnd p.id p.parent status, threads)
  | .pause events p resume =>
    let t : Thread := ⟨p, events, resume⟩
    (p.world, if isReady p.world t then t :: threads else threads ++ [t])
  | .start child begin p resume =>
    let now := p.world.now
    let world := { p.world with running := child.id :: p.world.running }
    (world, ⟨p, [.moment now], resume⟩ ::
      (threads ++ [⟨child, [.moment (now + startDelay)], begin⟩]))

/-- Whether something may still come out of the machine. -/
def isOpen (threads : List Thread) : Bool :=
  threads.any fun t => t.process.held.any fun
    | .outside _ => true
    | _ => false

/-- Runs threads until a process has ended and nothing more comes out of them, or none of them can
ever go on. -/
def run (first : Nat) : (fuel : Nat) → World → List Thread → World
  | 0, w, _ => w
  | fuel + 1, w, threads =>
    if !isOpen threads && !w.running.contains first then w
    else
      let (w, threads) := deliverAll w threads
      let w := census w threads
      match takeReady w threads with
      | some (t, others) =>
        let (w, threads) := after others (t.resume (t.process.withWorld w))
        run first fuel w threads
      | none =>
        match nextMoment threads with
        | some t => run first fuel (w.moveTo t) threads
        | none => w

/-- How many steps a machine makes at most. -/
def patience : Nat := Nat.pow 10 8

/-- The world after a process, and how the process has ended. -/
def complete (p : Process) (x : Run Unit) : World × ExitStatus :=
  let world := { p.world with running := [p.id] }
  let w := run p.id patience world [⟨p, [.moment world.now], Run.whole x⟩]
  (w, (w.endings.lookup p.id).getD (.code 1))

end Schedule
end ComposeHarness.Machine
