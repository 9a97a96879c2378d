import ComposeHarness.Machine.Shell.Basic

/-!
# Jobs and signals

A shell knows the processes that it has started. It waits for those in the foreground at once, and
for those in the background when a script asks. What became of the latter it keeps until a script has
been told and the place is needed.
-/
namespace ComposeHarness.Machine.Shell

open Run (update await)

/-! ### Ends of processes -/

/-- The status that stands for how a process has ended. -/
def statusOf : ExitStatus → Nat
  | .code n => n.toNat
  | .signal n => 128 + n

/-- Tells of a process that a signal has ended. -/
def mourn : ExitStatus → Run Unit
  | .signal n =>
    if n = Signal.interrupt.number || n = Signal.brokenPipe.number then pure ()
    else update (·.complain (Signal.wording ⟨n⟩))
  | .code _ => pure ()

/-- Takes note of the processes of jobs that have ended. -/
def reap : Run Unit := update fun p =>
  let known := p.jobs.flatMap fun j => j.processes.map (·.1)
  { p with
    jobs := p.jobs.map fun j => { j with
      processes := j.processes.map fun (n, e) => (n, e <|> p.world.endings.lookup n) }
    world.endings := p.world.endings.filter fun e => !known.contains e.1 }

/-- Waits for processes one after the other, as they end, and gives how they have. -/
def awaitAll : (left : List Nat) → (fuel : Nat) → (ended : List (Nat × ExitStatus)) →
    Run (List (Nat × ExitStatus))
  | _, 0, ended => pure ended
  | left, fuel + 1, ended => do
    if left.isEmpty then return ended
    await (left.map .ending)
    let p ← get
    match p.world.endings.reverse.find? fun e => left.contains e.1 with
    | none => return ended
    | some (n, status) =>
      update fun p => { p with world.endings := p.world.endings.filter fun e => e.1 != n }
      mourn status
      awaitAll (left.filter (· != n)) fuel ((n, status) :: ended)

/-- Waits for the processes of a command in the foreground. The last one counts. -/
def foreground (processes : List Nat) : Run Nat := do
  let ended ← awaitAll processes processes.length []
  reap
  return ((processes.getLast?.bind fun n => ended.lookup n).map statusOf).getD 127

/-- Takes the first number that no job has, or a job that scripts have been told of. -/
def jobNumber : Run Nat := do
  let p ← get
  let isFree (n : Nat) : Bool :=
    p.jobs.all fun j => j.number ≠ n || (j.told && j.ending.isSome)
  let number := ((List.range' 1 (p.jobs.length + 1)).find? isFree).getD 1
  update fun p => { p with jobs := p.jobs.filter fun j => j.number ≠ number }
  return number

/-! ### Jobs -/

/-- The job that an argument names. -/
def findJob (name : String) : Run Job := do
  let jobs := (← get).jobs
  let orFail (text : String) : Option Job → Run Job
    | some j => pure j
    | none => fail text
  match name with
  | "%" | "%%" | "%+" => orFail "No current job" jobs[0]?
  | "%-" => orFail "No previous job" jobs[1]?
  | _ =>
    orFail ("No such job: " ++ name) <|
      match name.toList with
      | '%' :: digits =>
        (Text.numeral? 10 digits).bind fun n => jobs.find? fun j => j.number = n
      | _ => none

/-- How a job has ended, in the words of a list of jobs. -/
def outcome (j : Job) : String :=
  match j.ending with
  | none => "Running"
  | some (.code 0) => "Done"
  | some (.code n) => "Done(" ++ toString n ++ ")"
  | some (.signal n) => Signal.wording ⟨n⟩

/-- Blanks up to a column; at least one. -/
def upTo (column : Nat) (s : String) : String :=
  s ++ String.ofList (List.replicate (max 1 (column - s.length)) ' ')

/-- The column at which the text of a command would stand. -/
def commandColumn : Nat := 33

/-- The lines for a job, of which `place` is the one among all jobs. -/
def describeJob (withProcesses onlyProcess : Bool) (place : Nat) (j : Job) : String :=
  let mark := if place = 0 then "+" else if place = 1 then "-" else " "
  let title := "[" ++ toString j.number ++ "] " ++ mark ++ " "
  let numbers := j.processes.map fun x => toString x.1
  if onlyProcess then numbers.headD "" ++ "\n"
  else if withProcesses then
    let first := upTo commandColumn (title ++ numbers.headD "" ++ " " ++ outcome j)
    let others := (numbers.drop 1).map fun n =>
      upTo commandColumn ("\n" ++ String.ofList (List.replicate title.length ' ') ++ n ++ " ")
    first ++ String.join others ++ "\n"
  else
    upTo commandColumn (title ++ outcome j) ++
      String.join ((numbers.drop 1).map fun _ => " | ") ++ "\n"

/-- Lists jobs. Those that have ended are forgotten. -/
def listJobs (args : List String) : Run Unit := do
  let (flags, names) ← readOptions "lp" args
  let has (c : Char) : Bool := flags.any fun f => f.1 == c
  reap
  let jobs := (← get).jobs
  let chosen ← if names.isEmpty then pure jobs else names.mapM findJob
  for j in chosen do
    let place := (jobs.findIdx? fun k => k.number = j.number).getD 0
    say (describeJob (has 'l') (has 'p') place j)
  let isKept (j : Job) : Bool := j.ending.isNone || !chosen.any fun k => k.number = j.number
  update fun p => { p with jobs := p.jobs.filter isKept }
  leave 0

/-- Refuses to continue a job, as no terminal is there for it. -/
def continueJob (args : List String) : Run Unit := do
  let (_, names) ← readOptions "" args
  let name := names.headD "%%"
  let _ ← findJob name
  fail ("job " ++ names.headD "(null)" ++ " not created under job control")

/-- Waits for an event in the background. Says whether it was a signal that came first. -/
def awaitOrSignal (events : List Event) : Run Bool := do
  await (.signal :: events)
  return !(← get).pending.isEmpty

/-- Waits for all jobs, and says whether a signal came first. -/
def awaitJobs : (fuel : Nat) → Run Bool
  | 0 => pure false
  | fuel + 1 => do
    reap
    let p ← get
    match p.jobs.find? fun j => j.ending.isNone with
    | none =>
      let told (j : Job) : Job := { j with told := true }
      set { p with jobs := p.jobs.map told }
      return false
    | some j =>
      let left := j.processes.filter fun x => x.2.isNone
      if ← awaitOrSignal ((left.take 1).map fun x => .ending x.1) then return true
      awaitJobs fuel

/-- Waits for one job, which is mourned, and says whether a signal came first. -/
def awaitJob (number : Nat) : (fuel : Nat) → Run Bool
  | 0 => pure false
  | fuel + 1 => do
    let p ← get
    match p.jobs.find? fun j => j.number = number with
    | none => return false
    | some j =>
      match j.processes.filter fun x => x.2.isNone with
      | [] => return false
      | (n, _) :: _ =>
        if ← awaitOrSignal [.ending n] then return true
        match (← get).world.endings.lookup n with
        | some status => mourn status
        | none => pure ()
        reap
        awaitJob number fuel

/-- The status after a signal has ended a wait. -/
def signalStatus : Run Nat := do
  return 128 + (((← get).pending.head?).map Signal.number).getD 0

/-- Waits for one of the arguments of the wait command. -/
def waitFor (name : String) : Run (Option Nat) := do
  let number ← match name.toList with
    | '%' :: _ => do pure (some (← findJob name).number)
    | _ => do
      let n ← count name
      pure (((← get).jobs.find? fun j => j.process = n).map Job.number)
  match number with
  | none => return some 127
  | some number =>
    let j := (← get).jobs.find? fun j => j.number = number
    let length := (j.map fun j => j.processes.length + 1).getD 1
    if ← awaitJob number length then return none
    let told (j : Job) : Job := if j.number = number then { j with told := true } else j
    update fun p => { p with jobs := p.jobs.map told }
    return (((← get).jobs.find? fun j => j.number = number).bind Job.ending).map statusOf

/-- Waits for the named jobs one by one; the last one counts. -/
def waitForAll : (status : Nat) → List String → Run Nat
  | status, [] => pure status
  | _, name :: rest => do
    match ← waitFor name with
    | some status => waitForAll status rest
    | none => signalStatus

def wait (args : List String) : Run Unit := do
  let (_, names) ← readOptions "" args
  if names.isEmpty then
    let total := (← get).jobs.foldr (fun j n => j.processes.length + 1 + n) 0
    if ← awaitJobs (total + 1) then leave (← signalStatus) else leave 0
  else leave (← waitForAll 127 names)

/-! ### Signals -/

def killUsage : String :=
  "Usage: kill [-s sigspec | -signum | -sigspec] [pid | job]... or\nkill -l [exitstatus]"

/-- Sends a signal to a process, and says whether there is one. -/
def send (s : Signal) (name : String) : Run Bool := do
  let digits := name.toList.dropWhile (· == '-')
  let n ← count (String.ofList digits)
  let p ← get
  let isThere := p.world.running.contains n || (p.world.endings.lookup n).isSome
  if digits.length < name.length || !isThere then return false
  if s.number ≠ 0 then set (p.withWorld (p.world.sendSignal n s))
  return true

/-- Sends a signal to processes. A job is none, as it has no group of processes. -/
def sendAll (s : Signal) (names : List String) : Run Unit := do
  let mut status := 0
  for name in names do
    let there ← if name.startsWith "%" then do
        let _ ← findJob name
        pure false
      else send s name
    if !there then
      warn "No such process\n"
      status := 1
  leave status
  Run.yield

/-- Lists the names of signals, or tells the one that a status stands for. -/
def listSignals (args : List String) : Run Unit := do
  match args with
  | [] =>
    say (String.join ("0\n" :: (Signal.all.drop 1).map fun s => s.name ++ "\n"))
  | arg :: _ =>
    let n ← count arg
    let n := if 128 < n then n - 128 else n
    if 0 < n && n < Signal.count then say (Signal.name ⟨n⟩ ++ "\n")
    else fail ("invalid signal number or exit status: " ++ arg)
  leave 0

def kill (args : List String) : Run Unit := do
  let first := args.headD ""
  let named := if first.startsWith "-" then Signal.ofName? 1 (String.ofList (first.toList.drop 1))
    else none
  match args, named with
  | [], _ => fail killUsage
  | _ :: names, some s => if names.isEmpty then fail killUsage else sendAll s names
  | _, none =>
    let (flags, names) ← if first.startsWith "-" then readOptions "ls:" args else pure ([], args)
    let chosen ← (flags.filter fun f => f.1 == 's').mapM fun f =>
      match Signal.ofName? 1 f.2 with
      | some s => pure s
      | none => fail ("invalid signal number or name: " ++ f.2)
    if flags.any fun f => f.1 == 'l' then
      if chosen.isEmpty then listSignals names else fail killUsage
    else if names.isEmpty then fail killUsage
    else sendAll (chosen.getLast?.getD .terminate) names

/-! ### Traps -/

/-- Lists traps, as a script would have to set them. -/
def listTraps : Run Unit := do
  let p ← get
  let lines := Signal.all.filterMap fun s => (p.traps.lookup s.number).map fun action =>
    "trap -- " ++ quote action ++ " " ++ s.name ++ "\n"
  say (String.join lines)
  leave 0

/-- Sets a trap for signals up to the first that there is not; without an action they have their
usual effect. -/
def setTraps (action : Option String) : List String → Run Unit
  | [] => leave 0
  | name :: rest =>
    match Signal.ofName? 0 name with
    | none => do
      update (·.complain ("trap: " ++ name ++ ": bad trap"))
      leave 1
    | some s => do
      update fun p =>
        let others := p.traps.filter fun t => t.1 ≠ s.number
        { p with traps := match action with
          | some text => (s.number, text) :: others
          | none => others }
      setTraps action rest

def trap (args : List String) : Run Unit := do
  let (_, args) ← readOptions "" args
  match args with
  | [] => listTraps
  | [name] => setTraps none [name]
  | action :: names =>
    if (Text.numeral? 10 action.toList).any (· < Signal.count) then setTraps none args
    else setTraps (if action = "-" then none else some action) names

end ComposeHarness.Machine.Shell
