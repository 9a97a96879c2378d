import ComposeHarness.Machine.Condition
import ComposeHarness.Machine.Format
import ComposeHarness.Machine.Launch
import ComposeHarness.Machine.Programs
import ComposeHarness.Machine.Script.Reading
import ComposeHarness.Machine.Shell.Directory
import ComposeHarness.Machine.Shell.Expansion
import ComposeHarness.Machine.Shell.Input
import ComposeHarness.Machine.Shell.Jobs
import ComposeHarness.Machine.Shell.Lookup
import ComposeHarness.Machine.Shell.Redirection
import ComposeHarness.Machine.Shell.Settings

/-!
# The shell of a machine

Runs scripts. Words are expanded to fields, and commands change the process that runs them or are
processes of their own. What ends a script early is an interrupt, which reaches as far as its kind
says. `fuel` bounds how deep commands may be nested and how often loops may run.
-/
namespace ComposeHarness.Machine.Shell

open Run (update attempt resume)

/-! ### Commands of the shell's own that run nothing -/

/-- What the shell makes of a condition. -/
def condition (args : List String) : Run Unit := do
  let p ← get
  match Condition.holds ⟨p.files, p.cwd⟩ args with
  | .ok b => leave (if b then 0 else 1)
  | .error text => fail text

def bracket (args : List String) : Run Unit :=
  if args.getLast? = some "]" then condition args.dropLast else fail "missing ]"

def echo (args : List String) : Run Unit := do
  say (Format.echo args)
  leave 0

def printf (args : List String) : Run Unit := do
  let (_, args) ← readOptions "" args
  match args with
  | [] => fail "usage: printf format [arg ...]"
  | format :: args =>
    let (text, warnings, failure) := Format.print format args
    warnings.forM warn
    say text
    match failure with
    | some text => fail text
    | none => leave (if warnings.isEmpty then 0 else 1)

/-- The number of loops that an argument counts; one without an argument. -/
def levels (args : List String) : Run Nat := do
  match args with
  | [] => return 1
  | arg :: _ =>
    let n ← count arg
    if n = 0 then fail ("Illegal number: " ++ arg)
    return n

/-- Leaves loops, no more than there are; outside of all loops nothing happens. -/
def leaveLoops (interrupt : Nat → Interrupt) (args : List String) : Run Unit := do
  let n ← levels args
  let loops := (← get).loops
  leave 0
  if loops ≠ 0 then throw (interrupt (min n loops))

/-- Leaves a function, a script or the whole shell with a status. In a trap the usual one is that
before the trap. -/
def leaveWith (interrupt : Interrupt) (args : List String) : Run Unit := do
  match args with
  | [] => update fun p => p.withStatus (p.statusBefore.getD p.status)
  | arg :: _ => leave (← count arg)
  throw interrupt

/-- The times that a shell and its programs have taken: too little to be told. -/
def times : String := "0m0.000000s 0m0.000000s\n0m0.000000s 0m0.000000s\n"

/-- Tells a limit, of which there are none, or takes one that will not be reached. -/
def ulimit (args : List String) : Run Unit := do
  let (flags, args) ← readOptions "HSatfdsmcnpvlwr" args
  let isAll := flags.any fun f => f.1 == 'a'
  match args with
  | [] => say "unlimited\n"
  | [value] =>
    if isAll then fail "too many arguments"
    if value ≠ "unlimited" && !(value.toList.all Char.isDigit) then fail "bad number"
  | _ => fail "too many arguments"
  leave 0

/-- The commands that run no others, by name. -/
def simpleCommands : List (String × (List String → Run Unit)) :=
  [(":", fun _ => leave 0), ("true", fun _ => leave 0), ("false", fun _ => leave 1),
    ("echo", echo), ("printf", printf), ("test", condition), ("[", bracket),
    ("break", leaveLoops .leaveLoop), ("continue", leaveLoops .nextRound),
    ("exit", leaveWith .exit), ("return", leaveWith .leaveFunction), ("set", configure),
    ("shift", shift), ("export", exportVariables), ("readonly", protectVariables),
    ("unset", unset), ("local", makeLocal), ("alias", defineAliases), ("unalias", unalias),
    ("umask", umask), ("read", readLine), ("getopts", getopts), ("cd", changeDirectory),
    ("chdir", changeDirectory), ("pwd", printDirectory), ("hash", hash), ("type", type),
    ("command", locate), ("jobs", listJobs), ("fg", continueJob), ("bg", continueJob),
    ("wait", wait), ("kill", kill), ("trap", trap), ("times", fun _ => do say times; leave 0),
    ("ulimit", ulimit)]

/-! ### Processes -/

/-- How a command stands among others. -/
structure Way where
  /-- Whether its outcome is asked for, so that a failure is none. -/
  tested : Bool := false
  /-- Whether nothing follows it, so that it may take the place of the shell. -/
  last : Bool := false

/-- A process that goes on as a copy of this one. -/
def copy : Run Process := do
  let number ← Run.newNumber
  let p ← get
  return { p with
    id := number, parent := p.id, jobs := [], pending := []
    traps := p.traps.filter fun t => t.2.isEmpty }

/-- Ends a script after a failure, where it asks for that. -/
def check (way : Way) : Run Unit := do
  let p ← get
  if p.status ≠ 0 && p.has 'e' && !way.tested then throw .exit

/-- What an interrupt of a round means for what surrounds the loop. -/
def afterRound : Interrupt → Option Interrupt
  | .leaveLoop n => if n ≤ 1 then none else some (.leaveLoop (n - 1))
  | .nextRound n => some (.nextRound (n - 1))
  | other => some other

/-- Runs a loop, and knows of it while it runs. -/
def withinLoop (x : Run (Option Interrupt)) : Run Unit := do
  let loops := (← get).loops
  update fun p => { p with loops := loops + 1 }
  let stop ← x
  update fun p => { p with loops }
  resume stop

/-- Puts back where descriptors led before. -/
def restoreDescriptors (numbers : List Nat) (before : Descriptors) : Run Unit :=
  update fun p =>
    let restored := numbers.foldl (fun p n =>
      match before.lookup n with
      | some c => p.connect n c
      | none => p.disconnect n) p
    { restored with kept := p.kept.drop 1 }

/-- Does something after a change of descriptors, and puts them back unless they are to stay. If the
change fails nothing is done; whether that ends the script has to be said. -/
def directed (numbers : List Nat) (stays strict : Bool) (change x : Run Unit) : Run Unit := do
  let before := (← get).descriptors
  let replaced := before.filter fun d => numbers.contains d.1
  update fun p => { p with kept := replaced :: p.kept }
  let failed ← attempt change
  let stop ← if failed.isNone then attempt x else pure (if strict then failed else none)
  if stays && failed.isNone then update fun p => { p with kept := p.kept.drop 1 }
  else restoreDescriptors numbers before
  resume stop

/-- Runs a command of the shell's own. An error in it ends the script if it is a special one. -/
def guarded (special : Bool) (name : String) (x : Run Unit) : Run Unit := do
  let outer := (← get).command
  update fun p => { p with command := some name, unsaid := false }
  let stop ← attempt x
  if stop ≠ some .failure && (← get).unsaid then
    warn (name ++ ": I/O error")
    update fun p => p.withStatus (p.status ||| 1)
  update fun p => { p with command := outer, unsaid := false }
  if stop ≠ some .failure || special then resume stop

/-- How a simple command is run, after its first words have told that. -/
structure Call where
  /-- The command and its arguments. -/
  words : List String := []
  /-- All words, with those that only say how the command is run. -/
  shown : List String := []
  /-- The words that are still to be expanded. -/
  rest : List Word := []
  /-- Whether functions count. -/
  functions : Bool := true
  /-- Where programs are looked for, if it is not the usual path. -/
  path : Option String := none
  /-- The first command of the shell's own, and whether it is a special one. -/
  special : Option Bool := none

namespace Call

def isSpecial (c : Call) : Bool := c.special = some true

/-- The command of the shell's own that runs, if one does. -/
def own? (c : Call) (p : Process) : Option String :=
  c.words.head?.filter fun name =>
    isOfShell name && !(c.functions && (p.functions.lookup name).isSome)

/-- Whether assignments hold only while the command runs. -/
def isPassing (c : Call) : Bool := !c.words.isEmpty && !c.isSpecial

def append (c : Call) (fields : List String) (rest : List Word) : Call :=
  { c with words := c.words ++ fields, shown := c.shown ++ fields, rest }

variable (capture : Script → Run String)

/-- Expands words up to the first that gives any fields. -/
def firstFields : List Word → Run (List String × List Word)
  | [] => return ([], [])
  | word :: rest => do
    match ← fieldsOfWord capture word with
    | [] => firstFields rest
    | fields => return (fields, rest)

/-- Takes away the command that only says how another one is run, and its options; `left` are the
fields after what has been read. Says whether there is another command. -/
def unwrapped : (fuel : Nat) → (left : List String) → Call → Run (Call × Bool)
  | 0, _, c => return (c, false)
  | fuel + 1, [], c => do
    let (fields, rest) ← firstFields capture c.rest
    let c := c.append fields rest
    if fields.isEmpty then return (c, false) else unwrapped fuel fields c
  | fuel + 1, field :: left, c => do
    match field.toList with
    | ['-', '-'] =>
      if !left.isEmpty then return ({ c with words := left, functions := false }, true)
      let (fields, rest) ← firstFields capture c.rest
      let c := c.append fields rest
      return ({ c with
        words := if fields.isEmpty then c.words else fields, functions := false },
        !fields.isEmpty)
    | '-' :: 'p' :: letters =>
      if letters.all (· == 'p') then unwrapped fuel left { c with path := some standardPath }
      else return (c, false)
    | '-' :: _ :: _ => return (c, false)
    | _ => return ({ c with words := field :: left, functions := false }, true)

/-- Finds out what a call runs. -/
def resolved : (fuel : Nat) → Call → Run Call
  | 0, c => return c
  | fuel + 1, c => do
    match c.own? (← get) with
    | none => return c
    | some name =>
      let c := { c with special := c.special <|> some (Shell.isSpecial name) }
      if name ≠ "command" then return c
      let (c, runs) ← unwrapped capture nesting (c.words.drop 1) c
      if runs then resolved fuel c else return c

/-- Expands words of which each may be an assignment that is not split. -/
def assigningFields : List Word → Run (List String)
  | [] => return []
  | word :: rest => do
    let fields ← if (Script.assignment? word).isSome then do
        pure [← textOfWord capture .inAssignment word]
      else fieldsOfWord capture word
    let more ← assigningFields rest
    return fields ++ more

/-- The call that words make. -/
def ofWords (words : List Word) : Run Call := do
  let (fields, rest) ← firstFields capture words
  let c ← resolved capture nesting (({} : Call).append fields rest)
  let assigns := ((c.own? (← get)).any fun name =>
    ["alias", "export", "local", "readonly"].contains name)
  let more ← if assigns then assigningFields capture c.rest else fieldsOfWords capture c.rest
  return c.append more []

end Call

/-- Assigns the values of words. Those that are passed to a command hold only as long as it runs. -/
def assignAll (capture : Script → Run String) (passing exported : Bool) :
    List (String × Word) → Run (List String)
  | [] => return []
  | (name, word) :: rest => do
    let value ← textOfWord capture .inValue word
    let text := name ++ "=" ++ value
    if passing then localize true text
    else
      assign name value
      if exported then update (·.publish name)
    let more ← assignAll capture passing exported rest
    return text :: more

/-- Shows a command before it runs, on the error output that it does not change. -/
def trace (capture : Script → Run String) (errors : Option Channel) (words : List String) :
    Run Unit := do
  let p ← get
  match p.has 'x', errors, Script.partsOf ((p.vars.value? "PS4").getD "") with
  | true, some c, .ok parts =>
    let title ← textOfWord capture .nowhere parts
    let line := title ++ String.intercalate " " words ++ "\n"
    update fun p => if Process.canWrite c then p.withWorld (p.world.write c (Text.Octets.bytes line)) else p
  | _, _, _ => pure ()

/-- What redirections lead to. Texts that are to be read are expanded later. -/
def targetsOf (capture : Script → Run String) : List Redirection → Run (List Directed)
  | [] => return []
  | .to descriptor .text word :: rest => do
    return ⟨descriptor, .text, .inr word⟩ :: (← targetsOf capture rest)
  | .to descriptor direction word :: rest => do
    let name ← textOfWord capture .atStart word
    if direction = .duplicate then
      let _ ← descriptorNamed name
    return ⟨descriptor, direction, .inl name⟩ :: (← targetsOf capture rest)

/-- Lets descriptors lead elsewhere, one after the other. -/
def connectAll (capture : Script → Run String) (targets : List Directed) : Run Unit :=
  targets.forM fun t =>
    match t.target, t.direction with
    | .inr word, _ => do connectText t.descriptor (← textOfWord capture .nowhere word)
    | .inl name, .duplicate => connectLike t.descriptor name
    | .inl name, direction => connectFile t.descriptor direction name

/-- How deep functions may call each other. -/
def depthLimit : Nat := 1000

/-- A process for the background, where keyboards have no say. The first one of a job has no input. -/
def behind (isFirst : Bool) (p : Process) : Process :=
  let p := { p with ignored := [.interrupt, .quit] ++ p.ignored }
  if isFirst then p.connect 0 (.void true false) else p

/-- Looks the program of a command up before it runs in a process of its own. -/
def lookAheadFor (command : Command) (p : Process) : Process :=
  match command with
  | .simple _ _ (word :: _) _ =>
    match (Script.plain? word).filter Script.isName with
    | some name => lookAhead name p
    | none => p
  | _ => p

/-- Tells why a program cannot be run, and ends the process. -/
def refuseProgram (name : String) (cause : SystemError) : Run Unit := do
  warn (name ++ ": " ++ missingText cause)
  let isAbsent := [.noEntry, .notDirectory, .nameTooLong, .tooManyLinks].contains cause
  leave (if isAbsent then 127 else 126)
  throw .exit

/-! ### Scripts in files -/

/-- Everything that can be read from a channel, as a script. -/
def scriptFrom (c : Channel) : Run String := do
  if !Process.canRead c then return ""
  let bytes ← Run.readAll c
  return Text.Octets.ofBytes (bytes.filter (· ≠ 0))

def scriptOf (name : String) : Run String := do
  match (← get).openFile ⟨name⟩ .read with
  | .ok (c, p) =>
    set p
    scriptFrom c
  | .error e => cannot false name e

/-- The script that the input of the shell is. -/
def inputScript : Run String := do
  match (← get).channel? 0 with
  | some c => scriptFrom c
  | none => return ""

/-- Where the script with a name is. Names without a slash are looked up. -/
def scriptPath (name : String) : Run String := do
  let p ← get
  if name.toList.contains '/' then return name
  match (candidates (p.searchPath.getD "") name).find? (p.files.isFile p.cwd) with
  | some path => return path.text
  | none => fail (name ++ ": not found")

/-- Gives a shell the arguments of its script, of which the first is its name. -/
def introduce (args : List String) : Run Unit :=
  update fun p => { p with
    name := args.headD p.name, arguments := args.drop 1, line := 1 }

/-! ### Starting shells -/

/-- The variables that a shell starts with. Those that are given come from the program that started
it, as far as they have names. -/
def startVariables (p : Process) : Variables × String :=
  let passed := p.environment.filter fun x => Process.isName x.1
  let vars : Variables := passed.foldl (fun vars (name, value) =>
    vars.insert name { value := some value, exported := true }) .empty
  let usual := [("PATH", standardPath), ("PS1", "# "), ("PS2", "> "), ("PS4", "+ ")]
  let vars := usual.foldl (fun vars (name, value) =>
    if (vars.get? name).isSome then vars else vars.put name value) vars
  let own := [("IFS", " \t\n"), ("OPTIND", "1"), ("PPID", toString p.parent)]
  let vars := own.foldl (fun vars (name, value) => vars.put name value) vars
  let leadsHere (text : String) : Bool :=
    text.startsWith "/" &&
      match p.files.entry p.cwd ⟨text⟩ with
      | .ok place => place.location == p.cwd
      | .error _ => false
  let directory := ((vars.value? "PWD").filter leadsHere).getD p.cwd.path.text
  (vars.insert "PWD" { value := some directory, exported := true }, directory)

/-- The process of a shell that has just been started. -/
def begin (name : String) (p : Process) : Process :=
  let (vars, directory) := startVariables p
  { world := p.world, id := p.id, parent := p.parent, shell := p.id, cwd := p.cwd, directory, name
    vars, descriptors := p.descriptors, ignored := p.ignored, mask := p.mask, line := 0 }

/-- Reads the options of a shell, and says whether a script is among its arguments. -/
def startOptions (scripted : Bool) : (fuel : Nat) → List String → Run (Bool × List String)
  | 0, args => return (scripted, args)
  | _, [] => return (scripted, [])
  | fuel + 1, arg :: rest =>
    match arg.toList with
    | ['-'] => return (scripted, rest)
    | ['-', '-'] => return (scripted, rest)
    | '-' :: letters => do
      let left ← setLetters true (letters.filter fun c => c ≠ 'c' && c ≠ 'l') rest
      startOptions (scripted || letters.contains 'c') fuel left
    | '+' :: letters => do startOptions scripted fuel (← setLetters false letters rest)
    | _ => return (scripted, arg :: rest)

/-- The program env: what it changes, and what it is to run. -/
def environmentArguments : List String → Process → Process × List String
  | "-i" :: rest, p => environmentArguments rest { p with vars := .empty }
  | "-" :: rest, p => environmentArguments rest { p with vars := .empty }
  | "-u" :: name :: rest, p => environmentArguments rest { p with vars := p.vars.erase name }
  | "--" :: rest, p => assignments rest p
  | args, p => assignments args p
where
  assignments : List String → Process → Process × List String
    | arg :: rest, p =>
      match definition arg with
      | (name, some value) =>
        assignments rest
          { p with vars := p.vars.insert name { value := some value, exported := true } }
      | _ => (p, arg :: rest)
    | [], p => (p, [])

/-! ### Scripts -/

mutual

/-- What a script writes, in a process of its own. -/
def outputOf : (fuel : Nat) → Script → Run String
  | 0, _ => fail "script too deep"
  | fuel + 1, body => do
    if body.isEmpty then return ""
    let pipe ← Run.newPipe
    let child ← copy
    Run.start (child.connect 1 (.pipeInput pipe)) (ofChild fuel (runList { last := true } fuel body))
    let bytes ← Run.holding (.pipeOutput pipe) (Run.readAll (.pipeOutput pipe))
    let status ← foreground [child.id]
    update fun p => { p with taken := status }
    return Text.Octets.ofBytes (bytes.filter (· ≠ 0))

/-- Runs a part of a shell that is a process of its own. -/
def ofChild : (fuel : Nat) → Run Unit → Run Unit
  | 0, _ => pure ()
  | fuel + 1, x => do
    let _ ← attempt x
    conclude fuel

/-- Runs the trap for the end of the shell. The status stays unless the trap ends the shell itself. -/
def conclude : (fuel : Nat) → Run Unit
  | 0 => pure ()
  | fuel + 1 => do
    let p ← get
    match p.traps.lookup 0 with
    | none => pure ()
    | some action =>
      set { p with
        traps := p.traps.filter (·.1 ≠ 0), statusBefore := some p.status, loops := 0 }
      match ← attempt (runText {} fuel action) with
      | some .exit => pure ()
      | some .failure => pure ()
      | _ => leave p.status

/-- Runs the traps of signals that have come. The status stays. -/
def answer : (fuel : Nat) → Run Unit
  | 0 => pure ()
  | fuel + 1 => do
    let p ← get
    if p.pending.isEmpty then return
    let status := p.statusBefore.getD p.status
    let numbers := (p.pending.map Signal.number).eraseDups.mergeSort fun a b => a ≤ b
    set { p with pending := [], statusBefore := some status }
    answerEach status fuel numbers
    update fun q => { q with statusBefore := p.statusBefore }

def answerEach (status : Nat) : (fuel : Nat) → List Nat → Run Unit
  | 0, _ => pure ()
  | _, [] => pure ()
  | fuel + 1, number :: rest => do
    match (← get).traps.lookup number with
    | none => pure ()
    | some action =>
      match ← attempt (runText {} fuel action) with
      | none => leave status
      | some (.leaveLoop n) => do
        leave status
        throw (.leaveLoop n)
      | some other => throw other
    answerEach status fuel rest

/-- Runs a text. One without commands succeeds. -/
def runText (way : Way) : (fuel : Nat) → String → Run Unit
  | 0, _ => fail "script too deep"
  | fuel + 1, text => do
    let outer := (← get).reached
    let stop ← attempt (runLines way false fuel ⟨text.toList, 1⟩)
    update fun p => { p with reached := outer }
    resume stop

/-- Runs the lines that are left of a text. -/
def runLines (way : Way) (ran : Bool) : (fuel : Nat) → Script.Rest → Run Unit
  | 0, _ => fail "script too long"
  | fuel + 1, rest => do
    if rest.text.isEmpty then
      if !ran then leave 0
    else
      match Script.nextLine (← get).aliases rest with
      | .error e => do
        update fun p => { p with line := e.line }
        fail ("Syntax error: " ++ e.text)
      | .ok line => do
        update fun p => { p with reached := line.rest.line }
        runList { way with last := way.last && line.isLast } fuel line.body
        runLines way (ran || !line.body.isEmpty) fuel line.rest

def runList (way : Way) : (fuel : Nat) → Script → Run Unit
  | 0, _ => fail "script too deep"
  | _, [] => pure ()
  | fuel + 1, [command] => run way fuel command
  | fuel + 1, first :: rest => do
    run { way with last := false } fuel first
    runList way fuel rest

/-- Runs one command. -/
def run (way : Way) : (fuel : Nat) → Command → Run Unit
  | 0, _ => fail "script too deep"
  | fuel + 1, command => do
    if (← get).has 'n' then return
    answer fuel
    match command with
    | .simple line assignments words redirections =>
      update fun p => { p with line, taken := 0 }
      runSimple way fuel assignments words redirections
      check way
    | .pipeline stages =>
      let processes ← startStages way false fuel none stages
      leave (← foreground processes)
      check way
    | .negation body =>
      run { tested := true } fuel body
      update fun p => p.withStatus (if p.status = 0 then 1 else 0)
    | .both first second =>
      run { tested := true } fuel first
      if (← get).status = 0 then run way fuel second
    | .either first second =>
      run { tested := true } fuel first
      if (← get).status ≠ 0 then run way fuel second
    | .background body => runBehind fuel body
    | .subshell body =>
      runApart way fuel [] body
      check way
    | .group body => runList way fuel body
    | .redirected line (.subshell body) redirections =>
      update fun p => { p with line }
      runApart way fuel (← targetsOf (outputOf fuel) redirections) body
      check way
    | .redirected line body redirections =>
      update fun p => { p with line }
      let targets ← targetsOf (outputOf fuel) redirections
      directed (targets.map Directed.descriptor) false false
        (connectAll (outputOf fuel) targets) (run { tested := way.tested } fuel body)
      check way
    | .branch arms otherwise => runBranch way fuel arms otherwise
    | .repeatWhile wanted condition body => withinLoop (do
      let (stop, status) ← rounds way.tested wanted condition body 0 fuel
      if stop.isNone then leave status
      return stop)
    | .forEach line name words body =>
      update fun p => { p with line }
      let items ← match words with
        | some words => fieldsOfWords (outputOf fuel) words
        | none => pure (← get).arguments
      withinLoop (do
        let (stop, status) ← overItems way.tested name body 0 fuel items
        if stop.isNone then leave status
        return stop)
    | .select line word arms =>
      update fun p => { p with line }
      let text ← textOfWord (outputOf fuel) .atStart word
      runChoice way fuel text.toList arms
    | .define _ name body =>
      update fun p =>
        let others := p.functions.filter fun f => f.1 ≠ name
        { p with functions := (name, body) :: others }.withStatus 0
    answer fuel

/-- Runs commands in a process of their own, unless nothing follows them. -/
def runApart (way : Way) : (fuel : Nat) → List Directed → Script → Run Unit
  | 0, _, _ => fail "script too deep"
  | fuel + 1, targets, body => do
    let x : Run Unit := do
      connectAll (outputOf fuel) targets
      runList { way with last := true } fuel body
    if way.last && (← get).traps.isEmpty then x
    else
      let child ← copy
      Run.start child (ofChild fuel x)
      leave (← foreground [child.id])

/-- Starts a command, or the stages of a pipeline, in the background. -/
def runBehind : (fuel : Nat) → Command → Run Unit
  | 0, _ => fail "script too deep"
  | fuel + 1, body => do
    let processes ← match body with
      | .pipeline stages => startStages {} true fuel none stages
      | _ => do
        let (targets, inner) ← match body with
          | .redirected _ (.subshell _) _ => pure ([], body)
          | .redirected line inner redirections => do
            update fun p => { p with line }
            pure (← targetsOf (outputOf fuel) redirections, inner)
          | _ => pure ([], body)
        let child ← copy
        Run.start (behind true child) (ofChild fuel (do
          connectAll (outputOf fuel) targets
          run { last := true } fuel inner))
        pure [child.id]
    let number ← jobNumber
    update fun p =>
      let job : Job := { number, processes := processes.map fun n => (n, none) }
      { p with jobs := job :: p.jobs, launched := processes.getLast? }.withStatus 0

/-- Starts the stages of a pipeline, each with the output of the one before as its input. -/
def startStages (way : Way) (inBackground : Bool) :
    (fuel : Nat) → (before : Option Nat) → List Command → Run (List Nat)
  | 0, _, _ => fail "script too deep"
  | _, _, [] => return []
  | fuel + 1, before, stage :: rest => do
    update (lookAheadFor stage)
    let pipe ← if rest.isEmpty then pure none else do pure (some (← Run.newPipe))
    let child ← copy
    let child := if inBackground then behind before.isNone child else child
    let child := match before with
      | some n => child.connect 0 (.pipeOutput n)
      | none => child
    let child := match pipe with
      | some n => child.connect 1 (.pipeInput n)
      | none => child
    Run.start child (ofChild fuel (run { way with last := true } fuel stage))
    let others := startStages way inBackground fuel pipe rest
    let more ← match pipe with
      | some n => Run.holding (.pipeOutput n) others
      | none => others
    return child.id :: more

/-- Runs a simple command. -/
def runSimple (way : Way) : (fuel : Nat) → List (String × Word) → List Word →
    List Redirection → Run Unit
  | 0, _, _, _ => fail "script too deep"
  | fuel + 1, assignments, words, redirections => do
    let capture := outputOf fuel
    let call ← Call.ofWords capture words
    let targets ← targetsOf capture redirections
    let p ← get
    let errors := p.channel? 2
    let own := call.own? p
    let replaces := own = some "exec"
    let x : Run Unit := do
      let assigned ← assignAll capture call.isPassing (replaces && 1 < call.words.length)
        assignments
      trace capture errors (assigned ++ call.shown)
      execute way fuel call
    directed (targets.map Directed.descriptor) replaces call.isSpecial
      (connectAll capture targets) (if call.isPassing then withLocals x else x)

/-- Runs a command after its words and assignments have been expanded. -/
def execute (way : Way) : (fuel : Nat) → Call → Run Unit
  | 0, _ => fail "script too deep"
  | fuel + 1, call => do
    let p ← get
    match call.words, call.own? p with
    | [], _ => leave p.taken
    | name :: args, some _ => guarded call.isSpecial name (runOwn way fuel name args)
    | name :: args, none =>
      match meaningOf p call.functions (call.path <|> p.searchPath) name with
      | .function body => callFunction way fuel body args
      | .missing cause =>
        warn (name ++ ": " ++ missingText cause)
        leave 127
      | .program path =>
        if call.path.isNone then update (remember name)
        if way.last && p.traps.isEmpty then become fuel name path args
        else
          let child ← copy
          Run.start child (ofChild fuel (become fuel name path args))
          leave (← foreground [child.id])
      | .ofShell => pure ()

/-- Runs a command of the shell's own. -/
def runOwn (way : Way) : (fuel : Nat) → String → List String → Run Unit
  | 0, _, _ => fail "script too deep"
  | fuel + 1, name, args => do
    match name with
    | "eval" =>
      if args.isEmpty then leave 0
      else runText { tested := way.tested } fuel (String.intercalate " " args)
    | "." =>
      let (_, args) ← readOptions "" args
      match args with
      | [] => leave 0
      | file :: _ => runFile fuel (← scriptPath file)
    | "exec" =>
      match args with
      | [] => leave 0
      | name :: args =>
        let p ← get
        match findOn p p.searchPath name with
        | .program path => become fuel name path args
        | .missing cause => refuseProgram name cause
        | _ => pure ()
    | _ =>
      match simpleCommands.lookup name with
      | some command => command args
      | none => leave 0

/-- Runs the script of a file in the shell that runs. -/
def runFile : (fuel : Nat) → String → Run Unit
  | 0, _ => fail "script too deep"
  | fuel + 1, name => do
    let text ← scriptOf name
    update fun p => { p with command := some name }
    match ← attempt (runText {} fuel text) with
    | some .leaveFunction => pure ()
    | stop => resume stop

/-- Calls a function. -/
def callFunction (way : Way) : (fuel : Nat) → Command → List String → Run Unit
  | 0, _, _ => fail "script too deep"
  | fuel + 1, body, args => do
    let outer ← get
    if depthLimit ≤ outer.depth then
      fail ("Maximum function recursion depth (" ++ toString depthLimit ++ ") reached")
    set { outer with
      arguments := args, optionIndex := 1, letter := none, loops := 0, depth := outer.depth + 1 }
    Run.yield
    let stop ← attempt (run { tested := way.tested } fuel body)
    update fun p => { p with
      arguments := outer.arguments, optionIndex := outer.optionIndex, letter := outer.letter
      loops := outer.loops, depth := outer.depth }
    if stop ≠ some .leaveFunction then resume stop

/-- Runs the body of the first condition that holds. -/
def runBranch (way : Way) : (fuel : Nat) → List (Script × Script) → Script → Run Unit
  | 0, _, _ => fail "script too deep"
  | fuel + 1, [], otherwise =>
    if otherwise.isEmpty then leave 0 else runList way fuel otherwise
  | fuel + 1, (condition, body) :: rest, otherwise => do
    runList { tested := true } fuel condition
    if (← get).status = 0 then runList way fuel body else runBranch way fuel rest otherwise

/-- Repeats a body while its condition has the wanted truth. -/
def rounds (tested wanted : Bool) (condition body : Script) (status : Nat) :
    (fuel : Nat) → Run (Option Interrupt × Nat)
  | 0 => fail "script too long"
  | fuel + 1 => do
    Run.yield
    match ← attempt (runList { tested := true } fuel condition) with
    | some (.nextRound 1) => rounds tested wanted condition body status fuel
    | some stop => return (afterRound stop, status)
    | none =>
      if ((← get).status = 0) ≠ wanted then return (none, status)
      let stop ← attempt (runList { tested } fuel body)
      let status := (← get).status
      match stop with
      | none => rounds tested wanted condition body status fuel
      | some (.nextRound 1) => rounds tested wanted condition body status fuel
      | some stop => return (afterRound stop, status)

/-- Runs a body for each of some values. -/
def overItems (tested : Bool) (name : String) (body : Script) (status : Nat) :
    (fuel : Nat) → List String → Run (Option Interrupt × Nat)
  | 0, _ => fail "script too long"
  | _, [] => return (none, status)
  | fuel + 1, item :: rest => do
    Run.yield
    assign name item
    let stop ← attempt (runList { tested } fuel body)
    let status := (← get).status
    match stop with
    | none => overItems tested name body status fuel rest
    | some (.nextRound 1) => overItems tested name body status fuel rest
    | some stop => return (afterRound stop, status)

/-- Runs the body of the first pattern that describes a text. -/
def runChoice (way : Way) : (fuel : Nat) → List Char → List (List Word × Script) → Run Unit
  | 0, _, _ => fail "script too deep"
  | _, _, [] => leave 0
  | fuel + 1, text, (patterns, body) :: rest => do
    if ← fits fuel text patterns then
      if body.isEmpty then leave 0 else runList way fuel body
    else runChoice way fuel text rest

/-- Whether one of the patterns describes a text. -/
def fits : (fuel : Nat) → List Char → List Word → Run Bool
  | 0, _, _ => fail "script too deep"
  | _, _, [] => return false
  | fuel + 1, text, pattern :: rest => do
    if Wildcard.accepts (← patternOfWord (outputOf fuel) pattern) text then return true
    fits fuel text rest

/-- Becomes the program that runs when a file is started. -/
def become : (fuel : Nat) → (name : String) → Path → List String → Run Unit
  | 0, _, _, _ => fail "script too deep"
  | fuel + 1, name, path, args => do
    let p ← get
    match Launch.ofFile p.files p.cwd name path args with
    | .ok launch => runProgram fuel launch
    | .error cause =>
      if cause = .noExec then runProgram fuel ⟨"dash", "/bin/sh", path.text :: args⟩
      else refuseProgram name cause

/-- Runs a program to its end. -/
def runProgram : (fuel : Nat) → Launch → Run Unit
  | 0, _ => fail "script too deep"
  | fuel + 1, launch => do
    update fun p => p.forProgram.withStatus 0
    match launch.program with
    | "dash" => runShell fuel launch.name launch.arguments
    | "env" => runChanged fuel launch.arguments
    | program =>
      match Programs.table.lookup program with
      | some x => x launch.arguments
      | none => pure ()
    Run.halt

/-- Runs a program with a changed environment, or shows that. -/
def runChanged : (fuel : Nat) → List String → Run Unit
  | 0, _ => fail "script too deep"
  | fuel + 1, args => do
    let (p, rest) := environmentArguments args (← get)
    set p
    match rest with
    | [] => Programs.printenv []
    | name :: args =>
      let searchPath := p.searchPath.getD usualPath
      match findProgram p.files p.cwd (some searchPath) name with
      | .error cause => Programs.refuseCommand name cause
      | .ok path =>
        match Launch.ofFile p.files p.cwd name path args with
        | .ok launch => runProgram fuel launch
        | .error cause =>
          if cause = .noExec then runProgram fuel ⟨"dash", "/bin/sh", path.text :: args⟩
          else Programs.refuseCommand name cause

/-- Runs a shell with its arguments. -/
def runShell : (fuel : Nat) → String → List String → Run Unit
  | 0, _, _ => fail "script too deep"
  | fuel + 1, name, args => do
    update (begin name)
    let _ ← attempt (do
      let (scripted, args) ← startOptions false args.length args
      if scripted then
        match args with
        | [] => fail "-c requires an argument"
        | text :: rest =>
          introduce rest
          runText { last := !(← get).has 's' } fuel text
          if (← get).has 's' then runText {} fuel (← inputScript)
      else if args.isEmpty || (← get).has 's' then
        update fun p => setOption true 's' { p with arguments := args, line := 1 }
        runText {} fuel (← inputScript)
      else
        let text ← scriptOf (args.headD "")
        introduce args
        runText {} fuel text)
    conclude fuel

end

end Shell
end ComposeHarness.Machine
