import ComposeHarness.Machine.Shell.Basic

/-!
# Settings

The commands that change what a shell keeps for its scripts: options, arguments, variables, aliases
and the permissions of new files.
-/
namespace ComposeHarness.Machine.Shell

open Run (update)

/-! ### Options -/

/-- The options by name, in the order in which they are listed, each with its letter. The last two
are never set by their letters. -/
def optionNames : List (String × Char) :=
  [("errexit", 'e'), ("noglob", 'f'), ("ignoreeof", 'I'), ("interactive", 'i'), ("monitor", 'm'),
    ("noexec", 'n'), ("stdin", 's'), ("xtrace", 'x'), ("verbose", 'v'), ("vi", 'V'),
    ("emacs", 'E'), ("noclobber", 'C'), ("allexport", 'a'), ("notify", 'b'), ("nounset", 'u'),
    ("privileged", 'p'), ("nolog", 'l'), ("debug", 'd')]

def setOption (value : Bool) (letter : Char) (p : Process) : Process :=
  let rivals := if !value then [] else
    match letter with
    | 'V' => ['E']
    | 'E' => ['V']
    | _ => []
  let others := p.options.filter fun c => c ≠ letter && !rivals.contains c
  { p with options := if value then letter :: others else others }

def sign (value : Bool) : String := if value then "-" else "+"

/-- Sets the option with a name. Without a name all of them are listed, in words or as commands. -/
def setNamed (value : Bool) : Option String → Run Unit
  | some name =>
    match optionNames.lookup name with
    | some letter => update (setOption value letter)
    | none => fail ("Illegal option -o " ++ name)
  | none => do
    let p ← get
    let column := 16
    let line (x : String × Char) : String :=
      if value then
        x.1 ++ String.ofList (List.replicate (column - x.1.length) ' ') ++
          (if p.has x.2 then "on" else "off") ++ "\n"
      else "set " ++ sign (p.has x.2) ++ "o " ++ x.1 ++ "\n"
    say ((if value then "Current option settings\n" else "") ++
      String.join (optionNames.map line))

/-- Sets the options with the given letters. The letter o takes a name out of the arguments. -/
def setLetters (value : Bool) : List Char → List String → Run (List String)
  | [], args => pure args
  | 'o' :: letters, args => do
    setNamed value args.head?
    setLetters value letters (args.drop 1)
  | c :: letters, args => do
    if !Process.optionOrder.contains c then fail ("Illegal option -" ++ String.singleton c)
    update (setOption value c)
    setLetters value letters args

/-- Gives the shell new arguments, of which the first is the next to be read as options. -/
def setArguments (args : List String) : Run Unit :=
  update fun p => { p with arguments := args, optionIndex := 1, letter := none }

/-- Sets options up to the first argument that is none, and then the arguments of the shell. -/
def setAll : (fuel : Nat) → List String → Run Unit
  | 0, _ => pure ()
  | _, [] => pure ()
  | fuel + 1, arg :: rest =>
    let others (args : List String) : Run Unit :=
      if args.isEmpty then pure () else setArguments args
    match arg.toList with
    | ['-'] => do
      update fun p => setOption false 'v' (setOption false 'x' p)
      others rest
    | ['-', '-'] => setArguments rest
    | '-' :: letters => do setAll fuel (← setLetters true letters rest)
    | '+' :: letters => do setAll fuel (← setLetters false letters rest)
    | _ => others (arg :: rest)

/-- Lists the variables that `shown` picks, in the order of their names, each in the form of a
command. -/
def listVariables (title : String) (shown : Variable → Bool) : Run Unit := do
  let p ← get
  let chosen := (p.vars.entries.filter fun x => shown x.2).mergeSort fun a b => a.1 ≤ b.1
  say (String.join (chosen.map fun (name, v) =>
    title ++ name ++ (match v.value with
      | some value => "=" ++ quote value
      | none => "") ++ "\n"))

/-- Lists variables, or sets options and arguments. -/
def configure (args : List String) : Run Unit := do
  if args.isEmpty then listVariables "" fun v => v.value.isSome
  else
    setAll (args.length + 1) args
    if (← get).has 'm' then
      warn "can't access tty; job control turned off"
      update (setOption false 'm')
  leave 0

def shift (args : List String) : Run Unit := do
  let n ← match args with
    | [] => pure 1
    | arg :: _ => count arg
  let p ← get
  if p.arguments.length < n then fail "can't shift that many"
  setArguments (p.arguments.drop n)
  leave 0

/-! ### Variables -/

/-- Marks variables, and gives values to those that come with one. Without names the variables that
are marked already are listed. -/
def markVariables (title : String) (isMarked : Variable → Bool) (mark : Variable → Variable)
    (args : List String) : Run Unit := do
  let (flags, names) ← firstOption "p" args
  if flags.isSome || names.isEmpty then listVariables (title ++ " ") isMarked
  else
    for arg in names do
      match definition arg with
      | (name, some value) =>
        assign name value
        update fun p => { p with vars := p.vars.alter name mark }
      | (name, none) =>
        if !Process.isName name then fail (name ++ ": bad variable name")
        update fun p => { p with vars := p.vars.alter name mark }
  leave 0

def exportVariables : List String → Run Unit :=
  markVariables "export" Variable.exported fun v => { v with exported := true }

def protectVariables : List String → Run Unit :=
  markVariables "readonly" Variable.readOnly fun v => { v with readOnly := true }

def unset (args : List String) : Run Unit := do
  let (flags, names) ← readOptions "vf" args
  if (flags.getLast?.map (·.1)) = some 'f' then
    update fun p => { p with functions := p.functions.filter fun f => !names.contains f.1 }
  else
    for name in names do change (·.unassign name)
  leave 0

/-- Gives a variable another value until the function ends. -/
def localize (exported : Bool) (arg : String) : Run Unit := do
  let (name, value) := definition arg
  let p ← get
  match value with
  | some value =>
    if p.vars.isReadOnly name then fail (name ++ ": is read only")
    if name = "OPTIND" then assign name value else update (·.put name value)
  | none => if !Process.isName name then fail (name ++ ": bad variable name")
  let saved := Saved.binding name (p.vars.get? name)
  let publish (v : Variable) : Variable := { v with exported := v.exported || exported }
  update fun p => { p with
    locals := p.locals.map (saved :: ·), vars := p.vars.alter name publish }

/-- Lets variables, or with a dash the options, have other values until the function ends. -/
def makeLocal (args : List String) : Run Unit := do
  if (← get).locals.isNone then fail "not in a function"
  for arg in args do
    if arg = "-" then
      update fun p => { p with locals := p.locals.map (.options p.options :: ·) }
    else localize false arg
  leave 0

/-- Puts back what a function has changed only for itself. -/
def restoreAll : List Saved → Run Unit
  | [] => pure ()
  | .options letters :: rest => do
    update fun p => { p with options := letters }
    restoreAll rest
  | .binding name none :: rest => do
    if !Process.isName name then fail (name ++ ": bad variable name")
    update fun p => { p with
      vars := p.vars.erase name
      looked := if name = "PATH" then [] else p.looked }
    restoreAll rest
  | .binding name (some v) :: rest => do
    update fun p =>
      let before := match v.value with
        | some value => p.put name value
        | none => p
      { before with vars := before.vars.restore name (some v) }
    restoreAll rest

/-- Does something whose changes to local variables are undone when it ends. -/
def withLocals (x : Run Unit) : Run Unit := do
  let outer := (← get).locals
  update fun p => { p with locals := some [] }
  let stop ← Run.attempt x
  let saved := (← get).locals.getD []
  update fun p => { p with locals := outer }
  restoreAll saved
  Run.resume stop

/-! ### Aliases -/

/-- An alias as a script would have to write it. -/
def showAlias (name value : String) : String := name ++ "=" ++ quote value ++ "\n"

/-- Defines aliases, and shows those that are only named. -/
def defineAliases (args : List String) : Run Unit := do
  let p ← get
  leave 0
  if args.isEmpty then
    let ordered := p.aliases.entries.mergeSort fun a b =>
      Variables.placeOf a.1 ≤ Variables.placeOf b.1
    say (String.join (ordered.map fun x => showAlias x.1 x.2))
  for arg in args do
    match definition (arg.drop 1).toString with
    | (_, some value) =>
      let name := String.ofList (arg.toList.take (arg.length - value.length - 1))
      update fun p => { p with aliases := p.aliases.insert name value }
    | (_, none) =>
      match (← get).aliases.get? arg with
      | some value => say (showAlias arg value)
      | none =>
        update (·.complain ("alias: " ++ arg ++ " not found"))
        leave 1

def unalias (args : List String) : Run Unit := do
  let (flags, names) ← readOptions "a" args
  leave 0
  if !flags.isEmpty then update fun p => { p with aliases := .empty }
  else
    for name in names do
      let p ← get
      if (p.aliases.get? name).isNone then
        update (·.complain ("unalias: " ++ name ++ " not found"))
        leave 1
      else
        update fun p => { p with
          aliases := .ofList (p.aliases.entries.filter fun x => x.1 ≠ name) }

/-! ### Permissions of new files -/

/-- The bits of three permissions for each of the owner, the group and the others. -/
def allBits : Nat := 0o777

/-- The letters of permissions, each with its bit. -/
def permissions : List (Char × Nat) := [('r', 4), ('w', 2), ('x', 1)]

/-- A mask in the words of whom it grants what. -/
def symbolic (mask : Nat) : String :=
  let granted (shift : Nat) : String :=
    String.ofList ((permissions.filter fun x => (mask >>> shift) &&& x.2 = 0).map (·.1))
  "u=" ++ granted 6 ++ ",g=" ++ granted 3 ++ ",o=" ++ granted 0

/-- Whom letters speak of, as the lowest bits of each. -/
def whom (c : Char) : Nat :=
  match c with
  | 'a' => 0o111
  | 'u' => 0o100
  | 'g' => 0o010
  | 'o' => 0o001
  | _ => 0

/-- What a letter grants where `before` was granted. -/
def grant (before : Nat) (c : Char) : Nat :=
  match c with
  | 'u' => before >>> 6
  | 'g' => before >>> 3
  | 'o' => before
  | 'X' => if before &&& 0o111 ≠ 0 then 1 else 0
  | _ => (permissions.lookup c).getD 0

/-- What is granted after a rule, whose first letters say for whom. Nothing if it is none. -/
def applyRules (before : Nat) : (fuel : Nat) → (positions granted : Nat) → List Char → Option Nat
  | 0, _, _, _ => none
  | _, _, granted, [] => some granted
  | fuel + 1, positions, granted, cs =>
    let isWhom (c : Char) : Bool := whom c ≠ 0
    let isGrant (c : Char) : Bool := "rwxugoXs".toList.contains c
    let positions := (cs.takeWhile isWhom).foldl (fun n c => n ||| whom c) positions
    let positions := if positions = 0 then 0o111 else positions
    match cs.dropWhile isWhom with
    | [] => some granted
    | op :: rest =>
      if !"=+-".toList.contains op then none
      else
        let value := (rest.takeWhile isGrant).foldl (fun n c => n ||| grant before c) 0
        let bits := (value &&& 7) * positions
        let without (mask : Nat) : Nat := granted &&& (allBits ^^^ (mask &&& allBits))
        let granted := match op with
          | '-' => without bits
          | '=' => bits ||| without (positions * 7)
          | _ => granted ||| bits
        match rest.dropWhile isGrant with
        | [] => some granted
        | ',' :: rest => applyRules before fuel 0 granted rest
        | next :: rest =>
          if "=+-".toList.contains next then applyRules before fuel positions granted (next :: rest)
          else none

def umask (args : List String) : Run Unit := do
  let (flags, args) ← readOptions "S" args
  let mask := (← get).mask
  match args with
  | [] =>
    let digits := Nat.toDigits 8 mask
    say ((if flags.isEmpty then
        String.ofList (List.replicate (4 - digits.length) '0' ++ digits)
      else symbolic mask) ++ "\n")
  | arg :: _ =>
    let cs := arg.toList
    let mask ← if (cs.head?.getD ' ').isDigit then
        if cs.all (Text.isDigitOf 8) then pure (Text.numeral 8 cs)
        else fail ("Illegal number: " ++ arg)
      else
        let granted := allBits ^^^ mask
        match applyRules granted (cs.length + 1) 0 granted cs with
        | some granted => pure (allBits ^^^ (granted &&& allBits))
        | none => fail ("Illegal mode: " ++ arg)
    update fun p => { p with mask := mask &&& allBits }
  leave 0

example : symbolic 0o022 = "u=rwx,g=rx,o=rx" ∧
    applyRules 0o755 9 0 0o755 "g-rx,o=u".toList = some 0o707 := by decide +kernel

end ComposeHarness.Machine.Shell
