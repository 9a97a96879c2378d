/-!
# Arguments of a command line

Options have long names, and some of them a letter; letters may stand together in one argument.
The value of an option follows it, in the same argument or in the next one. After two dashes
everything is an operand.
-/
namespace ComposeHarness.CommandLine

/-- Why a command line is not carried out. -/
inductive Stop where
  | usage
  /-- Help is asked for, with the whole program or with one command. -/
  | help (command : Option String)
  | version
  deriving Repr, DecidableEq

/-- Help that is asked for behind a command is help with that command. -/
def Stop.behind (command : String) : Stop → Stop
  | .help none => .help (some command)
  | stop => stop

/-- What an option does. -/
inductive Effect where
  | flag
  /-- Takes a value; not every text is one. -/
  | value (accepts : String → Bool)
  | stop (reason : Stop)

structure OptionSpec where
  name : String
  letter : Option Char
  effect : Effect
  about : String
  /-- What the help calls the value. -/
  valueName : String := ""
  /-- The variable that stands in for the option where it is not given. -/
  substitute : Option String := none
  /-- The value where nothing else gives one. -/
  usual : Option String := none

/-- What a command line holds: the values of options, the flags and the operands. -/
structure Arguments where
  values : List (String × String) := []
  flags : List String := []
  operands : List String := []
  deriving Repr, DecidableEq

namespace Arguments

def value? (a : Arguments) (name : String) : Option String := a.values.lookup name

def has (a : Arguments) (name : String) : Bool := a.flags.contains name

/-- No option may be given twice. -/
def addValue (a : Arguments) (name value : String) : Except Stop Arguments :=
  if (a.value? name).isSome then .error .usage
  else .ok { a with values := (name, value) :: a.values }

def addFlag (a : Arguments) (name : String) : Except Stop Arguments :=
  if a.has name then .error .usage else .ok { a with flags := name :: a.flags }

/-- Whether an argument cannot be the value of the option before it. A single dash can. -/
def looksLikeOption (arg : String) : Bool :=
  match arg.toList with
  | '-' :: _ :: _ => true
  | _ => false

/-- Gives an option the value in its own argument or else the next one. -/
def take (a : Arguments) (spec : OptionSpec) (attached : Option String) (rest : List String) :
    Except Stop (Arguments × List String) :=
  match spec.effect, attached, rest with
  | .stop reason, none, _ => .error reason
  | .flag, none, _ => do .ok (← a.addFlag spec.name, rest)
  | .value accepts, some v, _ =>
    if accepts v then do .ok (← a.addValue spec.name v, rest) else .error .usage
  | .value accepts, none, v :: rest =>
    if !looksLikeOption v && accepts v then do .ok (← a.addValue spec.name v, rest)
    else .error .usage
  | _, _, _ => .error .usage

/-- The options that stand together in one argument. -/
def takeLetters (specs : List OptionSpec) :
    List Char → Arguments → List String → Except Stop (Arguments × List String)
  | [], a, rest => .ok (a, rest)
  | c :: cs, a, rest =>
    match specs.find? (fun spec => spec.letter = some c) with
    | none => .error .usage
    | some spec =>
      match spec.effect, cs with
      | .value _, '=' :: v => a.take spec (some (String.ofList v)) rest
      | .value _, _ :: _ => a.take spec (some (String.ofList cs)) rest
      | .value _, [] => a.take spec none rest
      | _, _ => do
        let (a, rest) ← a.take spec none rest
        takeLetters specs cs a rest

/-- Takes the option at the front; nothing if there is none. -/
def takeOption (specs : List OptionSpec) (a : Arguments) (arg : String) (rest : List String) :
    Option (Except Stop (Arguments × List String)) :=
  match arg.toList with
  | '-' :: '-' :: body =>
    let name := String.ofList (body.takeWhile (· != '='))
    let attached := match body.dropWhile (· != '=') with
      | _ :: v => some (String.ofList v)
      | [] => none
    match specs.find? (fun spec => spec.name = name) with
    | some spec => some (a.take spec attached rest)
    | none => some (.error .usage)
  | '-' :: c :: cs => some (takeLetters specs (c :: cs) a rest)
  | _ => none

/-- Reads a whole command line. -/
def readAll (specs : List OptionSpec) (accepts : String → Bool) :
    (fuel : Nat) → List String → Arguments → Except Stop Arguments
  | 0, _, _ => .error .usage
  | _ + 1, [], a => .ok a
  | fuel + 1, arg :: rest, a =>
    if arg = "--" then
      if rest.all accepts then .ok { a with operands := a.operands ++ rest } else .error .usage
    else
      match takeOption specs a arg rest with
      | some result => do
        let (a, rest) ← result
        readAll specs accepts fuel rest a
      | none =>
        if accepts arg then
          readAll specs accepts fuel rest { a with operands := a.operands ++ [arg] }
        else .error .usage

def read (specs : List OptionSpec) (accepts : String → Bool) (args : List String) :
    Except Stop Arguments :=
  readAll specs accepts (args.length + 1) args {}

/-- Reads the options in front of the first operand, and gives that and what follows it. -/
def readFront (specs : List OptionSpec) :
    (fuel : Nat) → List String → Arguments → Except Stop (Arguments × String × List String)
  | 0, _, _ => .error .usage
  | _ + 1, [], _ => .error .usage
  | fuel + 1, arg :: rest, a =>
    if arg = "--" then .error .usage
    else
      match takeOption specs a arg rest with
      | some result => do
        let (a, rest) ← result
        readFront specs fuel rest a
      | none => .ok (a, arg, rest)

end Arguments
end ComposeHarness.CommandLine
