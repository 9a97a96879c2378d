import ComposeHarness.CommandLine.Options

/-!
# Help

The texts that explain the program and its commands. The options of a page stand in a column, with
what they are for beside them, or below them where the page would get too wide.
-/
namespace ComposeHarness.CommandLine.Help

/-- What a page of help tells of. -/
structure Page where
  about : String
  /-- What follows the name of the program. -/
  usage : String
  commands : List (String × String) := []
  operands : List (String × String) := []
  options : List OptionSpec := []

/-! ### Columns -/

/-- How wide a page is meant to be. -/
def pageWidth : Nat := 100

def blanks (n : Nat) : String := String.ofList (List.replicate n ' ')

/-- The longest of some texts. -/
def widest (texts : List String) : Nat := texts.foldl (fun n t => max n t.length) 0

/-- A column of titles and one of explanations. -/
def table (rows : List (String × String)) : String :=
  let width := widest (rows.map (·.1))
  String.join (rows.map fun (title, about) =>
    "  " ++ title ++ blanks (width - title.length) ++ "  " ++ about ++ "\n")

/-- Titles with the explanations below them. -/
def stacked (rows : List (String × String)) : String :=
  String.join (rows.map fun (title, about) =>
    "  " ++ title ++ "\n" ++ blanks 10 ++ about ++ "\n")

/-- Whether an explanation does not fit beside titles that take up much of the page. -/
def isCrowded (rows : List (String × String)) : Bool :=
  let taken := widest (rows.map (·.1)) + 12
  2 * pageWidth < 5 * taken && rows.any fun row => pageWidth < taken + row.2.length

def titled (title : String) (body : String) : String :=
  if body.isEmpty then "" else "\n" ++ title ++ ":\n" ++ body

/-! ### Options -/

/-- An option as a page writes it. -/
def title (o : OptionSpec) : String :=
  (match o.letter with
    | some c => "-" ++ c.toString ++ ", "
    | none => blanks 4) ++ "--" ++ o.name ++
  (if o.valueName.isEmpty then "" else " <" ++ o.valueName ++ ">")

/-- What an option is for, and what it is where it is not given. -/
def explanation (lookup : String → Option String) (o : OptionSpec) : String :=
  o.about ++
  (match o.substitute with
    | some name => " [env: " ++ name ++ "=" ++ (lookup name).getD "" ++ "]"
    | none => "") ++
  (match o.usual with
    | some value => " [default: " ++ value ++ "]"
    | none => "")

/-- What decides between options of one rank: the letter, or else the name. -/
def sortKey (o : OptionSpec) : String :=
  match o.letter with
  | some c => c.toLower.toString ++ (if c.isLower then "0" else "1")
  | none => o.name

/-- The options of several lists: the first ones of all lists come first, then the second ones. -/
def inOrder (lists : List (List OptionSpec)) : List OptionSpec :=
  let ranked := lists.flatMap List.zipIdx
  (ranked.mergeSort fun a b => a.2 < b.2 || (a.2 = b.2 && sortKey a.1 ≤ sortKey b.1)).map (·.1)

def optionsText (lookup : String → Option String) (options : List OptionSpec) : String :=
  let rows := options.map fun o => (title o, explanation lookup o)
  if isCrowded rows then stacked rows else table rows

/-! ### Pages -/

def Page.text (lookup : String → Option String) (p : Page) : String :=
  p.about ++ "\n\nUsage: compose-e2e " ++ p.usage ++ "\n" ++
    titled "Commands" (table p.commands) ++
    titled "Arguments" (table p.operands) ++
    titled "Options" (optionsText lookup p.options)

def mainPage : Page where
  about := "End-to-end scenario harness for compose CLIs"
  usage := "[OPTIONS] <COMMAND>"
  commands := Options.commands
  options := Options.globalOptions ++ [Options.helpOption, Options.versionOption]

def helpPage : Page where
  about := (Options.commands.lookup "help").getD ""
  usage := "help [COMMAND]..."
  operands := [("[COMMAND]...", "Print help for the subcommand(s)")]

/-- What a command wants beside its options. -/
def operandsOf : String → List (String × String)
  | "run" => [("<SCENARIOS>...", "YAML scenario files; all of them run concurrently")]
  | "validate" => [("<SCENARIOS>...", "YAML scenario files")]
  | _ => []

/-- What has to stand behind a command. -/
def required : String → String
  | "names" => " --project <PROJECT>"
  | command => String.join ((operandsOf command).map fun o => " " ++ o.1)

def commandPage (command : String) : Page where
  about := (Options.commands.lookup command).getD ""
  usage := command ++ " [OPTIONS]" ++ required command
  operands := operandsOf command
  options := inOrder [Options.optionsOf command, Options.globalOptions] ++ [Options.helpOption]

/-- The help with the program or with one of its commands. -/
def text (lookup : String → Option String) (command : Option String) : String :=
  Page.text lookup (match command with
    | none => mainPage
    | some "help" => helpPage
    | some command => commandPage command)

end ComposeHarness.CommandLine.Help
