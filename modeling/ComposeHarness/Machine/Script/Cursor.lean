import ComposeHarness.Dict
import ComposeHarness.Machine.Script.Basic

/-!
# Places in scripts

A cursor stands somewhere in the text of a script. It knows the line, where the text goes on after a
line that is followed by texts of its redirections, and which aliases it is reading the values of.
Two characters that join lines, a backslash and the end of a line, count for nothing.
-/
namespace ComposeHarness.Machine.Script

/-! ### Characters -/

def isBlank (c : Char) : Bool := c == ' ' || c == '\t'

/-- Whether a character ends a word that is not quoted. -/
def endsWord (c : Char) : Bool :=
  isBlank c || c == '\n' || c == ';' || c == '&' || c == '|' || c == '<' || c == '>' || c == '(' ||
    c == ')'

def isNameStart (c : Char) : Bool := c.isAlpha || c == '_'

def isNamePart (c : Char) : Bool := c.isAlphanum || c == '_'

/-- Whether a character names a parameter of the shell's own. -/
def isSpecial (c : Char) : Bool :=
  c == '@' || c == '*' || c == '#' || c == '?' || c == '-' || c == '$' || c == '!'

def isName (text : String) : Bool :=
  match text.toList with
  | c :: cs => isNameStart c && cs.all isNamePart
  | [] => false

/-! ### Words for messages -/

/-- Words that are read as commands only after quoting. -/
def reservedWords : List String :=
  ["!", "case", "do", "done", "elif", "else", "esac", "fi", "for", "if", "in", "then", "until",
    "while", "\x7b", "\x7d"]

/-- Commands of the shell itself that no function can replace and whose errors end a script. -/
def specialCommands : List String :=
  [".", ":", "break", "continue", "eval", "exec", "exit", "export", "local", "readonly", "return",
    "set", "shift", "times", "trap", "unset"]

/-- What a script is made of. -/
inductive Token where
  | finish
  | newline
  | sign (text : String)
  /-- Where the redirected text stands in later lines, tabs in front of them may be left out. -/
  | redirection (descriptor : Nat) (direction : Direction) (tabs : Bool)
  | word (parts : Word)
  | reserved (text : String)

namespace Token

def inQuotes (s : String) : String := "\"" ++ s ++ "\""

/-- A token as messages name it. -/
def wording : Token → String
  | .finish => "end of file"
  | .newline => "newline"
  | .sign text => inQuotes text
  | .redirection .. => "redirection"
  | .word _ => "word"
  | .reserved text => inQuotes text

def isSign (text : String) : Token → Bool
  | .sign other => other == text
  | _ => false

def isReserved (text : String) : Token → Bool
  | .reserved other => other == text
  | _ => false

/-- Whether a token ends a list of commands. -/
def endsList : Token → Bool
  | .finish => true
  | .sign text => text == ")" || text == ";;"
  | .reserved text => ["do", "done", "elif", "else", "esac", "fi", "then", "\x7d"].contains text
  | _ => false

end Token

/-- The text of a word without quotes and parameters. -/
def plain? : Word → Option String
  | [.literal false text] => some text
  | _ => none

/-- The name that a word assigns to, and the word for its value. -/
def assignment? : Word → Option (String × Word)
  | .literal false text :: rest =>
    let name := String.ofList (text.toList.takeWhile isNamePart)
    match text.toList.dropWhile isNamePart with
    | '=' :: value =>
      if isName name then
        some (name, if value.isEmpty then rest else .literal false (String.ofList value) :: rest)
      else none
    | _ => none
  | _ => none

/-! ### Texts of redirections -/

/-- How a text in later lines ends: with a line of its own, tabs in front of which may be left out. -/
structure Ending where
  delimiter : List Char
  tabs : Bool
  deriving Repr, DecidableEq

namespace Ending

/-- A line without the tabs that count for nothing. -/
def shown (e : Ending) (line : List Char) : List Char :=
  if e.tabs then line.dropWhile (· == '\t') else line

/-- The lines of a text before the one that ends it, what follows that one, and how many lines that
are. -/
def split (e : Ending) : (fuel : Nat) → List Char → List Char × List Char × Nat
  | 0, cs => ([], cs, 0)
  | _, [] => ([], [], 0)
  | fuel + 1, cs =>
    let line := e.shown (cs.takeWhile (· != '\n'))
    match cs.dropWhile (· != '\n') with
    | [] => (if line = e.delimiter then [] else line, [], 0)
    | _ :: after =>
      if line = e.delimiter then ([], after, 1)
      else
        let (body, rest, lines) := e.split fuel after
        (line ++ '\n' :: body, rest, lines + 1)

end Ending

/-! ### The cursor -/

/-- An alias whose value is being read. -/
structure Expanding where
  name : String
  /-- How much text is left once the value has been read. -/
  left : Nat
  /-- Whether the value ends with a blank. -/
  opens : Bool
  deriving Repr, DecidableEq

structure Cursor where
  rest : List Char
  line : Nat := 1
  /-- Where reading goes on once a line has ended: how much text is left after it, what comes then,
  and how many lines have been skipped. -/
  detours : List (Nat × List Char × Nat) := []
  aliases : Dict String := .empty
  expanding : List Expanding := []
  /-- The last token, if it is to be read once more. -/
  pushed : Option Token := none
  last : Token := .newline
  /-- Whether texts of redirections can stand in later lines. -/
  hasLaterLines : Bool := true
  /-- How the text that is read ends, if it is one of a redirection. -/
  ending : Option Ending := none
  /-- What follows the line that ends it, once that has been reached. -/
  beyond : List Char := []

/-- What is wrong with a script, and in which line. -/
structure Fault where
  line : Nat
  text : String
  deriving Repr, DecidableEq

abbrev Reading := StateT Cursor (Except Fault)

/-- Moves over the end of a line. -/
def Cursor.passLine (c : Cursor) (rest : List Char) : Cursor :=
  match c.detours.find? fun d => d.1 = rest.length with
  | some (_, rest, lines) => { c with rest, line := c.line + 1 + lines, detours := [] }
  | none => { c with rest, line := c.line + 1 }

namespace Reading

/-- Gives up at the cursor. -/
def refuse {α : Type} (text : String) : Reading α := do throw ⟨(← get).line, text⟩

/-- Takes one character as it stands. -/
def takeRaw : Reading (Option Char) := do
  let c ← get
  match c.rest with
  | [] => return none
  | '\n' :: rest =>
    set (Cursor.passLine c rest)
    return some '\n'
  | d :: rest =>
    set { c with rest }
    return some d

/-- Moves over joined lines. -/
def join : (fuel : Nat) → Reading Unit
  | 0 => return ()
  | fuel + 1 => do
    let c ← get
    match c.rest with
    | '\\' :: '\n' :: rest =>
      set { c with rest, line := c.line + 1 }
      join fuel
    | _ => return ()

/-- How many lines may be joined. -/
def joints : Nat := Nat.pow 10 6

/-- The next character, which stays. -/
def peek : Reading (Option Char) := do
  join joints
  return (← get).rest.head?

/-- Takes one character. -/
def take : Reading (Option Char) := do
  join joints
  takeRaw

/-- Takes one character. The end of a line is not counted as one. -/
def takeUncounted : Reading (Option Char) := do
  join joints
  match (← get).rest with
  | [] => return none
  | c :: rest =>
    modify fun cursor => { cursor with rest }
    return some c

/-- Takes a character if it is the next one. -/
def takeIf (c : Char) : Reading Bool := do
  if (← peek) = some c then
    let _ ← takeRaw
    return true
  else return false

/-- Takes characters as long as they fit. -/
def takeWhile (fits : Char → Bool) : (fuel : Nat) → List Char → Reading String
  | 0, taken => return String.ofList taken.reverse
  | fuel + 1, taken => do
    match ← peek with
    | some c =>
      if fits c then
        let _ ← takeRaw
        takeWhile fits fuel (c :: taken)
      else return String.ofList taken.reverse
    | none => return String.ofList taken.reverse

/-- How many characters a name may have. -/
def nameLength : Nat := Nat.pow 10 6

/-- Moves over blanks and a comment. -/
def skipBlanks : (fuel : Nat) → Reading Unit
  | 0 => return ()
  | fuel + 1 => do
    match ← peek with
    | some '#' => modify fun c => { c with rest := c.rest.dropWhile (· != '\n') }
    | some c =>
      if isBlank c then
        let _ ← takeRaw
        skipBlanks fuel
    | none => return ()

/-- Puts the value of an alias in front of the text. -/
def expand (name value : String) : Reading Unit :=
  modify fun c =>
    let opens := match value.toList.getLast? with
      | some d => isBlank d
      | none => false
    { c with
      rest := value.toList ++ c.rest
      expanding := ⟨name, c.rest.length, opens⟩ :: c.expanding }

/-- Forgets the aliases whose values have been read, and says whether the last one of them lets the
next word be an alias too. -/
def leaveAliases : Reading Bool := do
  let c ← get
  if c.expanding.isEmpty then return false
  let left := c.rest.length
  let (unread, read) := c.expanding.partition fun e => e.left < left
  set { c with expanding := unread }
  return read.any Expanding.opens

/-- The value of an alias that is not being read already. -/
def aliasOf (word : Word) : Reading (Option (String × String)) := do
  let c ← get
  match plain? word with
  | some name =>
    if c.expanding.any fun e => e.name = name then return none
    else return (c.aliases.get? name).map fun value => (name, value)
  | none => return none

/-! ### Lines further on -/

/-- The text of a line, over quoted line ends, and what follows it. -/
def restOfLine (quote : Option Char) : List Char → List Char
  | [] => []
  | '\\' :: _ :: rest => restOfLine quote rest
  | c :: rest =>
    if some c = quote then restOfLine none rest
    else if quote.isSome then restOfLine quote rest
    else if c = '\n' then rest
    else if c = '\'' || c = '"' then restOfLine (some c) rest
    else restOfLine none rest

/-- Where the next text in later lines starts: how much text is left after the line that it follows,
the text from there on, and how many lines are skipped before it. -/
def laterLines : Reading (Nat × List Char × Nat) := do
  let c ← get
  match c.detours with
  | detour :: _ => return detour
  | [] =>
    let rest := restOfLine none c.rest
    return (rest.length, rest, 0)

/-- Notes that the lines up to some place have been read already. -/
def skipLines (left : Nat) (rest : List Char) (lines : Nat) : Reading Unit :=
  modify fun c => { c with detours := [(left, rest, lines)] }

/-- Stands at the start of a line of a text that has an end. The line that ends it is passed over, and
nothing is left to be read then. -/
def startLine : Reading Unit :=
  modify fun c =>
    match c.ending with
    | none => c
    | some e =>
      let rest := e.shown c.rest
      if e.delimiter.isPrefixOf rest then
        match rest.drop e.delimiter.length with
        | [] => { c with rest := [], line := c.line + 1 }
        | '\n' :: after => { c with rest := [], beyond := after, line := c.line + 1 }
        | _ => { c with rest }
      else { c with rest }

end Reading
end ComposeHarness.Machine.Script
