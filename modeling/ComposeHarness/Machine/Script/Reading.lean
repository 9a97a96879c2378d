import ComposeHarness.Machine.Script.Cursor

/-!
# Reading scripts

A script is read line by line, so that a line can change how the next ones are read. Words are made
of parts; where the parts of a word end, and which characters are special in it, depends on the
context in which it stands. `fuel` bounds how long a script may be.
-/
namespace ComposeHarness.Machine.Script
namespace Reading

/-! ### Tokens -/

/-- Where a run of parts ends. -/
inductive Stop where
  | wordEnd
  | quote
  | brace
  | arithmetic
  /-- With the text itself. -/
  | textEnd
  deriving DecidableEq

/-- What the characters of a word stand in. -/
structure Context where
  stop : Stop
  /-- Whether they count as quoted. -/
  quoted : Bool := false
  /-- Whether braces around them are still open. -/
  braced : Bool := false
  /-- Whether an odd number of quotation marks has been read inside quoted braces. -/
  odd : Bool := false
  /-- How many parentheses are open in an arithmetic expression. -/
  depth : Nat := 0
  /-- Whether they belong to the text of a redirection. -/
  ofText : Bool := false
  /-- Whether a dollar sign and a backquote stand for themselves. -/
  plain : Bool := false

/-- Adds a character to parts that are kept in reverse. -/
def addChar (quoted : Bool) (c : Char) : List Part → List Part
  | .literal q text :: rest =>
    if q = quoted then .literal q (text.push c) :: rest
    else .literal quoted (String.singleton c) :: .literal q text :: rest
  | parts => .literal quoted (String.singleton c) :: parts

/-- What is wrong with parts that the end of the text cuts off. -/
def cutOff (x : Context) : Option String :=
  match x.stop with
  | .arithmetic => some "Missing '))'"
  | .quote => some "Unterminated quoted string"
  | .brace =>
    some (if x.quoted && !x.ofText then "Unterminated quoted string" else "Missing '\x7d'")
  | .wordEnd | .textEnd => none

/-- Whether a backslash before a character only quotes it. Inside quotes it stands for itself too
unless the character has a meaning there. -/
def isEscaped (x : Context) (c : Char) : Bool :=
  !x.quoted || c == '\\' || c == '$' || c == '\x60' || (c == '"' && (x.braced || !x.ofText)) ||
    (c == '\x7d' && x.braced)

/-- A character that ends tokens, with the one after it if both make a sign. -/
def sign (c : Char) : Reading Token := do
  let doubled ← if c == '&' || c == '|' || c == ';' then takeIf c else pure false
  return .sign (String.ofList (if doubled then [c, c] else [c]))

/-- A redirection whose first sign has been read. -/
def redirection (descriptor : Option Nat) (c : Char) : Reading Token := do
  if c == '>' then
    let made := descriptor.getD 1
    if ← takeIf '>' then return .redirection made .append false
    else if ← takeIf '|' then return .redirection made (.write true) false
    else if ← takeIf '&' then return .redirection made .duplicate false
    else return .redirection made (.write false) false
  else
    let made := descriptor.getD 0
    if ← takeIf '<' then return .redirection made .text (← takeIf '-')
    else if ← takeIf '&' then return .redirection made .duplicate false
    else if ← takeIf '>' then return .redirection made .readWrite false
    else return .redirection made .read false

/-- The descriptor that a word in front of a redirection names, if it is nothing else. -/
def descriptorOf : Word → Option (Option Nat)
  | [] => some none
  | [.literal false text] =>
    match text.toList with
    | [c] => if c.isDigit then some (some (c.toNat - '0'.toNat)) else none
    | _ => none
  | _ => none

/-- Lets the last token be read once more. -/
def pushBack : Reading Unit := modify fun c => { c with pushed := some c.last }

def remember (t : Token) : Reading Token := do
  modify fun c => { c with last := t }
  return t

/-- Gives up because of the last token. -/
def unexpected {α : Type} (wanted : Option Token) : Reading α := do
  let c ← get
  refuse (c.last.wording ++ " unexpected" ++ match wanted with
    | some t => " (expecting " ++ t.wording ++ ")"
    | none => "")

/-- Reads a text of its own, and goes on where the cursor was. -/
def within {α : Type} (text : List Char) (line : Nat) (x : Reading α) : Reading α := do
  let before ← get
  set { rest := text, line, aliases := before.aliases : Cursor }
  let result ← x
  set before
  return result

/-- Reads a text of a redirection, from where it stands in later lines. -/
def textOf (ending : Ending) (x : Reading Word) : Reading Word := do
  let before ← get
  if !before.hasLaterLines then return []
  let (left, text, skipped) ← laterLines
  let line := before.line + 1 + skipped
  set { rest := text, line, aliases := before.aliases, ending := some ending : Cursor }
  let result ← x
  let after ← get
  set before
  skipLines left after.beyond (skipped + (after.line - line))
  return result

/-- Takes a text of a redirection as it stands in later lines. -/
def laterText (ending : Ending) : Reading Word := do
  if !(← get).hasLaterLines then return []
  let (left, text, skipped) ← laterLines
  let (body, rest, taken) := ending.split (text.length + 1) text
  skipLines left rest (skipped + taken)
  return [.literal true (String.ofList body)]

/-- The text up to a closing backquote. A backslash escapes few characters in it. -/
def backquoted (quoted : Bool) : (fuel : Nat) → List Char → Reading (List Char)
  | 0, _ => refuse "script too long"
  | fuel + 1, taken => do
    match ← take with
    | none => refuse "EOF in backquote substitution"
    | some '\x60' => return taken.reverse
    | some '\\' =>
      match ← takeRaw with
      | some c =>
        let escaped := c == '\\' || c == '\x60' || c == '$' || (quoted && c == '"')
        backquoted quoted fuel (if escaped then c :: taken else c :: '\\' :: taken)
      | none => backquoted quoted fuel ('\\' :: taken)
    | some c => backquoted quoted fuel (c :: taken)

/-- The text up to an apostrophe. -/
def apostrophed : (fuel : Nat) → List Char → Reading (List Char)
  | 0, _ => refuse "script too long"
  | fuel + 1, taken => do
    match ← takeRaw with
    | none => refuse "Unterminated quoted string"
    | some '\'' => return taken.reverse
    | some c => apostrophed fuel (c :: taken)

/-! ### Parameters in braces -/

/-- The name of a parameter in braces, and whether its length is asked for. There may be none. -/
def parameterName : Reading (Option String × Bool) := do
  match ← takeUncounted with
  | none => return (none, false)
  | some c =>
    if c == '#' then
      match ← peek with
      | some d =>
        if isNamePart d then
          return (some (← name), true)
        else if d == '\x7d' then return (some "#", false)
        else
          -- the character counts only if the brace follows it
          let before ← get
          let _ ← take
          if (← peek) = some '\x7d' then
            return (if isSpecial d then some (String.singleton d) else none, true)
          else
            set before
            return (some "#", false)
      | none => return (some "#", false)
    else if isNamePart c then
      modify fun cursor => { cursor with rest := c :: cursor.rest }
      return (some (← name), false)
    else if isSpecial c then return (some (String.singleton c), false)
    else
      if c == '\x7d' then modify fun cursor => { cursor with rest := c :: cursor.rest }
      return (none, false)
where
  name : Reading String := do
    match ← peek with
    | some c =>
      if c.isDigit then takeWhile Char.isDigit nameLength []
      else takeWhile isNamePart nameLength []
    | none => return ""

/-- What a value may be replaced by, by the sign that stands for it. -/
def missing? : Char → Option Missing
  | '-' => some .useDefault
  | '=' => some .assignDefault
  | '?' => some .fail
  | '+' => some .useAlternative
  | _ => none

/-! ### Words and commands -/

/-- How much a list of commands holds. -/
inductive Extent where
  | line
  | some
  /-- May hold nothing. -/
  | any
  deriving DecidableEq

mutual

/-- The parts up to the end of the context. `made` holds those before, in reverse. -/
def parts (x : Context) : (fuel : Nat) → (made : List Part) → Reading Word
  | 0, _ => refuse "script too long"
  | fuel + 1, made => do
    match ← peek with
    | none =>
      match cutOff x with
      | some text => refuse text
      | none => return made.reverse
    | some c =>
      if x.stop = .wordEnd && endsWord c then return made.reverse
      let _ ← takeRaw
      match c with
      | '\\' =>
        match ← takeRaw with
        | some d =>
          parts x fuel (addChar true d (if isEscaped x d then made else addChar true '\\' made))
        | none => parts x fuel (addChar true '\\' made)
      | '$' =>
        match ← if x.plain then pure none else dollar x fuel with
        | some part => parts x fuel (part :: made)
        | none => parts x fuel (addChar x.quoted '$' made)
      | '\x60' =>
        if x.plain then parts x fuel (addChar x.quoted c made)
        else
          let text ← backquoted x.quoted fuel []
          let body ← within text 1 (list .any fuel [])
          parts x fuel (.output x.quoted body :: made)
      | '\'' =>
        if x.quoted then parts x fuel (addChar x.quoted c made)
        else
          let text ← apostrophed fuel []
          parts x fuel (.mark :: text.foldl (fun made c => addChar true c made) (.mark :: made))
      | '"' =>
        if x.stop = .quote then return made.reverse
        else if x.stop = .brace && x.quoted then
          parts { x with odd := !x.odd } fuel (.mark :: made)
        else if x.quoted then parts x fuel (addChar x.quoted c made)
        else
          let inner ← parts
            { stop := .quote, quoted := true, braced := x.braced, ofText := x.ofText,
              plain := x.plain } fuel []
          match inner with
          | [.parameter true "@" .value] => parts x fuel (inner ++ made)
          | _ => parts x fuel (.mark :: inner.reverse ++ .mark :: made)
      | '\x7d' =>
        if x.stop = .brace && !x.odd then return made.reverse
        else parts x fuel (addChar x.quoted c made)
      | '(' =>
        parts (if x.stop = .arithmetic then { x with depth := x.depth + 1 } else x) fuel
          (addChar x.quoted c made)
      | ')' =>
        if x.stop = .arithmetic then
          if x.depth ≠ 0 then parts { x with depth := x.depth - 1 } fuel (addChar true c made)
          else if ← takeIf ')' then return made.reverse
          else parts x fuel (addChar true c made)
        else parts x fuel (addChar x.quoted c made)
      | '\n' =>
        if x.ofText then startLine
        parts x fuel (addChar x.quoted c made)
      | c => parts x fuel (addChar x.quoted c made)

/-- What follows a dollar sign; nothing if the sign stands for itself. -/
def dollar (x : Context) : (fuel : Nat) → Reading (Option Part)
  | 0 => refuse "script too long"
  | fuel + 1 => do
    match ← peek with
    | none => return none
    | some c =>
      if c == '(' then
        let _ ← takeRaw
        if ← takeIf '(' then
          let body ← parts { stop := .arithmetic, quoted := true, ofText := x.ofText } fuel []
          return some (.arithmetic x.quoted body)
        else return some (.output x.quoted (← substituted fuel))
      else if c == '\x7b' then
        let _ ← takeRaw
        return some (← inBraces x fuel)
      else if c.isDigit || isSpecial c then
        let _ ← takeRaw
        return some (.parameter x.quoted (String.singleton c) .value)
      else if isNameStart c then
        return some (.parameter x.quoted (← takeWhile isNamePart nameLength []) .value)
      else return none

/-- The commands up to a closing parenthesis. A text for one of them that does not start before it
is empty. -/
def substituted : (fuel : Nat) → Reading Script
  | 0 => refuse "script too long"
  | fuel + 1 => do
    let before ← get
    let body ← list .any fuel []
    if !(← token false false false fuel).isSign ")" then unexpected (some (.sign ")"))
    if (← get).detours.length = before.detours.length then return body
    else
      set { before with hasLaterLines := false }
      let body ← list .any fuel []
      let _ ← token false false false fuel
      modify fun c => { c with hasLaterLines := before.hasLaterLines }
      return body

/-- A parameter in braces; the opening one has been read. -/
def inBraces (x : Context) : (fuel : Nat) → Reading Part
  | 0 => refuse "script too long"
  | fuel + 1 => do
    let inner : Context := { x with
      stop := .brace, quoted := x.quoted || x.stop = .arithmetic, braced := true, odd := false
      depth := 0 }
    let unknown : Reading Part := do
      let _ ← parts inner fuel []
      return .parameter x.quoted "" .unknown
    match ← parameterName with
    | (none, _) => unknown
    | (some name, true) =>
      if ← takeIf '\x7d' then return .parameter x.quoted name .length else unknown
    | (some name, false) =>
      if ← takeIf '\x7d' then return .parameter x.quoted name .value
      let colon ← takeIf ':'
      match ← takeUncounted with
      | none => unknown
      | some c =>
        match missing? c with
        | some what =>
          return .parameter x.quoted name (.whenMissing colon what (← parts inner fuel []))
        | none =>
          if !colon && (c == '%' || c == '#') then
            let longest ← takeIf c
            let pattern ← parts { inner with quoted := false } fuel []
            return .parameter x.quoted name (.trim (c == '%') longest pattern)
          else unknown

/-- The next token. Ends of lines are skipped, reserved words recognised and aliases replaced only
where that is asked for. -/
def token (newlines keywords aliases : Bool) : (fuel : Nat) → Reading Token
  | 0 => refuse "script too long"
  | fuel + 1 => do
    let (t, opened) ← bareToken false fuel
    match t with
    | .newline =>
      if newlines then token newlines keywords aliases fuel else remember t
    | .word word =>
      match plain? word with
      | none => remember t
      | some text =>
        if keywords && reservedWords.contains text then remember (.reserved text)
        else if aliases || opened then
          match ← aliasOf word with
          | some (name, value) =>
            if !value.isEmpty then expand name value
            token newlines keywords aliases fuel
          | none => remember t
        else remember t
    | _ => remember t

/-- The next token as it stands, and whether it may be an alias because of one before it. -/
def bareToken (plain : Bool) : (fuel : Nat) → Reading (Token × Bool)
  | 0 => refuse "script too long"
  | fuel + 1 => do
    match (← get).pushed with
    | some t =>
      modify fun c => { c with pushed := none }
      return (t, false)
    | none =>
      skipBlanks nameLength
      let opened ← leaveAliases
      match ← peek with
      | none => return (.finish, opened)
      | some c =>
        if c == '\n' then
          let _ ← takeRaw
          return (.newline, opened)
        else if c == '&' || c == '|' || c == ';' || c == '(' || c == ')' then
          let _ ← takeRaw
          return (← sign c, opened)
        else
          let word ← parts { stop := .wordEnd, plain } fuel []
          match ← peek, descriptorOf word with
          | some c, some descriptor =>
            if c == '<' || c == '>' then
              let _ ← takeRaw
              return (← redirection descriptor c, opened)
            else return (.word word, opened)
          | _, _ => return (.word word, opened)

/-- The word after a redirection. Where the text to be read stands in later lines, the word tells how
it ends, and the text is taken as it stands if a part of the word was quoted. -/
def target (direction : Direction) (tabs : Bool) : (fuel : Nat) → Reading Word
  | 0 => refuse "script too long"
  | fuel + 1 => do
    if direction = .text then
      let (t, _) ← bareToken true fuel
      match ← remember t with
      | .word word =>
        let quoted := word.any fun
          | .mark | .literal true _ => true
          | _ => false
        let delimiter := String.join (word.map fun
          | .literal _ text => text
          | _ => "")
        let ending : Ending := ⟨delimiter.toList, tabs⟩
        if quoted then laterText ending
        else textOf ending (do
          startLine
          parts { stop := .textEnd, quoted := true, ofText := true } fuel [])
      | _ => unexpected none
    else
      match ← token false false false fuel with
      | .word word => return word
      | _ => unexpected none

/-- The redirections after a compound command. -/
def redirections (made : List Redirection) : (fuel : Nat) → Reading (List Redirection)
  | 0 => refuse "script too long"
  | fuel + 1 => do
    match ← token false true true fuel with
    | .redirection descriptor direction tabs =>
      let word ← target direction tabs fuel
      redirections (.to descriptor direction word :: made) fuel
    | _ =>
      pushBack
      return made.reverse

/-- Commands, each with what joins it to the next. `made` holds those before, in reverse. -/
def list (extent : Extent) : (fuel : Nat) → (made : Script) → Reading Script
  | 0, _ => refuse "script too long"
  | fuel + 1, made => do
    match ← token (extent ≠ .line) true true fuel with
    | .newline => return made.reverse
    | .finish =>
      pushBack
      return made.reverse
    | t =>
      pushBack
      let mayEnd := extent = .any || (extent = .some && !made.isEmpty)
      if mayEnd && t.endsList then return made.reverse
      let next ← chain fuel
      match ← token false false false fuel with
      | .sign "&" => list extent fuel (.background next :: made)
      | .sign ";" => list extent fuel (next :: made)
      | .newline | .finish =>
        pushBack
        list extent fuel (next :: made)
      | _ =>
        if extent = .line then unexpected none
        pushBack
        return (next :: made).reverse

/-- Pipelines of which each decides whether the next one runs. -/
def chain : (fuel : Nat) → Reading Command
  | 0 => refuse "script too long"
  | fuel + 1 => do linked (← pipeline fuel) fuel

def linked (first : Command) : (fuel : Nat) → Reading Command
  | 0 => refuse "script too long"
  | fuel + 1 => do
    match ← token false false false fuel with
    | .sign "&&" =>
      let _ ← token true true true fuel
      pushBack
      linked (.both first (← pipeline fuel)) fuel
    | .sign "||" =>
      let _ ← token true true true fuel
      pushBack
      linked (.either first (← pipeline fuel)) fuel
    | _ =>
      pushBack
      return first

def pipeline : (fuel : Nat) → Reading Command
  | 0 => refuse "script too long"
  | fuel + 1 => do
    let negated := (← token false false false fuel).isReserved "!"
    if negated then
      let _ ← token false true true fuel
    pushBack
    let first ← command fuel
    let all ← stages [first] fuel
    let whole := match all with
      | [only] => only
      | _ => .pipeline all
    return if negated then .negation whole else whole

/-- The commands after a first one that bars stand between. -/
def stages (made : List Command) : (fuel : Nat) → Reading (List Command)
  | 0 => refuse "script too long"
  | fuel + 1 => do
    match ← token false false false fuel with
    | .sign "|" =>
      let _ ← token true true true fuel
      pushBack
      stages ((← command fuel) :: made) fuel
    | _ =>
      pushBack
      return made.reverse

/-- Takes a token that has to be there. -/
def expect (wanted : Token) : (fuel : Nat) → Reading Unit
  | 0 => refuse "script too long"
  | fuel + 1 => do
    let t ← token false false false fuel
    let there := match wanted with
      | .sign text => t.isSign text
      | .reserved text => t.isReserved text
      | _ => false
    if !there then unexpected (some wanted)

/-- A command without what joins it to others. -/
def command : (fuel : Nat) → Reading Command
  | 0 => refuse "script too long"
  | fuel + 1 => do
    let line := (← get).line
    let finish (body : Command) : Reading Command := do
      match ← redirections [] fuel with
      | [] => return body
      | made => return .redirected line body made
    match ← token false false false fuel with
    | .reserved "if" =>
      let (arms, otherwise) ← branches fuel
      finish (.branch arms otherwise)
    | .reserved "while" =>
      let (condition, body) ← loop fuel
      finish (.repeatWhile true condition body)
    | .reserved "until" =>
      let (condition, body) ← loop fuel
      finish (.repeatWhile false condition body)
    | .reserved "for" => finish (← forEach line fuel)
    | .reserved "case" =>
      match ← token false false false fuel with
      | .word word =>
        if !(← token true true true fuel).isReserved "in" then
          unexpected (some (.reserved "in"))
        finish (.select line word (← choices [] fuel))
      | _ => unexpected (some (.word []))
    | .sign "(" =>
      let body ← list .some fuel []
      expect (.sign ")") fuel
      finish (.subshell body)
    | .reserved "\x7b" =>
      let body ← list .some fuel []
      expect (.reserved "\x7d") fuel
      finish (.group body)
    | .word _ | .redirection .. =>
      pushBack
      simple line [] [] [] fuel
    | _ => unexpected none

/-- The arms of a branch; the first condition follows. -/
def branches : (fuel : Nat) → Reading (List (Script × Script) × Script)
  | 0 => refuse "script too long"
  | fuel + 1 => do
    let condition ← list .some fuel []
    expect (.reserved "then") fuel
    let body ← list .some fuel []
    match ← token false false false fuel with
    | .reserved "elif" =>
      let (arms, otherwise) ← branches fuel
      return ((condition, body) :: arms, otherwise)
    | .reserved "else" =>
      let otherwise ← list .some fuel []
      expect (.reserved "fi") fuel
      return ([(condition, body)], otherwise)
    | t =>
      if !t.isReserved "fi" then unexpected (some (.reserved "fi"))
      return ([(condition, body)], [])

def loop : (fuel : Nat) → Reading (Script × Script)
  | 0 => refuse "script too long"
  | fuel + 1 => do
    let condition ← list .some fuel []
    expect (.reserved "do") fuel
    let body ← list .some fuel []
    expect (.reserved "done") fuel
    return (condition, body)

def forEach (line : Nat) : (fuel : Nat) → Reading Command
  | 0 => refuse "script too long"
  | fuel + 1 => do
    match ← token false false false fuel with
    | .word word =>
      match plain? word with
      | some name =>
        if !isName name then refuse "Bad for loop variable"
        let t ← token true true true fuel
        let items ← if t.isReserved "in" then do
            let items ← words [] fuel
            let c ← get
            match c.last with
            | .newline | .sign ";" => pure (some items)
            | _ => unexpected none
          else do
            if !t.isSign ";" then pushBack
            pure none
        if !(← token true true true fuel).isReserved "do" then
          unexpected (some (.reserved "do"))
        let body ← list .some fuel []
        expect (.reserved "done") fuel
        return .forEach line name items body
      | none => refuse "Bad for loop variable"
    | _ => refuse "Bad for loop variable"

/-- Words up to a token that is none, which is taken too. -/
def words (made : List Word) : (fuel : Nat) → Reading (List Word)
  | 0 => refuse "script too long"
  | fuel + 1 => do
    match ← token false false false fuel with
    | .word word => words (word :: made) fuel
    | _ => return made.reverse

/-- The arms of a choice up to its end. -/
def choices (made : List (List Word × Script)) : (fuel : Nat) →
    Reading (List (List Word × Script))
  | 0 => refuse "script too long"
  | fuel + 1 => do
    let t ← token true true false fuel
    if t.isReserved "esac" then return made.reverse
    let t ← if t.isSign "(" then token false false false fuel else pure t
    let patterns ← alternatives [] t fuel
    let body ← list .any fuel []
    let made := (patterns, body) :: made
    let t ← token true true false fuel
    if t.isReserved "esac" then return made.reverse
    else if t.isSign ";;" then choices made fuel
    else unexpected (some (.sign ";;"))

/-- Patterns with bars between them, up to the closing parenthesis. The first one has been read. -/
def alternatives (made : List Word) (t : Token) : (fuel : Nat) → Reading (List Word)
  | 0 => refuse "script too long"
  | fuel + 1 => do
    let word : Word := match t with
      | .word word => word
      | .reserved text => [.literal false text]
      | _ => []
    let made := word :: made
    match ← token false false false fuel with
    | .sign "|" => alternatives made (← token false false false fuel) fuel
    | .sign ")" => return made.reverse
    | _ => unexpected (some (.sign ")"))

/-- The assignments, words and redirections of a simple command, or the definition of a function. -/
def simple (line : Nat) (assignments : List (String × Word)) (made : List Word)
    (directed : List Redirection) : (fuel : Nat) → Reading Command
  | 0 => refuse "script too long"
  | fuel + 1 => do
    match ← token false false made.isEmpty fuel with
    | .word word =>
      match if made.isEmpty then assignment? word else none with
      | some assigned => simple line (assigned :: assignments) made directed fuel
      | none => simple line assignments (word :: made) directed fuel
    | .redirection descriptor direction tabs =>
      let word ← target direction tabs fuel
      simple line assignments made (.to descriptor direction word :: directed) fuel
    | t =>
      match t.isSign "(", assignments, made, directed with
      | true, [], [name], [] => definition name fuel
      | _, _, _, _ =>
        pushBack
        return .simple line assignments.reverse made.reverse directed.reverse

/-- The definition of a function whose name and opening parenthesis have been read. -/
def definition (word : Word) : (fuel : Nat) → Reading Command
  | 0 => refuse "script too long"
  | fuel + 1 => do
    expect (.sign ")") fuel
    let name := match plain? word with
      | some text => text
      | none => ""
    if !isName name || specialCommands.contains name then refuse "Bad function name"
    let line := (← get).line
    let _ ← token true true true fuel
    pushBack
    return .define line name (← command fuel)

end

/-- How long a script may be. -/
def patience : Nat := Nat.pow 10 9

end Reading

/-- What is left of a script: its text, and the line where that starts. -/
structure Rest where
  text : List Char
  line : Nat := 1

/-- The commands of a line. -/
structure Line where
  body : Script
  rest : Rest
  /-- Whether the script ends with the line. -/
  isLast : Bool

/-- Reads the commands of the next line of a script. There is nothing left to read once no text
follows. -/
def nextLine (aliases : Dict String) (r : Rest) : Except Fault Line := do
  let start : Cursor := { rest := r.text, line := r.line, aliases }
  let (body, c) ← (Reading.list .line Reading.patience []).run start
  let isLast := match c.pushed with
    | some .finish => true
    | _ => false
  .ok { body, rest := ⟨c.rest, c.line⟩, isLast }

/-- The parts of a text that is expanded as a whole. -/
def partsOf (text : String) : Except Fault Word :=
  (Reading.parts { stop := .textEnd, quoted := true, ofText := true } Reading.patience []).run'
    { rest := text.toList }

end ComposeHarness.Machine.Script
