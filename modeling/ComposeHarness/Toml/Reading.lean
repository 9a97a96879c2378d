import ComposeHarness.Text.Decimal
import ComposeHarness.Text.Digits
import ComposeHarness.Toml.Table

/-!
# Reading TOML

A document is read line by line into statements. Every reading function takes the text that is left
and gives back what follows its part.
-/
namespace ComposeHarness.Toml

/-! ### Blanks, line ends and comments -/

def isBlank (c : Char) : Bool := c == ' ' || c == '\t'

def skipBlank (cs : List Char) : List Char := cs.dropWhile isBlank

/-- What follows the end of a line, if there is one. -/
def newline? : List Char → Option (List Char)
  | '\n' :: rest => some rest
  | '\r' :: '\n' :: rest => some rest
  | _ => none

/-- Whether a character may stand in a comment. -/
def isCommentChar (c : Char) : Bool := c == '\t' || (' ' ≤ c && c != '\x7f')

/-- Drops a comment, if there is one. -/
def skipComment : List Char → List Char
  | '#' :: rest => rest.dropWhile isCommentChar
  | cs => cs

/-- What may stand between the last part of a line and the next line. -/
def lineEnd (cs : List Char) : Except String (List Char) :=
  match skipComment (skipBlank cs) with
  | [] => .ok []
  | rest =>
    match newline? rest with
    | some next => .ok next
    | none => .error "expected the end of the line"

/-- Drops blanks, line ends and comments. A comment must have an end. -/
def skipLines : (fuel : Nat) → List Char → Except String (List Char)
  | 0, cs => .ok cs
  | fuel + 1, cs =>
    match skipBlank cs with
    | '#' :: rest =>
      match newline? (rest.dropWhile isCommentChar) with
      | some next => skipLines fuel next
      | none => .error "expected the end of the line"
    | rest =>
      match newline? rest with
      | some next => skipLines fuel next
      | none => .ok rest

/-! ### Texts -/

/-- Whether a character may stand for itself in every text. -/
def isTextChar (c : Char) : Bool := c == '\t' || (' ' ≤ c && c != '\x7f')

/-- The character with a number of hexadecimal digits as its code point. -/
def codePoint (places : Nat) (cs : List Char) : Except String (Char × List Char) :=
  let digits := cs.take places
  if digits.length = places ∧ digits.all (Text.isDigitOf 16) then
    let n := Text.numeral 16 digits
    if n < 0xD800 ∨ (0xE000 ≤ n ∧ n < 0x110000) then .ok (Char.ofNat n, cs.drop places)
    else .error "not a character"
  else .error "expected hexadecimal digits"

/-- The character of an escape; the backslash has been read. -/
def escape : List Char → Except String (Char × List Char)
  | 'b' :: rest => .ok ('\x08', rest)
  | 't' :: rest => .ok ('\t', rest)
  | 'n' :: rest => .ok ('\n', rest)
  | 'f' :: rest => .ok ('\x0c', rest)
  | 'r' :: rest => .ok ('\r', rest)
  | '"' :: rest => .ok ('"', rest)
  | '\\' :: rest => .ok ('\\', rest)
  | 'u' :: rest => codePoint 4 rest
  | 'U' :: rest => codePoint 8 rest
  | _ => .error "invalid escape"

/-- What follows all blanks and line ends at the front. -/
def skipFold : List Char → List Char
  | '\r' :: '\n' :: rest => skipFold rest
  | c :: rest => if isBlank c || c == '\n' then skipFold rest else c :: rest
  | [] => []

/-- The rest of a text on one line up to its quote. -/
def textFrom (quote : Char) (escapes : Bool) :
    (fuel : Nat) → List Char → Except String (List Char × List Char)
  | 0, _ => .error "document too long"
  | _, [] => .error "unexpected end in a text"
  | fuel + 1, c :: rest =>
    if c = quote then .ok ([], rest)
    else if c = '\\' ∧ escapes then do
      let (d, rest) ← escape rest
      let (s, rest) ← textFrom quote escapes fuel rest
      .ok (d :: s, rest)
    else if isTextChar c then do
      let (s, rest) ← textFrom quote escapes fuel rest
      .ok (c :: s, rest)
    else .error "control character in a text"

/-- The rest of a text on several lines up to its three quotes; two more quotes before them belong
to the text. A backslash at the end of a line joins the lines. -/
def linesFrom (quote : Char) (escapes : Bool) :
    (fuel : Nat) → List Char → Except String (List Char × List Char)
  | 0, _ => .error "document too long"
  | _, [] => .error "unexpected end in a text"
  | fuel + 1, c :: rest =>
    if c = quote then
      let count := (rest.takeWhile (· == quote)).length + 1
      if count < 3 then do
        let (s, rest) ← linesFrom quote escapes fuel rest
        .ok (c :: s, rest)
      else
        let kept := min (count - 3) 2
        .ok (List.replicate kept quote, rest.drop (kept + 2))
    else
      match newline? (c :: rest) with
      | some next => do
        let (s, rest) ← linesFrom quote escapes fuel next
        .ok ('\n' :: s, rest)
      | none =>
        if c = '\\' ∧ escapes then
          match newline? (skipBlank rest) with
          | some next => linesFrom quote escapes fuel (skipFold next)
          | none => do
            let (d, rest) ← escape rest
            let (s, rest) ← linesFrom quote escapes fuel rest
            .ok (d :: s, rest)
        else if isTextChar c then do
          let (s, rest) ← linesFrom quote escapes fuel rest
          .ok (c :: s, rest)
        else .error "control character in a text"

/-- A text on one line; the opening quote has been read. -/
def lineText (quote : Char) (cs : List Char) : Except String (String × List Char) := do
  let (s, rest) ← textFrom quote (quote == '"') (cs.length + 1) cs
  .ok (String.ofList s, rest)

/-- A text on one or several lines; the opening quote has been read. -/
def text (quote : Char) (cs : List Char) : Except String (String × List Char) :=
  if cs.take 2 = [quote, quote] then do
    let body := cs.drop 2
    let body := (newline? body).getD body
    let (s, rest) ← linesFrom quote (quote == '"') (body.length + 1) body
    .ok (String.ofList s, rest)
  else lineText quote cs

/-! ### Numbers -/

/-- Digits with single underscores between them. -/
def digits (isDigit : Char → Bool) : List Char → Except String (List Char × List Char)
  | [] => .error "expected a digit"
  | c :: rest => if isDigit c then more c rest else .error "expected a digit"
where
  more (c : Char) : List Char → Except String (List Char × List Char)
    | [] => .ok ([c], [])
    | '_' :: d :: rest =>
      if isDigit d then (more d rest).map fun (ds, rest) => (c :: ds, rest)
      else .error "expected a digit"
    | d :: rest =>
      if isDigit d then (more d rest).map fun (ds, rest) => (c :: ds, rest)
      else if d = '_' then .error "expected a digit"
      else .ok ([c], d :: rest)

/-- The digits of a number without zeros in front. -/
def decimal : List Char → Except String (List Char × List Char)
  | '0' :: rest => .ok (['0'], rest)
  | cs => digits Char.isDigit cs

/-- An integer, if 64 bits can hold it. -/
def integer (n : Int) : Except String Value :=
  if -Int.pow 2 63 ≤ n ∧ n < Int.pow 2 63 then .ok (.int n) else .error "integer out of range"

def signed (negative : Bool) (n : Nat) : Int := if negative then -(n : Int) else n

/-- The sign in front of a number. -/
def sign : List Char → Option Bool × List Char
  | '-' :: rest => (some true, rest)
  | '+' :: rest => (some false, rest)
  | cs => (none, cs)

/-- The exponent of a number, if there is one. -/
def exponent : List Char → Except String (Option Int × List Char)
  | e :: rest =>
    if e = 'e' ∨ e = 'E' then do
      let (minus, rest) := sign rest
      let (ds, rest) ← digits Char.isDigit rest
      .ok (some (signed (minus.getD false) (Text.numeral 10 ds)), rest)
    else .ok (none, e :: rest)
  | [] => .ok (none, [])

/-- A number in base ten. A fraction must not round to the positive infinity. -/
def decimalNumber (negative : Bool) (cs : List Char) : Except String (Value × List Char) := do
  let (whole, rest) ← decimal cs
  let (places, rest) ←
    match rest with
    | '.' :: rest => (digits Char.isDigit rest).map fun (ds, rest) => (some ds, rest)
    | _ => .ok (none, rest)
  let (power, rest) ← exponent rest
  if places.isNone ∧ power.isNone then
    (integer (signed negative (Text.numeral 10 whole))).map fun v => (v, rest)
  else
    let places := places.getD []
    let power := power.getD 0 - places.length
    if negative || Text.isFinite (Text.numeral 10 (whole ++ places)) power then .ok (.float, rest)
    else .error "number out of range"

def based (base : Nat) (isDigit : Char → Bool) (cs : List Char) :
    Except String (Value × List Char) := do
  let (ds, rest) ← digits isDigit cs
  (integer (Text.numeral base ds)).map fun v => (v, rest)

/-- A number; the text starts at its sign or first digit. -/
def number (cs : List Char) : Except String (Value × List Char) :=
  match cs with
  | '0' :: 'x' :: rest => based 16 (Text.isDigitOf 16) rest
  | '0' :: 'o' :: rest => based 8 (Text.isDigitOf 8) rest
  | '0' :: 'b' :: rest => based 2 (Text.isDigitOf 2) rest
  | _ =>
    match sign cs with
    | (_, 'i' :: 'n' :: 'f' :: rest) => .ok (.float, rest)
    | (_, 'n' :: 'a' :: 'n' :: rest) => .ok (.float, rest)
    | (negative, rest) => decimalNumber (negative.getD false) rest

/-! ### Points in time -/

/-- The number that a fixed count of digits makes. -/
def places? (count : Nat) (cs : List Char) : Option (Nat × List Char) :=
  let ds := cs.take count
  if ds.length = count ∧ ds.all Char.isDigit then some (Text.numeral 10 ds, cs.drop count) else none

def isLeapYear (year : Nat) : Bool :=
  year % 4 == 0 && (year % 100 != 0 || year % 400 == 0)

def daysInMonth (year month : Nat) : Nat :=
  if month = 2 then if isLeapYear year then 29 else 28
  else if month = 4 ∨ month = 6 ∨ month = 9 ∨ month = 11 then 30
  else 31

/-- The hours and minutes of a time, if it starts like one. -/
def hour? (cs : List Char) : Option (List Char) :=
  match places? 2 cs with
  | some (hour, ':' :: rest) => if hour < 24 then some rest else none
  | _ => none

def minute (cs : List Char) : Except String (List Char) :=
  match places? 2 cs with
  | some (minute, rest) => if minute < 60 then .ok rest else .error "minute out of range"
  | none => .error "expected minutes"

/-- What follows the minutes, seconds and fraction of a time. -/
def timeFrom (cs : List Char) : Except String (List Char) := do
  match ← minute cs with
  | ':' :: rest =>
    match places? 2 rest with
    | some (second, rest) =>
      if 60 < second then .error "second out of range"
      else
        match rest with
        | '.' :: d :: more =>
          .ok (if d.isDigit then more.dropWhile Char.isDigit else rest)
        | _ => .ok rest
    | none => .error "expected seconds"
  | _ => .error "expected seconds"

/-- What follows the distance of a time from that of the prime meridian. -/
def offsetFrom : List Char → Except String (List Char)
  | 'Z' :: rest => .ok rest
  | 'z' :: rest => .ok rest
  | c :: rest =>
    if c = '+' ∨ c = '-' then
      match hour? rest with
      | some rest => minute rest
      | none => .error "expected hours"
    else .ok (c :: rest)
  | [] => .ok []

/-- What follows a date and the time after it; the year and its dash have been read. -/
def dateFrom (year : Nat) (cs : List Char) : Except String (List Char) :=
  match places? 2 cs with
  | some (month, '-' :: rest) =>
    match places? 2 rest with
    | some (day, rest) =>
      if month = 0 ∨ 12 < month ∨ day = 0 ∨ daysInMonth year month < day then
        .error "date out of range"
      else
        match rest with
        | c :: after =>
          if c = 'T' ∨ c = 't' ∨ c = ' ' then
            match hour? after with
            | some after => do offsetFrom (← timeFrom after)
            | none => .ok rest
          else .ok rest
        | [] => .ok []
    | none => .error "expected a day"
  | _ => .error "expected a month"

/-- What follows a point in time, if the text starts like one. -/
def moment? (cs : List Char) : Option (Except String (List Char)) :=
  match places? 4 cs with
  | some (year, '-' :: rest) => some (dateFrom year rest)
  | _ => (hour? cs).map timeFrom

/-! ### Keys -/

def isBareKeyChar (c : Char) : Bool := c.isAlphanum || c == '-' || c == '_'

def simpleKey : List Char → Except String (String × List Char)
  | '"' :: rest => lineText '"' rest
  | '\'' :: rest => lineText '\'' rest
  | cs =>
    let name := cs.takeWhile isBareKeyChar
    if name.isEmpty then .error "expected a key"
    else .ok (String.ofList name, cs.dropWhile isBareKeyChar)

/-- How deep values may be nested, and how many names a key may have. -/
def nestLimit : Nat := 79

/-- Names with points between them, and the blanks around them. -/
def names : (fuel : Nat) → List Char → Except String (List String × List Char)
  | 0, _ => .error "too many names in a key"
  | fuel + 1, cs => do
    let (name, rest) ← simpleKey (skipBlank cs)
    match skipBlank rest with
    | '.' :: rest =>
      let (more, rest) ← names fuel rest
      .ok (name :: more, rest)
    | rest => .ok ([name], rest)

def key (cs : List Char) : Except String (List String × List Char) := names nestLimit cs

/-! ### Values -/

/-- Takes a fixed word off the text. -/
def word (letters : String) (v : Value) (cs : List Char) : Except String (Value × List Char) :=
  if letters.toList.isPrefixOf cs then .ok (v, cs.drop letters.length)
  else .error "expected a value"

mutual

/-- A value at the front of the text, with room for as many levels of nesting. -/
def value : (fuel room : Nat) → List Char → Except String (Value × List Char)
  | 0, _, _ => .error "document too long"
  | fuel + 1, room, cs =>
    match cs with
    | [] => .error "expected a value"
    | '[' :: rest =>
      match room with
      | 0 => .error "recursion limit exceeded"
      | room + 1 =>
        match rest with
        | ']' :: rest => .ok (.array [], rest)
        | _ => (items fuel room rest).map fun (vs, rest) => (.array vs, rest)
    | '\x7b' :: rest =>
      match room with
      | 0 => .error "recursion limit exceeded"
      | room + 1 =>
        match skipBlank rest with
        | '\x7d' :: rest => .ok (.table [], rest)
        | rest =>
          match pairs fuel room rest with
          | .error e => .error e
          | .ok (entries, rest) => (Table.ofPairs entries).map fun t => (t.toValue, rest)
    | c :: rest =>
      if c = '"' ∨ c = '\'' then (text c rest).map fun (s, rest) => (.text s, rest)
      else if c = '+' ∨ c = '-' ∨ c.isDigit then
        match moment? cs with
        | some result => result.map fun rest => (.moment, rest)
        | none => number cs
      else if c = 't' then word "true" (.bool true) cs
      else if c = 'f' then word "false" (.bool false) cs
      else if c = 'i' then word "inf" .float cs
      else if c = 'n' then word "nan" .float cs
      else .error "expected a value"

/-- The values of an array up to its closing bracket. -/
def items : (fuel room : Nat) → List Char → Except String (List Value × List Char)
  | 0, _, _ => .error "document too long"
  | fuel + 1, room, cs =>
    match skipLines cs.length cs with
    | .error e => .error e
    | .ok (']' :: rest) => .ok ([], rest)
    | .ok rest =>
      match value fuel room rest with
      | .error e => .error e
      | .ok (v, rest) =>
        match skipLines rest.length rest with
        | .ok (',' :: rest) => (items fuel room rest).map fun (vs, rest) => (v :: vs, rest)
        | .ok (']' :: rest) => .ok ([v], rest)
        | _ => .error "expected a comma or a closing bracket"

/-- The keys and values of an inline table up to its closing brace. -/
def pairs : (fuel room : Nat) → List Char →
    Except String (List (List String × Value) × List Char)
  | 0, _, _ => .error "document too long"
  | fuel + 1, room, cs =>
    match key cs with
    | .ok (k, '=' :: rest) =>
      match value fuel room (skipBlank rest) with
      | .error e => .error e
      | .ok (v, rest) =>
        match skipBlank rest with
        | ',' :: rest => (pairs fuel room rest).map fun (more, rest) => ((k, v) :: more, rest)
        | '\x7d' :: rest => .ok ([(k, v)], rest)
        | _ => .error "expected a comma or a closing brace"
    | .ok _ => .error "expected an equals sign"
    | .error e => .error e

end

/-! ### Documents -/

/-- The header of a table or of a further table of an array. -/
def header (cs : List Char) : Except String (Statement × List Char) :=
  match cs with
  | '[' :: rest =>
    match key rest with
    | .ok (path, ']' :: ']' :: rest) => (lineEnd rest).map fun rest => (.openElement path, rest)
    | _ => .error "invalid header"
  | _ =>
    match key cs with
    | .ok (path, ']' :: rest) => (lineEnd rest).map fun rest => (.openTable path, rest)
    | _ => .error "invalid header"

def assignment (cs : List Char) : Except String (Statement × List Char) := do
  match ← key cs with
  | (k, '=' :: rest) =>
    let rest := skipBlank rest
    let (v, rest) ← value (2 * rest.length + 2) nestLimit rest
    let rest ← lineEnd rest
    .ok (.assign k v, rest)
  | _ => .error "expected an equals sign"

/-- The statements of a document. -/
def statements : (fuel : Nat) → List Char → Except String (List Statement)
  | 0, _ => .error "document too long"
  | fuel + 1, cs => do
    match skipBlank cs with
    | [] => .ok []
    | '#' :: rest => statements fuel (← lineEnd ('#' :: rest))
    | '[' :: rest =>
      let (s, rest) ← header rest
      let more ← statements fuel rest
      .ok (s :: more)
    | rest =>
      match newline? rest with
      | some next => statements fuel next
      | none =>
        let (s, rest) ← assignment rest
        let more ← statements fuel rest
        .ok (s :: more)

/-- Reads a whole document. A byte order mark in front does not count. -/
def parse (document : String) : Except String Value := do
  let cs := document.toList
  let cs := if cs.head? = some '\uFEFF' then cs.tail else cs
  let t ← tableOf (← statements (cs.length + 1) cs)
  .ok t.toValue

end ComposeHarness.Toml
