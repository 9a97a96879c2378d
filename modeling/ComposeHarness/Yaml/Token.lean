import ComposeHarness.Text.Digits
import ComposeHarness.Yaml.Tag

/-!
# The tokens of a YAML text

Cuts a text into tokens. Indentation becomes opening and closing tokens of blocks. A colon may turn
what stands before it on its line into a key; the tokens for that are put in front of it afterwards.
-/
namespace ComposeHarness.Yaml

inductive Style where
  | plain
  | singleQuoted
  | doubleQuoted
  | literal
  | folded
  deriving Repr, DecidableEq

inductive Token where
  | versionDirective (major minor : Nat)
  | tagDirective (handle : String) (start : Tag)
  | documentStart
  | documentEnd
  | blockSequenceStart
  | blockMappingStart
  | blockEnd
  | flowSequenceStart
  | flowSequenceEnd
  | flowMappingStart
  | flowMappingEnd
  | blockEntry
  | flowEntry
  | key
  | value
  | alias (name : String)
  | anchor (name : String)
  | tag (handle : String) (suffix : Tag)
  | scalar (text : String) (style : Style)
  deriving Repr, DecidableEq

/-- Where a token could start a key: its number among the tokens and its place in the text. A
required key must turn out to be one. -/
structure KeySpot where
  required : Bool
  number : Nat
  index : Nat
  line : Nat
  column : Nat
  deriving Repr

/-- The state of the reading. Places are counted in bytes, columns in characters. Tokens are kept
with the latest in front, and so are the indentations and the places of possible keys, of which
there is one for each open flow collection and one for the text around them. -/
structure Scan where
  rest : List Char
  index : Nat := 0
  line : Nat := 0
  column : Nat := 0
  flowLevel : Nat := 0
  indent : Int := -1
  indents : List Int := []
  keyAllowed : Bool := true
  spots : List (Option KeySpot) := [none]
  tokens : List Token := []
  count : Nat := 0

abbrev Scanning := Except String Scan

/-! ### Characters -/

def isBreak (c : Char) : Bool :=
  c == '\n' || c == '\r' || c == '\u0085' || c == '\u2028' || c == '\u2029'

def isBlank (c : Char) : Bool := c == ' ' || c == '\t'

/-- A blank, a line break or the end of the text. -/
def isGap : Option Char → Bool
  | none => true
  | some c => isBlank c || isBreak c

/-- A line break or the end of the text. -/
def isBreakOrEnd : Option Char → Bool
  | none => true
  | some c => isBreak c

/-- The characters of names: ASCII letters and digits, underscore and hyphen. -/
def isNameChar (c : Char) : Bool := c.isAlphanum || c == '_' || c == '-'

/-- The characters that a YAML text may hold. -/
def isAllowed (c : Char) : Bool :=
  let n := c.toNat
  n == 0x09 || n == 0x0A || n == 0x0D || (0x20 ≤ n && n ≤ 0x7E) || n == 0x85 ||
    (0xA0 ≤ n && n ≤ 0xD7FF) || (0xE000 ≤ n && n ≤ 0xFFFD) || 0x10000 ≤ n

namespace Scan

def peek (s : Scan) : Option Char := s.rest.head?

def peekAt (s : Scan) (n : Nat) : Option Char := s.rest[n]?

/-- How many bytes the characters take. -/
def byteSize (cs : List Char) : Nat := cs.foldr (fun c size => c.utf8Size + size) 0

def skip (s : Scan) (n : Nat) : Scan :=
  { s with
    rest := s.rest.drop n
    index := s.index + byteSize (s.rest.take n)
    column := s.column + n }

/-- Skips one line break; a carriage return and a line feed are one. -/
def skipLine (s : Scan) : Scan :=
  match s.rest with
  | '\r' :: '\n' :: rest => { s with rest, index := s.index + 2, column := 0, line := s.line + 1 }
  | c :: rest =>
    if isBreak c then
      { s with rest, index := s.index + c.utf8Size, column := 0, line := s.line + 1 }
    else s
  | [] => s

/-- What a line break means in a text: all breaks but two are line feeds. -/
def lineBreak (s : Scan) : List Char :=
  match s.rest with
  | '\u2028' :: _ => ['\u2028']
  | '\u2029' :: _ => ['\u2029']
  | c :: _ => if isBreak c then ['\n'] else []
  | [] => []

/-- Skips characters of a class. -/
def skipWhile (p : Char → Bool) (s : Scan) : Scan := s.skip (s.rest.takeWhile p).length

/-! ### Tokens, keys and indentation -/

def emit (s : Scan) (t : Token) : Scan := { s with tokens := t :: s.tokens, count := s.count + 1 }

/-- Puts a token in front of the one with a number. -/
def insertAt (s : Scan) (number : Nat) (t : Token) : Scan :=
  let after := s.count - number
  { s with tokens := s.tokens.take after ++ t :: s.tokens.drop after, count := s.count + 1 }

def spot? (s : Scan) : Option KeySpot := (s.spots.head?).join

def setSpot (s : Scan) (spot : Option KeySpot) : Scan :=
  { s with spots := spot :: s.spots.drop 1 }

/-- Gives up the place of a possible key. -/
def dropSpot (s : Scan) : Scanning :=
  match s.spot? with
  | some spot =>
    if spot.required then .error "could not find expected ':'" else .ok (s.setSpot none)
  | none => .ok s

/-- Notes that the next token may start a key. -/
def saveSpot (s : Scan) : Scanning :=
  if s.keyAllowed then do
    let required := s.flowLevel == 0 && s.indent == (s.column : Int)
    let s ← s.dropSpot
    .ok (s.setSpot (some ⟨required, s.count, s.index, s.line, s.column⟩))
  else .ok s

/-- A key must end on its line and within 1024 bytes. -/
def dropStale (s : Scan) : Scanning := do
  let stale (spot : KeySpot) : Bool := spot.line < s.line || spot.index + 1024 < s.index
  if s.spots.any (fun spot => spot.any fun p => stale p && p.required) then
    .error "could not find expected ':'"
  else .ok { s with spots := s.spots.map fun spot => spot.filter fun p => !stale p }

/-- Opens a block at a column that is indented more, with its token at the end or, for a key that
was found late, in front of that key. -/
def openBlock (s : Scan) (column : Nat) (number : Option Nat) (t : Token) : Scan :=
  if s.flowLevel == 0 && s.indent < (column : Int) then
    let s := { s with indents := s.indent :: s.indents, indent := column }
    match number with
    | some n => s.insertAt n t
    | none => s.emit t
  else s

/-- Closes the blocks that are indented more than a column. -/
def closeBlocksFrom (column : Int) : List Int → Scan → Scan
  | [], s => s
  | outer :: rest, s =>
    if column < s.indent then
      closeBlocksFrom column rest ({ s with indent := outer, indents := rest }.emit .blockEnd)
    else s

def closeBlocks (s : Scan) (column : Int) : Scan :=
  if s.flowLevel == 0 then closeBlocksFrom column s.indents s else s

/-! ### Between tokens -/

/-- Skips blanks, comments and line breaks. Tabs do not count as blanks where they could be taken
for indentation. -/
def toNextToken : (fuel : Nat) → Scan → Scan
  | 0, s => s
  | fuel + 1, s =>
    let s := if s.column == 0 && s.peek == some '\uFEFF' then s.skip 1 else s
    let tabs := s.flowLevel != 0 || !s.keyAllowed
    let s := s.skipWhile (fun c => c == ' ' || (tabs && c == '\t'))
    let s := if s.peek == some '#' then s.skipWhile (fun c => !isBreak c) else s
    if s.peek.any isBreak then
      let s := s.skipLine
      toNextToken fuel (if s.flowLevel == 0 then { s with keyAllowed := true } else s)
    else s

/-! ### Directives, anchors and tags -/

def name (s : Scan) : String × Scan :=
  (String.ofList (s.rest.takeWhile isNameChar), s.skipWhile isNameChar)

def number (s : Scan) : Except String (Nat × Scan) :=
  let digits := s.rest.takeWhile Char.isDigit
  if digits.isEmpty then .error "did not find expected version number"
  else if 9 < digits.length then .error "found extremely long version number"
  else
    .ok (digits.foldl (fun n c => n * 10 + (c.toNat - '0'.toNat)) 0, s.skip digits.length)

/-- A tag handle: an exclamation mark, or a name between two of them. -/
def handle (directive : Bool) (s : Scan) : Except String (List Char × Scan) :=
  match s.rest with
  | '!' :: _ =>
    let s := s.skip 1
    let (n, s) := s.name
    if s.peek == some '!' then .ok ('!' :: n.toList ++ ['!'], s.skip 1)
    else if directive && !n.isEmpty then .error "did not find expected '!'"
    else .ok ('!' :: n.toList, s)
  | _ => .error "did not find expected '!'"

def isUriChar (verbatim : Bool) (c : Char) : Bool :=
  isNameChar c || [';', '/', '?', ':', '@', '&', '=', '+', '$', '.', '%', '!', '~', '*', '\'', '(',
    ')'].contains c || (verbatim && (c == ',' || c == '[' || c == ']'))

/-- How many bytes follow the first byte of a character, as far as that byte tells. -/
def trailing? (byte : Nat) : Option Nat :=
  if byte < 0x80 then some 0
  else if 0xC0 ≤ byte && byte < 0xE0 then some 1
  else if 0xE0 ≤ byte && byte < 0xF0 then some 2
  else if 0xF0 ≤ byte && byte < 0xF8 then some 3
  else none

/-- The bytes of a tag: characters, and bytes written with a percent sign, where all those of one
character must be written so. `lacking` is how many bytes the last character still lacks. -/
def uriBytes : (lacking : Nat) → List Char → Except String Text.Bytes
  | 0, [] => .ok []
  | _ + 1, [] => .error "did not find URI escaped octet"
  | lacking, '%' :: a :: b :: rest =>
    match Text.numeral? 16 [a, b], lacking with
    | none, _ => .error "did not find URI escaped octet"
    | some byte, 0 =>
      match trailing? byte with
      | none => .error "found an incorrect leading UTF-8 octet"
      | some lacking => do
        let more ← uriBytes lacking rest
        .ok (UInt8.ofNat byte :: more)
    | some byte, lacking + 1 =>
      if 0x80 ≤ byte && byte < 0xC0 then do
        let more ← uriBytes lacking rest
        .ok (UInt8.ofNat byte :: more)
      else .error "found an incorrect trailing UTF-8 octet"
  | _, '%' :: _ => .error "did not find URI escaped octet"
  | 0, c :: rest => do
    let more ← uriBytes 0 rest
    .ok (Text.encodeChar c ++ more)
  | _ + 1, _ :: _ => .error "did not find URI escaped octet"

/-- The part of a tag after its handle; `start` is what was taken for a handle and is none. A zero
byte ends it. -/
def uri (verbatim : Bool) (start : List Char) (s : Scan) : Except String (Tag × Scan) := do
  let written := s.rest.takeWhile (isUriChar verbatim)
  if written.isEmpty && start.isEmpty then .error "did not find expected tag URI"
  else
    let bytes := Text.encodeChars (start.drop 1) ++ (← uriBytes 0 written)
    .ok (⟨bytes.takeWhile (· != 0)⟩, s.skip written.length)

def versionDirective (s : Scan) : Scanning := do
  let s := s.skipWhile isBlank
  let (major, s) ← s.number
  if s.peek != some '.' then .error "did not find expected digit or '.' character"
  else
    let (minor, s) ← (s.skip 1).number
    .ok (s.emit (.versionDirective major minor))

def tagDirective (s : Scan) : Scanning := do
  let s := s.skipWhile isBlank
  let (h, s) ← s.handle true
  if !s.peek.any isBlank then .error "did not find expected whitespace"
  else
    let s := s.skipWhile isBlank
    let (start, s) ← s.uri true []
    if !isGap s.peek then .error "did not find expected whitespace or line break"
    else .ok (s.emit (.tagDirective (String.ofList h) start))

/-- A directive; the text starts at its percent sign. -/
def directive (s : Scan) : Scanning := do
  let (n, s) := (s.skip 1).name
  if n.isEmpty then .error "could not find expected directive name"
  else if !isGap s.peek then .error "found unexpected non-alphabetical character"
  else
    let s ← if n == "YAML" then s.versionDirective
      else if n == "TAG" then s.tagDirective
      else .error "found unknown directive name"
    let s := s.skipWhile isBlank
    let s := if s.peek == some '#' then s.skipWhile (fun c => !isBreak c) else s
    if !isBreakOrEnd s.peek then .error "did not find expected comment or line break"
    else .ok s.skipLine

/-- An anchor or alias; the text starts at its sign. -/
def anchorName (s : Scan) : Except String (String × Scan) :=
  let (n, s) := (s.skip 1).name
  let ends := isGap s.peek ||
    s.peek.any (fun c => ['?', ':', ',', ']', '\x7d', '%', '@', '\x60'].contains c)
  if n.isEmpty || !ends then .error "did not find expected alphabetic or numeric character"
  else .ok (n, s)

/-- A tag; the text starts at its exclamation mark. -/
def tag (s : Scan) : Scanning := do
  let (h, suffix, s) ←
    if s.peekAt 1 == some '<' then do
      let (suffix, s) ← (s.skip 2).uri true []
      if s.peek != some '>' then .error "did not find the expected '>'"
      else .ok ("", suffix, s.skip 1)
    else do
      let (h, s) ← s.handle false
      if 2 ≤ h.length && h.getLast? == some '!' then do
        let (suffix, s) ← s.uri false []
        .ok (String.ofList h, suffix, s)
      else do
        let (suffix, s) ← s.uri false h
        .ok (if suffix.isEmpty then ("", Tag.plain, s) else ("!", suffix, s))
  let ended := isGap s.peek || (s.flowLevel != 0 && s.peek == some ',')
  if ended then .ok (s.emit (.tag h suffix))
  else .error "did not find expected whitespace or line break"

/-! ### Block scalars -/

/-- Skips indentation and empty lines before a line of a block scalar. An indentation of zero is not
known yet; then the widest so far is noted. Gives the breaks that were skipped. -/
def blockBreaks (indent : Nat) :
    (fuel widest : Nat) → List Char → Scan → Except String (Nat × List Char × Scan)
  | 0, widest, breaks, s => .ok (widest, breaks, s)
  | fuel + 1, widest, breaks, s =>
    let spaces := (s.rest.takeWhile (· == ' ')).length
    let s := s.skip (if indent == 0 then spaces else min spaces (indent - s.column))
    let widest := max widest s.column
    if (indent == 0 || s.column < indent) && s.peek == some '\t' then
      .error "found a tab character where an indentation space is expected"
    else if s.peek.any isBreak then
      blockBreaks indent fuel widest (breaks ++ s.lineBreak) s.skipLine
    else .ok (widest, breaks, s)

/-- The breaks before a line, and the indentation, which the first line settles. -/
def blockIndent (indent : Nat) (s : Scan) : Except String (Nat × List Char × Scan) := do
  let (widest, breaks, s) ← blockBreaks indent (s.rest.length + 1) 0 [] s
  let known := if indent == 0 then max (max widest (s.indent + 1).toNat) 1 else indent
  .ok (known, breaks, s)

/-- The lines of a block scalar. `text` is what has been read so far, `lead` the break after its
last line, and `breaks` those of the empty lines after that. -/
def blockLines (literal : Bool) (indent : Nat) : (fuel : Nat) → (leadBlank : Bool) →
    (text lead breaks : List Char) → Scan → Except String (List Char × List Char × List Char × Scan)
  | 0, _, text, lead, breaks, s => .ok (text, lead, breaks, s)
  | fuel + 1, leadBlank, text, lead, breaks, s =>
    if s.column == indent && s.peek.isSome then do
      let startsBlank := s.peek.any isBlank
      let joint :=
        if !literal && lead.head? == some '\n' && !leadBlank && !startsBlank then
          if breaks.isEmpty then [' '] else []
        else lead
      let line := s.rest.takeWhile (fun c => !isBreak c)
      let s := s.skip line.length
      let lead := s.lineBreak
      let (_, next, s) ← blockIndent indent s.skipLine
      blockLines literal indent fuel startsBlank (text ++ joint ++ breaks ++ line) lead next s
    else .ok (text, lead, breaks, s)

/-- What is done with the breaks at the end of a block scalar. -/
inductive Chomping where
  | clip
  | strip
  | keep
  deriving DecidableEq

/-- The indicators after the sign of a block scalar: chomping and the number of columns by which it
is indented, in any order. -/
def blockHeader (s : Scan) : Except String (Chomping × Nat × Scan) :=
  let chomping (s : Scan) : Chomping × Scan :=
    if s.peek == some '+' then (.keep, s.skip 1)
    else if s.peek == some '-' then (.strip, s.skip 1)
    else (.clip, s)
  let increment (s : Scan) : Except String (Nat × Scan) :=
    match s.peek with
    | some c =>
      if c == '0' then .error "found an indentation indicator equal to 0"
      else if c.isDigit then .ok (c.toNat - '0'.toNat, s.skip 1)
      else .ok (0, s)
    | none => .ok (0, s)
  if s.peek.any Char.isDigit then do
    let (n, s) ← increment s
    let (c, s) := chomping s
    .ok (c, n, s)
  else
    let (c, s) := chomping s
    if c == .clip then .ok (c, 0, s)
    else do
      let (n, s) ← increment s
      .ok (c, n, s)

/-- A block scalar; the text starts at its sign. -/
def blockScalar (literal : Bool) (s : Scan) : Scanning := do
  let (chomping, increment, s) ← (s.skip 1).blockHeader
  let s := s.skipWhile isBlank
  let s := if s.peek == some '#' then s.skipWhile (fun c => !isBreak c) else s
  if !isBreakOrEnd s.peek then .error "did not find expected comment or line break"
  else
    let s := s.skipLine
    let given := if increment == 0 then 0
      else if 0 ≤ s.indent then (s.indent + increment).toNat else increment
    let (indent, breaks, s) ← blockIndent given s
    let (text, lead, breaks, s) ← blockLines literal indent (s.rest.length + 1) false [] [] breaks s
    let text := text ++ (if chomping == .strip then [] else lead) ++
      (if chomping == .keep then breaks else [])
    .ok (s.emit (.scalar (String.ofList text) (if literal then .literal else .folded)))

/-! ### Flow scalars -/

/-- Whether three characters that mark a document stand at the start of a line. -/
def atDocumentMark (s : Scan) : Bool :=
  s.column == 0 && isGap (s.peekAt 3) &&
    (s.rest.take 3 == ['-', '-', '-'] || s.rest.take 3 == ['.', '.', '.'])

/-- Blanks and breaks inside a scalar. `folded` tells whether a break has been seen; `lead` is the
first break and `breaks` are those after it. Blanks count only before the first break. -/
structure Gap where
  folded : Bool := false
  blanks : List Char := []
  lead : List Char := []
  breaks : List Char := []

/-- What the gap is in the text: its blanks, or one space for a single line feed, or the breaks
after the first. -/
def Gap.text (g : Gap) : List Char :=
  if !g.folded then g.blanks
  else if g.lead.head? == some '\n' then (if g.breaks.isEmpty then [' '] else g.breaks)
  else g.lead ++ g.breaks

/-- Reads a gap. A tab that could be taken for indentation is refused at columns below `tabLimit`.
-/
def gap (tabLimit : Int) : (fuel : Nat) → Gap → Scan → Except String (Gap × Scan)
  | 0, g, s => .ok (g, s)
  | fuel + 1, g, s =>
    match s.peek with
    | none => .ok (g, s)
    | some c =>
      if isBlank c then
        if g.folded && (s.column : Int) < tabLimit && c == '\t' then
          .error "found a tab character that violates indentation"
        else
          let g := if g.folded then g else { g with blanks := g.blanks ++ [c] }
          gap tabLimit fuel g (s.skip 1)
      else if isBreak c then
        let found := s.lineBreak
        let g := if g.folded then { g with breaks := g.breaks ++ found }
          else { g with folded := true, blanks := [], lead := found }
        gap tabLimit fuel g s.skipLine
      else .ok (g, s)

/-- The escapes of one character in a double-quoted scalar. -/
def simpleEscape : Char → Option Char
  | '0' => some '\x00'
  | 'a' => some '\x07'
  | 'b' => some '\x08'
  | 't' => some '\t'
  | '\t' => some '\t'
  | 'n' => some '\n'
  | 'v' => some '\x0b'
  | 'f' => some '\x0c'
  | 'r' => some '\r'
  | 'e' => some '\x1b'
  | ' ' => some ' '
  | '"' => some '"'
  | '/' => some '/'
  | '\\' => some '\\'
  | 'N' => some '\u0085'
  | '_' => some '\u00a0'
  | 'L' => some '\u2028'
  | 'P' => some '\u2029'
  | _ => none

def escapeLength : Char → Option Nat
  | 'x' => some 2
  | 'u' => some 4
  | 'U' => some 8
  | _ => none

/-- An escape; the text starts at its backslash. -/
def escape (s : Scan) : Except String (Char × Scan) :=
  match s.peekAt 1 with
  | none => .error "found unknown escape character"
  | some c =>
    match simpleEscape c with
    | some d => .ok (d, s.skip 2)
    | none =>
      match escapeLength c with
      | none => .error "found unknown escape character"
      | some length =>
        let s := s.skip 2
        let digits := s.rest.take length
        if digits.length < length || !digits.all (Text.isDigitOf 16) then
          .error "did not find expected hexdecimal number"
        else
          let n := Text.numeral 16 digits
          if h : n.isValidChar then .ok (Char.ofNatAux n h, s.skip length)
          else .error "found invalid Unicode character escape code"

/-- The characters of a quoted scalar up to the next gap or the closing quote, the latest in front.
Tells whether the run ended at an escaped line break. -/
def quotedRun (single : Bool) : (fuel : Nat) → List Char → Scan →
    Except String (Bool × List Char × Scan)
  | 0, text, s => .ok (false, text, s)
  | fuel + 1, text, s =>
    match s.rest with
    | [] => .ok (false, text, s)
    | c :: rest =>
      if isBlank c || isBreak c then .ok (false, text, s)
      else if single && c == '\'' && rest.head? == some '\'' then
        quotedRun single fuel ('\'' :: text) (s.skip 2)
      else if c == (if single then '\'' else '"') then .ok (false, text, s)
      else if !single && c == '\\' then
        if rest.head?.any isBreak then .ok (true, text, (s.skip 1).skipLine)
        else
          match s.escape with
          | .error e => .error e
          | .ok (d, s) => quotedRun single fuel (d :: text) s
      else quotedRun single fuel (c :: text) (s.skip 1)

/-- The parts of a quoted scalar up to its closing quote; `text` has the latest in front. -/
def quotedParts (single : Bool) : (fuel : Nat) → List Char → Scan → Except String (List Char × Scan)
  | 0, _, _ => .error "found unexpected end of stream"
  | fuel + 1, text, s =>
    if s.atDocumentMark then .error "found unexpected document indicator"
    else if s.peek.isNone then .error "found unexpected end of stream"
    else
      match quotedRun single (s.rest.length + 1) text s with
      | .error e => .error e
      | .ok (escapedBreak, text, s) =>
        if s.peek == some (if single then '\'' else '"') then .ok (text, s)
        else
          match gap 0 (s.rest.length + 1) { folded := escapedBreak } s with
          | .error e => .error e
          | .ok (g, s) => quotedParts single fuel (g.text.reverse ++ text) s

/-- A quoted scalar; the text starts at its opening quote. -/
def quotedScalar (single : Bool) (s : Scan) : Scanning := do
  let (text, s) ← quotedParts single (s.rest.length + 1) [] (s.skip 1)
  let style := if single then Style.singleQuoted else .doubleQuoted
  .ok ((s.skip 1).emit (.scalar (String.ofList text.reverse) style))

/-- A character that ends a plain scalar inside a flow collection. -/
def isFlowMark (c : Char) : Bool :=
  c == ',' || c == '[' || c == ']' || c == '\x7b' || c == '\x7d'

/-- The characters of a plain scalar up to the next gap or its end, the latest in front. -/
def plainRun (flow : Bool) : (fuel : Nat) → List Char → Scan → Except String (List Char × Scan)
  | 0, text, s => .ok (text, s)
  | fuel + 1, text, s =>
    match s.rest with
    | [] => .ok (text, s)
    | c :: rest =>
      if isBlank c || isBreak c then .ok (text, s)
      else if flow && c == ':' && rest.head?.any (fun d => d == '?' || isFlowMark d) then
        .error "found unexpected ':'"
      else if (c == ':' && isGap rest.head?) || (flow && isFlowMark c) then .ok (text, s)
      else plainRun flow fuel (c :: text) (s.skip 1)

/-- The parts of a plain scalar; `before` is the gap in front of the next part. Tells whether the
scalar ended after a line break. -/
def plainParts (indent : Int) : (fuel : Nat) → (before : Gap) → List Char → Scan →
    Except String (Bool × List Char × Scan)
  | 0, before, text, s => .ok (before.folded, text, s)
  | fuel + 1, before, text, s =>
    if s.atDocumentMark || s.peek == some '#' then .ok (before.folded, text, s)
    else
      match plainRun (s.flowLevel != 0) (s.rest.length + 1) [] s with
      | .error e => .error e
      | .ok (run, s) =>
        let text := if run.isEmpty then text else run ++ before.text.reverse ++ text
        let before := if run.isEmpty then before else {}
        if s.peek.any (fun c => isBlank c || isBreak c) then
          match gap indent (s.rest.length + 1) before s with
          | .error e => .error e
          | .ok (g, s) =>
            if s.flowLevel == 0 && (s.column : Int) < indent then .ok (g.folded, text, s)
            else plainParts indent fuel g text s
        else .ok (before.folded, text, s)

/-- A plain scalar. After a line break in it a key may follow. -/
def plainScalar (s : Scan) : Scanning := do
  let (folded, text, s) ← plainParts (s.indent + 1) (s.rest.length + 1) {} [] s
  let s := s.emit (.scalar (String.ofList text.reverse) .plain)
  .ok (if folded then { s with keyAllowed := true } else s)

/-! ### One token -/

def documentMark (t : Token) (s : Scan) : Scanning := do
  let s ← (s.closeBlocks (-1)).dropSpot
  .ok (({ s with keyAllowed := false }.skip 3).emit t)

def openFlow (t : Token) (s : Scan) : Scanning := do
  let s ← s.saveSpot
  let s := { s with spots := none :: s.spots, flowLevel := s.flowLevel + 1, keyAllowed := true }
  .ok ((s.skip 1).emit t)

def closeFlow (t : Token) (s : Scan) : Scanning := do
  let s ← s.dropSpot
  let s := if s.flowLevel == 0 then s
    else { s with spots := s.spots.drop 1, flowLevel := s.flowLevel - 1 }
  .ok (({ s with keyAllowed := false }.skip 1).emit t)

def flowEntry (s : Scan) : Scanning := do
  let s ← s.dropSpot
  .ok (({ s with keyAllowed := true }.skip 1).emit .flowEntry)

def blockEntry (s : Scan) : Scanning := do
  if s.flowLevel == 0 && !s.keyAllowed then
    .error "block sequence entries are not allowed in this context"
  else
    let s ← (s.openBlock s.column none .blockSequenceStart).dropSpot
    .ok (({ s with keyAllowed := true }.skip 1).emit .blockEntry)

def keySign (s : Scan) : Scanning := do
  if s.flowLevel == 0 && !s.keyAllowed then
    .error "mapping keys are not allowed in this context"
  else
    let s ← (s.openBlock s.column none .blockMappingStart).dropSpot
    .ok (({ s with keyAllowed := s.flowLevel == 0 }.skip 1).emit .key)

def valueSign (s : Scan) : Scanning :=
  match s.spot? with
  | some spot =>
    let s := s.insertAt spot.number .key
    let s := s.openBlock spot.column (some spot.number) .blockMappingStart
    let s := { s.setSpot none with keyAllowed := false }
    .ok ((s.skip 1).emit .value)
  | none =>
    if s.flowLevel == 0 && !s.keyAllowed then
      .error "mapping values are not allowed in this context"
    else
      let s := s.openBlock s.column none .blockMappingStart
      .ok (({ s with keyAllowed := s.flowLevel == 0 }.skip 1).emit .value)

/-- Whether a character can start a plain scalar, given the one after it. -/
def startsPlain (flow : Bool) (c : Char) (next : Option Char) : Bool :=
  let indicator := ['-', '?', ':', ',', '[', ']', '\x7b', '\x7d', '#', '&', '*', '!', '|', '>',
    '\'', '"', '%', '@', '\x60'].contains c
  (!isBlank c && !isBreak c && !indicator) ||
    (c == '-' && !next.any isBlank) ||
    (!flow && (c == '?' || c == ':') && !isGap next)

/-- Reads the next token; `c` is its first character and `rest` what follows. -/
def token (c : Char) (rest : List Char) (s : Scan) : Scanning := do
  let flow := s.flowLevel != 0
  let after := rest.head?
  if s.column == 0 && c == '%' then
    let s ← (s.closeBlocks (-1)).dropSpot
    { s with keyAllowed := false }.directive
  else if s.atDocumentMark then
    s.documentMark (if c == '-' then .documentStart else .documentEnd)
  else if c == '[' then s.openFlow .flowSequenceStart
  else if c == '\x7b' then s.openFlow .flowMappingStart
  else if c == ']' then s.closeFlow .flowSequenceEnd
  else if c == '\x7d' then s.closeFlow .flowMappingEnd
  else if c == ',' then s.flowEntry
  else if c == '-' && isGap after then s.blockEntry
  else if c == '?' && (flow || isGap after) then s.keySign
  else if c == ':' && (flow || isGap after) then s.valueSign
  else if c == '*' || c == '&' then
    let s ← s.saveSpot
    let (n, s) ← { s with keyAllowed := false }.anchorName
    .ok (s.emit (if c == '*' then .alias n else .anchor n))
  else if c == '!' then
    let s ← s.saveSpot
    { s with keyAllowed := false }.tag
  else if (c == '|' || c == '>') && !flow then
    let s ← s.dropSpot
    { s with keyAllowed := true }.blockScalar (c == '|')
  else if c == '\'' || c == '"' then
    let s ← s.saveSpot
    { s with keyAllowed := false }.quotedScalar (c == '\'')
  else if startsPlain flow c after then
    let s ← s.saveSpot
    { s with keyAllowed := false }.plainScalar
  else .error "found character that cannot start any token"

/-- Reads tokens up to the end of the text. -/
def all : (fuel : Nat) → Scan → Scanning
  | 0, s => .ok s
  | fuel + 1, s =>
    match (s.toNextToken (s.rest.length + 1)).dropStale with
    | .error e => .error e
    | .ok s =>
      let s := s.closeBlocks s.column
      match s.rest with
      | [] => (s.closeBlocks (-1)).dropSpot
      | c :: rest =>
        match s.token c rest with
        | .error e => .error e
        | .ok s => all fuel s

end Scan

/-- The tokens of a text. -/
def Token.scan (text : String) : Except String (List Token) := do
  let cs := text.toList
  if cs.all isAllowed then
    let s ← Scan.all (cs.length + 1) { rest := cs }
    .ok s.tokens.reverse
  else .error "control characters are not allowed"

end ComposeHarness.Yaml
