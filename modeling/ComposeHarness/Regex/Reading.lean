import ComposeHarness.Regex.Pattern
import ComposeHarness.Text.Blank
import ComposeHarness.Text.Digits
import ComposeHarness.Text.Unicode.Property

/-!
# Reading a pattern

Reads the text of a regular expression. The reader walks over the characters once; open groups and
open classes wait on two stacks. Every reading function takes the text that is left and gives back
what follows the part it has read.
-/
namespace ComposeHarness.Regex

/-- A reading step: a value and the text after it, or why the text is no pattern. -/
abbrev Reading (α : Type) := Except String (α × List Char)

namespace Reading

/-! ### Blanks and comments of verbose patterns -/

/-- Drops blanks and comments; a comment reaches to the end of its line. -/
def skipBlank : (inComment : Bool) → List Char → List Char
  | _, [] => []
  | true, c :: cs => if c == '\n' then skipBlank false cs else skipBlank true cs
  | false, c :: cs =>
    if Text.isBlank c then skipBlank false cs
    else if c == '#' then skipBlank true cs
    else c :: cs

/-- Drops blanks and comments if the pattern is verbose. -/
def skip (verbose : Bool) (cs : List Char) : List Char :=
  if verbose then skipBlank false cs else cs

/-- The text after the next character and the blanks that follow it. -/
def advance (verbose : Bool) (cs : List Char) : List Char := skip verbose (cs.drop 1)

/-- The character after the next one; a verbose pattern looks past blanks and one comment sign. -/
def peekPastBlank (verbose : Bool) (cs : List Char) : Option Char :=
  let after := cs.drop 1
  if verbose then
    match after.dropWhile Text.isBlank with
    | '#' :: rest => (rest.dropWhile Text.isBlank).head?
    | c :: _ => some c
    | [] => after.head?
  else after.head?

/-- Takes a fixed beginning off the text. -/
def strip? : (start cs : List Char) → Option (List Char)
  | [], cs => some cs
  | a :: as, c :: cs => if a == c then strip? as cs else none
  | _ :: _, [] => none

/-! ### Numbers -/

/-- The character with a code point, if there is one. -/
def charOf? (n : Nat) : Option Char :=
  if h : n.isValidChar then some (Char.ofNatAux n h) else none

/-- Digits, with blanks between them if the pattern is verbose. -/
def digitsFrom (verbose : Bool) : (fuel : Nat) → List Char → List Char × List Char
  | 0, cs => ([], cs)
  | fuel + 1, cs =>
    match cs with
    | c :: _ =>
      if c.isDigit then
        let (more, rest) := digitsFrom verbose fuel (advance verbose cs)
        (c :: more, rest)
      else ([], cs)
    | [] => ([], cs)

/-- A 32-bit decimal number with blanks around it; the inner result tells a missing or too large
number apart from text that ends. -/
def decimal (verbose : Bool) (cs : List Char) : Except String Nat × List Char :=
  let start := cs.dropWhile Text.isBlank
  let (digits, rest) := digitsFrom verbose start.length start
  let rest := skip verbose (rest.dropWhile Text.isBlank)
  if digits.isEmpty then (.error "repetition quantifier expects a valid decimal", rest)
  else
    let n := digits.foldl (fun n c => n * 10 + (c.toNat - '0'.toNat)) 0
    (if n < Nat.pow 2 32 then .ok n else .error "decimal literal invalid", rest)

/-! ### Escapes -/

/-- One element of a pattern or a class. -/
inductive Primitive where
  | literal (l : Literal)
  | anchor (a : Anchor)
  | dot
  | perl (kind : PerlClass) (negated : Bool)
  | property (query : PropertyQuery) (negated : Bool)
  deriving Repr

def Primitive.toPattern : Primitive → Pattern
  | .literal l => .literal l
  | .anchor a => .anchor a
  | .dot => .dot
  | .perl kind negated => .perl kind negated
  | .property query negated => .property query negated

def eofInEscape : String :=
  "incomplete escape sequence, reached end of pattern prematurely"

/-- A fixed number of hexadecimal digits; the text starts at the first one. -/
def fixedDigits (verbose : Bool) : (count : Nat) → List Char → Reading (List Char)
  | 0, cs => .ok ([], cs)
  | count + 1, cs =>
    match cs with
    | [] => .error eofInEscape
    | c :: _ =>
      if Text.isDigitOf 16 c then
        match fixedDigits verbose count (advance verbose cs) with
        | .ok (more, rest) => .ok (c :: more, rest)
        | .error e => .error e
      else .error "invalid hexadecimal digit"

/-- What stands between braces; the text starts at the opening brace. -/
def braced (verbose : Bool) (allowed : Char → Bool) :
    (fuel : Nat) → List Char → Reading (List Char)
  | 0, _ => .error eofInEscape
  | fuel + 1, cs =>
    let cs := advance verbose cs
    match cs with
    | [] => .error eofInEscape
    | '\x7d' :: _ => .ok ([], cs)
    | c :: _ =>
      if allowed c then
        match braced verbose allowed fuel cs with
        | .ok (more, rest) => .ok (c :: more, rest)
        | .error e => .error e
      else .error "invalid hexadecimal digit"

/-- A character by its code point, after the letter of the escape and as many digits as the letter
asks for, or any number of them in braces. -/
def hexEscape (verbose : Bool) (count : Nat) (cs : List Char) : Reading Primitive :=
  let cs := advance verbose cs
  let invalid := Except.error "hexadecimal literal is not a Unicode scalar value"
  match cs with
  | [] => .error eofInEscape
  | '\x7b' :: _ =>
    match braced verbose (Text.isDigitOf 16) (cs.length + 1) cs with
    | .error e => .error e
    | .ok (digits, rest) =>
      if digits.isEmpty then .error "hexadecimal literal empty"
      else
        match charOf? (Text.numeral 16 digits) with
        | some c => .ok (.literal ⟨c, false⟩, advance verbose rest)
        | none => invalid
  | _ =>
    match fixedDigits verbose count cs with
    | .error e => .error e
    | .ok (digits, rest) =>
      match charOf? (Text.numeral 16 digits) with
      | some c => .ok (.literal ⟨c, count == 2⟩, rest)
      | none => invalid

/-- Splits at the first of the texts that occurs, as they are listed. -/
def cutAt (mark : List Char) : List Char → Option (List Char × List Char)
  | [] => none
  | c :: cs =>
    match strip? mark (c :: cs) with
    | some after => some ([], after)
    | none => (cutAt mark cs).map fun (a, b) => (c :: a, b)

/-- A class by a property, after its letter. -/
def propertyEscape (verbose negated : Bool) (cs : List Char) : Reading Primitive :=
  let cs := advance verbose cs
  match cs with
  | [] => .error eofInEscape
  | '\x7b' :: _ =>
    match braced verbose (fun _ => true) (cs.length + 1) cs with
    | .error e => .error e
    | .ok (name, rest) =>
      let rest := rest.drop 1
      match cutAt ['!', '='] name with
      | some (property, value) => .ok (.property (.valued property value) (!negated), rest)
      | none =>
        match cutAt [':'] name with
        | some (property, value) => .ok (.property (.valued property value) negated, rest)
        | none =>
          match cutAt ['='] name with
          | some (property, value) => .ok (.property (.valued property value) negated, rest)
          | none => .ok (.property (.named name) negated, rest)
  | c :: _ =>
    if c == '\\' then .error "invalid Unicode character class"
    else .ok (.property (.named [c]) negated, advance verbose cs)

def isMeta (c : Char) : Bool :=
  ['\\', '.', '+', '*', '?', '(', ')', '|', '[', ']', '\x7b', '\x7d', '^', '$', '#', '&', '-',
    '~'].contains c

/-- A character that a backslash before it leaves as it is. -/
def isEscapable (c : Char) : Bool :=
  isMeta c || (c.toNat < 0x80 && !c.isAlphanum && c != '<' && c != '>')

def isBoundaryChar (c : Char) : Bool := c.isAlpha || c == '-'

def boundaryName (verbose : Bool) : (fuel : Nat) → List Char → List Char × List Char
  | 0, cs => ([], cs)
  | fuel + 1, cs =>
    match cs with
    | c :: _ =>
      if isBoundaryChar c then
        let (more, rest) := boundaryName verbose fuel (advance verbose cs)
        (c :: more, rest)
      else ([], cs)
    | [] => ([], cs)

/-- A word boundary, with a name in braces after it if it is a special one. -/
def boundary (verbose : Bool) (cs : List Char) : Reading Primitive :=
  let plain : Reading Primitive := .ok (.anchor .wordBoundary, cs)
  match cs with
  | '\x7b' :: _ =>
    let inner := advance verbose cs
    match inner with
    | [] => .error "special word boundary assertion is either unclosed or repetition"
    | c :: _ =>
      if !isBoundaryChar c then plain
      else
        let (name, rest) := boundaryName verbose inner.length inner
        match rest with
        | '\x7d' :: rest =>
          match [("start", Anchor.wordStart), ("end", .wordEnd), ("start-half", .wordStartHalf),
              ("end-half", .wordEndHalf)].lookup (String.ofList name) with
          | some a => .ok (.anchor a, rest)
          | none => .error "unrecognized special word boundary assertion"
        | _ => .error "special word boundary assertion is unclosed"
  | _ => plain

/-- Reads an escape; the text starts at its backslash. -/
def escape (verbose : Bool) (cs : List Char) : Reading Primitive :=
  let cs := cs.drop 1
  match cs with
  | [] => .error eofInEscape
  | c :: rest =>
    if c.isDigit then .error "backreferences are not supported"
    else if c == 'x' then hexEscape verbose 2 cs
    else if c == 'u' then hexEscape verbose 4 cs
    else if c == 'U' then hexEscape verbose 8 cs
    else if c == 'p' then propertyEscape verbose false cs
    else if c == 'P' then propertyEscape verbose true cs
    else if c == 'd' then .ok (.perl .digit false, rest)
    else if c == 'D' then .ok (.perl .digit true, rest)
    else if c == 's' then .ok (.perl .space false, rest)
    else if c == 'S' then .ok (.perl .space true, rest)
    else if c == 'w' then .ok (.perl .word false, rest)
    else if c == 'W' then .ok (.perl .word true, rest)
    else if isEscapable c then .ok (.literal ⟨c, false⟩, rest)
    else
      match [('a', '\x07'), ('f', '\x0c'), ('t', '\t'), ('n', '\n'), ('r', '\r'),
          ('v', '\x0b')].lookup c with
      | some control => .ok (.literal ⟨control, false⟩, rest)
      | none =>
        match [('A', Anchor.startText), ('z', .endText), ('B', .notWordBoundary),
            ('<', .wordStart), ('>', .wordEnd)].lookup c with
        | some a => .ok (.anchor a, rest)
        | none =>
          if c == 'b' then boundary verbose rest
          else .error "unrecognized escape sequence"

/-! ### Classes in brackets -/

/-- A class that is still open: the items of the class around it and whether it is negated; or an
operator that waits for its right side. -/
inductive ClassFrame where
  | opened (outer : List ClassItem) (negated : Bool)
  | op (kind : ClassOp) (left : ClassItem)

def unclosedClass : String := "unclosed character class"

/-- The dashes that stand at the very start of a class are themselves. -/
def leadingDashes (verbose : Bool) :
    (fuel : Nat) → List ClassItem → List Char → Reading (List ClassItem)
  | 0, _, _ => .error unclosedClass
  | fuel + 1, items, cs =>
    match cs with
    | [] => .error unclosedClass
    | '-' :: _ =>
      leadingDashes verbose fuel (.literal ⟨'-', false⟩ :: items) (advance verbose cs)
    | _ => .ok (items, cs)

/-- Opens a class; the text starts at its bracket. Gives whether the class is negated and its first
items, the latest in front. A closing bracket right at the start is itself. -/
def openClass (verbose : Bool) (cs : List Char) : Reading (Bool × List ClassItem) :=
  let cs := advance verbose cs
  match cs with
  | [] => .error unclosedClass
  | c :: _ =>
    let negated := c == '^'
    let cs := if negated then advance verbose cs else cs
    match leadingDashes verbose (cs.length + 1) [] cs with
    | .error e => .error e
    | .ok (items, cs) =>
      match items, cs with
      | [], ']' :: _ =>
        let cs := advance verbose cs
        if cs.isEmpty then .error unclosedClass
        else .ok ((negated, [.literal ⟨']', false⟩]), cs)
      | _, _ => .ok ((negated, items), cs)

/-- A named class such as alpha between colons, or none if the text is something else. -/
def asciiClass? (cs : List Char) : Option (ClassItem × List Char) :=
  match cs with
  | '[' :: ':' :: rest =>
    let (negated, rest) := match rest with
      | '^' :: rest => (true, rest)
      | _ => (false, rest)
    let name := rest.takeWhile (· != ':')
    match rest.dropWhile (· != ':') with
    | ':' :: ']' :: after =>
      (AsciiClass.ofName? (String.ofList name)).map fun kind => (.ascii kind negated, after)
    | _ => none
  | _ => none

def classPrimitive (verbose : Bool) (cs : List Char) : Reading Primitive :=
  match cs with
  | '\\' :: _ => escape verbose cs
  | c :: _ => .ok (.literal ⟨c, false⟩, cs.drop 1)
  | [] => .error unclosedClass

def Primitive.toClassItem : Primitive → Except String ClassItem
  | .literal l => .ok (.literal l)
  | .perl kind negated => .ok (.perl kind negated)
  | .property query negated => .ok (.property query negated)
  | .anchor _ | .dot => .error "invalid escape sequence found in character class"

def Primitive.toLiteral : Primitive → Except String Literal
  | .literal l => .ok l
  | _ => .error "invalid range boundary, must be a literal"

/-- One item of a class: a single element, or a range of two characters with a dash between. -/
def classItem (verbose : Bool) (cs : List Char) : Except String (ClassItem × List Char) := do
  let (first, cs) ← classPrimitive verbose cs
  let cs := skip verbose cs
  if cs.isEmpty then .error unclosedClass
  else
    let next := peekPastBlank verbose cs
    if cs.head? != some '-' || next == some ']' || next == some '-' then
      let item ← first.toClassItem
      .ok (item, cs)
    else
      let cs := advance verbose cs
      if cs.isEmpty then .error unclosedClass
      else
        let (last, cs) ← classPrimitive verbose cs
        let low ← first.toLiteral
        let high ← last.toLiteral
        if high.char < low.char then .error "invalid character class range"
        else .ok (.range low high, cs)

/-- Puts an operator together with its right side, if one waits. -/
def closeOp (frames : List ClassFrame) (right : ClassItem) : List ClassFrame × ClassItem :=
  match frames with
  | .op kind left :: rest => (rest, .op kind left right)
  | _ => (frames, right)

/-- Reads a class to its end; `items` are those of the innermost open class, the latest in front. -/
def classLoop (verbose : Bool) :
    (fuel : Nat) → List ClassFrame → List ClassItem → List Char → Reading Pattern
  | 0, _, _, _ => .error unclosedClass
  | fuel + 1, frames, items, cs =>
    let cs := skip verbose cs
    match cs with
    | [] => .error unclosedClass
    | '[' :: _ =>
      match asciiClass? cs with
      | some (item, rest) => classLoop verbose fuel frames (item :: items) rest
      | none =>
        match openClass verbose cs with
        | .error e => .error e
        | .ok ((negated, first), rest) =>
          classLoop verbose fuel (.opened items negated :: frames) first rest
    | ']' :: rest =>
      let (frames, inner) := closeOp frames (ClassItem.ofItems items.reverse)
      match frames with
      | [.opened _ negated] => .ok (.bracketed negated inner, rest)
      | .opened outer negated :: frames =>
        classLoop verbose fuel frames (.bracketed negated inner :: outer) rest
      | _ => .error unclosedClass
    | '&' :: '&' :: rest => operator fuel .intersection frames items rest
    | '-' :: '-' :: rest => operator fuel .difference frames items rest
    | '~' :: '~' :: rest => operator fuel .symmetricDifference frames items rest
    | _ =>
      match classItem verbose cs with
      | .error e => .error e
      | .ok (item, rest) => classLoop verbose fuel frames (item :: items) rest
where
  operator (fuel : Nat) (kind : ClassOp) (frames : List ClassFrame) (items : List ClassItem)
      (rest : List Char) : Reading Pattern :=
    let (frames, left) := closeOp frames (ClassItem.ofItems items.reverse)
    classLoop verbose fuel (.op kind left :: frames) [] rest

/-- Reads a class; the text starts at its opening bracket. -/
def bracketClass (verbose : Bool) (cs : List Char) : Reading Pattern :=
  match openClass verbose cs with
  | .error e => .error e
  | .ok ((negated, first), rest) =>
    classLoop verbose (cs.length + 1) [.opened [] negated] first rest

/-! ### Groups -/

/-- The flags of a group, up to the colon or parenthesis that ends them. -/
def flagItems : (dangling : Bool) → List FlagItem → List Char → Reading (List FlagItem)
  | _, _, [] => .error "expected flag but got end of regex"
  | dangling, items, c :: cs =>
    if c == ':' || c == ')' then
      if dangling then .error "dangling flag negation operator" else .ok (items.reverse, c :: cs)
    else if c == '-' then
      if items.contains .negation then .error "flag negation operator repeated"
      else flagItems true (.negation :: items) cs
    else
      match Flag.ofChar? c with
      | none => .error "unrecognized flag"
      | some f =>
        if items.contains (.flag f) then .error "duplicate flag"
        else flagItems false (.flag f :: items) cs

/-- Letters of the version of the standard after the one that the property tables hold. Names of
groups may have them. -/
def newLetters : Text.CharRanges := .ofTable
  ["88f 0 3cc 0 7f 0 9af1 1 2 0 1 0 1c 0 614e 19 56b 2 32 1 c64 7 248 2b 50c4 18 2 18 11e 4 1801",
  "7 509 15 61 72 58cd 1e 1 15 8 1 d03a 5 1762 b 5502 10c9"]

/-- Numerals of that version. -/
def newNumerals : Text.CharRanges := .ofTable ["11de0 9 520a 2"]

def isAlphabetic (c : Char) : Bool :=
  if c.toNat < 0x80 then c.isAlpha
  else ((Text.Unicode.binary? "alphabetic").getD .empty).contains c || newLetters.contains c

def isNumeric (c : Char) : Bool :=
  if c.toNat < 0x80 then c.isDigit
  else ((Text.Unicode.category? "n").getD .empty).contains c || newNumerals.contains c

def isNameChar (first : Bool) (c : Char) : Bool :=
  c == '_' || isAlphabetic c ||
    (!first && (c == '.' || c == '[' || c == ']' || isNumeric c))

/-- The name of a group, up to and without its closing angle. -/
def groupName : (first : Bool) → List Char → Reading (List Char)
  | _, [] => .error "unclosed capture group name"
  | first, c :: cs =>
    if c == '>' then if first then .error "empty capture group name" else .ok ([], cs)
    else if isNameChar first c then
      match groupName false cs with
      | .ok (more, rest) => .ok (c :: more, rest)
      | .error e => .error e
    else .error "invalid capture group character"

/-- An opened group: flags to set from here on, or a group with the flags inside it. -/
inductive Opening where
  | flags (items : List FlagItem)
  | group (items : List FlagItem) (captures : Bool) (name : Option (List Char))

/-- Opens a group; the text starts at its parenthesis. -/
def openGroup (verbose : Bool) (cs : List Char) : Reading Opening :=
  let cs := advance verbose cs
  if ["?=", "?!", "?<=", "?<!"].any (fun start => (strip? start.toList cs).isSome) then
    .error "look-around, including look-ahead and look-behind, is not supported"
  else
    match (strip? "?P<".toList cs).orElse (fun _ => strip? "?<".toList cs) with
    | some rest =>
      match groupName true rest with
      | .error e => .error e
      | .ok (name, rest) => .ok (.group [] true (some name), rest)
    | none =>
      match cs with
      | '?' :: rest =>
        if rest.isEmpty then .error "unclosed group"
        else
          match flagItems false [] rest with
          | .error e => .error e
          | .ok (items, ending) =>
            if ending.head? == some ')' then
              if items.isEmpty then .error "repetition operator missing expression"
              else .ok (.flags items, ending.drop 1)
            else .ok (.group items false none, ending.drop 1)
      | _ => .ok (.group [] true none, cs)

/-! ### Repetitions -/

def unclosedCount : String := "unclosed counted repetition"

/-- The bounds of a counted repetition and whether it is greedy; the text starts at its opening
brace. -/
def counted (verbose : Bool) (cs : List Char) : Reading (Nat × Option Nat × Bool) :=
  let cs := advance verbose cs
  if cs.isEmpty then .error unclosedCount
  else
    let (least, cs) := decimal verbose cs
    match cs with
    | [] => .error unclosedCount
    | ',' :: _ =>
      let cs := advance verbose cs
      match cs with
      | [] => .error unclosedCount
      | '\x7d' :: _ => close least (fun n => (n, none)) cs
      | _ =>
        match least with
        | .error e => .error e
        | .ok n =>
          let (most, cs) := decimal verbose cs
          close most (fun m => (n, some m)) cs
    | _ => close least (fun n => (n, some n)) cs
where
  close (bound : Except String Nat) (make : Nat → Nat × Option Nat) (cs : List Char) :
      Reading (Nat × Option Nat × Bool) :=
    match bound with
    | .error e => .error e
    | .ok n =>
      match cs with
      | '\x7d' :: _ =>
        let bounds := make n
        let rest := advance verbose cs
        let lazily := rest.head? == some '?'
        if bounds.2.any (· < bounds.1) then .error "invalid repetition count range"
        else .ok ((bounds.1, bounds.2, !lazily), if lazily then rest.drop 1 else rest)
      | _ => .error unclosedCount

/-! ### The whole pattern -/

/-- What waits while a group or an alternative is read: the parts before the group, its flags and
whether the text around it is verbose; or the branches so far, the latest in front. -/
inductive Frame where
  | group (before : List Pattern) (items : List FlagItem) (captures verbose : Bool)
  | alternation (branches : List Pattern)

/-- The parts of one branch, which are kept with the latest in front. -/
def branch (parts : List Pattern) : Pattern := Pattern.ofParts parts.reverse

/-- The branches of the innermost group, put together. -/
def sealBranches (frames : List Frame) (parts : List Pattern) : List Frame × Pattern :=
  match frames with
  | .alternation branches :: rest => (rest, Pattern.ofBranches (branch parts :: branches).reverse)
  | _ => (frames, branch parts)

def missingOperand : String := "repetition operator missing expression"

/-- The part that a repetition repeats: the latest one, unless it only sets flags. -/
def operand? : List Pattern → Option (Pattern × List Pattern)
  | [] => none
  | .empty :: _ => none
  | .flags _ :: _ => none
  | p :: rest => some (p, rest)

/-- What has been read of a pattern: the groups that are open, and the parts of the innermost one,
the latest first. -/
structure Progress where
  verbose : Bool := false
  names : List (List Char) := []
  frames : List Frame := []
  parts : List Pattern := []

/-- What one step of reading comes to. -/
inductive Step where
  | finished (p : Pattern)
  | more (progress : Progress) (rest : List Char)

namespace Progress

/-- Adds a part. -/
def add (s : Progress) (p : Pattern) (rest : List Char) : Except String Step :=
  .ok (.more { s with parts := p :: s.parts } rest)

/-- Repeats the latest part. -/
def again (s : Progress) (least : Nat) (most : Option Nat) (greedy : Bool) (rest : List Char) :
    Except String Step :=
  match operand? s.parts with
  | none => .error missingOperand
  | some (p, before) =>
    .ok (.more { s with parts := .repetition least most greedy p :: before } rest)

/-- Repeats the latest part; a question mark after the sign asks for as few copies as possible,
which changes nothing about whether there is a match. -/
def againOrLazily (s : Progress) (least : Nat) (most : Option Nat) (rest : List Char) :
    Except String Step :=
  if rest.head? == some '?' then s.again least most false (rest.drop 1)
  else s.again least most true rest

/-- Opens a group, or sets flags for the rest of the one that is open. -/
def enter (s : Progress) (cs : List Char) : Except String Step := do
  match ← openGroup s.verbose cs with
  | (.flags items, rest) =>
    .ok (.more
      { s with
        verbose := (flagState .verbose items).getD s.verbose
        parts := .flags items :: s.parts } rest)
  | (.group items captures none, rest) =>
    .ok (.more
      { s with
        verbose := (flagState .verbose items).getD s.verbose
        frames := .group s.parts items captures s.verbose :: s.frames
        parts := [] } rest)
  | (.group items captures (some name), rest) =>
    if s.names.contains name then .error "duplicate capture group name"
    else
      .ok (.more
        { s with
          names := name :: s.names
          frames := .group s.parts items captures s.verbose :: s.frames
          parts := [] } rest)

/-- Closes the innermost group. -/
def leave (s : Progress) (rest : List Char) : Except String Step :=
  match sealBranches s.frames s.parts with
  | (.group before items captures outer :: frames, inner) =>
    .ok (.more
      { s with verbose := outer, frames, parts := .group items captures inner :: before } rest)
  | _ => .error "unopened group"

/-- Starts the next branch of an alternation. -/
def branchOff (s : Progress) (rest : List Char) : Except String Step :=
  let frames := match s.frames with
    | .alternation branches :: frames => .alternation (branch s.parts :: branches) :: frames
    | frames => .alternation [branch s.parts] :: frames
  .ok (.more { s with frames, parts := [] } rest)

/-- Ends the pattern. -/
def finish (s : Progress) : Except String Step :=
  match sealBranches s.frames s.parts with
  | ([], p) => .ok (.finished p)
  | _ => .error "unclosed group"

/-- Reads what is at the front. -/
def step (s : Progress) (cs : List Char) : Except String Step :=
  match cs with
  | [] => s.finish
  | '(' :: _ => s.enter cs
  | ')' :: rest => s.leave rest
  | '|' :: rest => s.branchOff rest
  | '[' :: _ => do
    let (p, rest) ← bracketClass s.verbose cs
    s.add p rest
  | '?' :: rest => s.againOrLazily 0 (some 1) rest
  | '*' :: rest => s.againOrLazily 0 none rest
  | '+' :: rest => s.againOrLazily 1 none rest
  | '\x7b' :: _ =>
    if (operand? s.parts).isNone then .error missingOperand
    else do
      let ((least, most, greedy), rest) ← counted s.verbose cs
      s.again least most greedy rest
  | '\\' :: _ => do
    let (primitive, rest) ← escape s.verbose cs
    s.add primitive.toPattern rest
  | '.' :: rest => s.add .dot rest
  | '^' :: rest => s.add (.anchor .startLine) rest
  | '$' :: rest => s.add (.anchor .endLine) rest
  | c :: rest => s.add (.literal ⟨c, false⟩) rest

end Progress

/-- Reads a pattern step by step. -/
def readFrom : (fuel : Nat) → Progress → List Char → Except String Pattern
  | 0, _, _ => .error "pattern too long"
  | fuel + 1, s, cs =>
    match s.step (skip s.verbose cs) with
    | .error e => .error e
    | .ok (.finished p) => .ok p
    | .ok (.more s rest) => readFrom fuel s rest

end Reading

/-- Reads a pattern, or says why the text is none. -/
def Pattern.read (text : List Char) : Except String Pattern :=
  match Reading.readFrom (text.length + 1) {} text with
  | .error e => .error e
  | .ok p =>
    if p.depth ≤ nestLimit then .ok p
    else .error "exceed the maximum number of nested parentheses/brackets (250)"

end ComposeHarness.Regex
