import ComposeHarness.Regex.Expr
import ComposeHarness.Regex.Pattern
import ComposeHarness.Text.Unicode.Property

/-!
# What a pattern means

Flags decide what literals, dots, anchors and classes stand for. They hold to the end of the group
they are set in, across its branches. Without the Unicode flag only ASCII can be asked for, because
a match must never end inside a character.
-/
namespace ComposeHarness.Regex

open Text (CharRanges)

structure Flags where
  caseInsensitive : Bool := false
  multiLine : Bool := false
  dotMatchesLineFeed : Bool := false
  swapGreed : Bool := false
  unicode : Bool := true
  carriageReturn : Bool := false
  deriving Repr

def Flags.set (flags : Flags) (items : List FlagItem) : Flags :=
  { caseInsensitive := (flagState .caseInsensitive items).getD flags.caseInsensitive
    multiLine := (flagState .multiLine items).getD flags.multiLine
    dotMatchesLineFeed := (flagState .dotMatchesLineFeed items).getD flags.dotMatchesLineFeed
    swapGreed := (flagState .swapGreed items).getD flags.swapGreed
    unicode := (flagState .unicode items).getD flags.unicode
    carriageReturn := (flagState .carriageReturn items).getD flags.carriageReturn }

namespace Meaning

def asciiRanges : AsciiClass → List (Nat × Nat)
  | .alnum => [(0x30, 0x39), (0x41, 0x5A), (0x61, 0x7A)]
  | .alpha => [(0x41, 0x5A), (0x61, 0x7A)]
  | .ascii => [(0, 0x7F)]
  | .blank => [(0x09, 0x09), (0x20, 0x20)]
  | .cntrl => [(0, 0x1F), (0x7F, 0x7F)]
  | .digit => [(0x30, 0x39)]
  | .graph => [(0x21, 0x7E)]
  | .lower => [(0x61, 0x7A)]
  | .print => [(0x20, 0x7E)]
  | .punct => [(0x21, 0x2F), (0x3A, 0x40), (0x5B, 0x60), (0x7B, 0x7E)]
  | .space => [(0x09, 0x0D), (0x20, 0x20)]
  | .upper => [(0x41, 0x5A)]
  | .word => [(0x30, 0x39), (0x41, 0x5A), (0x5F, 0x5F), (0x61, 0x7A)]
  | .xdigit => [(0x30, 0x39), (0x41, 0x46), (0x61, 0x66)]

def asciiSet (kind : AsciiClass) : CharRanges := .ofRanges (asciiRanges kind)

/-- Letters, marks, decimal digits, connecting punctuation and the two join controls. -/
def wordSet (unicode : Bool) : CharRanges :=
  if unicode then
    let letters := (Text.Unicode.binary? "alphabetic").getD .empty
    let joins := (Text.Unicode.binary? "joincontrol").getD .empty
    (letters.union joins).union (Text.Unicode.categoryUnion ["mn", "mc", "me", "nd", "pc"])
  else asciiSet .word

def perlSet (unicode : Bool) (kind : PerlClass) : CharRanges :=
  match kind with
  | .word => wordSet unicode
  | .digit =>
    if unicode then Text.Unicode.categoryUnion ["nd"] else asciiSet .digit
  | .space =>
    if unicode then (Text.Unicode.binary? "whitespace").getD .empty else asciiSet .space

def notUtf8 : String := "pattern can match invalid UTF-8"

def notUnicode : String := "Unicode not allowed here"

def negateIf (negated : Bool) (set : CharRanges) : CharRanges :=
  if negated then set.complement else set

def fold (flags : Flags) (set : CharRanges) : CharRanges :=
  if !flags.caseInsensitive then set
  else if flags.unicode then Text.Unicode.foldCase set
  else Text.Unicode.foldAsciiCase set

/-- Refuses a set that reaches beyond ASCII where only ASCII may be asked for. -/
def checked (flags : Flags) (set : CharRanges) : Except String CharRanges :=
  if flags.unicode || set.isAscii then .ok set else .error notUtf8

def propertySet (flags : Flags) (query : PropertyQuery) (negated : Bool) :
    Except String CharRanges :=
  if !flags.unicode then .error notUnicode
  else
    let found := match query with
      | .named name => Text.Unicode.named? name
      | .valued property value => Text.Unicode.valued? property value
    match found with
    | none => .error "Unicode property not found"
    | some set => .ok (negateIf negated (fold flags set))

/-- The code point a literal stands for in a class. -/
def classCode (flags : Flags) (l : Literal) : Except String Nat :=
  if flags.unicode || l.char.toNat < 0x80 then .ok l.char.toNat
  else if l.asByte then .error notUtf8
  else .error notUnicode

mutual

def classSet (flags : Flags) : ClassItem → Except String CharRanges
  | .empty => .ok .empty
  | .literal l => (classCode flags l).map fun n => .ofRanges [(n, n)]
  | .range first last => do
    let a ← classCode flags first
    let b ← classCode flags last
    .ok (.ofRanges [(a, b)])
  | .ascii kind negated => checked flags (negateIf negated (fold flags (asciiSet kind)))
  | .perl kind negated => checked flags (negateIf negated (perlSet flags.unicode kind))
  | .property query negated => propertySet flags query negated
  | .bracketed negated inner => do
    let set ← classSet flags inner
    checked flags (negateIf negated (fold flags set))
  | .union items => do
    let sets ← classSets flags items
    .ok (.ofRanges (sets.flatMap CharRanges.toList))
  | .op kind left right => do
    let l ← classSet flags left
    let r ← classSet flags right
    let l := fold flags l
    let r := fold flags r
    match kind with
    | .intersection => .ok (l.inter r)
    | .difference => .ok (l.diff r)
    | .symmetricDifference => .ok (l.symmDiff r)

def classSets (flags : Flags) : List ClassItem → Except String (List CharRanges)
  | [] => .ok []
  | i :: is => do
    let s ← classSet flags i
    let ss ← classSets flags is
    .ok (s :: ss)

end

def lookOf (flags : Flags) : Anchor → Look
  | .startText => .textStart
  | .endText => .textEnd
  | .startLine =>
    if !flags.multiLine then .textStart
    else if flags.carriageReturn then .anyLineStart else .lineStart
  | .endLine =>
    if !flags.multiLine then .textEnd
    else if flags.carriageReturn then .anyLineEnd else .lineEnd
  | .wordBoundary => .word .boundary (wordSet flags.unicode)
  | .notWordBoundary => .word .notBoundary (wordSet flags.unicode)
  | .wordStart => .word .start (wordSet flags.unicode)
  | .wordEnd => .word .finish (wordSet flags.unicode)
  | .wordStartHalf => .word .startHalf (wordSet flags.unicode)
  | .wordEndHalf => .word .finishHalf (wordSet flags.unicode)

def dotSet (flags : Flags) : CharRanges :=
  if flags.dotMatchesLineFeed then .all
  else
    let feeds := if flags.carriageReturn then [(0x0A, 0x0A), (0x0D, 0x0D)] else [(0x0A, 0x0A)]
    (CharRanges.ofRanges feeds).complement

mutual

/-- The expression a pattern stands for, and the flags that hold after it. -/
def expr (flags : Flags) : Pattern → Except String (Expr × Flags)
  | .empty => .ok (.empty, flags)
  | .flags items => .ok (.empty, flags.set items)
  | .literal l =>
    if !flags.unicode && l.asByte && 0x80 ≤ l.char.toNat then .error notUtf8
    else
      let n := l.char.toNat
      .ok (.ofSet (fold flags (.ofRanges [(n, n)])), flags)
  | .dot => if flags.unicode then .ok (.ofSet (dotSet flags), flags) else .error notUtf8
  | .anchor a => .ok (.look (lookOf flags a), flags)
  | .perl kind negated => do
    let set ← checked flags (negateIf negated (perlSet flags.unicode kind))
    .ok (.ofSet set, flags)
  | .property query negated => do
    let set ← propertySet flags query negated
    .ok (.ofSet set, flags)
  | .bracketed negated inner => do
    let set ← classSet flags inner
    let set ← checked flags (negateIf negated (fold flags set))
    .ok (.ofSet set, flags)
  | .repetition least most greedy inner => do
    let (e, after) ← expr flags inner
    .ok (.repeated least most (greedy != flags.swapGreed) e, after)
  | .group items captures inner => do
    let (e, _) ← expr (flags.set items) inner
    .ok (if captures then .capture e else e, flags)
  | .alternation branches => do
    let (es, after) ← exprs flags branches
    .ok (.oneOf es, after)
  | .concat parts => do
    let (es, after) ← exprs flags parts
    .ok (.inSequence es, after)

def exprs (flags : Flags) : List Pattern → Except String (List Expr × Flags)
  | [] => .ok ([], flags)
  | p :: ps => do
    let (e, after) ← expr flags p
    let (es, last) ← exprs after ps
    .ok (e :: es, last)

end

end Meaning
end ComposeHarness.Regex
