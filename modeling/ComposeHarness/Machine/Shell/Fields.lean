import ComposeHarness.Machine.FileTree
import ComposeHarness.Machine.Wildcard

/-!
# Fields

An expanded word is a row of stretches. Each says whether and where it is split; what comes out are
the fields of a command, which may in turn stand for the names of files.
-/
namespace ComposeHarness.Machine.Shell

/-- A piece of an expanded word. -/
inductive Piece where
  | char (c : Char) (quoted : Bool)
  /-- A quotation mark, which makes a field count even if nothing else is in it. -/
  | mark
  /-- Where one argument ends and the next one starts. -/
  | border
  deriving Repr, DecidableEq

/-- Where a stretch is split. -/
inductive Splitting where
  | nowhere
  /-- At the separators of the shell, and at borders. -/
  | atSeparators
  /-- At borders, of which each ends a field. -/
  | atBorders
  deriving Repr, DecidableEq

structure Stretch where
  splitting : Splitting
  pieces : List Piece
  deriving Repr, DecidableEq

def charsOf (quoted : Bool) (text : String) : List Piece := text.toList.map fun c => .char c quoted

/-- A stretch for a text: what is quoted is not split. -/
def stretch (quoted : Bool) (text : String) : List Stretch :=
  [⟨if quoted then .nowhere else .atSeparators, charsOf quoted text⟩]

/-! ### Splitting -/

/-- What has been split so far. -/
structure Splitter where
  /-- The fields that are complete, the latest first. -/
  fields : List (List Piece) := []
  /-- The pieces of the field that is not, the latest first. -/
  field : List Piece := []
  /-- Whether the last separator was a blank that ended a field. -/
  afterBlank : Bool := false
  /-- Whether the last stretch that could be split was so at borders only. -/
  byBorders : Bool := false
  /-- How many fields may still be begun. -/
  limit : Option Nat := none
  /-- What is left of the last field if only blanks follow. -/
  cut : Option (List Piece) := none

def isDefaultSeparator (c : Char) : Bool := c == ' ' || c == '\t' || c == '\n'

namespace Splitter

/-- Splits at a piece if it separates fields. -/
def add (separators : List Char) (byBorders afterBorders : Bool) (s : Splitter) (x : Piece) :
    Splitter :=
  let separates := match x with
    | .border => true
    | .char c _ => !byBorders && separators.contains c
    | .mark => false
  let isBlank := separates && match x with
    | .char c _ => isDefaultSeparator c
    | _ => true
  let kept := { s with field := x :: s.field }
  if s.limit = some 0 then
    if isBlank then { kept with cut := some (s.cut.getD s.field) }
    else
      { kept with cut := if separates && s.afterBlank then s.cut else none, afterBlank := false }
  else if s.afterBlank then
    if isBlank then s
    else if separates then { s with afterBlank := false }
    else { kept with afterBlank := false }
  else if separates then
    let afterBlank := !(byBorders || afterBorders) && isBlank
    if s.field.isEmpty && afterBlank then s
    else
      let limit := s.limit.map (· - 1)
      if limit = some 0 then { kept with afterBlank, limit, cut := some s.field }
      else { s with fields := s.field.reverse :: s.fields, field := [], afterBlank, limit }
  else { kept with afterBlank := false }

def addStretch (separators : List Char) (s : Splitter) (x : Stretch) : Splitter :=
  match x.splitting with
  | .nowhere => { s with field := x.pieces.reverse ++ s.field }
  | splitting =>
    let byBorders := splitting = .atBorders
    x.pieces.foldl (add separators byBorders s.byBorders)
      { s with afterBlank := false, byBorders }

/-- All fields, with the one that nothing has ended. -/
def finish (s : Splitter) : List (List Piece) :=
  let last := s.cut.getD s.field
  (if s.byBorders || !last.isEmpty then last.reverse :: s.fields else s.fields).reverse

end Splitter

/-- The fields of a word. With a limit, the last one takes what is left. -/
def fieldsOf (separators : List Char) (limit : Option Nat) (xs : List Stretch) :
    List (List Piece) :=
  (xs.foldl (Splitter.addStretch separators) { limit }).finish

/-! ### Texts and patterns -/

/-- The characters of pieces. -/
def marksOf (xs : List Piece) : List Mark :=
  xs.filterMap fun
    | .char c quoted => some ⟨c, quoted⟩
    | _ => none

def textOfPieces (xs : List Piece) : String := String.ofList ((marksOf xs).map Mark.char)

/-- The pieces of a word that is not split. They end at the first border. -/
def piecesOf (xs : List Stretch) : List Piece :=
  (xs.flatMap Stretch.pieces).takeWhile (· != .border)

/-- The text of a word that is not split. -/
def textOf (xs : List Stretch) : String := textOfPieces (piecesOf xs)

/-- The pattern of a word that is not split. -/
def patternOf (xs : List Stretch) : List Char := Wildcard.ofMarks false (marksOf (piecesOf xs))

/-! ### Names of files -/

/-- The paths that a pattern describes from a place on. -/
def pathsFrom (t : FileTree) (cwd : Location) : (fuel : Nat) → (before : String) →
    (pattern : List Char) → List String
  | 0, _, _ => []
  | fuel + 1, before, pattern =>
    match Wildcard.splitSlash pattern with
    | (piece, none) =>
      if Wildcard.isOpen piece then (named before piece).map (before ++ ·)
      else
        let path := before ++ String.ofList (Wildcard.plain piece)
        if exists? path then [path] else []
    | (piece, some rest) =>
      if Wildcard.isOpen piece then
        (named before piece).flatMap fun name => pathsFrom t cwd fuel (before ++ name ++ "/") rest
      else pathsFrom t cwd fuel (before ++ String.ofList (Wildcard.plain piece) ++ "/") rest
where
  exists? (path : String) : Bool :=
    match t.find cwd false ⟨path⟩ with
    | .ok place => place.entry.isSome
    | .error _ => false
  named (before : String) (piece : List Char) : List String :=
    let hidden := match piece with
      | '.' :: _ => true
      | '\\' :: '.' :: _ => true
      | _ => false
    match t.entry cwd ⟨if before.isEmpty then "." else before⟩ with
    | .ok ⟨l, some .directory⟩ =>
      ([".", ".."] ++ t.children l).filter fun name =>
        (hidden || name.toList.head? ≠ some '.') && Wildcard.accepts piece name.toList
    | _ => []

/-- The names of files that a field describes, or the field itself if there are none. -/
def globbed (t : FileTree) (cwd : Location) (field : List Piece) : List String :=
  let pattern := Wildcard.ofMarks false (marksOf field)
  let names :=
    if Wildcard.isOpen pattern then pathsFrom t cwd (pattern.length + 1) "" pattern else []
  if names.isEmpty then [textOfPieces field] else names.mergeSort fun a b => a ≤ b

/-- The text without line ends at its end. -/
def dropLineEnds (s : String) : String :=
  String.ofList (s.toList.reverse.dropWhile (· == '\n')).reverse

end ComposeHarness.Machine.Shell
