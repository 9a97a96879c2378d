import Std.Data.HashMap
import ComposeHarness.Regex.Expr

/-!
# How much memory a compiled expression takes

An expression is compiled to an automaton over bytes, once for reading a text forwards and once for
reading it backwards, and neither may take more than a fixed number of bytes. Building the states
is replayed here as far as their number and their size go. A state has a fixed size; on top of it
come its transitions on bytes, or its branches. Sets of characters share states where their byte
sequences have ends in common, as far as a small table of the states made last remembers them.
-/
namespace ComposeHarness.Regex

open Text (CharRanges)

/-- The most bytes an automaton may take. -/
def sizeLimit : Nat := 10 * Nat.pow 2 20

namespace Footprint

/-- What has been built: how many states, which are numbered in order, and how many bytes. -/
structure Built where
  states : Nat := 0
  bytes : Nat := 0

/-- A step of building; none once the limit is passed. -/
abbrev Build := StateT Built Option

def stateSize : Nat := 32
def transitionSize : Nat := 8
def branchSize : Nat := 4

/-- Takes more bytes. -/
def grow (bytes : Nat) : Build Unit := fun b =>
  let total := b.bytes + bytes
  if sizeLimit < total then none else some ((), { b with bytes := total })

/-- A new state with `bytes` of its own, by its number. -/
def newState (bytes : Nat) : Build Nat := fun b =>
  let total := b.bytes + stateSize + bytes
  if sizeLimit < total then none else some (b.states, { states := b.states + 1, bytes := total })

/-- The two ends of a part of the automaton. Linking the end of a part to what follows adds a
branch if its last state is one that branches. -/
structure Ends where
  start : Nat
  finish : Nat
  branching : Bool := false

def oneState (bytes : Nat) : Build Ends := do
  let s ← newState bytes
  pure ⟨s, s, false⟩

/-- Links the end of a part to what comes after it. -/
def link (e : Ends) : Build Unit := if e.branching then grow branchSize else pure ()

/-- Links a part to another copy of a piece, a number of times. -/
def chain (piece : Build Ends) : (copies : Nat) → Ends → Build Ends
  | 0, e, b => some (e, b)
  | copies + 1, e, b =>
    match piece b with
    | none => none
    | some (next, b) =>
      match link e b with
      | none => none
      | some (_, b) => chain piece copies { next with start := e.start } b

/-- A fixed number of copies in a row. -/
def exactly (piece : Build Ends) : (copies : Nat) → Build Ends
  | 0 => oneState 0
  | copies + 1 => do chain piece copies (← piece)

/-- Copies that may each be left out together with all after it. -/
def optionals (piece : Build Ends) (finish : Nat) : (copies : Nat) → Ends → Build Ends
  | 0, e, b =>
    match link e b with
    | none => none
    | some (_, b) => some (⟨e.start, finish, false⟩, b)
  | copies + 1, e, b =>
    match newState 0 b with
    | none => none
    | some (_, b) =>
      match piece b with
      | none => none
      | some (next, b) =>
        match link e b with
        | none => none
        | some (_, b) =>
          match grow (2 * branchSize) b with
          | none => none
          | some (_, b) => optionals piece finish copies { next with start := e.start } b

/-- At least as many copies as given, and `takesSome` tells that each takes some character. -/
def atLeast (piece : Build Ends) (takesSome : Bool) : (copies : Nat) → Build Ends
  | 0 => do
    if takesSome then
      let fork ← newState 0
      let inner ← piece
      grow branchSize
      link inner
      pure ⟨fork, fork, true⟩
    else
      let inner ← piece
      let _ ← newState 0
      link inner
      grow branchSize
      let question ← newState 0
      let finish ← newState 0
      grow (3 * branchSize)
      pure ⟨question, finish, false⟩
  | 1 => do
    let inner ← piece
    let fork ← newState 0
    link inner
    grow branchSize
    pure ⟨inner.start, fork, true⟩
  | copies + 2 => do
    let before ← exactly piece (copies + 1)
    let last ← piece
    let fork ← newState 0
    link before
    link last
    grow branchSize
    pure ⟨before.start, fork, true⟩

def optional (piece : Build Ends) : Build Ends := do
  let fork ← newState 0
  let inner ← piece
  let finish ← newState 0
  grow (2 * branchSize)
  link inner
  pure ⟨fork, finish, false⟩

def repetition (piece : Build Ends) (takesSome : Bool) (least : Nat) :
    (most : Option Nat) → Build Ends
  | none => atLeast piece takesSome least
  | some most =>
    if least == 0 && most == 1 then optional piece
    else if least == most then exactly piece least
    else do
      let before ← exactly piece least
      let finish ← newState 0
      optionals piece finish (most - least) before

/-! ### Byte sequences of characters -/

def utf8Bytes (n : Nat) : List Nat :=
  if n < 0x80 then [n]
  else if n < 0x800 then [0xC0 + n / 0x40, 0x80 + n % 0x40]
  else if n < 0x10000 then [0xE0 + n / 0x1000, 0x80 + n / 0x40 % 0x40, 0x80 + n % 0x40]
  else [0xF0 + n / 0x40000, 0x80 + n / 0x1000 % 0x40, 0x80 + n / 0x40 % 0x40, 0x80 + n % 0x40]

/-- Where a range has to be cut because `places` trailing bytes do not run through all values. -/
def cutWithin (a b places : Nat) : Option Nat :=
  let block := Nat.pow 2 (6 * places)
  if a / block == b / block then none
  else if a % block != 0 then some (a / block * block + (block - 1))
  else if b % block != block - 1 then some (b / block * block - 1)
  else none

/-- The last code point of the first piece of a range that is not one sequence of byte ranges. -/
def cutPoint (a b : Nat) : Option Nat :=
  match [0x7F, 0x7FF, 0xFFFF].find? (fun last => a ≤ last && last < b) with
  | some last => some last
  | none =>
    if b < 0x80 then none
    else [1, 2, 3].findSome? (cutWithin a b)

/-- The sequences of byte ranges that make up a range of code points, without the surrogates. -/
def byteRanges : (fuel a b : Nat) → List (List (Nat × Nat))
  | 0, _, _ => []
  | fuel + 1, a, b =>
    if a < 0xE000 && 0xD7FF < b then
      byteRanges fuel a 0xD7FF ++ byteRanges fuel 0xE000 b
    else if b < a then []
    else
      match cutPoint a b with
      | some last => byteRanges fuel a last ++ byteRanges fuel (last + 1) b
      | none => [(utf8Bytes a).zip (utf8Bytes b)]

/-- Cuts of one range are nested less deeply than this. -/
def cutDepth : Nat := 32

def sequencesOf (members : CharRanges) : List (List (Nat × Nat)) :=
  members.toList.flatMap fun (a, b) => byteRanges cutDepth a b

example : byteRanges cutDepth 0x61 0x7FF = [[(0x61, 0x7F)], [(0xC2, 0xDF), (0x80, 0xBF)]] := by
  decide +kernel

/-! ### Tables of states -/

/-- Mixes a number into a hash. -/
def mix (h : UInt64) (n : Nat) : UInt64 := (h ^^^ UInt64.ofNat n) * 1099511628211

def slotOf (slots : Nat) (key : List Nat) : Nat :=
  (key.foldl mix 14695981039346656037).toNat % slots

/-- A table of states by what they are made of. Each slot keeps the state that came last. -/
abbrev Table := Std.HashMap Nat (List Nat × Nat)

def Table.find? (table : Table) (slots : Nat) (key : List Nat) : Option Nat :=
  match table[slotOf slots key]? with
  | some (known, state) => if known == key then some state else none
  | none => none

def Table.add (table : Table) (slots : Nat) (key : List Nat) (state : Nat) : Table :=
  table.insert (slotOf slots key) (key, state)

/-- A step of building that may look up states. -/
abbrev Weave := StateT Table Build

/-! ### Sets, read forwards -/

/-- A state in the making: its finished transitions, the latest first, and the byte range of the
one whose target is still open. -/
structure Node where
  done : List (Nat × Nat × Nat) := []
  pending : Option (Nat × Nat) := none

def Node.close (node : Node) (target : Nat) : Node :=
  match node.pending with
  | none => node
  | some (a, b) => ⟨(a, b, target) :: node.done, none⟩

def nodeSlots : Nat := 10000

/-- The state with the transitions of a node, which may be there already. -/
def stateOf (node : Node) : Weave Nat := do
  let edges := node.done.reverse
  let key := edges.flatMap fun (a, b, target) => [a, b, target]
  match (← get).find? nodeSlots key with
  | some state => pure state
  | none =>
    let state ← newState (transitionSize * edges.length)
    modify fun table => table.add nodeSlots key state
    pure state

/-- Makes states of some nodes in a row, the last one first, each leading to the one after it. -/
def closeAll (target : Nat) : List Node → Weave Nat
  | [] => pure target
  | node :: rest => do
    let next ← closeAll target rest
    stateOf (node.close next)

/-- How many nodes at the front wait with the byte ranges at the front of a sequence. -/
def sharedFront : List (Nat × Nat) → List Node → Nat
  | r :: rs, node :: nodes => if node.pending == some r then sharedFront rs nodes + 1 else 0
  | _, _ => 0

/-- Closes all nodes after the first `kept` ones and the open transition before them. -/
def closeFrom (target kept : Nat) (nodes : List Node) : Weave (List Node) := do
  let next ← closeAll target (nodes.drop (kept + 1))
  pure ((nodes.take (kept + 1)).mapIdx fun i node => if i == kept then node.close next else node)

/-- Adds one sequence of byte ranges. -/
def addSequence (target : Nat) (nodes : List Node) (ranges : List (Nat × Nat)) :
    Weave (List Node) := do
  let kept := sharedFront ranges nodes
  let nodes ← closeFrom target kept nodes
  match ranges.drop kept with
  | [] => pure nodes
  | r :: rest =>
    let nodes := nodes.mapIdx fun i node =>
      if i == kept then { node with pending := some r } else node
    pure (nodes ++ rest.map fun r => { pending := some r })

def setForwards (members : CharRanges) : Build Ends := do
  let target ← newState 0
  let weave : Weave Nat := do
    let nodes ← (sequencesOf members).foldlM (addSequence target) [{}]
    let nodes ← closeFrom target 0 nodes
    match nodes with
    | root :: _ => stateOf root
    | [] => pure target
  let (start, _) ← weave.run {}
  pure ⟨start, target, false⟩

/-! ### Sets, read backwards -/

def suffixSlots : Nat := 1000

/-- Builds the states of one sequence from its first byte on, where those of a start that was built
before are used again. -/
def backwards (target : Nat) : List (Nat × Nat) → Weave Nat
  | [] => pure target
  | (a, b) :: rest => do
    let key := [target, a, b]
    match (← get).find? suffixSlots key with
    | some state => backwards state rest
    | none =>
      let state ← newState 0
      modify fun table => table.add suffixSlots key state
      backwards state rest

def setBackwards (members : CharRanges) : Build Ends := do
  let fork ← newState 0
  let target ← newState 0
  let weave : Weave Unit := (sequencesOf members).forM fun ranges => do
    let _ ← backwards target ranges
    grow branchSize
  let _ ← weave.run {}
  pure ⟨fork, target, false⟩

/-! ### Alternatives that are all texts -/

/-- Cuts a list of words at the empty ones. Those in front of all other words count once. -/
def chunksFrom (wordSeen cutSeen : Bool) (current : List (List Nat)) :
    List (List Nat) → List (List (List Nat))
  | [] => [current.reverse]
  | [] :: rest =>
    if !wordSeen && cutSeen then chunksFrom wordSeen cutSeen current rest
    else current.reverse :: chunksFrom wordSeen true [] rest
  | word :: rest => chunksFrom true cutSeen (word :: current) rest

def chunks (words : List (List Nat)) : List (List (List Nat)) := chunksFrom false false [] words

/-- The words by their first bytes, in ascending order of these, each without its first byte. -/
def byFirst (words : List (List Nat)) : List (List (List Nat)) :=
  let firsts := ((words.filterMap List.head?).mergeSort (fun a b => decide (a ≤ b))).eraseDups
  firsts.map fun first => (words.filter (·.head? == some first)).map (·.drop 1)

/-- The states that tell words apart by their bytes: first those behind a byte, then one for each
chunk, which leads to them, then one that branches to the chunks. -/
def wordStates (finish : Nat) : (fuel : Nat) → List (List Nat) → Build Nat
  | 0, _ => pure finish
  | fuel + 1, words => do
    let chunks := chunks words
    let mut branches := chunks.length - 1
    for chunk in chunks do
      let groups := byFirst chunk
      for group in groups do
        unless group.all List.isEmpty do
          let _ ← wordStates finish fuel group
      unless groups.isEmpty do
        branches := branches + 1
        let _ ← newState (if groups.length == 1 then 0 else transitionSize * groups.length)
    newState (branchSize * branches)

def wordChoice (words : List (List Nat)) : Build Ends := do
  let finish ← newState 0
  let longest := (words.map List.length).foldl max 0
  let start ← wordStates finish (longest + 1) words
  pure ⟨start, finish, false⟩

/-! ### Expressions -/

def bytesOf (text : List Char) : List Nat := text.flatMap fun c => utf8Bytes c.toNat

def text? : Expr → Option (List Char)
  | .literal text => some text
  | _ => none

def inRow : List (Build Ends) → Build Ends
  | [] => oneState 0
  | piece :: rest => do
    let mut row ← piece
    for piece in rest do
      let next ← piece
      link row
      row := { next with start := row.start }
    pure row

def branchAll : List (Build Ends) → Build Ends
  | [] => oneState 0
  | [piece] => piece
  | first :: second :: rest => do
    let a ← first
    let b ← second
    let fork ← newState 0
    let finish ← newState 0
    grow (2 * branchSize)
    link a
    link b
    for piece in rest do
      let e ← piece
      grow branchSize
      link e
    pure ⟨fork, finish, false⟩

/-- Transitions on bytes that all lead to one state. -/
def byteSet (ranges : Nat) : Build Ends := do
  let finish ← newState 0
  let start ← newState (transitionSize * ranges)
  pure ⟨start, finish, false⟩

/-- A part between the two marks of a group that captures. -/
def captured (piece : Build Ends) : Build Ends := do
  let start ← newState 0
  let inner ← piece
  let finish ← newState 0
  link inner
  pure ⟨start, finish, false⟩

mutual

/-- Builds the states of an expression. Groups capture nothing when the text is read backwards. -/
def compile (backward : Bool) : Expr → Build Ends
  | .empty | .look _ => oneState 0
  | .literal text => exactly (oneState 0) (bytesOf text).length
  | .set members =>
    if members.isAscii then byteSet members.ranges.size
    else if backward then setBackwards members
    else setForwards members
  | .repetition least most _ inner =>
    repetition (compile backward inner) (inner.leastLength.any (0 < ·)) least most
  | .capture inner => if backward then compile true inner else captured (compile false inner)
  | .concat parts =>
    let pieces := compileAll backward parts
    inRow (if backward then pieces.reverse else pieces)
  | .alternation branches =>
    match branches.mapM text? with
    | some texts =>
      wordChoice (texts.map fun text => if backward then (bytesOf text).reverse else bytesOf text)
    | none => branchAll (compileAll backward branches)

def compileAll (backward : Bool) : List Expr → List (Build Ends)
  | [] => []
  | e :: es => compile backward e :: compileAll backward es

end

/-- The whole automaton: what skips the text before a match, unless a match can only start where
the text starts, the expression and the state of a match. -/
def automaton (backward : Bool) (e : Expr) : Build Unit := do
  let anchored := if backward then e.endsText else e.startsText
  let front ← if anchored then oneState 0 else atLeast (byteSet 1) true 0
  let whole ← if backward then compile true e else captured (compile false e)
  let _ ← newState 0
  link whole
  link front

end Footprint

/-- Whether neither automaton of the expression takes too much memory. -/
def Expr.fits (e : Expr) : Bool :=
  ((Footprint.automaton false e).run {}).isSome && ((Footprint.automaton true e).run {}).isSome

end ComposeHarness.Regex
