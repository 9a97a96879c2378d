import ComposeHarness.Yaml.Token

/-!
# YAML documents

The tree of a document. Aliases stay in the tree; what they stand for is looked up in the document.
An anchor is numbered by how many names there were before it, so that an anchor that names something
anew may share its number with a later one; then the later counts.
-/
namespace ComposeHarness.Yaml

inductive Node where
  /-- An empty document. -/
  | void
  | scalar (tag : Option Tag) (style : Style) (text : String)
  | sequence (tag : Option Tag) (items : List Node)
  | mapping (tag : Option Tag) (pairs : List (Node × Node))
  | alias (number : Nat)
  deriving Repr, Inhabited

/-- A document: its root, what its aliases stand for, and how many events it has, counting scalars
and aliases once and collections twice. -/
structure Document where
  root : Node
  anchors : List (Nat × Node)
  events : Nat
  deriving Repr

namespace Document

/-- How deep collections may be nested, aliases followed. -/
def nestLimit : Nat := 128

/-- How often aliases may be followed for each event. -/
def aliasFactor : Nat := 100

/-- The node that an alias stands for; any other node stands for itself. -/
def resolve (d : Document) : Node → Except String Node
  | .alias number =>
    match d.anchors.lookup number with
    | some n => .ok n
    | none => .error "unresolved alias"
  | n => .ok n

/-- How many aliases may still be followed after a node has been read, if the number of them was
enough. Collections that are nested too deeply are not entered. The fuel bounds the number of nested
calls: each of them enters a collection or follows an alias. -/
def spend (d : Document) : (fuel room jumps : Nat) → Node → Option Nat
  | 0, _, jumps, _ => some jumps
  | fuel + 1, room, jumps, n =>
    match n with
    | .void | .scalar .. => some jumps
    | .alias _ =>
      match jumps, d.resolve n with
      | jumps + 1, .ok n => spend d fuel room jumps n
      | _, _ => none
    | .sequence _ items =>
      match room with
      | 0 => some jumps
      | room + 1 => items.foldlM (spend d fuel room) jumps
    | .mapping _ pairs =>
      match room with
      | 0 => some jumps
      | room + 1 =>
        pairs.foldlM (fun jumps pair => do
          let jumps ← spend d fuel room jumps pair.1
          spend d fuel room jumps pair.2) jumps

/-- Whether the document can be read without following aliases too often. -/
def isAffordable (d : Document) : Bool :=
  (d.spend (2 * nestLimit + 2) nestLimit (aliasFactor * d.events) d.root).isSome

end Document

/-- The state of the composition. `names` gives each anchor the number of its latest use; `anchored`
holds for each use of an anchor its rank, its number and its node. -/
structure Compose where
  tokens : List Token
  handles : List (String × Tag)
  names : List (String × Nat) := []
  anchored : List (Nat × Nat × Node) := []
  rank : Nat := 0
  events : Nat := 0

namespace Compose

def peek (s : Compose) : Option Token := s.tokens.head?

def skip (s : Compose) : Compose := { s with tokens := s.tokens.drop 1 }

def count (s : Compose) (n : Nat) : Compose := { s with events := s.events + n }

/-- Numbers a use of an anchor. -/
def declare (s : Compose) (name : String) : Nat × Nat × Compose :=
  let number := s.names.length
  let names := (name, number) :: s.names.filter (fun entry => entry.1 != name)
  (s.rank, number, { s with names, rank := s.rank + 1 })

/-- An anchor and a tag, in any order. -/
def properties (s : Compose) : Option String × Option (String × Tag) × Compose :=
  match s.tokens with
  | .anchor n :: .tag h t :: rest => (some n, some (h, t), { s with tokens := rest })
  | .anchor n :: rest => (some n, none, { s with tokens := rest })
  | .tag h t :: .anchor n :: rest => (some n, some (h, t), { s with tokens := rest })
  | .tag h t :: rest => (none, some (h, t), { s with tokens := rest })
  | _ => (none, none, s)

/-- The tag that a handle and a suffix stand for. -/
def resolveTag (s : Compose) : Option (String × Tag) → Except String (Option Tag)
  | none => .ok none
  | some (handle, suffix) =>
    if handle.isEmpty then .ok (some suffix)
    else
      match s.handles.lookup handle with
      | some start => .ok (some ⟨start.bytes ++ suffix.bytes⟩)
      | none => .error "found undefined tag handle"

/-- An empty scalar that nothing is written for. -/
def emptyNode (s : Compose) : Except String (Node × Compose) :=
  .ok (.scalar none .plain "", s.count 1)

/-- What may be read as a node. -/
structure Allowed where
  block : Bool
  indentless : Bool

mutual

/-- A node. Block collections are allowed outside of flow collections, and sequences that are not
indented as the values of mappings. -/
def node : (fuel : Nat) → Allowed → Compose → Except String (Node × Compose)
  | 0, _, _ => .error "document too long"
  | fuel + 1, allowed, s =>
    match s.peek with
    | some (.alias name) =>
      match s.names.lookup name with
      | some number => .ok (.alias number, s.skip.count 1)
      | none => .error "unknown anchor"
    | _ => do
      let (anchor, written, s) := s.properties
      let tag ← s.resolveTag written
      let (place, s) := match anchor with
        | some name =>
          let (rank, number, s) := s.declare name
          (some (rank, number), s)
        | none => (none, s)
      let (n, s) ← body fuel allowed (anchor.isSome || written.isSome) tag s
      match place with
      | some (rank, number) => .ok (n, { s with anchored := (rank, number, n) :: s.anchored })
      | none => .ok (n, s)

/-- A node after its anchor and tag. -/
def body : (fuel : Nat) → Allowed → (decorated : Bool) → Option Tag → Compose →
    Except String (Node × Compose)
  | 0, _, _, _, _ => .error "document too long"
  | fuel + 1, allowed, decorated, tag, s =>
    let tag := tag.filter (fun t => !t.isEmpty)
    match s.peek with
    | some .blockEntry =>
      if allowed.indentless then do
        let (items, s) ← indentlessItems fuel (s.count 2)
        .ok (.sequence tag items, s)
      else if decorated then .ok (.scalar tag .plain "", s.count 1)
      else .error "did not find expected node content"
    | some (.scalar text style) =>
      let tag := tag.filter (· != Tag.plain)
      .ok (.scalar tag style text, s.skip.count 1)
    | some .flowSequenceStart => do
      let (items, s) ← flowItems fuel true (s.skip.count 2)
      .ok (.sequence tag items, s)
    | some .flowMappingStart => do
      let (pairs, s) ← flowPairs fuel true (s.skip.count 2)
      .ok (.mapping tag pairs, s)
    | some .blockSequenceStart =>
      if allowed.block then do
        let (items, s) ← blockItems fuel (s.skip.count 2)
        .ok (.sequence tag items, s)
      else if decorated then .ok (.scalar tag .plain "", s.count 1)
      else .error "did not find expected node content"
    | some .blockMappingStart =>
      if allowed.block then do
        let (pairs, s) ← blockPairs fuel (s.skip.count 2)
        .ok (.mapping tag pairs, s)
      else if decorated then .ok (.scalar tag .plain "", s.count 1)
      else .error "did not find expected node content"
    | _ =>
      if decorated then .ok (.scalar tag .plain "", s.count 1)
      else .error "did not find expected node content"

/-- The items of a block sequence up to its end. -/
def blockItems : (fuel : Nat) → Compose → Except String (List Node × Compose)
  | 0, _ => .error "document too long"
  | fuel + 1, s =>
    match s.peek with
    | some .blockEntry => do
      let s := s.skip
      let (n, s) ← match s.peek with
        | some .blockEntry | some .blockEnd => emptyNode s
        | _ => node fuel ⟨true, false⟩ s
      let (rest, s) ← blockItems fuel s
      .ok (n :: rest, s)
    | some .blockEnd => .ok ([], s.skip)
    | _ => .error "did not find expected '-' indicator"

/-- The items of a sequence that is not indented more than its key. -/
def indentlessItems : (fuel : Nat) → Compose → Except String (List Node × Compose)
  | 0, _ => .error "document too long"
  | fuel + 1, s =>
    match s.peek with
    | some .blockEntry => do
      let s := s.skip
      let (n, s) ← match s.peek with
        | some .blockEntry | some .key | some .value | some .blockEnd => emptyNode s
        | _ => node fuel ⟨true, false⟩ s
      let (rest, s) ← indentlessItems fuel s
      .ok (n :: rest, s)
    | _ => .ok ([], s)

/-- The pairs of a block mapping up to its end. -/
def blockPairs : (fuel : Nat) → Compose → Except String (List (Node × Node) × Compose)
  | 0, _ => .error "document too long"
  | fuel + 1, s =>
    match s.peek with
    | some .key => do
      let s := s.skip
      let (k, s) ← match s.peek with
        | some .key | some .value | some .blockEnd => emptyNode s
        | _ => node fuel ⟨true, true⟩ s
      let (v, s) ← match s.peek with
        | some .value =>
          let s := s.skip
          match s.peek with
          | some .key | some .value | some .blockEnd => emptyNode s
          | _ => node fuel ⟨true, true⟩ s
        | _ => emptyNode s
      let (rest, s) ← blockPairs fuel s
      .ok ((k, v) :: rest, s)
    | some .blockEnd => .ok ([], s.skip)
    | _ => .error "did not find expected key"

/-- The items of a flow sequence up to its closing bracket. A key makes an item a mapping of one
pair. -/
def flowItems : (fuel : Nat) → (first : Bool) → Compose → Except String (List Node × Compose)
  | 0, _, _ => .error "document too long"
  | fuel + 1, first, s =>
    match s.peek with
    | some .flowSequenceEnd => .ok ([], s.skip)
    | t => do
      let s ← if first then .ok s
        else if t == some .flowEntry then .ok s.skip
        else .error "did not find expected ',' or ']'"
      match s.peek with
      | some .flowSequenceEnd => .ok ([], s.skip)
      | some .key => do
        let s := s.skip
        let (k, s) ← match s.peek with
          | some .value | some .flowEntry | some .flowSequenceEnd => emptyNode s.skip
          | _ => node fuel ⟨false, false⟩ s
        let (v, s) ← match s.peek with
          | some .value =>
            let s := s.skip
            match s.peek with
            | some .flowEntry | some .flowSequenceEnd => emptyNode s
            | _ => node fuel ⟨false, false⟩ s
          | _ => emptyNode s
        let (rest, s) ← flowItems fuel false (s.count 2)
        .ok (.mapping none [(k, v)] :: rest, s)
      | _ => do
        let (n, s) ← node fuel ⟨false, false⟩ s
        let (rest, s) ← flowItems fuel false s
        .ok (n :: rest, s)

/-- The pairs of a flow mapping up to its closing brace. -/
def flowPairs : (fuel : Nat) → (first : Bool) → Compose →
    Except String (List (Node × Node) × Compose)
  | 0, _, _ => .error "document too long"
  | fuel + 1, first, s =>
    match s.peek with
    | some .flowMappingEnd => .ok ([], s.skip)
    | t => do
      let s ← if first then .ok s
        else if t == some .flowEntry then .ok s.skip
        else .error "did not find expected ',' or '\x7d'"
      match s.peek with
      | some .flowMappingEnd => .ok ([], s.skip)
      | some .key => do
        let s := s.skip
        let (k, s) ← match s.peek with
          | some .value | some .flowEntry | some .flowMappingEnd => emptyNode s
          | _ => node fuel ⟨false, false⟩ s
        let (v, s) ← match s.peek with
          | some .value =>
            let s := s.skip
            match s.peek with
            | some .flowEntry | some .flowMappingEnd => emptyNode s
            | _ => node fuel ⟨false, false⟩ s
          | _ => emptyNode s
        let (rest, s) ← flowPairs fuel false s
        .ok ((k, v) :: rest, s)
      | _ => do
        let (k, s) ← node fuel ⟨false, false⟩ s
        let (v, s) ← emptyNode s
        let (rest, s) ← flowPairs fuel false s
        .ok ((k, v) :: rest, s)

end

/-- The handles that need no directive. -/
def standardHandles : List (String × Tag) := [("!", Tag.plain), ("!!", Tag.core "")]

/-- The directives before a document: at most one version, and each handle once. -/
def directives : (version : Bool) → List (String × Tag) → List Token →
    Except String (List (String × Tag) × List Token)
  | version, handles, .versionDirective major minor :: rest =>
    if version then .error "found duplicate %YAML directive"
    else if major != 1 || (minor != 1 && minor != 2) then .error "found incompatible YAML document"
    else directives true handles rest
  | version, handles, .tagDirective handle start :: rest =>
    if (handles.lookup handle).isSome then .error "found duplicate %TAG directive"
    else directives version ((handle, start) :: handles) rest
  | _, handles, tokens => .ok (handles, tokens)

/-- Opens a document: with its directives and its mark, or at once if it is the first. -/
def openDocument (tokens : List Token) : Except String (Bool × Compose) :=
  match tokens with
  | .versionDirective .. :: _ | .tagDirective .. :: _ | .documentStart :: _ => do
    let (handles, rest) ← directives false [] tokens
    match rest with
    | .documentStart :: rest =>
      .ok (true, { tokens := rest, handles := handles ++ standardHandles })
    | _ => .error "did not find expected <document start>"
  | _ => .ok (false, { tokens, handles := standardHandles })

/-- The root of a document. After a document's mark there may be nothing. -/
def root (marked : Bool) (s : Compose) : Except String (Node × Compose) :=
  match s.peek with
  | none | some .documentStart | some .documentEnd | some (.versionDirective ..)
  | some (.tagDirective ..) =>
    if marked then emptyNode s else .error "did not find expected node content"
  | _ => node (4 * s.tokens.length + 4) ⟨true, false⟩ s

/-- Of the uses of anchors with one number, the one with the greatest rank. -/
def anchors (s : Compose) : List (Nat × Node) :=
  ((s.anchored.mergeSort (fun a b => decide (b.1 ≤ a.1))).map (·.2))

end Compose

/-- Reads a text with at most one document. -/
def Document.parse (text : String) : Except String Document := do
  let tokens ← Token.scan text
  if tokens.isEmpty then .ok ⟨.void, [], 1⟩
  else
    let (marked, s) ← Compose.openDocument tokens
    let (root, s) ← s.root marked
    let d : Document := ⟨root, s.anchors, s.events⟩
    if !(s.tokens.dropWhile (· == .documentEnd)).isEmpty then .error "more than one document"
    else if d.isAffordable then .ok d
    else .error "repetition limit exceeded"

end ComposeHarness.Yaml
