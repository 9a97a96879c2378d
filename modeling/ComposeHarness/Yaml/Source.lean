import ComposeHarness.Data.Source
import ComposeHarness.Yaml.Scalar

/-!
# Reading records from YAML

How the nodes of a document answer to requests. Collections may be nested 128 deep. An empty plain
scalar counts as an empty list or map; a list is no record.
-/
namespace ComposeHarness.Yaml

/-- A node and how many more collections it may hold inside each other. -/
structure Cursor where
  room : Nat
  node : Node

namespace Document

/-- The content of a node. The fuel bounds the number of nested calls: each of them enters a
collection or follows an alias. -/
def follow (d : Document) : (fuel room : Nat) → Node → Except String Data.Content
  | 0, _, _ => .error "recursion limit exceeded"
  | fuel + 1, room, n =>
    match n with
    | .void => .error "nothing to read"
    | .scalar tag style text => scalarContent tag style text
    | .alias _ =>
      match d.resolve n with
      | .error e => .error e
      | .ok n => follow d fuel room n
    | .sequence tag items =>
      if (localTag? tag).isSome then .error "unexpected local tag"
      else
        match room with
        | 0 => .error "recursion limit exceeded"
        | room + 1 => .list <$> items.mapM (follow d fuel room)
    | .mapping tag pairs =>
      if (localTag? tag).isSome then .error "unexpected local tag"
      else
        match room with
        | 0 => .error "recursion limit exceeded"
        | room + 1 =>
          .map <$> pairs.mapM fun (k, v) => do
            let k ← follow d fuel room k
            let v ← follow d fuel room v
            .ok (k, v)

/-- The content of a node. Between two collections that are entered at most one alias is followed.
-/
def content (d : Document) (c : Cursor) : Except String Data.Content :=
  d.follow (2 * c.room + 2) c.room c.node

/-- A text is any scalar. -/
def text (d : Document) (c : Cursor) : Except String String := do
  match ← d.resolve c.node with
  | .scalar _ _ s => .ok s
  | _ => .error "not a text"

def bool (d : Document) (c : Cursor) : Except String Bool := do
  match ← d.resolve c.node with
  | .scalar tag style s =>
    if style = .plain || (style = .literal && tag = some (Tag.core "bool")) then
      match bool? s with
      | some b => .ok b
      | none => .error "not a truth value"
    else .error "not a truth value"
  | _ => .error "not a truth value"

def int (d : Document) (c : Cursor) : Except String Int := do
  match ← d.resolve c.node with
  | .scalar tag style s =>
    if style = .plain || (style = .literal && tag = some (Tag.core "int")) then
      match integer? s with
      | some n => .ok n
      | none => .error "not an integer"
    else .error "not an integer"
  | _ => .error "not an integer"

/-- Nothing for a plain null, also for an empty one. -/
def optional (d : Document) (c : Cursor) : Except String (Option Cursor) := do
  let n ← d.resolve c.node
  let c := { c with node := n }
  match n with
  | .void => .ok none
  | .scalar tag .plain s =>
    match tag with
    | none => .ok (if s.isEmpty || isNull s then none else some c)
    | some t =>
      if t = Tag.core "null" then if isNull s then .ok none else .error "not null"
      else .ok (some c)
  | _ => .ok (some c)

/-- An empty plain scalar, or an empty document. -/
def isNothing : Node → Bool
  | .void => true
  | .scalar _ .plain s => s.isEmpty
  | _ => false

def enter (c : Cursor) : Except String Nat :=
  match c.room with
  | 0 => .error "recursion limit exceeded"
  | room + 1 => .ok room

def list (d : Document) (c : Cursor) : Except String (List Cursor) := do
  let n ← d.resolve c.node
  match n with
  | .sequence _ items => do
    let room ← enter c
    .ok (items.map (Cursor.mk room))
  | _ => if isNothing n then .ok [] else .error "not a list"

def entries (d : Document) (c : Cursor) : Except String (List (Cursor × Cursor)) := do
  let n ← d.resolve c.node
  match n with
  | .mapping _ pairs => do
    let room ← enter c
    .ok (pairs.map fun (k, v) => (⟨room, k⟩, ⟨room, v⟩))
  | _ => if isNothing n then .ok [] else .error "not a map"

/-- What is inside of a node that may be a map or a list, which has no local tag then. -/
def members (d : Document) (c : Cursor) : Except String (Data.Members Cursor) := do
  let n ← d.resolve c.node
  match n with
  | .sequence tag items =>
    if (localTag? tag).isSome then .error "unexpected local tag"
    else
      let room ← enter c
      .ok (.items (items.map (Cursor.mk room)))
  | .mapping tag pairs =>
    if (localTag? tag).isSome then .error "unexpected local tag"
    else
      let room ← enter c
      .ok (.entries (pairs.map fun (k, v) => (⟨room, k⟩, ⟨room, v⟩)))
  | _ => .error "neither a map nor a list"

def key (d : Document) (c : Cursor) : Except String Data.Key := .name <$> d.text c

def record (d : Document) (c : Cursor) : Except String (Data.Shape Cursor) := do
  let pairs ← d.entries c
  let fields ← pairs.mapM fun (k, v) => do
    let key ← d.key k
    .ok (key, v)
  .ok (.named fields)

/-- A variant is a local tag on its value, or a scalar without one. -/
def variant (d : Document) (c : Cursor) : Except String (Data.Key × Option Cursor) := do
  let n ← d.resolve c.node
  let tagged (tag : Option Tag) : Option Data.Key := (localTag? tag).map .name
  let value := some { c with node := n }
  match n with
  | .scalar tag _ s =>
    match tagged tag with
    | some k => .ok (k, value)
    | none => .ok (.name s, none)
  | .sequence tag _ =>
    match tagged tag with
    | some k => .ok (k, value)
    | none => .error "not a variant"
  | .mapping tag _ =>
    match tagged tag with
    | some k => .ok (k, value)
    | none => .error "not a variant"
  | _ => .error "not a variant"

def isUnit (c : Cursor) : Bool :=
  match c.node with
  | .scalar _ .plain s => s.isEmpty || isNull s
  | _ => false

def source (d : Document) : Data.Source Cursor where
  text := d.text
  bool := d.bool
  int := d.int
  optional := d.optional
  list := d.list
  entries := d.entries
  key := d.key
  record := d.record
  variant := d.variant
  isUnit := isUnit
  members := d.members
  content := d.content
  allowsExcess := false

def cursor (d : Document) : Cursor := ⟨nestLimit, d.root⟩

end Document
end ComposeHarness.Yaml
