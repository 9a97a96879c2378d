import ComposeHarness.Data.Source

/-!
# JSON values

A document as it is written: members keep their order and may repeat. A text with half a surrogate
pair and a number too large for a binary fraction are part of the grammar; they only fail when they
are read. Values that are read may be nested 127 deep.
-/
namespace ComposeHarness.Json

inductive Number where
  /-- An integer that 64 bits can hold, with or without a sign. -/
  | int (n : Int)
  | float
  | outOfRange
  deriving Repr, DecidableEq

/-- A text, or none if it has half a surrogate pair in it. -/
abbrev Text := Option String

inductive Value where
  | null
  | bool (b : Bool)
  | number (n : Number)
  | text (s : Text)
  | array (items : List Value)
  | object (members : List (Text × Value))
  deriving Repr, Inhabited

/-- A value and how many more values it may be nested into. -/
structure Cursor where
  room : Nat
  value : Value
  deriving Repr

def readText : Text → Except String String
  | some s => .ok s
  | none => .error "lone surrogate in a text"

mutual

/-- The value as content; `room` is how deep it may still be nested. -/
def content : (room : Nat) → Value → Except String Data.Content
  | _, .null => .ok .unit
  | _, .bool b => .ok (.bool b)
  | _, .number (.int n) => .ok (if 0 ≤ n then .natural n.toNat else .negative (-n).toNat)
  | _, .number .float => .ok .float
  | _, .number .outOfRange => .error "number out of range"
  | _, .text s => (readText s).map .text
  | 0, .array _ => .error "recursion limit exceeded"
  | room + 1, .array items => (contents room items).map .list
  | 0, .object _ => .error "recursion limit exceeded"
  | room + 1, .object members => (contentMembers room members).map .map

def contents : (room : Nat) → List Value → Except String (List Data.Content)
  | _, [] => .ok []
  | room, v :: rest => do
    let c ← content room v
    let cs ← contents room rest
    .ok (c :: cs)

def contentMembers : (room : Nat) → List (Text × Value) →
    Except String (List (Data.Content × Data.Content))
  | _, [] => .ok []
  | room, (k, v) :: rest => do
    let key ← readText k
    let c ← content room v
    let cs ← contentMembers room rest
    .ok ((.text key, c) :: cs)

end

/-- The values inside a container, one level deeper. -/
def enter {α : Type} (c : Cursor) (inner : Nat → α) : Except String α :=
  match c.room with
  | 0 => .error "recursion limit exceeded"
  | room + 1 => .ok (inner room)

def cursorMembers (room : Nat) (members : List (Text × Value)) :
    Except String (List (Data.Key × Cursor)) :=
  members.mapM fun (k, v) => do
    let key ← readText k
    .ok (.name key, ⟨room, v⟩)

/-- JSON values answer with what they hold; nothing is converted. -/
def source : Data.Source Cursor where
  text c :=
    match c.value with
    | .text s => readText s
    | _ => .error "not a text"
  bool c :=
    match c.value with
    | .bool b => .ok b
    | _ => .error "not a truth value"
  int c :=
    match c.value with
    | .number (.int n) => .ok n
    | _ => .error "not an integer"
  optional c :=
    match c.value with
    | .null => .ok none
    | _ => .ok (some c)
  list c :=
    match c.value with
    | .array items => enter c fun room => items.map (Cursor.mk room)
    | _ => .error "not a list"
  entries c :=
    match c.value with
    | .object members =>
      enter c fun room => members.map fun (k, v) => (⟨room, .text k⟩, ⟨room, v⟩)
    | _ => .error "not a map"
  key c :=
    match c.value with
    | .text s => (readText s).map .name
    | _ => .error "not a field name"
  record c :=
    match c.value with
    | .object members => do
      let room ← enter c id
      .named <$> cursorMembers room members
    | .array items => enter c fun room => .positional (items.map (Cursor.mk room))
    | _ => .error "not a record"
  variant c :=
    match c.value with
    | .text s => (readText s).map fun name => (.name name, none)
    | .object [(k, v)] => do
      let room ← enter c id
      let name ← readText k
      .ok (.name name, some ⟨room, v⟩)
    | _ => .error "not a variant"
  isUnit c :=
    match c.value with
    | .null => true
    | _ => false
  members c :=
    match c.value with
    | .object members =>
      enter c fun room => .entries (members.map fun (k, v) => (⟨room, .text k⟩, ⟨room, v⟩))
    | .array items => enter c fun room => .items (items.map (Cursor.mk room))
    | _ => .error "neither a map nor a list"
  content c := content c.room c.value
  allowsExcess := false

/-- How deep a document may be nested where it is read. -/
def nestLimit : Nat := 127

def root (v : Value) : Cursor := ⟨nestLimit, v⟩

end ComposeHarness.Json
