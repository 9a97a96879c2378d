import ComposeHarness.Toml.Value

/-!
# Putting tables together

Headers and dotted keys make tables on their way. A table may be opened by one header only, and
only dotted keys may add to a table that dotted keys have made. A header for an element of an
array of tables adds a table to the array; whatever leads through the array afterwards goes to its
last table.
-/
namespace ComposeHarness.Toml

/-- How a table has come to be. -/
inductive Origin where
  /-- By its own header or braces. -/
  | header
  /-- On the way of a header to another table. -/
  | implied
  /-- On the way of a dotted key. -/
  | dotted
  deriving Repr, DecidableEq

/-- What a key stands for while a document is put together. -/
inductive Node where
  | value (v : Value)
  | table (origin : Origin) (entries : List (String × Node))
  /-- An array of tables, the last one first. -/
  | tables (last : List (String × Node)) (earlier : List (List (String × Node)))
  deriving Inhabited

abbrev Entries := List (String × Node)

structure Table where
  origin : Origin
  entries : Entries

namespace Table

def empty (origin : Origin) : Table := ⟨origin, []⟩

/-- What a key stands for, and the entries with something else in its place. -/
def put (entries : Entries) (key : String) (node : Node) : Entries :=
  if entries.any (fun e => e.1 == key) then
    entries.map fun e => if e.1 == key then (key, node) else e
  else entries ++ [(key, node)]

/-- Changes the table that a path leads to. Tables that are missing on the way are made with the
given origin. A dotted key goes through tables without a header of their own only. -/
def within (made : Origin) (change : Table → Except String Table) :
    List String → Table → Except String Table
  | [], t => change t
  | key :: path, t =>
    let enter (inner : Table) (close : Table → Node) : Except String Table := do
      let inner ← within made change path inner
      .ok { t with entries := put t.entries key (close inner) }
    match t.entries.lookup key with
    | none => enter (empty made) fun inner => .table inner.origin inner.entries
    | some (.value _) => .error "a value cannot be extended"
    | some (.table origin entries) =>
      if made = .dotted ∧ origin = .header then .error "duplicate key"
      else enter ⟨origin, entries⟩ fun inner => .table inner.origin inner.entries
    | some (.tables last earlier) =>
      enter ⟨.header, last⟩ fun inner => .tables inner.entries earlier

/-- A key and its value. A dotted key adds to tables of dotted keys only. -/
def assign (key : List String) (v : Value) (t : Table) : Except String Table :=
  match key.getLast? with
  | none => .error "empty key"
  | some name =>
    within .dotted (fun inner =>
      if inner.origin = .dotted ↔ key.length = 1 then .error "duplicate key"
      else if (inner.entries.lookup name).isSome then .error "duplicate key"
      else .ok { inner with entries := put inner.entries name (.value v) }) key.dropLast t

/-- The header of a table. -/
def openTable (path : List String) (t : Table) : Except String Table :=
  match path.getLast? with
  | none => .error "empty key"
  | some name =>
    within .implied (fun parent =>
      match parent.entries.lookup name with
      | none => .ok { parent with entries := put parent.entries name (.table .header []) }
      | some (.table .implied entries) =>
        .ok { parent with entries := put parent.entries name (.table .header entries) }
      | some _ => .error "duplicate key") path.dropLast t

/-- The header of a further table of an array. -/
def openElement (path : List String) (t : Table) : Except String Table :=
  match path.getLast? with
  | none => .error "empty key"
  | some name =>
    within .implied (fun parent =>
      match parent.entries.lookup name with
      | none => .ok { parent with entries := put parent.entries name (.tables [] []) }
      | some (.tables last earlier) =>
        .ok { parent with entries := put parent.entries name (.tables [] (last :: earlier)) }
      | some _ => .error "duplicate key") path.dropLast t

mutual

def nodeValue : Node → Value
  | .value v => v
  | .table _ entries => .table (entryValues entries)
  | .tables last earlier => .array (tableValues earlier [.table (entryValues last)])

def entryValues : Entries → List (String × Value)
  | [] => []
  | (k, n) :: rest => (k, nodeValue n) :: entryValues rest

def tableValues : List Entries → List Value → List Value
  | [], later => later
  | t :: earlier, later => tableValues earlier (.table (entryValues t) :: later)

end

def toValue (t : Table) : Value := .table (entryValues t.entries)

/-- A table from its keys and values alone. -/
def ofPairs (pairs : List (List String × Value)) : Except String Table :=
  pairs.foldlM (fun t (key, v) => assign key v t) (empty .header)

end Table

/-- What a line of a document says. -/
inductive Statement where
  | assign (key : List String) (v : Value)
  | openTable (path : List String)
  | openElement (path : List String)
  deriving Inhabited

/-- The document that its statements make: a header holds for the keys until the next one. -/
def tableFrom : (header : List String) → List Statement → Table → Except String Table
  | _, [], t => .ok t
  | header, .assign key v :: rest, t => do
    let t ← Table.within .implied (Table.assign key v) header t
    tableFrom header rest t
  | _, .openTable path :: rest, t => do
    let t ← t.openTable path
    tableFrom path rest t
  | _, .openElement path :: rest, t => do
    let t ← t.openElement path
    tableFrom path rest t

def tableOf (statements : List Statement) : Except String Table :=
  tableFrom [] statements (Table.empty .header)

end ComposeHarness.Toml
