import ComposeHarness.Data.Content
import ComposeHarness.Dict

/-!
# Reading records

A source says how the values of a format answer to requests: as a text, a number, a list, the fields
of a record or the variant of a choice. The records of this library are read through these requests,
so that the same reading works for every format. A reading that fails says why.
-/
namespace ComposeHarness.Data

/-- How a field or variant is named: by its name, or by its position. -/
inductive Key where
  | name (s : String)
  | index (n : Nat)
  deriving Repr, DecidableEq

/-- The fields of a record: each with its key, or in the order of their declaration. -/
inductive Shape (ν : Type) where
  | named (fields : List (Key × ν))
  | positional (values : List ν)

/-- What is inside a value that may be a map or a list. -/
inductive Members (ν : Type) where
  | entries (pairs : List (ν × ν))
  | items (values : List ν)

/-- How the values of a format answer to requests. -/
structure Source (ν : Type) where
  text : ν → Except String String
  bool : ν → Except String Bool
  int : ν → Except String Int
  /-- Nothing for a null, the value itself for anything else. -/
  optional : ν → Except String (Option ν)
  list : ν → Except String (List ν)
  entries : ν → Except String (List (ν × ν))
  key : ν → Except String Key
  record : ν → Except String (Shape ν)
  /-- The variant of a choice and the value that comes with it. -/
  variant : ν → Except String (Key × Option ν)
  /-- Whether the value can stand beside a variant that has none. -/
  isUnit : ν → Bool
  members : ν → Except String (Members ν)
  content : ν → Except String Content
  /-- Whether a record that is written by position may have too many values. -/
  allowsExcess : Bool

/-- A record's values by the number of their field. -/
structure Record (ν : Type) where
  values : List (Option ν)
  positional : Bool

namespace Source

variable {ν α : Type} (src : Source ν)

/-! ### Records -/

/-- The number of the field with a key. A field may have several names. -/
def fieldIndex (fields : List (List String)) : Key → Option Nat
  | .name s => fields.findIdx? (fun names => names.contains s)
  | .index n => if n < fields.length then some n else none

/-- Puts the values of a record at the numbers of their fields. -/
def placeFields (fields : List (List String)) (strict : Bool) :
    List (Key × ν) → List (Option ν) → Except String (List (Option ν))
  | [], values => .ok values
  | (key, v) :: rest, values =>
    match fieldIndex fields key with
    | none => if strict then .error "unknown field" else placeFields fields strict rest values
    | some i =>
      match values[i]? with
      | some none => placeFields fields strict rest (values.set i (some v))
      | _ => .error "duplicate field"

/-- Reads the fields of a record, each with all its names. A strict record has no other fields. -/
def readRecord (fields : List (List String)) (strict : Bool) (v : ν) : Except String (Record ν) :=
  match src.record v with
  | .error e => .error e
  | .ok (.named entries) =>
    (placeFields fields strict entries (fields.map fun _ => none)).map fun values =>
      ⟨values, false⟩
  | .ok (.positional values) =>
    if fields.length < values.length && !src.allowsExcess then .error "too many values"
    else
      let present := (values.take fields.length).map some
      .ok ⟨present ++ List.replicate (fields.length - values.length) none, true⟩

end Source

namespace Record

variable {ν α : Type} (r : Record ν)

def value? (i : Nat) : Option ν := (r.values[i]?).join

/-- A field that must be there. -/
def required (read : ν → Except String α) (i : Nat) : Except String α :=
  match r.value? i with
  | some v => read v
  | none => .error "missing field"

/-- A field that has a value of its own when it is not there. -/
def withDefault (read : ν → Except String α) (standard : α) (i : Nat) : Except String α :=
  match r.value? i with
  | some v => read v
  | none => .ok standard

/-- A field that may be left out where fields have names. -/
def optional (read : ν → Except String (Option α)) (i : Nat) : Except String (Option α) :=
  match r.value? i with
  | some v => read v
  | none => if r.positional then .error "missing field" else .ok none

end Record

namespace Source

variable {ν α : Type} (src : Source ν)

/-! ### Values -/

def readOption (read : ν → Except String α) (v : ν) : Except String (Option α) := do
  match ← src.optional v with
  | none => .ok none
  | some w => some <$> read w

def readList (read : ν → Except String α) (v : ν) : Except String (List α) := do
  (← src.list v).mapM read

/-- A natural number below a bound. -/
def readNat (bound : Nat) (v : ν) : Except String Nat := do
  let n ← src.int v
  if 0 ≤ n ∧ n < bound then .ok n.toNat else .error "number out of range"

/-- An integer that fits into 32 bits with a sign. -/
def readInt32 (v : ν) : Except String Int := do
  let n ← src.int v
  if -Int.pow 2 31 ≤ n ∧ n < Int.pow 2 31 then .ok n else .error "number out of range"

/-- A dictionary; of two entries with one key the later counts. -/
def readDict (read : ν → Except String α) (v : ν) : Except String (Dict α) := do
  let entries ← src.entries v
  let pairs ← entries.mapM fun (k, w) => do
    let key ← src.text k
    let value ← read w
    .ok (key, value)
  .ok (Dict.ofList pairs)

/-- Takes the entries with one name out of those of a map and keeps the content of all others. -/
def splitEntries (name : String) : List (ν × ν) →
    Except String (List ν × List (Content × Content))
  | [] => .ok ([], [])
  | (k, v) :: rest => do
    match ← src.content k with
    | .text key =>
      if key = name then
        let (found, others) ← splitEntries name rest
        .ok (v :: found, others)
      else
        let c ← src.content v
        let (found, others) ← splitEntries name rest
        .ok (found, (.text key, c) :: others)
    | key =>
      let c ← src.content v
      let (found, others) ← splitEntries name rest
      .ok (found, (key, c) :: others)

/-- Splits a value into its member with a name and the content of all others. In a list that member
comes first. -/
def splitMember (name : String) (v : ν) : Except String (ν × Content) := do
  match ← src.members v with
  | .entries pairs =>
    match ← splitEntries src name pairs with
    | ([w], others) => .ok (w, .map others)
    | ([], _) => .error "missing field"
    | _ => .error "duplicate field"
  | .items [] => .error "missing field"
  | .items (w :: rest) => do .ok (w, .list (← rest.mapM src.content))

/-- The number of a variant among those of its choice. -/
def variantIndex (names : List String) : Key → Option Nat
  | .name s => names.findIdx? (· == s)
  | .index n => if n < names.length then some n else none

/-- A choice among variants without values. -/
def readUnitVariant (choices : List (String × α)) (v : ν) : Except String α := do
  let (key, payload) ← src.variant v
  if payload.all src.isUnit then
    match (variantIndex (choices.map (·.1)) key).bind (fun i => choices[i]?) with
    | some (_, a) => .ok a
    | none => .error "unknown variant"
  else .error "unexpected value"

/-- A choice among variants that each have a text. -/
def readTextVariant (choices : List (String × (String → α))) (v : ν) : Except String α := do
  let (key, payload) ← src.variant v
  match payload with
  | none => .error "missing value"
  | some w =>
    match (variantIndex (choices.map (·.1)) key).bind (fun i => choices[i]?) with
    | some (_, make) => make <$> src.text w
    | none => .error "unknown variant"

end Source

namespace Content

def key : Content → Except String Key
  | .text s => .ok (.name s)
  | .natural n => .ok (.index n)
  | _ => .error "not a field name"

def namedFields : List (Content × Content) → Except String (List (Key × Content))
  | [] => .ok []
  | (k, v) :: rest => do
    let key ← k.key
    let more ← namedFields rest
    .ok ((key, v) :: more)

/-- Content answers with what it holds and converts nothing. -/
def source : Source Content where
  text
    | .text s => .ok s
    | _ => .error "not a text"
  bool
    | .bool b => .ok b
    | _ => .error "not a truth value"
  int
    | .natural n => .ok n
    | .negative n => .ok (-(n : Int))
    | _ => .error "not an integer"
  optional
    | .unit => .ok none
    | c => .ok (some c)
  list
    | .list items => .ok items
    | _ => .error "not a list"
  entries
    | .map entries => .ok entries
    | _ => .error "not a map"
  key := key
  record
    | .map entries => (namedFields entries).map .named
    | .list items => .ok (.positional items)
    | _ => .error "not a record"
  variant
    | .text s => .ok (.name s, none)
    | .map [(k, v)] => (key k).map fun k => (k, some v)
    | _ => .error "not a variant"
  isUnit
    | .unit => true
    | .map [] => true
    | _ => false
  members
    | .map entries => .ok (.entries entries)
    | .list items => .ok (.items items)
    | _ => .error "neither a map nor a list"
  content := .ok
  allowsExcess := false

end Content
end ComposeHarness.Data
