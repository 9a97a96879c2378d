import ComposeHarness.Data.Source

/-!
# TOML values

The values of a document once its tables are put together. Of a number with a fraction and of a
point in time nothing is kept but that they are one.
-/
namespace ComposeHarness.Toml

inductive Value where
  | text (s : String)
  | int (n : Int)
  | float
  | bool (b : Bool)
  | moment
  | array (items : List Value)
  | table (entries : List (String × Value))
  deriving Repr, Inhabited

mutual

def content : Value → Data.Content
  | .text s => .text s
  | .int n => if 0 ≤ n then .natural n.toNat else .negative (-n).toNat
  | .float => .float
  | .bool b => .bool b
  | .moment => .map []
  | .array items => .list (contents items)
  | .table entries => .map (contentEntries entries)

def contents : List Value → List Data.Content
  | [] => []
  | v :: rest => content v :: contents rest

def contentEntries : List (String × Value) → List (Data.Content × Data.Content)
  | [] => []
  | (k, v) :: rest => (.text k, content v) :: contentEntries rest

end

/-- Values answer with what they hold. There is no null, so an optional value that is there is
one. A point in time passes for a record without fields, and what an array has beyond the fields
of a record is not looked at. -/
def source : Data.Source Value where
  text
    | .text s => .ok s
    | _ => .error "not a text"
  bool
    | .bool b => .ok b
    | _ => .error "not a truth value"
  int
    | .int n => .ok n
    | _ => .error "not an integer"
  optional v := .ok (some v)
  list
    | .array items => .ok items
    | _ => .error "not a list"
  entries
    | .table entries => .ok (entries.map fun (k, v) => (.text k, v))
    | _ => .error "not a map"
  key
    | .text s => .ok (.name s)
    | _ => .error "not a field name"
  record
    | .table entries => .ok (.named (entries.map fun (k, v) => (.name k, v)))
    | .array items => .ok (.positional items)
    | .moment => .ok (.named [])
    | _ => .error "not a record"
  variant
    | .text s => .ok (.name s, none)
    | .table [(k, v)] => .ok (.name k, some v)
    | _ => .error "not a variant"
  isUnit
    | .table [] => true
    | _ => false
  members
    | .table entries => .ok (.entries (entries.map fun (k, v) => (.text k, v)))
    | .array items => .ok (.items items)
    | _ => .error "neither a map nor a list"
  content v := .ok (content v)
  allowsExcess := true

end ComposeHarness.Toml
