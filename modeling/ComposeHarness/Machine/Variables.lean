import ComposeHarness.Dict
import ComposeHarness.Text.Octets

/-!
# Variables of scripts

A variable may have a value, may be passed on to programs, and may be protected from changes. It can
be known for one of the latter without having a value.
-/
namespace ComposeHarness.Machine

structure Variable where
  value : Option String := none
  exported : Bool := false
  readOnly : Bool := false
  deriving Repr, DecidableEq

abbrev Variables := Dict Variable

namespace Variables

/-- The value of a variable that has one. -/
def value? (vars : Variables) (name : String) : Option String :=
  (vars.get? name).bind Variable.value

def isReadOnly (vars : Variables) (name : String) : Bool :=
  (vars.get? name).any Variable.readOnly

/-- Changes a variable, which is made if it is not known. -/
def alter (vars : Variables) (name : String) (f : Variable → Variable) : Variables :=
  vars.insert name (f ((vars.get? name).getD {}))

def erase (vars : Variables) (name : String) : Variables :=
  .ofList (vars.entries.filter fun x => x.1 != name)

/-- Gives a variable a value. -/
def put (vars : Variables) (name value : String) : Variables :=
  alter vars name fun v => { v with value := some value }

/-- Puts back what was known of a variable. -/
def restore (vars : Variables) (name : String) : Option Variable → Variables
  | some v => vars.insert name v
  | none => erase vars name

/-- The number of places in the table by which variables are ordered for programs. -/
def places : Nat := 39

/-- The place of a variable in that table: its first byte counts sixteen times more. -/
def placeOf (name : String) : Nat :=
  (name.toList.foldl (fun n c => n + c.toNat) (16 * ((name.toList.head?).map Char.toNat).getD 0)) %
    places

/-- The variables that programs get, in the order in which they get them. -/
def environment (vars : Variables) : List (String × String) :=
  let passed := vars.entries.filterMap fun (name, v) =>
    if v.exported then v.value.map fun value => (name, value) else none
  passed.mergeSort fun a b => placeOf a.1 ≤ placeOf b.1

end Variables
end ComposeHarness.Machine
