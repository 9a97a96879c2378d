import ComposeHarness.Machine.Script.Basic
import ComposeHarness.Machine.Shell.Basic

/-!
# Redirections

A redirection lets a descriptor of a process lead to a file, to a text, to where another descriptor
leads, or nowhere.
-/
namespace ComposeHarness.Machine.Shell

open Run (update)

/-- A redirection whose target has been expanded. -/
structure Directed where
  descriptor : Nat
  direction : Direction
  /-- The name of a file or descriptor; for a text that is to be read, its parts. -/
  target : String ⊕ List Part

/-- Tells of a file that cannot be opened. -/
def cannot {α : Type} (creates : Bool) (name : String) (e : SystemError) : Run α :=
  fail ("cannot " ++ (if creates then "create " else "open ") ++ name ++ ": " ++
    if e = .noEntry || e = .notDirectory then
      if creates then "Directory nonexistent" else "No such file"
    else e.reason)

/-- Lets a descriptor lead to a file. -/
def connectFile (descriptor : Nat) (direction : Direction) (name : String) : Run Unit := do
  let p ← get
  let keeps := p.has 'C' && direction = .write false
  let mode : Process.Mode := match direction with
    | .write _ => .write keeps
    | .append => .append
    | .readWrite => .readWrite
    | _ => .read
  match p.openFile ⟨name⟩ mode with
  | .ok (c, p) => set (p.connect descriptor c)
  | .error e => cannot (mode ≠ .read && !(keeps && e = .isDirectory)) name e

/-- Lets a descriptor lead to a text. -/
def connectText (descriptor : Nat) (text : String) : Run Unit :=
  update fun p =>
    let (n, world) := p.world.addPipe { buffer := Text.Octets.bytes text, hasWriter := false }
    (p.withWorld world).connect descriptor (.pipeOutput n)

/-- The descriptor that a target names, or nothing for a dash. -/
def descriptorNamed (name : String) : Run (Option Nat) := do
  match name.toList with
  | ['-'] => return none
  | [c] => if c.isDigit then return some (c.toNat - '0'.toNat) else refuse
  | _ => refuse
where
  refuse : Run (Option Nat) := do
    update fun p => { p with line := p.reached }
    fail "Syntax error: Bad fd number"

/-- Lets a descriptor lead where another one leads. -/
def connectLike (descriptor : Nat) (name : String) : Run Unit := do
  match ← descriptorNamed name with
  | none => update (·.disconnect descriptor)
  | some source =>
    if source ≠ descriptor then
      match (← get).channel? source with
      | some c => update (·.connect descriptor c)
      | none =>
        update (·.disconnect descriptor)
        fail (toString source ++ ": Bad file descriptor")

end ComposeHarness.Machine.Shell
