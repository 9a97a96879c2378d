import ComposeHarness.Command.Capture
import ComposeHarness.Dict
import ComposeHarness.Failure
import ComposeHarness.Path
import ComposeHarness.Text.Quoted
import ComposeHarness.Timed

/-!
# The outside

Everything the library needs from outside itself: processes, HTTP, files, variables and
randomness. A host says what each of these operations does to a world `σ`; the library is written
over every host.
-/
namespace ComposeHarness

/-- A cause together with the path that it is about. -/
structure PathError where
  cause : SystemError
  path : Path
  deriving Repr, DecidableEq

def PathError.message (e : PathError) : String :=
  e.cause.message ++ " at path " ++ Text.quoted e.path.text

/-- A program to be started with its arguments, directory and additional variables. -/
structure Invocation where
  program : Path
  arguments : List String
  workingDir : Option Path
  env : Dict String
  deriving Repr, DecidableEq

/-- How a process ended. -/
inductive ExitStatus where
  | code (n : Int)
  | signal (n : Nat)
  deriving Repr, DecidableEq

/-- The exit code, if the process was not ended by a signal. -/
def ExitStatus.code? : ExitStatus → Option Int
  | .code n => some n
  | .signal _ => none

/-- A process that has ended, with the reads of its output in the order of their completion. -/
structure Completion where
  status : ExitStatus
  reads : List Command.Read
  deriving Repr, DecidableEq

/-- The answer to an HTTP request. -/
structure Response where
  status : Nat
  body : String
  deriving Repr, DecidableEq

/-- A computation that takes time and may fail. -/
abbrev Act (σ : Type) := ExceptT Failure (Timed σ)

namespace Act

variable {σ α β : Type}

/-- An outcome that takes no time. -/
def ofExcept (outcome : Except Failure α) : Act σ α := ExceptT.mk (pure outcome)

@[simp] theorem run_ofExcept (outcome : Except Failure α) :
    (ofExcept outcome : Act σ α).run = pure outcome := rfl

theorem ofExcept_bind (outcome : Except Failure α) (f : α → Except Failure β) :
    (ofExcept (outcome >>= f) : Act σ β) = ofExcept outcome >>= fun a => ofExcept (f a) := by
  apply ExceptT.ext
  cases outcome with
  | error failure =>
    simp only [ExceptT.run_bind, run_ofExcept, pure_bind]
    rfl
  | ok a =>
    simp only [ExceptT.run_bind, run_ofExcept, pure_bind]
    rfl

theorem ofExcept_map (f : α → β) (outcome : Except Failure α) :
    (ofExcept (outcome.map f) : Act σ β) = f <$> ofExcept outcome := by
  apply ExceptT.ext
  simp

theorem ofExcept_mapM (f : α → Except Failure β) (xs : List α) :
    (ofExcept (xs.mapM f) : Act σ (List β)) = xs.mapM fun x => ofExcept (f x) := by
  induction xs with
  | nil => rfl
  | cons x xs ih =>
    simp only [List.mapM_cons, ofExcept_bind, ih]
    rfl

theorem ofExcept_forM (f : α → Except Failure Unit) (xs : List α) :
    (ofExcept (xs.forM f) : Act σ Unit) = xs.forM fun x => ofExcept (f x) := by
  induction xs with
  | nil => rfl
  | cons x xs ih => simp only [List.forM, ofExcept_bind, ih]

/-- An outcome that depends on the world. -/
def inspect (f : σ → Except Failure α) : Act σ α := ExceptT.mk (f <$> Timed.get)

/-- A change of the world with an outcome. -/
def ofState (f : σ → Except Failure α × σ) : Act σ α := ExceptT.mk (Timed.ofState f)

end Act

structure Host (σ : Type) where
  /-- Starts a program and waits for its end. -/
  spawn : Invocation → Timed σ (Except SystemError Completion)
  /-- Requests a URL once. -/
  request : String → Timed σ (Except Failure Response)
  readText : Path → σ → Except SystemError String
  pathExists : Path → σ → Bool
  isFile : Path → σ → Bool
  /-- Looks an executable up by its name on the search path. -/
  search : String → σ → Except String Path
  /-- The absolute path without links that leads to the same place. -/
  canonical : Path → σ → Except SystemError Path
  /-- Makes a directory that did not exist before. -/
  makeStaging : σ → Except PathError Path × σ
  /-- Makes a link to `source` at `target`. -/
  link : (source target : Path) → σ → Except SystemError Unit × σ
  /-- Removes a directory with everything in it. -/
  removeTree : Path → σ → Except PathError Unit × σ
  lookupVariable : String → σ → Option String
  /-- The home directory of the account, for when no variable names one. -/
  accountHome : σ → Option Path
  /-- Thirty-two random bits. -/
  seed : σ → BitVec 32 × σ

end ComposeHarness
