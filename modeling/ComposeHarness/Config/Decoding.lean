import ComposeHarness.Config.Basic
import ComposeHarness.Toml.Reading

/-!
# Reading configurations

A configuration is a TOML document with a table for each of its parts. Everything may be left out.
-/
namespace ComposeHarness

open Data (Source)

/-- A number of 64 bits without a sign. -/
def readWord {ν : Type} (src : Source ν) : ν → Except String Nat := src.readNat (Nat.pow 2 64)

def readPath {ν : Type} (src : Source ν) (v : ν) : Except String Path := Path.mk <$> src.text v

/-- A text of exactly one character. -/
def readChar {ν : Type} (src : Source ν) (v : ν) : Except String Char := do
  match (← src.text v).toList with
  | [c] => .ok c
  | _ => .error "not a single character"

namespace BinaryConfig

def fields : List (List String) :=
  [["name"], ["dir"], ["build_command"], ["build_dir"], ["build_output"]]

def decode {ν : Type} (src : Source ν) (v : ν) : Except String BinaryConfig := do
  let r ← src.readRecord fields false v
  let name ← r.withDefault src.text ({} : BinaryConfig).name 0
  let dir ← r.optional (src.readOption (readPath src)) 1
  let buildCommand ← r.withDefault (src.readList src.text) [] 2
  let buildDir ← r.optional (src.readOption (readPath src)) 3
  let buildOutput ← r.optional (src.readOption (readPath src)) 4
  .ok { name, dir, buildCommand, buildDir, buildOutput }

end BinaryConfig

namespace Config

def decodePoll {ν : Type} (src : Source ν) (v : ν) : Except String PollSpec := do
  let r ← src.readRecord [["interval_ms"], ["timeout_secs"]] false v
  let interval ← r.withDefault (readWord src) PollSpec.standard.interval.millis 0
  let timeout ← r.withDefault (readWord src) PollSpec.standard.timeout.seconds 1
  .ok ⟨.ofMillis interval, .ofSeconds timeout⟩

def decodeSuite {ν : Type} (src : Source ν) (v : ν) : Except String Nat := do
  let r ← src.readRecord [["max_parallel"]] false v
  r.withDefault (readWord src) 0 0

def decodeNaming {ν : Type} (src : Source ν) (v : ν) : Except String NamingScheme := do
  let r ← src.readRecord [["separator"]] false v
  let separator ← r.withDefault (readChar src) NamingScheme.standard.separator 0
  .ok ⟨separator⟩

def decode {ν : Type} (src : Source ν) (v : ν) : Except String Config := do
  let r ← src.readRecord [["binary"], ["poll"], ["suite"], ["naming"]] false v
  let binary ← r.withDefault (BinaryConfig.decode src) {} 0
  let poll ← r.withDefault (decodePoll src) .standard 1
  let maxParallel ← r.withDefault (decodeSuite src) 0 2
  let naming ← r.withDefault (decodeNaming src) .standard 3
  .ok { binary, poll, maxParallel, naming }

/-- Reads the text of a configuration file. -/
def parse (text : String) : Except Failure Config :=
  match Toml.parse text >>= decode Toml.source with
  | .ok config => .ok config
  | .error reason => .error (.configSyntax ("TOML parse error: " ++ reason))

end Config
end ComposeHarness
