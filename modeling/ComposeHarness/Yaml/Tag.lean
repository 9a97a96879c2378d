import ComposeHarness.Text.Lossy

/-!
# YAML tags

A tag is a sequence of bytes, because the bytes that are written with percent signs need not make
characters. A tag that is made of characters and starts with an exclamation mark is local and names
a variant.
-/
namespace ComposeHarness.Yaml

structure Tag where
  bytes : Text.Bytes
  deriving Repr, DecidableEq

namespace Tag

def ofString (s : String) : Tag := ⟨Text.encode s⟩

/-- A tag of the core schema. -/
def core (name : String) : Tag := ofString ("tag:yaml.org,2002:" ++ name)

/-- The tag that asks for no particular reading. -/
def plain : Tag := ofString "!"

def isEmpty (t : Tag) : Bool := t.bytes.isEmpty

/-- Whether the tag starts with an exclamation mark. -/
def isLocal (t : Tag) : Bool := t.bytes.head? == some 0x21

/-- The name of a local tag, if it is made of characters. -/
def localName? (t : Tag) : Option String :=
  match t.bytes with
  | 0x21 :: name => Text.decodeStrict (if name.isEmpty then t.bytes else name)
  | _ => none

end Tag

/-- The name that a node's tag gives it, if it has a local one. -/
def localTag? (tag : Option Tag) : Option String := tag.bind Tag.localName?

end ComposeHarness.Yaml
