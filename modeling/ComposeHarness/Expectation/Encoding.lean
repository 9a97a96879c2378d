import ComposeHarness.Expectation.Decoding
import ComposeHarness.Json.Value

/-!
# Writing expectations

An expectation is written as an object with its stream, also where that is the usual one, and beside
it the name of its matcher with the text.
-/
namespace ComposeHarness

open Json (Value)

def Stream.encode (s : Stream) : Value := .text (some s.key)

/-- The member that a matcher is written as. -/
def Matcher.member (m : Matcher) : Json.Text × Value := (some m.key, .text (some m.operand))

def Matcher.encode (m : Matcher) : Value := .object [m.member]

def Expectation.encode (e : Expectation) : Value :=
  .object [(some "stream", e.stream.encode), e.matcher.member]

end ComposeHarness
