import ComposeHarness.Failure
import ComposeHarness.Regex
import ComposeHarness.Text.Blank
import ComposeHarness.Text.Occurrence
import ComposeHarness.Text.Quoted

/-!
# Expectations on captured text

A matcher is a condition on a text; an expectation binds it to one of the streams of a command. A
matcher whose pattern does not compile holds of no text, and says why.
-/
namespace ComposeHarness

/-- Which captured text an expectation speaks of. -/
inductive Stream where
  | stdout
  | stderr
  | combined
  deriving Repr, DecidableEq

instance : Inhabited Stream := ⟨.combined⟩

def Stream.label : Stream → String
  | .stdout => "stdout"
  | .stderr => "stderr"
  | .combined => "combined output"

inductive Matcher where
  | contains (operand : String)
  | notContains (operand : String)
  /-- The texts are the same when blanks at their ends do not count. -/
  | equals (operand : String)
  | pattern (operand : String)
  deriving Repr, DecidableEq, Inhabited

namespace Matcher

def operand : Matcher → String
  | .contains s | .notContains s | .equals s | .pattern s => s

def withOperand (s : String) : Matcher → Matcher
  | .contains _ => .contains s
  | .notContains _ => .notContains s
  | .equals _ => .equals s
  | .pattern _ => .pattern s

/-- Why a pattern cannot be used. -/
def invalidPattern (pattern : String) (cause : RegexError) : String :=
  "invalid pattern /" ++ pattern ++ "/: " ++ cause.message

/-- Whether the text satisfies the matcher, or why that cannot be said. -/
def evaluate (m : Matcher) (text : String) : Except String Bool :=
  match m with
  | .contains s => .ok (Text.contains s text)
  | .notContains s => .ok (!Text.contains s text)
  | .equals s => .ok (Text.trimEnd text == Text.trimEnd s)
  | .pattern p =>
    match Regex.compile p with
    | .ok re => .ok (re.isMatch text)
    | .error cause => .error (invalidPattern p cause)

def describe : Matcher → String
  | .contains s => "contains " ++ Text.quoted s
  | .notContains s => "does not contain " ++ Text.quoted s
  | .equals s => "equals " ++ Text.quoted s
  | .pattern p => "matches /" ++ p ++ "/"

/-- Checks a text and names its subject in the failure. -/
def check (m : Matcher) (subject text : String) : Except Failure Unit :=
  match m.evaluate text with
  | .ok true => .ok ()
  | .ok false => .error (.expectation m.describe subject text)
  | .error reason => .error (.expectation (m.describe ++ " (" ++ reason ++ ")") subject text)

/-- Changes the operand, unless the change fails. -/
def mapOperand (f : String → Except Failure String) (m : Matcher) : Except Failure Matcher :=
  (f m.operand).map fun s => m.withOperand s

end Matcher

structure Expectation where
  stream : Stream
  matcher : Matcher
  deriving Repr, DecidableEq, Inhabited

namespace Expectation

def describe (e : Expectation) : String := e.stream.label ++ " " ++ e.matcher.describe

def mapOperand (f : String → Except Failure String) (e : Expectation) :
    Except Failure Expectation :=
  (e.matcher.mapOperand f).map fun m => { e with matcher := m }

end Expectation
end ComposeHarness
