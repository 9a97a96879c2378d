import ComposeHarness.Regex.Footprint
import ComposeHarness.Regex.Matching
import ComposeHarness.Regex.Meaning
import ComposeHarness.Regex.Reading

/-!
# Compiled regular expressions

A text compiles if it reads as a pattern, the pattern has a meaning and the expression is not too
large.
-/
namespace ComposeHarness

inductive RegexError where
  | invalid (pattern cause : String)
  | tooBig
  deriving Repr, DecidableEq

def RegexError.message : RegexError → String
  | .invalid pattern cause => "regex parse error:\n    " ++ pattern ++ "\nerror: " ++ cause
  | .tooBig =>
    "Compiled regex exceeds size limit of " ++ toString Regex.sizeLimit ++ " bytes."

/-- A regular expression that is ready to be matched. -/
structure Regex where
  expr : Regex.Expr

namespace Regex

def compile (pattern : String) : Except RegexError Regex :=
  match Pattern.read pattern.toList with
  | .error cause => .error (.invalid pattern cause)
  | .ok p =>
    match Meaning.expr { } p with
    | .error cause => .error (.invalid pattern cause)
    | .ok (e, _) => if e.fits then .ok ⟨e⟩ else .error .tooBig

def isMatch (re : Regex) (text : String) : Bool := re.expr.isMatch text.toList

end Regex
end ComposeHarness
