import ComposeHarness.Scenario.Report
import ComposeHarness.Text.Blank

/-!
# Reports as text

One block for each scenario, with a line for each step, and a summary at the end. On a terminal
the text is coloured. A coloured part starts with the codes of its style and ends with a reset;
where the part itself holds a reset, the style is set again after it.
-/
namespace ComposeHarness.Report

inductive Colour where
  | red
  | green
  | yellow
  | blue
  | white
  deriving Repr, DecidableEq

/-- How a part of the text looks. -/
structure Style where
  colour : Option Colour := none
  bold : Bool := false
  dim : Bool := false
  deriving Repr, DecidableEq

namespace Style

def colourCode : Colour → String
  | .red => "31"
  | .green => "32"
  | .yellow => "33"
  | .blue => "34"
  | .white => "37"

/-- The codes that switch the style on. -/
def opening (s : Style) : String :=
  let codes := (if s.bold then ["1"] else []) ++ (if s.dim then ["2"] else []) ++
    (match s.colour with | some c => [colourCode c] | none => [])
  "\x1b[" ++ String.intercalate ";" codes ++ "m"

def reset : String := "\x1b[0m"

/-- Sets the style again after every reset inside the text. -/
def reopen (opening : List Char) : List Char → List Char
  | '\x1b' :: '[' :: '0' :: 'm' :: rest => "\x1b[0m".toList ++ opening ++ reopen opening rest
  | c :: rest => c :: reopen opening rest
  | [] => []

/-- Gives the text the style, if colours are on. -/
def apply (s : Style) (colours : Bool) (text : String) : String :=
  if colours then
    s.opening ++ String.ofList (reopen s.opening.toList text.toList) ++ reset
  else text

end Style

def bold (c : Colour) : Style := { colour := some c, bold := true }

def plain (c : Colour) : Style := { colour := some c }

def faint : Style := { dim := true }

/-- How a report is printed. -/
structure Format where
  verbose : Bool
  colours : Bool
  deriving Repr, DecidableEq

namespace Format

variable (f : Format)

def paint (s : Style) (text : String) : String := s.apply f.colours text

def stepLabel (r : StepReport) : String :=
  match r.kind with
  | .cleanup => r.name ++ " " ++ f.paint faint "[cleanup]"
  | .bestEffort => r.name ++ " " ++ f.paint faint "[best effort]"
  | .regular => r.name

/-- The lines of one step: its mark and name, then the lines of its message. -/
def stepLines (r : StepReport) : List String :=
  let label := f.stepLabel r
  match r.outcome with
  | .passed =>
    let first := "  " ++ f.paint (plain .green) "✓" ++ " " ++ label
    [if f.verbose then first ++ " " ++ f.paint faint r.duration.short else first]
  | .failed kind message =>
    ("  " ++ f.paint (plain .red) "✗" ++ " " ++ label ++ " " ++
        f.paint (plain .red) ("(" ++ kind.label ++ ")")) ::
      (Text.lines message).map (fun text => "      " ++ text)
  | .cleanupFailed message =>
    ("  " ++ f.paint (plain .yellow) "!" ++ " " ++ label ++ " " ++
        f.paint (plain .yellow) "(ignored)") ::
      (if f.verbose then
        (Text.lines message).map (fun text => "      " ++ f.paint faint text)
      else [])

def titleLines (r : ScenarioReport) : List String :=
  ["", f.paint (bold .blue) "Scenario:" ++ " " ++ f.paint (bold .white) r.name ++ " " ++
    f.paint faint ("(project " ++ r.project ++ ")")]

def verdictLine (r : ScenarioReport) : String :=
  let colour := if r.passed then Colour.green else .red
  let mark := if r.passed then "✓" else "✗"
  let verdict := if r.passed then "Passed" else "Failed"
  f.paint (bold colour) mark ++ " " ++ f.paint (bold colour) verdict ++ " " ++
    f.paint faint r.duration.short

def scenarioLines (r : ScenarioReport) : List String :=
  f.titleLines r ++ r.steps.flatMap f.stepLines ++ [f.verdictLine r]

def summary (r : SuiteReport) : String :=
  let total := r.scenarios.length
  toString total ++ " scenario" ++ (if total = 1 then "" else "s") ++ ": " ++
    toString r.passedCount ++ " passed, " ++ toString r.failedCount ++ " failed in " ++
    r.duration.short

def summaryLine (r : SuiteReport) : String :=
  f.paint (bold (if r.succeeded then .green else .red)) (summary r)

def suiteLines (r : SuiteReport) : List String :=
  r.scenarios.flatMap f.scenarioLines ++ ["", f.summaryLine r]

/-- The text of a suite's report, each line with a line feed after it. -/
def suiteText (r : SuiteReport) : String :=
  String.join ((f.suiteLines r).map (fun text => text ++ "\n"))

end Format
end ComposeHarness.Report
