import ComposeHarness.Proofs.Naming.Source
import ComposeHarness.Proofs.Suite.Verdict
import ComposeHarness.Proofs.Text.Pieces
import ComposeHarness.Report.Text
import ComposeHarness.Text.Digits

/-!
# Printed reports read back

A report without colours is read back from its text. Empty lines divide it into the blocks of the
scenarios and the summary, and a line that starts with two spaces and a mark is that of a step.
Messages cannot be taken for such lines, because they are indented further, and none of their lines
is empty for the same reason. So the text tells every step, every verdict and the totals, whatever
the messages say.
-/
namespace ComposeHarness.Report

open NamingScheme (not_mem_toDigits)

/-! ### Reading -/

/-- The line of a step: its mark, what follows the mark, and the lines under it. -/
structure StepReading where
  mark : Char
  text : String
  details : List String
  deriving Repr, DecidableEq

structure BlockReading where
  title : String
  /-- The marks of all lines of the block that have one. -/
  marks : List Char
  steps : List StepReading
  verdict : String
  deriving Repr, DecidableEq

structure SuiteReading where
  blocks : List BlockReading
  /-- The lines after the last block. -/
  summary : List String
  deriving Repr, DecidableEq

/-- The mark of a line that starts with two spaces and one, and what follows it. -/
def mark? (line : String) : Option (Char × String) :=
  match line.toList with
  | ' ' :: ' ' :: c :: rest =>
    if c = '✓' ∨ c = '✗' ∨ c = '!' then some (c, String.ofList rest) else none
  | _ => none

/-- The steps among lines; what stands under a step goes on until the next one. -/
def readSteps : List String → List StepReading
  | [] => []
  | line :: rest =>
    match mark? line with
    | some (mark, text) =>
      ⟨mark, text, rest.takeWhile fun below => (mark? below).isNone⟩ :: readSteps rest
    | none => readSteps rest

def readBlock (block : List String) : BlockReading :=
  { title := block.headD ""
    marks := block.filterMap fun line => (mark? line).map Prod.fst
    steps := readSteps block.dropLast
    verdict := block.getLastD "" }

/-- Each block starts with an empty line, and so does what comes after the last. -/
def readSuite (text : String) : SuiteReading :=
  let parts := ((Text.endedLines text).splitOn "").tail
  ⟨parts.dropLast.map readBlock, parts.getLastD []⟩

/-- The three numbers of a summary. -/
def readTotals (line : String) : Option (Nat × Nat × Nat) :=
  match line.toList.splitOn ' ' with
  | total :: _ :: passed :: _ :: failed :: _ => do
    return (← Text.numeral? 10 total, ← Text.numeral? 10 passed, ← Text.numeral? 10 failed)
  | _ => none

/-! ### What is to be read -/

def markOf : StepOutcome → Char
  | .passed => '✓'
  | .failed .. => '✗'
  | .cleanupFailed _ => '!'

/-- The lines that are shown of the message of a step: all of them if the step failed, and for a
cleanup only in a verbose report. -/
inductive Shows (verbose : Bool) : StepOutcome → List String → Prop where
  | passed : Shows verbose .passed []
  | failed {kind : FailureKind} {message : String} {lines : List String}
      (h : Text.IsLines message lines) : Shows verbose (.failed kind message) lines
  | ignored {message : String} {lines : List String} (on : verbose = true)
      (h : Text.IsLines message lines) : Shows verbose (.cleanupFailed message) lines
  | quiet {message : String} (off : verbose = false) : Shows verbose (.cleanupFailed message) []

/-- What follows the name of a step on its line. -/
def trailer (verbose : Bool) (r : StepReport) : String :=
  (match r.kind with
    | .cleanup => " [cleanup]"
    | .bestEffort => " [best effort]"
    | .regular => "") ++
  (match r.outcome with
    | .passed => if verbose then " " ++ r.duration.short else ""
    | .failed kind _ => " (" ++ kind.label ++ ")"
    | .cleanupFailed _ => " (ignored)")

/-- A step is read as it was reported: its mark is that of its outcome, its line has its name, and
under it stands its message, if it is shown. -/
structure StepReading.Tells (verbose : Bool) (r : StepReport) (x : StepReading) : Prop where
  mark : x.mark = markOf r.outcome
  text : x.text = " " ++ r.name ++ trailer verbose r
  details : ∃ lines, Shows verbose r.outcome lines ∧
    x.details = lines.map fun line => "      " ++ line

/-- A block is read as its scenario was reported. -/
structure BlockReading.Tells (verbose : Bool) (r : ScenarioReport) (b : BlockReading) : Prop where
  title : b.title = "Scenario: " ++ r.name ++ " (project " ++ r.project ++ ")"
  marks : b.marks = r.steps.map fun step => markOf step.outcome
  steps : List.Forall₂ (StepReading.Tells verbose) r.steps b.steps
  passed : "✓ Passed".toList <+: b.verdict.toList ↔ r.passed
  failed : "✗ Failed".toList <+: b.verdict.toList ↔ ¬r.passed

/-- A suite is read as it was reported: one block for each scenario in order, and a summary with
the totals. -/
structure SuiteReading.Tells (verbose : Bool) (r : SuiteReport) (x : SuiteReading) : Prop where
  blocks : List.Forall₂ (BlockReading.Tells verbose) r.scenarios x.blocks
  totals : ∃ line, x.summary = [line] ∧
    readTotals line = some (r.scenarios.length, r.passedCount, r.failedCount)
  sum : r.passedCount + r.failedCount = r.scenarios.length

/-! ### Lines without colours -/

/-- The message of a step, if it is shown. -/
def shown (verbose : Bool) : StepOutcome → List String
  | .passed => []
  | .failed _ message => Text.lines message
  | .cleanupFailed message => if verbose then Text.lines message else []

theorem shows_shown (verbose : Bool) (outcome : StepOutcome) :
    Shows verbose outcome (shown verbose outcome) := by
  cases outcome with
  | passed => exact .passed
  | failed kind message => exact .failed (Text.isLines_iff.2 rfl)
  | cleanupFailed message =>
    cases verbose with
    | false => exact .quiet rfl
    | true => exact .ignored rfl (Text.isLines_iff.2 rfl)

theorem Shows.lineFeed_not_mem {verbose : Bool} {outcome : StepOutcome} {lines : List String}
    (h : Shows verbose outcome lines) {line : String} (hline : line ∈ lines) :
    '\n' ∉ line.toList := by
  cases h with
  | passed | quiet => simp at hline
  | failed h | ignored _ h => exact h.lineFeed_not_mem hline

/-- The line of a step. -/
def headLine (verbose : Bool) (r : StepReport) : String :=
  String.ofList [' ', ' ', markOf r.outcome] ++ (" " ++ r.name ++ trailer verbose r)

/-- The line of a step, and its message further to the right. -/
theorem stepLines_eq (verbose : Bool) (r : StepReport) :
    (Format.mk verbose false).stepLines r =
      headLine verbose r :: (shown verbose r.outcome).map fun line => "      " ++ line := by
  obtain ⟨name, kind, outcome, duration⟩ := r
  cases outcome <;> cases kind <;> cases verbose <;>
    simp [Format.stepLines, Format.stepLabel, Format.paint, Style.apply, headLine, markOf, trailer,
      shown, ← String.toList_inj]

def title (r : ScenarioReport) : String :=
  "Scenario: " ++ r.name ++ " (project " ++ r.project ++ ")"

def verdict (r : ScenarioReport) : String :=
  (if r.passed then "✓ Passed " else "✗ Failed ") ++ r.duration.short

theorem titleLines_eq (verbose : Bool) (r : ScenarioReport) :
    (Format.mk verbose false).titleLines r = ["", title r] := by
  simp [Format.titleLines, Format.paint, Style.apply, title, ← String.toList_inj]

theorem verdictLine_eq (verbose : Bool) (r : ScenarioReport) :
    (Format.mk verbose false).verdictLine r = verdict r := by
  cases h : r.passed <;>
    simp [Format.verdictLine, Format.paint, Style.apply, verdict, h]

/-- The lines of a block after the empty one. -/
def blockLines (verbose : Bool) (r : ScenarioReport) : List String :=
  title r :: r.steps.flatMap (Format.mk verbose false).stepLines ++ [verdict r]

theorem scenarioLines_eq (verbose : Bool) (r : ScenarioReport) :
    (Format.mk verbose false).scenarioLines r = "" :: blockLines verbose r := by
  simp [Format.scenarioLines, blockLines, titleLines_eq, verdictLine_eq]

theorem suiteLines_eq (verbose : Bool) (r : SuiteReport) :
    (Format.mk verbose false).suiteLines r =
      r.scenarios.flatMap (fun s => "" :: blockLines verbose s) ++ ["", Format.summary r] := by
  have hlines : (Format.mk verbose false).scenarioLines = fun s => "" :: blockLines verbose s :=
    funext (scenarioLines_eq verbose)
  simp [Format.suiteLines, hlines, Format.summaryLine, Format.paint, Style.apply]

/-! ### Marks -/

theorem mark?_step (outcome : StepOutcome) (text : String) :
    mark? (String.ofList [' ', ' ', markOf outcome] ++ text) = some (markOf outcome, text) := by
  cases outcome <;> simp [mark?, markOf]

/-- A line of a message is indented too far for the line of a step. -/
theorem mark?_indented (line : String) : mark? ("      " ++ line) = none := by
  simp [mark?]

theorem mark?_title (r : ScenarioReport) : mark? (title r) = none := by
  simp [mark?, title]

theorem mark?_verdict (r : ScenarioReport) : mark? (verdict r) = none := by
  cases h : r.passed <;> simp [mark?, verdict, h]

/-! ### Steps -/

/-- What is to be read of a step. -/
def stepOf (verbose : Bool) (r : StepReport) : StepReading :=
  ⟨markOf r.outcome, " " ++ r.name ++ trailer verbose r,
    (shown verbose r.outcome).map fun line => "      " ++ line⟩

theorem mark?_headLine (verbose : Bool) (r : StepReport) :
    mark? (headLine verbose r) = some (markOf r.outcome, " " ++ r.name ++ trailer verbose r) :=
  mark?_step ..

theorem mark?_details {verbose : Bool} {r : StepReport} {line : String}
    (h : line ∈ (stepOf verbose r).details) : mark? line = none := by
  obtain ⟨text, -, rfl⟩ := List.mem_map.1 h
  exact mark?_indented text

/-- Lines without a mark are no steps. -/
theorem readSteps_append {below : List String} (h : ∀ line ∈ below, mark? line = none)
    (rest : List String) : readSteps (below ++ rest) = readSteps rest := by
  induction below with
  | nil => rfl
  | cons line below ih =>
    obtain ⟨hline, hbelow⟩ := List.forall_mem_cons.1 h
    rw [List.cons_append, readSteps, hline]
    exact ih hbelow

/-- What stands under a step ends where the next step starts. -/
theorem takeWhile_steps (verbose : Bool) (steps : List StepReport) :
    (steps.flatMap (Format.mk verbose false).stepLines).takeWhile
      (fun below => (mark? below).isNone) = [] := by
  cases steps with
  | nil => rfl
  | cons r steps => simp [stepLines_eq, mark?_headLine]

/-- The steps of a scenario are read one for one and in their order. -/
theorem readSteps_steps (verbose : Bool) (steps : List StepReport) :
    readSteps (steps.flatMap (Format.mk verbose false).stepLines) = steps.map (stepOf verbose) := by
  induction steps with
  | nil => rfl
  | cons r steps ih =>
    have hdetails : ∀ line ∈ (stepOf verbose r).details, mark? line = none :=
      fun _ => mark?_details
    have hunder : ∀ line ∈ (stepOf verbose r).details, (mark? line).isNone = true :=
      fun line hline => by simp [mark?_details hline]
    have hlines : (Format.mk verbose false).stepLines r =
        headLine verbose r :: (stepOf verbose r).details := stepLines_eq verbose r
    rw [List.flatMap_cons, hlines, List.cons_append, readSteps, mark?_headLine]
    dsimp only
    rw [readSteps_append hdetails, ih, List.takeWhile_append_of_pos hunder, takeWhile_steps,
      List.append_nil, List.map_cons]
    rfl

theorem marks_steps (verbose : Bool) (steps : List StepReport) :
    (steps.flatMap (Format.mk verbose false).stepLines).filterMap
      (fun line => (mark? line).map Prod.fst) = steps.map fun step => markOf step.outcome := by
  induction steps with
  | nil => rfl
  | cons r steps ih =>
    simp [stepLines_eq, mark?_headLine, mark?_indented, List.filterMap_map, ih]

/-! ### Blocks -/

theorem passed_verdict (r : ScenarioReport) :
    "✓ Passed".toList <+: (verdict r).toList ↔ r.passed := by
  cases h : r.passed <;> simp [verdict, h]

theorem failed_verdict (r : ScenarioReport) :
    "✗ Failed".toList <+: (verdict r).toList ↔ ¬r.passed := by
  cases h : r.passed <;> simp [verdict, h]

/-- A block tells its scenario. -/
theorem readBlock_tells (verbose : Bool) (r : ScenarioReport) :
    (readBlock (blockLines verbose r)).Tells verbose r := by
  have hverdict : (readBlock (blockLines verbose r)).verdict = verdict r := by
    change (blockLines verbose r).getLastD "" = verdict r
    rw [blockLines, List.getLastD_concat]
  have hsteps : (readBlock (blockLines verbose r)).steps = r.steps.map (stepOf verbose) := by
    have hlines : (blockLines verbose r).dropLast =
        title r :: r.steps.flatMap (Format.mk verbose false).stepLines := List.dropLast_concat
    simp only [readBlock, hlines, readSteps, mark?_title, readSteps_steps]
  exact {
    title := rfl
    marks := by
      simp only [readBlock, blockLines, List.filterMap_append, List.filterMap_cons, mark?_title,
        marks_steps, mark?_verdict, Option.map_none, List.filterMap_nil, List.append_nil]
    steps := by
      rw [hsteps, List.forall₂_map_right_iff, List.forall₂_same]
      exact fun step _ => ⟨rfl, rfl, _, shows_shown verbose step.outcome, rfl⟩
    passed := by rw [hverdict, passed_verdict]
    failed := by rw [hverdict, failed_verdict] }

/-! ### Lines and blocks of a text -/

/-- The names in a report have no line feed in them. -/
structure OneLined (r : SuiteReport) : Prop where
  name : ∀ s ∈ r.scenarios, '\n' ∉ s.name.toList
  project : ∀ s ∈ r.scenarios, '\n' ∉ s.project.toList
  step : ∀ s ∈ r.scenarios, ∀ step ∈ s.steps, '\n' ∉ step.name.toList

theorem lineFeed_not_mem_digits (width n : Nat) : '\n' ∉ Duration.digits width n := by
  induction width generalizing n with
  | zero => simp [Duration.digits]
  | succ width ih =>
    have hdigit : ∀ d < 10, '\n' ≠ Nat.digitChar d := by decide
    simp [Duration.digits, ih, hdigit (n % 10) (Nat.mod_lt n (by decide))]

theorem lineFeed_not_mem_short (d : Duration) : '\n' ∉ d.short.toList := by
  unfold Duration.short
  split <;> simp [not_mem_toDigits, lineFeed_not_mem_digits]

theorem lineFeed_not_mem_label (kind : FailureKind) : '\n' ∉ kind.label.toList := by
  cases kind <;> decide

theorem lineFeed_not_mem_trailer (verbose : Bool) (r : StepReport) :
    '\n' ∉ (trailer verbose r).toList := by
  obtain ⟨name, kind, outcome, duration⟩ := r
  cases kind <;> cases outcome <;> cases verbose <;>
    simp [trailer, lineFeed_not_mem_short, lineFeed_not_mem_label]

/-- A step with a name of one line is printed in lines that are not empty. -/
theorem stepLines_oneLined {verbose : Bool} {r : StepReport} (h : '\n' ∉ r.name.toList)
    {line : String} (hline : line ∈ (Format.mk verbose false).stepLines r) :
    '\n' ∉ line.toList ∧ line ≠ "" := by
  rw [stepLines_eq] at hline
  rcases List.mem_cons.1 hline with rfl | hline
  · have hmark : '\n' ≠ markOf r.outcome := by cases r.outcome <;> simp [markOf]
    refine ⟨by simp [headLine, h, hmark, lineFeed_not_mem_trailer], ?_⟩
    simp [headLine, ← String.toList_inj]
  · obtain ⟨text, htext, rfl⟩ := List.mem_map.1 hline
    refine ⟨by simp [(shows_shown verbose r.outcome).lineFeed_not_mem htext], ?_⟩
    simp [← String.toList_inj]

theorem blockLines_oneLined {verbose : Bool} {r : ScenarioReport} (hname : '\n' ∉ r.name.toList)
    (hproject : '\n' ∉ r.project.toList) (hsteps : ∀ step ∈ r.steps, '\n' ∉ step.name.toList)
    {line : String} (hline : line ∈ blockLines verbose r) : '\n' ∉ line.toList ∧ line ≠ "" := by
  simp only [blockLines, List.cons_append, List.mem_cons, List.mem_append, List.mem_flatMap,
    List.not_mem_nil, or_false] at hline
  rcases hline with rfl | ⟨step, hstep, hline⟩ | rfl
  · refine ⟨by simp [title, hname, hproject], ?_⟩
    simp [title, ← String.toList_inj]
  · exact stepLines_oneLined (hsteps step hstep) hline
  · refine ⟨?_, ?_⟩
    · cases h : r.passed <;> simp [verdict, h, lineFeed_not_mem_short]
    · cases h : r.passed <;> simp [verdict, h, ← String.toList_inj]

theorem lineFeed_not_mem_summary (r : SuiteReport) : '\n' ∉ (Format.summary r).toList := by
  have hplural : '\n' ∉ (if r.scenarios.length = 1 then "" else "s").toList := by
    split <;> decide
  simp [Format.summary, hplural, not_mem_toDigits, lineFeed_not_mem_short]

/-- Empty lines divide the printed lines into the blocks and the summary. -/
theorem splitOn_blocks {α : Type} {block : α → List String} {xs : List α}
    (h : ∀ x ∈ xs, "" ∉ block x) {before : List String} (hbefore : "" ∉ before)
    {last : String} (hlast : last ≠ "") :
    (before ++ (xs.flatMap (fun x => "" :: block x) ++ ["", last])).splitOn "" =
      before :: (xs.map block ++ [[last]]) := by
  induction xs generalizing before with
  | nil =>
    have hsingle : [last].splitOn "" = [[last]] :=
      List.splitOn_eq_singleton (by simpa using hlast.symm)
    simp only [List.flatMap_nil, List.nil_append, List.map_nil]
    rw [List.splitOn_append_cons_self_of_not_mem hbefore, hsingle]
  | cons x xs ih =>
    obtain ⟨hx, hxs⟩ := List.forall_mem_cons.1 h
    rw [List.flatMap_cons, List.cons_append, List.cons_append, List.append_assoc,
      List.splitOn_append_cons_self_of_not_mem hbefore, ih hxs hx]
    rfl

/-! ### Totals -/

theorem numeral?_toDigits (n : Nat) : Text.numeral? 10 (Nat.toDigits 10 n) = some n :=
  Text.numeral?_ten_eq_some_iff.2 ⟨Nat.toDigits_ne_nil,
    fun _ => Nat.isDigit_of_mem_toDigits (by decide) (by decide), Nat.ofDigitChars_ten_toDigits⟩

/-- The summary gives the totals. -/
theorem readTotals_summary (r : SuiteReport) :
    readTotals (Format.summary r) = some (r.scenarios.length, r.passedCount, r.failedCount) := by
  let plural := if r.scenarios.length = 1 then "" else "s"
  have htext : (Format.summary r).toList =
      Nat.toDigits 10 r.scenarios.length ++ ' ' :: (("scenario" ++ plural ++ ":").toList ++
        ' ' :: (Nat.toDigits 10 r.passedCount ++ ' ' :: ("passed,".toList ++
          ' ' :: (Nat.toDigits 10 r.failedCount ++
            ' ' :: ("failed in " ++ r.duration.short).toList)))) := by
    simp [Format.summary, plural]
  have hplural : ' ' ∉ ("scenario" ++ plural ++ ":").toList := by
    by_cases h : r.scenarios.length = 1 <;> simp [plural, h]
  have hdigits : ∀ n, ' ' ∉ Nat.toDigits 10 n := not_mem_toDigits (by decide)
  rw [readTotals, htext]
  simp only [List.splitOn_append_cons_self_of_not_mem (hdigits _),
    List.splitOn_append_cons_self_of_not_mem hplural,
    List.splitOn_append_cons_self_of_not_mem (show ' ' ∉ "passed,".toList by decide),
    numeral?_toDigits]
  rfl

/-- A report is read back from its text, whatever the messages say, as long as the names have no
line feed in them: there is one block for each scenario in order, and in it one line with a mark for
each step in order. Under a step that failed stands its message, under a cleanup that failed only in
a verbose report. The block ends with the verdict of the scenario, and the summary gives the number
of scenarios, of those that passed and of those that failed, which add up. -/
theorem suiteText_tells_report (verbose : Bool) {r : SuiteReport} (h : OneLined r) :
    (readSuite (Format.suiteText ⟨verbose, false⟩ r)).Tells verbose r := by
  have hblock : ∀ s ∈ r.scenarios, ∀ line ∈ blockLines verbose s,
      '\n' ∉ line.toList ∧ line ≠ "" := fun s hs _ =>
    blockLines_oneLined (h.name s hs) (h.project s hs) (h.step s hs)
  have hsummary : Format.summary r ≠ "" := by
    simp [Format.summary, ← String.toList_inj]
  have hlines : Text.endedLines (Format.suiteText ⟨verbose, false⟩ r) =
      r.scenarios.flatMap (fun s => "" :: blockLines verbose s) ++ ["", Format.summary r] := by
    rw [Format.suiteText, Text.endedLines_join, suiteLines_eq]
    intro line hline
    simp only [suiteLines_eq, List.mem_append, List.mem_flatMap, List.mem_cons,
      List.not_mem_nil, or_false] at hline
    rcases hline with ⟨s, hs, rfl | hline⟩ | rfl | rfl
    · simp
    · exact (hblock s hs line hline).1
    · simp
    · exact lineFeed_not_mem_summary r
  have hempty : ∀ s ∈ r.scenarios, "" ∉ blockLines verbose s :=
    fun s hs hline => (hblock s hs "" hline).2 rfl
  have hparts := splitOn_blocks hempty (List.not_mem_nil : "" ∉ []) hsummary
  have hread : readSuite (Format.suiteText ⟨verbose, false⟩ r) =
      ⟨r.scenarios.map fun s => readBlock (blockLines verbose s), [Format.summary r]⟩ := by
    rw [List.nil_append] at hparts
    simp [readSuite, hlines, hparts]
  rw [hread]
  exact {
    blocks := by
      rw [List.forall₂_map_right_iff, List.forall₂_same]
      exact fun s _ => readBlock_tells verbose s
    totals := ⟨_, rfl, readTotals_summary r⟩
    sum := r.passedCount_add_failedCount }

/-- A step whose message looks like the end of its block and the start of another one. -/
def forged : SuiteReport where
  scenarios := [{
    name := "up"
    project := "demo"
    steps := [
      ⟨"ps", .regular, .failed .command "exit 1\n  ✓ ps\n✓ Passed 0.1s\n\nScenario: down", .zero⟩,
      ⟨"down", .cleanup, .cleanupFailed "no such network", .zero⟩]
    duration := .ofSeconds 2 }]
  duration := .ofSeconds 2

theorem forged_suiteText_tells : OneLined forged ∧
    (readSuite (Format.suiteText ⟨false, false⟩ forged)).Tells false forged := by
  have h : OneLined forged := ⟨by decide, by decide, by decide⟩
  exact ⟨h, suiteText_tells_report false h⟩

end ComposeHarness.Report
