import ComposeHarness.Main
import ComposeHarness.Proofs.Scenario.Registration
import ComposeHarness.Proofs.Scenario.Watching
import ComposeHarness.Proofs.Scenario.RunningOrder
import ComposeHarness.Proofs.Poll.Deadline
import ComposeHarness.Proofs.Naming.Placeholder
import ComposeHarness.Proofs.Sequence
import ComposeHarness.Proofs.Naming.Division
import ComposeHarness.Proofs.Naming.Substitution
import ComposeHarness.Proofs.Naming.Slicing
import ComposeHarness.Proofs.Naming.Sharing
import ComposeHarness.Proofs.ScenarioFile.Expansion
import ComposeHarness.Proofs.Schedule.Slots
import ComposeHarness.Proofs.Suite.Isolation
import ComposeHarness.Proofs.Suite.Verdict
import ComposeHarness.Proofs.Poll.LongerTimeout
import ComposeHarness.Proofs.Command.Capture
import ComposeHarness.Proofs.ScenarioFile.Patterns
import ComposeHarness.Proofs.CommandLine.Course
import ComposeHarness.Proofs.Poll.Pacing
import ComposeHarness.Proofs.Poll.Conclusion
import ComposeHarness.Proofs.ScenarioFile.Literals
import ComposeHarness.Proofs.Data.Fields
import ComposeHarness.Proofs.ScenarioFile.PassedOver
import ComposeHarness.Proofs.ScenarioFile.StepCourse
import ComposeHarness.Proofs.Naming.Grammar
import ComposeHarness.Proofs.Naming.Source
import ComposeHarness.Proofs.Naming.Slug
import ComposeHarness.Proofs.ScenarioFile.Offences
import ComposeHarness.Proofs.ScenarioFile.Binding
import ComposeHarness.Proofs.CommandLine.Acceptance
import ComposeHarness.Proofs.Text.Letters
import ComposeHarness.Proofs.Command.Letters
import ComposeHarness.Expectation.Encoding
import ComposeHarness.Inspection.Encoding
import ComposeHarness.Proofs.Inspection.Conformity
import ComposeHarness.Proofs.Json.Grammar
import ComposeHarness.Proofs.Encoding
import ComposeHarness.Proofs.Command.Line
import ComposeHarness.Proofs.Report.Reading
import ComposeHarness.Proofs.Harness.Staging
