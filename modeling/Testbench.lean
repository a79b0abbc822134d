import Testbench.Decimal.Read
import Testbench.Main
import Testbench.Session
import Testbench.Proofs.Description
import Testbench.Proofs.Filter
import Testbench.Proofs.Glob
import Testbench.Proofs.Runner.Transparency
import Testbench.Proofs.Runner.Leaves
import Testbench.Proofs.Runner.Brackets
import Testbench.Proofs.Runner.Plan
import Testbench.Proofs.Runner.Selection
import Testbench.Proofs.Runner.Conjunction
import Testbench.Proofs.Runner.Sifting
import Testbench.Proofs.Runner.Scenes
import Testbench.Proofs.Runner.Counts
import Testbench.Proofs.Notifier
import Testbench.Proofs.Operations
import Testbench.Proofs.Pending
import Testbench.Proofs.Files
import Testbench.Proofs.Json.Scalars
import Testbench.Proofs.Json.Blocks
import Testbench.Proofs.Json.Stable.Basic
import Testbench.Proofs.Json.Stable.Text
import Testbench.Proofs.Json.Stable.Number
import Testbench.Proofs.Json.Stable.Value
import Testbench.Proofs.Text.Quoted
import Testbench.Proofs.Log.Words
import Testbench.Proofs.Log.Fields
import Testbench.Proofs.Log.Lines
import Testbench.Proofs.CommandLine.Moves
import Testbench.Proofs.CommandLine.Pattern
import Testbench.Proofs.Results.Storage
import Testbench.Proofs.Results.Truncation
import Testbench.Proofs.Listeners.Results
import Testbench.Proofs.Listeners.Waiting
import Testbench.Proofs.Listeners.Records
import Testbench.Proofs.Listeners.Console
import Testbench.Proofs.Listeners.Alike
import Testbench.Proofs.Listeners.Order
import Testbench.Proofs.Stage
import Testbench.Proofs.Heard
import Testbench.Proofs.Untimed
import Testbench.Proofs.Listeners.Passed
import Testbench.Proofs.Listeners.Failed
import Testbench.Proofs.Console.Printed
import Testbench.Proofs.Harness.Selected
import Testbench.Proofs.Harness.Run
import Testbench.Proofs.Harness.FailFast
import Testbench.Proofs.Harness.Refusals
import Testbench.Proofs.Harness.Status
import Testbench.Proofs.Harness.Complement
import Testbench.Proofs.Harness.CatchAll
import Testbench.Proofs.Harness.Course
import Testbench.Proofs.Harness.Reports
import Testbench.Proofs.Harness.Listing
import Testbench.Proofs.Harness.Retimed
import Testbench.Proofs.Harness.Outputs
