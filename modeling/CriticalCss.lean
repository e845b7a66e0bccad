import CriticalCss.Fault.Described
import CriticalCss.Log.Template
import CriticalCss.Main
import CriticalCss.Schedule
import CriticalCss.Proofs.Criticality
import CriticalCss.Proofs.Stylesheet.WellFormed
import CriticalCss.Proofs.Pruning.Survival
import CriticalCss.Proofs.Pruning.SurvivalLaw
import CriticalCss.Proofs.Schedule.Run
import CriticalCss.Proofs.Schedule.Refinement
import CriticalCss.Proofs.Pruning.Alike
import CriticalCss.Proofs.Schedule.Cancellation
import CriticalCss.Proofs.Numerals
import CriticalCss.Proofs.Keeping
import CriticalCss.Proofs.Browser.Session
import CriticalCss.Proofs.Browser.Lookup
import CriticalCss.Proofs.Extraction.Refinement
import CriticalCss.Proofs.Pruning.Measuring
import CriticalCss.Proofs.Browser.Ledger
import CriticalCss.Proofs.Extraction.Release
import CriticalCss.Proofs.Schedule.Cutoff
import CriticalCss.Proofs.Schedule.Completion
import CriticalCss.Proofs.Json.Documents
import CriticalCss.Proofs.Pruning.Remnants
import CriticalCss.Proofs.Pruning.Acceptance
import CriticalCss.Proofs.Browser.Navigation
import CriticalCss.Proofs.Browser.Movement
import CriticalCss.Proofs.Browser.Balance
import CriticalCss.Proofs.Extraction.Checks
import CriticalCss.Proofs.Extraction.Course
import CriticalCss.Proofs.Extraction.Balance
import CriticalCss.Proofs.Failing
import CriticalCss.Proofs.Pruning.Faults
import CriticalCss.Proofs.Extraction.Faults
import CriticalCss.Proofs.Extraction.Order
import CriticalCss.Proofs.Extraction.Noise
import CriticalCss.Proofs.CommandLine.Noise
import CriticalCss.Proofs.Number.Rounding
import CriticalCss.Proofs.Json.Numbers
import CriticalCss.Proofs.Json.RoundTrip
import CriticalCss.Proofs.Extraction.Kept
import CriticalCss.Proofs.CommandLine.Faults
import CriticalCss.Proofs.CommandLine.Contract
import CriticalCss.Proofs.Pruning.Handling
import CriticalCss.Proofs.Pruning.Stability
import CriticalCss.Proofs.Pruning.Monotonicity
import CriticalCss.Proofs.Conversation
import CriticalCss.Proofs.Pruning.Inquiry
import CriticalCss.Proofs.Extraction.Arrival
import CriticalCss.Proofs.Pruning.Refusals
import CriticalCss.Proofs.Selector.Deletion
import CriticalCss.Proofs.Selector.Pseudos
import CriticalCss.Proofs.Selector.Tokens
import CriticalCss.Proofs.Selector.Reduction
import CriticalCss.Proofs.Selector.Escaping
import CriticalCss.Proofs.Stylesheet.Violations
import CriticalCss.Proofs.Stylesheet.Output
import CriticalCss.Proofs.Stylesheet.Validation
import CriticalCss.Proofs.Json.Progress
import CriticalCss.Proofs.Stylesheet.Loading
import CriticalCss.Proofs.Extraction.Options
import CriticalCss.Proofs.Pattern.Reading
import CriticalCss.Proofs.Pattern.Problems
import CriticalCss.Proofs.Text.Span
import CriticalCss.Proofs.NetworkError
import CriticalCss.Proofs.Url.Host
import CriticalCss.Proofs.Browser.Launching
import CriticalCss.Proofs.Browser.Blame
import CriticalCss.Proofs.Diagnosis
import CriticalCss.Proofs.Url.Quoting
import CriticalCss.Proofs.Options.Entries
import CriticalCss.Proofs.Browser.Listing
import CriticalCss.Proofs.Browser.Installation
