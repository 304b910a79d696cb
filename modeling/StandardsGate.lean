import StandardsGate.Main
import StandardsGate.Proofs.Diff.Collection
import StandardsGate.Proofs.Text.Lines
import StandardsGate.Proofs.Diff.Reading
import StandardsGate.Proofs.Diff.Rendering
import StandardsGate.Proofs.Diff.RoundTrip
import StandardsGate.Proofs.Diff.Names
import StandardsGate.Proofs.Diff.Joining
import StandardsGate.Proofs.Diff.Separation
import StandardsGate.Proofs.Host.Action
import StandardsGate.Proofs.Standards.Grouping
import StandardsGate.Proofs.Checker.Instantiation
import StandardsGate.Proofs.Run.Specification
import StandardsGate.Proofs.Diff.OnePass
import StandardsGate.Proofs.Diff.Slicing
import StandardsGate.Proofs.Standards.Partition
import StandardsGate.Proofs.Diff.AddedText
import StandardsGate.Proofs.Diff.Hunks
import StandardsGate.Proofs.Regex.Infix
import StandardsGate.Proofs.Regex.Successive
import StandardsGate.Proofs.Regex.Word
import StandardsGate.Proofs.Checker.Scanning
import StandardsGate.Proofs.Checker.Findings
import StandardsGate.Proofs.Lint.Correlation
import StandardsGate.Proofs.Host.Walking
import StandardsGate.Proofs.Host.Directories
import StandardsGate.Proofs.Lint.Staging
import StandardsGate.Proofs.Staging.Coherence
import StandardsGate.Proofs.Staging.Copies
import StandardsGate.Proofs.Staging.Cycles
import StandardsGate.Proofs.Staging.Entries
import StandardsGate.Proofs.Staging.Graph
import StandardsGate.Proofs.Staging.Meaning
import StandardsGate.Proofs.Staging.Running
import StandardsGate.Proofs.Staging.Termination
import StandardsGate.Proofs.Host.Places
import StandardsGate.Proofs.Host.Writing
import StandardsGate.Proofs.Text.Utf8
import StandardsGate.Proofs.Json.RoundTrip
import StandardsGate.Proofs.Json.Strings
import StandardsGate.Proofs.Json.Numbers
import StandardsGate.Proofs.Json.Reading
import StandardsGate.Proofs.Diff.Numbering
import StandardsGate.Proofs.Run.Sources
import StandardsGate.Proofs.Diff.Context
import StandardsGate.Proofs.Run.Composition
import StandardsGate.Proofs.Run.Inquiry
import StandardsGate.Proofs.Run.Banners
import StandardsGate.Proofs.Checker.Builtin
import StandardsGate.Proofs.Checker.Declarations
import StandardsGate.Proofs.Run.Configuration
import StandardsGate.Proofs.Host.Appending
import StandardsGate.Proofs.Host.Replacing
import StandardsGate.Proofs.Host.Temporary
import StandardsGate.Proofs.Host.Racing
import StandardsGate.Proofs.Host.Alone
import StandardsGate.Proofs.Event.Appending
import StandardsGate.Proofs.Event.Times
import StandardsGate.Proofs.Json.Compact
import StandardsGate.Proofs.Json.Grammar
import StandardsGate.Proofs.Json.Spelling
import StandardsGate.Proofs.Event.RoundTrip
import StandardsGate.Proofs.Event.Lines
import StandardsGate.Proofs.Event.Interleaving
import StandardsGate.Proofs.Run.Lockstep
import StandardsGate.Proofs.Run.Recording
import StandardsGate.Proofs.Checker.Unedited
import StandardsGate.Proofs.Checker.Naming
import StandardsGate.Proofs.Run.Locations
import StandardsGate.Proofs.Yaml.Reading
import StandardsGate.Proofs.Yaml.Alone
import StandardsGate.Proofs.Standards.Parts
import StandardsGate.Proofs.Standards.Agreement
import StandardsGate.Proofs.Standards.Unknown
import StandardsGate.Proofs.Standards.Validation
import StandardsGate.Proofs.Lint.Locating
import StandardsGate.Proofs.Lint.Options
import StandardsGate.Proofs.Lint.Reporting
import StandardsGate.Proofs.Host.Outcomes
import StandardsGate.Proofs.Staging.Lookup
import StandardsGate.Proofs.Staging.Own
import StandardsGate.Proofs.Staging.Twins
import StandardsGate.Proofs.Host.Failing
import StandardsGate.Proofs.Host.Unshared
import StandardsGate.Proofs.Checker.Delimited
import StandardsGate.Proofs.Diff.Gathering
import StandardsGate.Proofs.Glob.Literals
import StandardsGate.Proofs.Standards.Directories
import StandardsGate.Proofs.Lint.PrintedPaths
import StandardsGate.Proofs.Diff.Ranges
import StandardsGate.Proofs.Diff.Headings
import StandardsGate.Proofs.Text.Lossy
import StandardsGate.Proofs.Diff.RawLines
import StandardsGate.Proofs.Text.Tail
import StandardsGate.Proofs.Tool.Failure
