import Nullability.Advice
import Nullability.CommandLine
import Nullability.Config.Edit
import Nullability.Config.File
import Nullability.Console
import Nullability.Json.Printer
import Nullability.Json.Reader
import Nullability.Ledger.Reader
import Nullability.Main
import Nullability.Registry
import Nullability.Source.Reader
import Nullability.Suggestion
import Nullability.Toml.Reader
import Nullability.Proofs.Path.Rendering
import Nullability.Proofs.Text.Lines
import Nullability.Proofs.Text.Numerals
import Nullability.Proofs.Json.Integers
import Nullability.Proofs.Disk.Effects
import Nullability.Proofs.Disk.Contents
import Nullability.Proofs.Disk.Sources
import Nullability.Proofs.Disk.Directories
import Nullability.Proofs.Ledger.Channel
import Nullability.Proofs.Ledger.Session
import Nullability.Proofs.Ledger.Framing
import Nullability.Proofs.Ledger.Reading
import Nullability.Proofs.Ledger.Delimited
import Nullability.Proofs.Ledger.Heading
import Nullability.Proofs.Json.RoundTrip
import Nullability.Proofs.Ledger.JsonLines
import Nullability.Proofs.Decision.Table
import Nullability.Proofs.Text.Trimming
import Nullability.Proofs.Config.WorkList
import Nullability.Proofs.Config.Setting
import Nullability.Proofs.Config.Reload
import Nullability.Proofs.Config.Editing
import Nullability.Proofs.Config.Loading
import Nullability.Proofs.Decision.Insertion
import Nullability.Proofs.Decision.Parameters
import Nullability.Proofs.Disk.Failures
import Nullability.Proofs.Ledger.Failures
import Nullability.Proofs.Ledger.Opening
import Nullability.Proofs.Ledger.Adding
import Nullability.Proofs.Source.Fields
import Nullability.Proofs.Ledger.Growth
import Nullability.Proofs.Exploration.Findings
import Nullability.Proofs.Exploration.Suggestions
import Nullability.Proofs.Exploration.Silence
import Nullability.Proofs.CommandLine.Requests
import Nullability.Proofs.CommandLine.Configuring
import Nullability.Proofs.Registry.Requests
import Nullability.Proofs.Registry.History
import Nullability.Proofs.Source.Loading
import Nullability.Proofs.Exploration.Scanning
import Nullability.Proofs.CommandLine.Exploring
import Nullability.Proofs.Config.Malformed
import Nullability.Proofs.Config.Scope
import Nullability.Proofs.Config.Discovery
import Nullability.Proofs.Config.LoadFailures
import Nullability.Proofs.Config.Gating
import Nullability.Proofs.Decision.Identity
import Nullability.Proofs.Source.Parameters
import Nullability.Proofs.Source.NullChecks
import Nullability.Proofs.Exploration.Resolution
import Nullability.Proofs.Source.Packages
import Nullability.Proofs.Source.Naming
import Nullability.Proofs.Marker.SimpleName
