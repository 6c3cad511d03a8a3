import LintConfig.OrderedMap
import LintConfig.Json.Printer
import LintConfig.Json.Document
import LintConfig.Severity
import LintConfig.Plugin.Manifest
import LintConfig.Configuration.Validation
import LintConfig.Schema.Violation
import LintConfig.Schema.Format
import LintConfig.Schema.Reference
import LintConfig.Builtin
import LintConfig.Command.Arguments
import LintConfig.Command.Listing
import LintConfig.Command.Outcome
import LintConfig.Command.Run
import LintConfig.Main
import LintConfig.Proofs.Double.Rounding
import LintConfig.Proofs.Double.Shortest
import LintConfig.Proofs.Double.Text
import LintConfig.Proofs.Json.Text
import LintConfig.Proofs.Rule.Resolution
import LintConfig.Proofs.Schema.Compiler
import LintConfig.Proofs.Configuration.Validation
import LintConfig.Proofs.Plugin.Identity
import LintConfig.Proofs.ConfigFile.Entries
import LintConfig.Proofs.ConfigFile.Registration
import LintConfig.Proofs.ConfigFile.Loading
import LintConfig.Proofs.Command.Source
import LintConfig.Proofs.Rule.PartialMatch
import LintConfig.Proofs.Rule.Explanation
import LintConfig.Proofs.Rule.Suggestion
import LintConfig.Proofs.Command.Check
import LintConfig.Proofs.Command.Dependence
import LintConfig.Proofs.Command.Lookup
import LintConfig.Proofs.Command.PrintedSchema
import LintConfig.Proofs.Plugin.Reading
import LintConfig.Proofs.Schema.Settled
import LintConfig.Proofs.Schema.Plain
import LintConfig.Proofs.Schema.Positional
import LintConfig.Proofs.FileTree
import LintConfig.Proofs.ConfigFile.Order
import LintConfig.Proofs.Toml.Scalar
import LintConfig.Proofs.Toml.Document
import LintConfig.Proofs.Preset
import LintConfig.Proofs.Command.Initialization
import LintConfig.Proofs.Rule.Shadowing
import LintConfig.Proofs.Rule.Display
import LintConfig.Proofs.Command.Listing
import LintConfig.Proofs.ConfigFile.Normalization
import LintConfig.Proofs.Severity
import LintConfig.Proofs.Command.Enabled
import LintConfig.Proofs.Configuration.WholeSchema
import LintConfig.Proofs.Schema.Bound
import LintConfig.Proofs.Command.OptionsLabel
import LintConfig.Proofs.Schema.CacheKey
import LintConfig.Proofs.Rule.Decomposition
import LintConfig.Proofs.Configuration.Assembly
