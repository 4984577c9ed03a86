import SchemaLint.Command.World
import SchemaLint.Json.Reader
import SchemaLint.Main
import SchemaLint.Proofs.Catalog.Changes
import SchemaLint.Proofs.Command.Failures
import SchemaLint.Proofs.Command.Files
import SchemaLint.Proofs.Command.Verdict
import SchemaLint.Proofs.Lint.Append
import SchemaLint.Proofs.Lint.Fixes
import SchemaLint.Proofs.Lint.Knobs
import SchemaLint.Proofs.Lint.Reorder
import SchemaLint.Proofs.Lint.Severities
import SchemaLint.Proofs.Lint.Silence
import SchemaLint.Proofs.Lint.Unplaced
import SchemaLint.Proofs.Options.Canonical
import SchemaLint.Proofs.Report.Html
import SchemaLint.Proofs.Report.Lines
import SchemaLint.Proofs.Report.Records
import SchemaLint.Proofs.Report.Sarif
import SchemaLint.Proofs.Rule.Arguments
import SchemaLint.Proofs.Rule.Collections
import SchemaLint.Proofs.Rule.InputNames
import SchemaLint.Proofs.Rule.Plurality
import SchemaLint.Proofs.Rule.Positions
import SchemaLint.Proofs.Rule.Prefixes
import SchemaLint.Proofs.Rule.Redundancy
import SchemaLint.Proofs.Rule.Results
import SchemaLint.Proofs.Rule.RootOperations
import SchemaLint.Proofs.Rule.Usages
import SchemaLint.Proofs.Rule.Verbs
import SchemaLint.Proofs.Schema.FirstTold
import SchemaLint.Proofs.Schema.Merge
import SchemaLint.Proofs.Schema.Roots
import SchemaLint.Proofs.Suppression.Reach
import SchemaLint.Value.Json
