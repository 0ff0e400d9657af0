import ActionRehearsal.Analysis.Matrix
import ActionRehearsal.Analysis.Report
import ActionRehearsal.Analysis.Rule
import ActionRehearsal.Calendar.Basic
import ActionRehearsal.CommandLine.Arguments
import ActionRehearsal.CommandLine.Inspect
import ActionRehearsal.CommandLine.Lint
import ActionRehearsal.CommandLine.Outcome
import ActionRehearsal.CommandLine.Run
import ActionRehearsal.CommandLine.Simulate
import ActionRehearsal.CommandLine.Usage
import ActionRehearsal.Console
import ActionRehearsal.Definition.Basic
import ActionRehearsal.Definition.Fault
import ActionRehearsal.Definition.Library
import ActionRehearsal.Definition.Mapping
import ActionRehearsal.Definition.Reading
import ActionRehearsal.Entries
import ActionRehearsal.Files.Path
import ActionRehearsal.Files.System
import ActionRehearsal.Files.Tree
import ActionRehearsal.Guard
import ActionRehearsal.Main
import ActionRehearsal.Number.Binary64
import ActionRehearsal.Number.Numeral
import ActionRehearsal.Number.Shortest
import ActionRehearsal.Placeholder
import ActionRehearsal.Platform
import ActionRehearsal.Proofs.Definition.Refusal
import ActionRehearsal.Proofs.Definition.Requests
import ActionRehearsal.Proofs.Definition.Strict
import ActionRehearsal.Proofs.Guard
import ActionRehearsal.Proofs.Guard.Occurrence
import ActionRehearsal.Proofs.Guard.Dependence
import ActionRehearsal.Proofs.Influence
import ActionRehearsal.Proofs.Number.Numeral
import ActionRehearsal.Proofs.Placeholder
import ActionRehearsal.Proofs.Rehearsal.Commands
import ActionRehearsal.Proofs.Rehearsal.Frame
import ActionRehearsal.Proofs.Rehearsal.Isolation
import ActionRehearsal.Proofs.Rehearsal.Sequence
import ActionRehearsal.Proofs.Rehearsal.Session
import ActionRehearsal.Proofs.Rehearsal.Writing
import ActionRehearsal.Proofs.Schema.Check
import ActionRehearsal.Proofs.Substitution
import ActionRehearsal.Proofs.Text.Lines
import ActionRehearsal.Proofs.Text.Search
import ActionRehearsal.Proofs.Yaml.Flaw
import ActionRehearsal.Proofs.Yaml.NodeBreakdown
import ActionRehearsal.Proofs.Yaml.TokenBreakdown
import ActionRehearsal.Rehearsal.Dialect
import ActionRehearsal.Rehearsal.Mocks
import ActionRehearsal.Rehearsal.Run
import ActionRehearsal.Schema.Action
import ActionRehearsal.Schema.Check
import ActionRehearsal.Schema.Workflow
import ActionRehearsal.Script
import ActionRehearsal.Settings
import ActionRehearsal.Table
import ActionRehearsal.Text.Base64
import ActionRehearsal.Text.Blank
import ActionRehearsal.Text.Capital
import ActionRehearsal.Text.Digit
import ActionRehearsal.Text.Encoding
import ActionRehearsal.Text.Likeness
import ActionRehearsal.Text.Lines
import ActionRehearsal.Text.Lowercase
import ActionRehearsal.Text.Printable
import ActionRehearsal.Text.Quoted
import ActionRehearsal.Text.Search
import ActionRehearsal.Text.Utf8
import ActionRehearsal.Validation.Action
import ActionRehearsal.Validation.WorkflowInput
import ActionRehearsal.Value.Basic
import ActionRehearsal.Value.Display
import ActionRehearsal.Yaml.BlockScalar
import ActionRehearsal.Yaml.Cursor
import ActionRehearsal.Yaml.Fault
import ActionRehearsal.Yaml.Kind
import ActionRehearsal.Yaml.Layout
import ActionRehearsal.Yaml.Merge
import ActionRehearsal.Yaml.Node
import ActionRehearsal.Yaml.PlainScalar
import ActionRehearsal.Yaml.QuotedScalar
import ActionRehearsal.Yaml.Reading
import ActionRehearsal.Yaml.Scalar
import ActionRehearsal.Yaml.Token
import ActionRehearsal.Proofs.Definition.Rendering
import ActionRehearsal.Proofs.Analysis.Tokens
import ActionRehearsal.Proofs.CommandLine.Lint
import ActionRehearsal.Proofs.CommandLine.Outcome
import ActionRehearsal.Proofs.CommandLine.Results
import ActionRehearsal.Proofs.CommandLine.StandIns
import ActionRehearsal.Proofs.CommandLine.Writing
import ActionRehearsal.Proofs.CommandLine.Permissive
import ActionRehearsal.Proofs.Definition.JobMatrix
import ActionRehearsal.Proofs.Analysis.Matrix
import ActionRehearsal.Proofs.Analysis.Union
import ActionRehearsal.Proofs.Schema.Given
import ActionRehearsal.Proofs.Validation.Structure
import ActionRehearsal.Proofs.Schema.Alike
import ActionRehearsal.Proofs.Schema.Widening
import ActionRehearsal.Proofs.Definition.Widening
import ActionRehearsal.Proofs.Rehearsal.Probe
import ActionRehearsal.Proofs.Analysis.Scan
import ActionRehearsal.Proofs.Definition.Triggers
import ActionRehearsal.Proofs.Validation.WorkflowInput
import ActionRehearsal.Proofs.Rehearsal.Capture
import ActionRehearsal.Proofs.CommandLine.Pairs
import ActionRehearsal.Proofs.CommandLine.Inputs
import ActionRehearsal.Proofs.Definition.TextKeys
import ActionRehearsal.Proofs.Script
