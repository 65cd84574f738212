import ResourceScaffold.Apply
import ResourceScaffold.Association
import ResourceScaffold.CommandLine.Arguments
import ResourceScaffold.CommandLine.Help
import ResourceScaffold.CommandLine.Options
import ResourceScaffold.Diff.Bisection
import ResourceScaffold.Diff.Compaction
import ResourceScaffold.Diff.Hunk
import ResourceScaffold.Diff.SameTexts
import ResourceScaffold.Diff.Script
import ResourceScaffold.Diff.Unified
import ResourceScaffold.Display
import ResourceScaffold.Event
import ResourceScaffold.Execution
import ResourceScaffold.Failure
import ResourceScaffold.FileTree.Access
import ResourceScaffold.FileTree.Basic
import ResourceScaffold.FileTree.Fault
import ResourceScaffold.FileTree.Relocation
import ResourceScaffold.Generator
import ResourceScaffold.Layer
import ResourceScaffold.Log.Filter
import ResourceScaffold.Log.Line
import ResourceScaffold.Main
import ResourceScaffold.Moment
import ResourceScaffold.Name
import ResourceScaffold.Number.Binary64
import ResourceScaffold.Number.Decimal
import ResourceScaffold.Number.Numeral
import ResourceScaffold.Number.Spelled
import ResourceScaffold.Overrides
import ResourceScaffold.Path
import ResourceScaffold.Plan
import ResourceScaffold.Policy
import ResourceScaffold.Program
import ResourceScaffold.Proofs.Action
import ResourceScaffold.Proofs.Apply.Account
import ResourceScaffold.Proofs.Apply.Aggregator
import ResourceScaffold.Proofs.Apply.Backup
import ResourceScaffold.Proofs.Apply.Confinement
import ResourceScaffold.Proofs.Apply.Halt
import ResourceScaffold.Proofs.Apply.Journal
import ResourceScaffold.Proofs.Apply.Outcome
import ResourceScaffold.Proofs.Apply.Preserved
import ResourceScaffold.Proofs.Apply.Replay
import ResourceScaffold.Proofs.Apply.Run
import ResourceScaffold.Proofs.Apply.Step
import ResourceScaffold.Proofs.Apply.Targets
import ResourceScaffold.Proofs.Apply.Task
import ResourceScaffold.Proofs.Diff.Applying
import ResourceScaffold.Proofs.Diff.Difference
import ResourceScaffold.Proofs.Diff.Hunks
import ResourceScaffold.Proofs.Diff.Patch
import ResourceScaffold.Proofs.Diff.Reading
import ResourceScaffold.Proofs.Diff.Regions
import ResourceScaffold.Proofs.Diff.Settling
import ResourceScaffold.Proofs.Execution.Consent
import ResourceScaffold.Proofs.Execution.DryRun
import ResourceScaffold.Proofs.Execution.Untouched
import ResourceScaffold.Proofs.Execution.Verification
import ResourceScaffold.Proofs.FileTree.Additions
import ResourceScaffold.Proofs.FileTree.Contents
import ResourceScaffold.Proofs.FileTree.Entering
import ResourceScaffold.Proofs.FileTree.Frame
import ResourceScaffold.Proofs.FileTree.Landing
import ResourceScaffold.Proofs.FileTree.Outside
import ResourceScaffold.Proofs.FileTree.Place
import ResourceScaffold.Proofs.FileTree.Rooted
import ResourceScaffold.Proofs.FileTree.Writing
import ResourceScaffold.Proofs.Generator.Collision
import ResourceScaffold.Proofs.Generator.Confinement
import ResourceScaffold.Proofs.Generator.Contents
import ResourceScaffold.Proofs.Generator.FileNames
import ResourceScaffold.Proofs.Generator.Imports
import ResourceScaffold.Proofs.Generator.Layers
import ResourceScaffold.Proofs.Generator.Overrides
import ResourceScaffold.Proofs.Generator.Statements
import ResourceScaffold.Proofs.Generator.Texts
import ResourceScaffold.Proofs.Name.CamelWord
import ResourceScaffold.Proofs.Name.Forms
import ResourceScaffold.Proofs.Name.Segment
import ResourceScaffold.Proofs.Path.Descent
import ResourceScaffold.Proofs.Path.Lexical
import ResourceScaffold.Proofs.Path.Names
import ResourceScaffold.Proofs.Runs.Interleaved
import ResourceScaffold.Proofs.Runs.Keeping
import ResourceScaffold.Proofs.Runs.Repeated
import ResourceScaffold.Proofs.Runs.Sequence
import ResourceScaffold.Proofs.Runs.Skip
import ResourceScaffold.Proofs.Runs.Targets
import ResourceScaffold.Proofs.Settings.Environment
import ResourceScaffold.Proofs.Settings.Fields
import ResourceScaffold.Proofs.Settings.Layering
import ResourceScaffold.Proofs.Settings.Priority
import ResourceScaffold.Proofs.Splice.Growth
import ResourceScaffold.Proofs.Splice.Insertion
import ResourceScaffold.Proofs.Splice.Missing
import ResourceScaffold.Proofs.Splice.Placement
import ResourceScaffold.Proofs.Splice.Repeated
import ResourceScaffold.Proofs.Splice.Snippet
import ResourceScaffold.Proofs.Template.GlyphLine
import ResourceScaffold.Proofs.Template.Independence
import ResourceScaffold.Proofs.Template.Passage
import ResourceScaffold.Proofs.Template.Required
import ResourceScaffold.Proofs.Template.Standard
import ResourceScaffold.Proofs.Template.Variables
import ResourceScaffold.Proofs.Text.Casing
import ResourceScaffold.Proofs.Text.Count
import ResourceScaffold.Proofs.Text.Encoding
import ResourceScaffold.Proofs.Text.Lines
import ResourceScaffold.Proofs.Text.Occurrence
import ResourceScaffold.Proofs.Text.Pieces
import ResourceScaffold.Proofs.Text.Run
import ResourceScaffold.Proofs.Text.Trimming
import ResourceScaffold.Proofs.Toml.Distinct
import ResourceScaffold.Session
import ResourceScaffold.Settings.Basic
import ResourceScaffold.Settings.Datum
import ResourceScaffold.Settings.Environment
import ResourceScaffold.Settings.Extraction
import ResourceScaffold.Settings.Fault
import ResourceScaffold.Settings.Load
import ResourceScaffold.Shell.Arithmetic
import ResourceScaffold.Shell.Builtin
import ResourceScaffold.Shell.Bytes
import ResourceScaffold.Shell.Command
import ResourceScaffold.Shell.Concatenation
import ResourceScaffold.Shell.Condition
import ResourceScaffold.Shell.Connection
import ResourceScaffold.Shell.Evaluation
import ResourceScaffold.Shell.Expansion
import ResourceScaffold.Shell.Host
import ResourceScaffold.Shell.Integer
import ResourceScaffold.Shell.Pattern
import ResourceScaffold.Shell.Program
import ResourceScaffold.Shell.Script
import ResourceScaffold.Shell.Signal
import ResourceScaffold.Shell.State
import ResourceScaffold.Shell.Token
import ResourceScaffold.Splice
import ResourceScaffold.Template.Builtin
import ResourceScaffold.Template.Helper
import ResourceScaffold.Template.Layout
import ResourceScaffold.Template.Nesting
import ResourceScaffold.Template.Piece
import ResourceScaffold.Template.Registry
import ResourceScaffold.Template.Render
import ResourceScaffold.Template.RenderFault
import ResourceScaffold.Template.Scope
import ResourceScaffold.Template.Tag
import ResourceScaffold.Template.Tree
import ResourceScaffold.Text.Blank
import ResourceScaffold.Text.Case
import ResourceScaffold.Text.CaseTable
import ResourceScaffold.Text.CharSet
import ResourceScaffold.Text.Cluster
import ResourceScaffold.Text.ClusterTable
import ResourceScaffold.Text.GraphemeExtend
import ResourceScaffold.Text.Line
import ResourceScaffold.Text.Lossy
import ResourceScaffold.Text.Quoted
import ResourceScaffold.Text.Reader
import ResourceScaffold.Text.Search
import ResourceScaffold.Text.Unprintable
import ResourceScaffold.Toml.Document
import ResourceScaffold.Toml.Scalar
import ResourceScaffold.Toml.Table
import ResourceScaffold.Toml.Value
import ResourceScaffold.Value.Basic
import ResourceScaffold.Value.Json
import ResourceScaffold.Verification
