import MutationTesting.Cache.Basic
import MutationTesting.Cache.Store
import MutationTesting.CommandLine.Invocation
import MutationTesting.CommandLine.Terminal
import MutationTesting.Decimal.Layout
import MutationTesting.Decimal.Numeral
import MutationTesting.Diff.Change
import MutationTesting.Diff.Edit
import MutationTesting.Diff.Unified
import MutationTesting.Digest.Sha256
import MutationTesting.Discovery.Sources
import MutationTesting.Discovery.TestDirectories
import MutationTesting.Duration
import MutationTesting.Error
import MutationTesting.Exclusion.Patch
import MutationTesting.Exclusion.Policy
import MutationTesting.Exclusion.Stored
import MutationTesting.FileSystem.Fault
import MutationTesting.FileSystem.OnDisk
import MutationTesting.FileSystem.Workspace
import MutationTesting.Frontend
import MutationTesting.Glob.Expand
import MutationTesting.Glob.Pattern
import MutationTesting.Json.Magnitude
import MutationTesting.Json.Reader
import MutationTesting.Json.Value
import MutationTesting.Main
import MutationTesting.Mutant.Basic
import MutationTesting.Mutant.OnDisk
import MutationTesting.Path
import MutationTesting.Proofs.Cache.Aligned
import MutationTesting.Proofs.Cache.Opened
import MutationTesting.Proofs.Cache.Reached
import MutationTesting.Proofs.CommandLine.Backups
import MutationTesting.Proofs.CommandLine.Restored
import MutationTesting.Proofs.CommandLine.Unmade
import MutationTesting.Proofs.Discovery.Fingerprint
import MutationTesting.Proofs.Discovery.Listed
import MutationTesting.Proofs.Discovery.TestDirectories
import MutationTesting.Proofs.Exclusion.Overflow
import MutationTesting.Proofs.Exclusion.Patch
import MutationTesting.Proofs.Mutator
import MutationTesting.Proofs.Number.Grown
import MutationTesting.Proofs.Python.Arrows
import MutationTesting.Proofs.Python.EditRow
import MutationTesting.Proofs.Python.OtherRows
import MutationTesting.Proofs.Python.Splice
import MutationTesting.Proofs.Python.Stable
import MutationTesting.Proofs.Rule.Extras
import MutationTesting.Proofs.Suite.Accounts
import MutationTesting.Proofs.Suite.Generations
import MutationTesting.Proofs.Suite.History
import MutationTesting.Proofs.Suite.Killed
import MutationTesting.Proofs.Suite.PassedOver
import MutationTesting.Proofs.Suite.Resumed
import MutationTesting.Proofs.Suite.Selection
import MutationTesting.Proofs.Suite.Sheltered
import MutationTesting.Proofs.Text.Rows
import MutationTesting.Python.Source
import MutationTesting.Regex.Expression
import MutationTesting.Regex.Reader
import MutationTesting.Regex.Rich
import MutationTesting.Report.Console
import MutationTesting.Rule.Basic
import MutationTesting.Rule.Catalogue
import MutationTesting.Shell.Arithmetic
import MutationTesting.Shell.Builtin.Condition
import MutationTesting.Shell.Builtin.Echo
import MutationTesting.Shell.Builtin.Surroundings
import MutationTesting.Shell.Builtin.Variables
import MutationTesting.Shell.Channel
import MutationTesting.Shell.Command
import MutationTesting.Shell.Executor
import MutationTesting.Shell.Expansion
import MutationTesting.Shell.Field
import MutationTesting.Shell.Grammar
import MutationTesting.Shell.Job
import MutationTesting.Shell.Lexer
import MutationTesting.Shell.Machine
import MutationTesting.Shell.Number
import MutationTesting.Shell.Pattern
import MutationTesting.Shell.Reading
import MutationTesting.Shell.Run
import MutationTesting.Shell.Script
import MutationTesting.Shell.Signal
import MutationTesting.Shell.Task
import MutationTesting.Shell.Utility.Arrange
import MutationTesting.Shell.Utility.Awk.Bench
import MutationTesting.Shell.Utility.Awk.Grammar
import MutationTesting.Shell.Utility.Awk.Run
import MutationTesting.Shell.Utility.Awk.Script
import MutationTesting.Shell.Utility.Awk.Token
import MutationTesting.Shell.Utility.Awk.Value
import MutationTesting.Shell.Utility.Basic
import MutationTesting.Shell.Utility.Blocks
import MutationTesting.Shell.Utility.Columns
import MutationTesting.Shell.Utility.Compare.Files
import MutationTesting.Shell.Utility.Compare.Hunk
import MutationTesting.Shell.Utility.Date
import MutationTesting.Shell.Utility.Digest
import MutationTesting.Shell.Utility.Dump
import MutationTesting.Shell.Utility.Files
import MutationTesting.Shell.Utility.Find.Predicate
import MutationTesting.Shell.Utility.Find.Walk
import MutationTesting.Shell.Utility.Grep
import MutationTesting.Shell.Utility.Inspect
import MutationTesting.Shell.Utility.Listing
import MutationTesting.Shell.Utility.Mode
import MutationTesting.Shell.Utility.Order
import MutationTesting.Shell.Utility.Place
import MutationTesting.Shell.Utility.Sed.Reader
import MutationTesting.Shell.Utility.Sed.Run
import MutationTesting.Shell.Utility.Show
import MutationTesting.Shell.Utility.Sort
import MutationTesting.Shell.Utility.Sorted
import MutationTesting.Shell.Utility.Start
import MutationTesting.Shell.Utility.Translate
import MutationTesting.Shell.Utility.Value
import MutationTesting.Shell.Utility.Word
import MutationTesting.Shell.Variable
import MutationTesting.Suite.Bench
import MutationTesting.Suite.Campaign
import MutationTesting.Suite.Event
import MutationTesting.Suite.Generation
import MutationTesting.Suite.Runner
import MutationTesting.Text.Letter
import MutationTesting.Text.Lines
import MutationTesting.Text.Quoted
import MutationTesting.Text.Search
import MutationTesting.Text.Utf8
import MutationTesting.Tree.Address
import MutationTesting.Tree.Basic
import MutationTesting.Walk.Cursor
import MutationTesting.Walk.Grammar
