import GuidedMigration.Proofs.Config.Parity
import GuidedMigration.Proofs.Config.Retention
import GuidedMigration.Proofs.Config.Secrecy
import GuidedMigration.Proofs.Config.Reflushed
import GuidedMigration.Main
import GuidedMigration.Instruction.View
import GuidedMigration.Ledger.Stored
import GuidedMigration.CommandLine.Run
import GuidedMigration.Ledger.Basic
import GuidedMigration.Plugin.Orchestrator
import GuidedMigration.Phase.Plugins
import GuidedMigration.Phase.Report
import GuidedMigration.Migration.Executor
import GuidedMigration.Check.Expectation
import GuidedMigration.Config.Accumulator
import GuidedMigration.Target.Copy
import GuidedMigration.Target.Manifest
import GuidedMigration.Target.Role
import GuidedMigration.Settings.Basic
import GuidedMigration.Tree.Copy
import GuidedMigration.Failure
import GuidedMigration.Tree.Basic
import GuidedMigration.Config.Block
import GuidedMigration.Json.Writer
import GuidedMigration.Value.Basic
import GuidedMigration.Value.Display
import GuidedMigration.Value.Placeholder
import GuidedMigration.Yaml.Writer
import GuidedMigration.Digest.Sha256
import GuidedMigration.Text.Difference
import GuidedMigration.Text.Glob
import GuidedMigration.Text.Utf8
import GuidedMigration.Code.Statement
import GuidedMigration.Guide.Requirement
import GuidedMigration.Guide.Steps
import GuidedMigration.Instruction.Classify
import GuidedMigration.Code.Deletion
import GuidedMigration.Code.Primitive
import GuidedMigration.Markdown.Entity
import GuidedMigration.Markdown.Address
import GuidedMigration.Markdown.Block
import GuidedMigration.Markdown.Inline
import GuidedMigration.Guide.Document
import GuidedMigration.Yaml.Token
import GuidedMigration.Yaml.Node
import GuidedMigration.Yaml.Reader
import GuidedMigration.Proofs.Migration.Rerun
import GuidedMigration.Proofs.Migration.Schedule
import GuidedMigration.Proofs.Migration.Isolation
import GuidedMigration.Proofs.Phase.Success
import GuidedMigration.Proofs.Migration.Contributed
import GuidedMigration.Proofs.Migration.Checkpoints
import GuidedMigration.Proofs.Code.Insertion
import GuidedMigration.Proofs.Target.Insertion
import GuidedMigration.Proofs.Migration.Accounted
import GuidedMigration.Proofs.Phase.Scaffold
import GuidedMigration.Proofs.Guide.Agreement
import GuidedMigration.Proofs.Value.Trail
import GuidedMigration.Proofs.Ledger.History
import GuidedMigration.Proofs.Plugin.Warned
import GuidedMigration.Proofs.Phase.Warnings
import GuidedMigration.Proofs.Code.ImportRemoval
import GuidedMigration.Proofs.Code.StatementSplit
import GuidedMigration.Proofs.Code.ImportPlace
import GuidedMigration.Proofs.Code.ImportBatch
import GuidedMigration.Proofs.Code.ElementPlace
import GuidedMigration.Proofs.Text.Utf8
import GuidedMigration.Proofs.Code.PatternMeaning
import GuidedMigration.Proofs.Code.PatternSource
import GuidedMigration.Proofs.Code.Layout
import GuidedMigration.Proofs.Code.NameEdge
import GuidedMigration.Proofs.Code.ImportStatement
import GuidedMigration.Proofs.Code.LineRemoval
import GuidedMigration.Proofs.Config.LeafName
import GuidedMigration.Proofs.Value.Supplied
import GuidedMigration.Proofs.Config.BlockComment
import GuidedMigration.Proofs.Config.BlockRoundTrip
import GuidedMigration.Proofs.Config.Completion
import GuidedMigration.Proofs.Check.KeyPath
import GuidedMigration.Proofs.Check.Validation
import GuidedMigration.Proofs.Guide.StepScan
import GuidedMigration.Proofs.Plugin.Integrated
import GuidedMigration.Proofs.Plugin.Listing
import GuidedMigration.Proofs.Json.Named
import GuidedMigration.Proofs.Target.Merged
import GuidedMigration.Proofs.Tree.Mirroring
import GuidedMigration.Proofs.Target.CopiedDirectory
import GuidedMigration.Proofs.Phase.Providers
import GuidedMigration.Proofs.Guide.Division
import GuidedMigration.Proofs.Plugin.Onboarding
import GuidedMigration.Proofs.Migration.Queue
import GuidedMigration.Proofs.Settings.Sources
