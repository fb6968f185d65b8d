import QualityGate.Analysis.ContextMarkdown
import QualityGate.Analysis.DeepContext
import QualityGate.Analysis.Findings
import QualityGate.Analysis.Lint
import QualityGate.Analysis.Project
import QualityGate.Analysis.Query
import QualityGate.Analysis.Report
import QualityGate.Analysis.Sarif
import QualityGate.Analysis.Service
import QualityGate.Analysis.TemplateFile
import QualityGate.Bounded
import QualityGate.Churn
import QualityGate.CommandLine.Options
import QualityGate.CommandLine.Program
import QualityGate.CommandLine.Words
import QualityGate.Context
import QualityGate.Count
import QualityGate.Coverage.Report
import QualityGate.Coverage.Sampler
import QualityGate.DebtScore
import QualityGate.Diagnostics
import QualityGate.Failure
import QualityGate.Figure
import QualityGate.Gates
import QualityGate.Glob
import QualityGate.Issue
import QualityGate.Json
import QualityGate.Json.KeyCase
import QualityGate.Json.Parser
import QualityGate.Json.Plain
import QualityGate.Json.Printer
import QualityGate.Lock
import QualityGate.Main
import QualityGate.Number
import QualityGate.Number.Arithmetic
import QualityGate.Number.Decimal
import QualityGate.Number.Logarithm
import QualityGate.Number.Reading
import QualityGate.Plan
import QualityGate.Profile
import QualityGate.Protocol.Address
import QualityGate.Protocol.DomainName
import QualityGate.Protocol.DomainName.Punycode
import QualityGate.Protocol.DomainName.Table
import QualityGate.Protocol.Host
import QualityGate.Protocol.Http
import QualityGate.Protocol.Invocation
import QualityGate.Protocol.MediaType
import QualityGate.Protocol.Message
import QualityGate.Protocol.Percent
import QualityGate.Protocol.Router
import QualityGate.Protocol.Rpc
import QualityGate.Protocol.ToolServer
import QualityGate.Protocol.WebServer
import QualityGate.Ranking
import QualityGate.Record
import QualityGate.Record.Inherited
import QualityGate.Refactor.Agent
import QualityGate.Refactor.Build
import QualityGate.Refactor.Command
import QualityGate.Refactor.Flags
import QualityGate.Refactor.Gauge
import QualityGate.Refactor.Loop
import QualityGate.Refactor.Mode
import QualityGate.Refactor.Outcome
import QualityGate.Refactor.Rehearsal
import QualityGate.Refactor.Request
import QualityGate.Refactor.Rewriter
import QualityGate.Schema
import QualityGate.Selection
import QualityGate.Settings
import QualityGate.Source.Block
import QualityGate.Source.DeadCode
import QualityGate.Source.Edits
import QualityGate.Source.Functions
import QualityGate.Source.Outline
import QualityGate.Source.Satd
import QualityGate.Source.Scan
import QualityGate.Source.Template
import QualityGate.Source.TestDependencies
import QualityGate.Source.TestStubs
import QualityGate.Source.Words
import QualityGate.State
import QualityGate.State.Store
import QualityGate.Text.Blank
import QualityGate.Text.Case
import QualityGate.Text.Case.Table
import QualityGate.Text.CodeTable
import QualityGate.Text.Collation
import QualityGate.Text.Collation.Table
import QualityGate.Text.Decomposition
import QualityGate.Text.Decomposition.Table
import QualityGate.Text.Digest
import QualityGate.Text.Path
import QualityGate.Text.Pattern
import QualityGate.Text.Search
import QualityGate.Text.Units
import QualityGate.Time
import QualityGate.Time.Reading
import QualityGate.Toolchain
import QualityGate.Violation
import QualityGate.World
import QualityGate.World.Disk
import QualityGate.World.Script
import QualityGate.World.Shell
import QualityGate.World.Shell.Line
import QualityGate.Proofs.Lines
import QualityGate.Proofs.LiteralTokens
import QualityGate.Proofs.Scanning
import QualityGate.Proofs.DebtEdits
import QualityGate.Proofs.DebtRemoval
import QualityGate.Proofs.Actions
import QualityGate.Proofs.Invariants
import QualityGate.Proofs.Backups
import QualityGate.Proofs.RewriteStep
import QualityGate.Proofs.Selection
import QualityGate.Proofs.Candidates
import QualityGate.Proofs.CompletedFiles
import QualityGate.Proofs.Rounding
import QualityGate.Proofs.Records
import QualityGate.Proofs.DecimalText
import QualityGate.Proofs.JsonText
import QualityGate.Proofs.Instants
import QualityGate.Proofs.LockOwnership
import QualityGate.Proofs.LockRace
import QualityGate.Proofs.Protocols
import QualityGate.Proofs.RemoteCalls
import QualityGate.Proofs.Magnitudes
import QualityGate.Proofs.Checks
import QualityGate.Proofs.FieldNames
import QualityGate.Proofs.StateFile
import QualityGate.Proofs.ProgressFigures
import QualityGate.Proofs.SavedStates
import QualityGate.Proofs.Iterations
import QualityGate.Proofs.StoredRuns
import QualityGate.Proofs.CompletedHistory
import QualityGate.Proofs.Rehearsals
import QualityGate.Proofs.AnswerFiles
import QualityGate.Proofs.Matching
import QualityGate.Proofs.Discovery
import QualityGate.Proofs.LineInsertion
import QualityGate.Proofs.FunctionEnds
import QualityGate.Proofs.IndentedBodies
import QualityGate.Proofs.RewriteOutcome
import QualityGate.Proofs.RequestText
import QualityGate.Proofs.ContextSections
import QualityGate.Proofs.FunctionInputs
import QualityGate.Proofs.LiteralContents
import QualityGate.Proofs.Markers
import QualityGate.Proofs.LineComments
import QualityGate.Proofs.IdleLines
import QualityGate.Proofs.PlanMarkers
import QualityGate.Proofs.SourcePlaces
import QualityGate.Proofs.Blocks
import QualityGate.Proofs.TemplateBlocks
import QualityGate.Proofs.Entries
import QualityGate.Proofs.PlannedRemoval
import QualityGate.Proofs.PathPatterns
import QualityGate.Proofs.UnreadText
import QualityGate.Proofs.PublicFunctions
import QualityGate.Proofs.CodeLines
import QualityGate.Proofs.StubLines
import QualityGate.Proofs.TestStubs
import QualityGate.Proofs.Respelling
import QualityGate.Proofs.ToolNames
import QualityGate.Proofs.CoverageByFile
import QualityGate.Proofs.LoggedCommits
import QualityGate.Proofs.FileHistories
import QualityGate.Proofs.CommitReport
import QualityGate.Proofs.RoundingOrder
import QualityGate.Proofs.DebtBands
import QualityGate.Proofs.ExactProgress
import QualityGate.Proofs.LintHotspots
import QualityGate.Proofs.CoverageSampling
import QualityGate.Proofs.GrowingProjects
import QualityGate.Proofs.BoundedCalls
import QualityGate.Proofs.SoundDisks
import QualityGate.Proofs.CommandLock
import QualityGate.Proofs.JsonLines
import QualityGate.Proofs.FencedAnswers
import QualityGate.Proofs.QuotedWords
