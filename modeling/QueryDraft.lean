import QueryDraft.Access
import QueryDraft.Analysis
import QueryDraft.Build
import QueryDraft.Calendar
import QueryDraft.Cli.Command
import QueryDraft.Cli.Help
import QueryDraft.Cli.Options
import QueryDraft.Config.Definition
import QueryDraft.Config.Layers
import QueryDraft.Config.Relational
import QueryDraft.Config.Search
import QueryDraft.Config.Section
import QueryDraft.Config.Settings
import QueryDraft.Error
import QueryDraft.Host
import QueryDraft.Json.Basic
import QueryDraft.Json.Printer
import QueryDraft.Kind
import QueryDraft.Log.Arguments
import QueryDraft.Log.Level
import QueryDraft.Log.Logger
import QueryDraft.Log.Template
import QueryDraft.Main
import QueryDraft.Number.Binary64
import QueryDraft.Number.Decimal
import QueryDraft.Number.Notation
import QueryDraft.Number.Rounding
import QueryDraft.Part.Ask
import QueryDraft.Part.Make
import QueryDraft.Path
import QueryDraft.Query
import QueryDraft.Report.Console
import QueryDraft.Report.Data
import QueryDraft.Search.Document
import QueryDraft.Search.Draft
import QueryDraft.Search.Part
import QueryDraft.Search.Reading
import QueryDraft.Search.Request
import QueryDraft.Spelling
import QueryDraft.Sql.Clause
import QueryDraft.Sql.Draft
import QueryDraft.Sql.Statement
import QueryDraft.Text.AlnumTable
import QueryDraft.Text.Blank
import QueryDraft.Text.Case
import QueryDraft.Text.CaseTable
import QueryDraft.Text.Encoding
import QueryDraft.Text.Likeness
import QueryDraft.Text.Lines
import QueryDraft.Text.PrintableTable
import QueryDraft.Text.Quoted
import QueryDraft.Text.Ranges
import QueryDraft.Value.Basic
import QueryDraft.Value.Display
import QueryDraft.Value.Key
import QueryDraft.Value.Order
import QueryDraft.Value.View
import QueryDraft.Vocabulary
import QueryDraft.Workspace
import QueryDraft.Yaml.Cursor
import QueryDraft.Yaml.Document
import QueryDraft.Yaml.Node
import QueryDraft.Yaml.Scalar
import QueryDraft.Yaml.Text
import QueryDraft.Yaml.Token
import QueryDraft.Proofs.Outcome
import QueryDraft.Proofs.StatementInv
import QueryDraft.Proofs.StatementInline
import QueryDraft.Proofs.StatementBuild
import QueryDraft.Proofs.StatementPlaceholder
import QueryDraft.Proofs.Fields
import QueryDraft.Proofs.PredicateRoundtrip
import QueryDraft.Proofs.StatementParts
import QueryDraft.Proofs.StatementSlots
import QueryDraft.Proofs.Sections
import QueryDraft.Proofs.StatementDefinition
import QueryDraft.Proofs.SearchSlots
import QueryDraft.Proofs.RequestDocument
import QueryDraft.Proofs.SettingsRead
import QueryDraft.Proofs.Outside
import QueryDraft.Proofs.BuildRun
import QueryDraft.Proofs.Overlay
import QueryDraft.Proofs.DefinitionErrors
import QueryDraft.Proofs.SearchDefinition
import QueryDraft.Proofs.PlainData
import QueryDraft.Proofs.SearchDocument
import QueryDraft.Proofs.QueryReport
import QueryDraft.Proofs.OutputStage
import QueryDraft.Proofs.NumberOrder
import QueryDraft.Proofs.ReportOrder
import QueryDraft.Proofs.SearchInv
import QueryDraft.Proofs.KeyOrder
import QueryDraft.Proofs.PredicateOrder
import QueryDraft.Proofs.DefinitionOrder
import QueryDraft.Proofs.LogFile
import QueryDraft.Proofs.StatementCost
import QueryDraft.Proofs.OverlayPaths
import QueryDraft.Proofs.ReadingSteps
import QueryDraft.Proofs.ReadingErrors
import QueryDraft.Proofs.ReadingGrammar
import QueryDraft.Proofs.ReportNotes
import QueryDraft.Proofs.NamedAggregations
import QueryDraft.Proofs.StatementColumns
import QueryDraft.Proofs.HighlightRoutes
import QueryDraft.Proofs.PartRoundtrip
import QueryDraft.Proofs.ShortConditions
import QueryDraft.Proofs.ReportParameters
import QueryDraft.Proofs.ConsoleDocument
import QueryDraft.Proofs.ConfigRoot
import QueryDraft.Proofs.ErrorBoundary
import QueryDraft.Proofs.LogSetup
import QueryDraft.Proofs.SortWords
