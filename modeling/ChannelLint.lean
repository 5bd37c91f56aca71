import ChannelLint.Library
import ChannelLint.Text.CodeTable
import ChannelLint.Text.Letter
import ChannelLint.Text.Blank
import ChannelLint.Text.Case
import ChannelLint.Text.Printable
import ChannelLint.Text.CellWidth
import ChannelLint.Text.Quoted
import ChannelLint.Text.Integer
import ChannelLint.Text.Lines
import ChannelLint.Text.Utf8
import ChannelLint.Number.Shortest
import ChannelLint.Moment
import ChannelLint.Value
import ChannelLint.Json.Writer
import ChannelLint.Json.Reader
import ChannelLint.Pattern.Syntax
import ChannelLint.Pattern.Error
import ChannelLint.Pattern.Token
import ChannelLint.Pattern.Parser
import ChannelLint.Pattern.Class
import ChannelLint.Pattern.Match
import ChannelLint.Path
import ChannelLint.Dialect
import ChannelLint.Comment
import ChannelLint.Suppression
import ChannelLint.Indentation.Script
import ChannelLint.Indentation.Markup
import ChannelLint.Indentation.Machine
import ChannelLint.Severity
import ChannelLint.Rule
import ChannelLint.Error
import ChannelLint.Scan
import ChannelLint.Inspection
import ChannelLint.Config.Basic
import ChannelLint.Config.Table
import ChannelLint.Toml.Scalar
import ChannelLint.Toml.Store
import ChannelLint.Toml.Reader
import ChannelLint.Glob
import ChannelLint.Ignore
import ChannelLint.FileTree
import ChannelLint.Config.Load
import ChannelLint.Lint
import ChannelLint.Workers
import ChannelLint.Log.Template
import ChannelLint.Log
import ChannelLint.Terminal.Cells
import ChannelLint.Terminal.Wrap
import ChannelLint.Terminal.Emoji
import ChannelLint.Terminal.StyleTag
import ChannelLint.Terminal.Panel
import ChannelLint.Terminal.Grid
import ChannelLint.Report.Basic
import ChannelLint.Report.Json
import ChannelLint.Report.Terminal
import ChannelLint.Report.Rules
import ChannelLint.CommandLine.Similar
import ChannelLint.CommandLine.Usage
import ChannelLint.CommandLine.Options
import ChannelLint.CommandLine
import ChannelLint.Program
import ChannelLint.Snapshot
import ChannelLint.Main
import ChannelLint.Proofs.Lines
import ChannelLint.Proofs.SearchSpan
import ChannelLint.Proofs.Stripping
import ChannelLint.Proofs.Scanning
import ChannelLint.Proofs.LineMapping
import ChannelLint.Proofs.MarkupScanner
import ChannelLint.Proofs.MatchEnumeration
import ChannelLint.Proofs.Indenting
import ChannelLint.Proofs.IgnoreDirective
import ChannelLint.Proofs.LeadingBlanks
import ChannelLint.Proofs.Reindentation
import ChannelLint.Proofs.PlacedLines
import ChannelLint.Proofs.ScriptLayout
import ChannelLint.Proofs.TagLines
import ChannelLint.Proofs.MarkupLayout
import ChannelLint.Proofs.WarningLines
import ChannelLint.Proofs.TakenText
import ChannelLint.Proofs.SpelledWords
import ChannelLint.Proofs.StatementLines
import ChannelLint.Proofs.ParallelLinting
import ChannelLint.Proofs.LineBreaks
import ChannelLint.Proofs.CommentTails
import ChannelLint.Proofs.Verdict
import ChannelLint.Proofs.ReadingOptions
import ChannelLint.Proofs.RicherLibraries
import ChannelLint.Proofs.AcceptedRules
import ChannelLint.Proofs.Discovery
import ChannelLint.Proofs.JsonRoundTrip
import ChannelLint.Proofs.RefusedTables
import ChannelLint.Proofs.NestedGroups
import ChannelLint.Proofs.JsonReport
import ChannelLint.Proofs.OpenedComments
import ChannelLint.Proofs.StrippedTwice
import ChannelLint.Proofs.NullFreeDocuments
import ChannelLint.Proofs.ConfiguredRules
import ChannelLint.Proofs.SeverityCounts
import ChannelLint.Proofs.JsonGrammar
import ChannelLint.Proofs.DecimalText
import ChannelLint.Proofs.JsonWriting
import ChannelLint.Proofs.JsonOutput
import ChannelLint.Proofs.LinePieces
import ChannelLint.Proofs.ScriptLexemes
import ChannelLint.Proofs.SuppressedScans
import ChannelLint.Proofs.ElementLines
import ChannelLint.Proofs.OpenElements
import ChannelLint.Proofs.QuotedValues
import ChannelLint.Proofs.ElseIfLines
import ChannelLint.Proofs.CommentText
import ChannelLint.Proofs.FlaggedLines
import ChannelLint.Proofs.RuleTables
import ChannelLint.Proofs.ListedRules
import ChannelLint.Proofs.PathTexts
import ChannelLint.Proofs.IgnoredDirectories
import ChannelLint.Proofs.ReportPaths
import ChannelLint.Proofs.ReportedLines
import ChannelLint.Proofs.LineEndings
import ChannelLint.Proofs.ConfigurationPlaces
import ChannelLint.Proofs.ReportSections
