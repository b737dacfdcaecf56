import SignalLint.Code.Node
import SignalLint.Code.Span
import SignalLint.Code.Table
import SignalLint.Code.Unit
import SignalLint.CommandLine.Command
import SignalLint.CommandLine.Run
import SignalLint.CommandLine.Words
import SignalLint.Decimal.Binary64
import SignalLint.Decimal.Power
import SignalLint.Decimal.Reader
import SignalLint.Decimal.Shortest
import SignalLint.Diagnostic.Basic
import SignalLint.Diagnostic.Edit
import SignalLint.Error
import SignalLint.Files.Path
import SignalLint.Files.Problem
import SignalLint.Files.Store
import SignalLint.Files.Walk
import SignalLint.Lint.Discovery
import SignalLint.Lint.Language
import SignalLint.Lint.Log
import SignalLint.Lint.Run
import SignalLint.Lint.Source
import SignalLint.Main
import SignalLint.Proofs.Code.FirstEntry
import SignalLint.Proofs.Code.Relocation
import SignalLint.Proofs.Code.Scope
import SignalLint.Proofs.CommandLine.ExitCode
import SignalLint.Proofs.Diagnostic.Kept
import SignalLint.Proofs.Diagnostic.Merge
import SignalLint.Proofs.Diagnostic.Suggested
import SignalLint.Proofs.Failing
import SignalLint.Proofs.Files.Path
import SignalLint.Proofs.Files.Walk
import SignalLint.Proofs.Files.Write
import SignalLint.Proofs.Lint.Discovery
import SignalLint.Proofs.Lint.Files
import SignalLint.Proofs.Lint.Fix
import SignalLint.Proofs.Lint.Selection
import SignalLint.Proofs.Report.Annotation
import SignalLint.Proofs.Report.Escape
import SignalLint.Proofs.Report.Markup
import SignalLint.Proofs.Rule.Convergence
import SignalLint.Proofs.Rule.Decorators
import SignalLint.Proofs.Rule.Demand
import SignalLint.Proofs.Rule.History
import SignalLint.Proofs.Rule.Isolation
import SignalLint.Proofs.Rule.Monotone
import SignalLint.Proofs.Rule.Resolution
import SignalLint.Proofs.Rule.Steps
import SignalLint.Proofs.Rule.ThisCalls
import SignalLint.Proofs.Rule.Topics
import SignalLint.Proofs.Rule.Verdict
import SignalLint.Proofs.Settings.Accepted
import SignalLint.Proofs.Settings.CallerOptions
import SignalLint.Proofs.Settings.Loading
import SignalLint.Proofs.Settings.Precedence
import SignalLint.Proofs.Settings.RoundTrip
import SignalLint.Proofs.Settings.Validation
import SignalLint.Proofs.Text.Template
import SignalLint.Proofs.Text.Utf8
import SignalLint.Proofs.Toml.Document
import SignalLint.Proofs.Tree.Comments
import SignalLint.Proofs.Tree.Contributions
import SignalLint.Proofs.Tree.DocumentOrder
import SignalLint.Proofs.Tree.EnclosingClass
import SignalLint.Proofs.Tree.Faithful
import SignalLint.Proofs.Tree.FirstDeclaration
import SignalLint.Proofs.Tree.Initializer
import SignalLint.Proofs.Tree.Parentheses
import SignalLint.Proofs.Tree.Replacement
import SignalLint.Proofs.Tree.Visits
import SignalLint.Proofs.Value.Equality
import SignalLint.Proofs.Value.Text
import SignalLint.Report.Annotation
import SignalLint.Report.BoxTable
import SignalLint.Report.Console
import SignalLint.Report.Format
import SignalLint.Report.Json
import SignalLint.Report.Markup
import SignalLint.Report.Rules
import SignalLint.Report.Screen
import SignalLint.Rule.Catalogue
import SignalLint.Rule.Classifier
import SignalLint.Rule.Context
import SignalLint.Rule.Evidence
import SignalLint.Rule.Legacy
import SignalLint.Rule.Options
import SignalLint.Rule.PreferSignals
import SignalLint.Rule.Selector
import SignalLint.Rule.TypeServices
import SignalLint.Settings.Config
import SignalLint.Settings.Environment
import SignalLint.Settings.Load
import SignalLint.Settings.Options
import SignalLint.Settings.Schema
import SignalLint.Text.Blank
import SignalLint.Text.Digit
import SignalLint.Text.Glob
import SignalLint.Text.Graphic
import SignalLint.Text.LowerCase
import SignalLint.Text.Quoted
import SignalLint.Text.Template
import SignalLint.Text.Utf8
import SignalLint.Text.Width
import SignalLint.Toml.Document
import SignalLint.Toml.Reader
import SignalLint.Toml.Scalar
import SignalLint.Toml.Text
import SignalLint.Tree.Basic
import SignalLint.Tree.Convert
import SignalLint.Tree.Unit
import SignalLint.TypeScript.Class
import SignalLint.TypeScript.Expression
import SignalLint.TypeScript.Grammar
import SignalLint.TypeScript.Parse
import SignalLint.TypeScript.Parts
import SignalLint.TypeScript.Statement
import SignalLint.TypeScript.Token
import SignalLint.TypeScript.Type
import SignalLint.Value.Basic
import SignalLint.Value.Items
import SignalLint.Value.Json
import SignalLint.Value.Text
