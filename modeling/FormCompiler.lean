import FormCompiler.Binary64.Basic
import FormCompiler.Binary64.Rounding
import FormCompiler.Binary64.Shortest
import FormCompiler.CommandLine.Arguments
import FormCompiler.CommandLine.Directory
import FormCompiler.CommandLine.Run
import FormCompiler.Component.Control
import FormCompiler.Component.FieldMarkup
import FormCompiler.Component.Markup
import FormCompiler.Component.Plan
import FormCompiler.Component.SchemaExpr
import FormCompiler.Component.Source
import FormCompiler.Component.Support
import FormCompiler.Component.Widget
import FormCompiler.Decimal.Notation
import FormCompiler.Editor.Edit
import FormCompiler.Editor.State
import FormCompiler.Exchange.Document
import FormCompiler.Exchange.Export
import FormCompiler.Exchange.Import
import FormCompiler.Exchange.Json
import FormCompiler.Field.Basic
import FormCompiler.Form.Basic
import FormCompiler.Form.Check
import FormCompiler.Form.Json
import FormCompiler.Form.Schema
import FormCompiler.Json.Basic
import FormCompiler.Json.Printer
import FormCompiler.Json.Record
import FormCompiler.Json.Source
import FormCompiler.Json.Tree.Basic
import FormCompiler.Json.Tree.Reader
import FormCompiler.Main
import FormCompiler.Proofs.AddedFields
import FormCompiler.Proofs.Binary64Rounding
import FormCompiler.Proofs.BoundNames
import FormCompiler.Proofs.ByteOrder
import FormCompiler.Proofs.CheckReports
import FormCompiler.Proofs.ComponentBindings
import FormCompiler.Proofs.DefaultFields
import FormCompiler.Proofs.Delimited
import FormCompiler.Proofs.DerivedRules
import FormCompiler.Proofs.DocumentReaders
import FormCompiler.Proofs.DocumentReading
import FormCompiler.Proofs.DocumentRestoring
import FormCompiler.Proofs.EditorGuards
import FormCompiler.Proofs.EditorIds
import FormCompiler.Proofs.EditorRuns
import FormCompiler.Proofs.ExchangeProjection
import FormCompiler.Proofs.ExchangeRules
import FormCompiler.Proofs.ExchangeSettling
import FormCompiler.Proofs.FieldIssues
import FormCompiler.Proofs.FieldMoves
import FormCompiler.Proofs.FieldPreview
import FormCompiler.Proofs.FormFilling
import FormCompiler.Proofs.FormReading
import FormCompiler.Proofs.FreshNumber
import FormCompiler.Proofs.ImportOrder
import FormCompiler.Proofs.ImportSets
import FormCompiler.Proofs.ImportedIssues
import FormCompiler.Proofs.IndependentEdits
import FormCompiler.Proofs.InitialValues
import FormCompiler.Proofs.LeadingDigits
import FormCompiler.Proofs.LengthSpellings
import FormCompiler.Proofs.MessageLiterals
import FormCompiler.Proofs.NameCollisions
import FormCompiler.Proofs.Numeral
import FormCompiler.Proofs.NumericTexts
import FormCompiler.Proofs.OpenedWidgets
import FormCompiler.Proofs.OptionRemoval
import FormCompiler.Proofs.PatternLiterals
import FormCompiler.Proofs.PresentedFields
import FormCompiler.Proofs.PrintedBounds
import FormCompiler.Proofs.PrintedNumbers
import FormCompiler.Proofs.RequiredFields
import FormCompiler.Proofs.RuleChecks
import FormCompiler.Proofs.SchemaReading
import FormCompiler.Proofs.SchemaTexts
import FormCompiler.Proofs.SharedNames
import FormCompiler.Proofs.SourceNames
import FormCompiler.Proofs.Tightening
import FormCompiler.Proofs.ValueReading
import FormCompiler.Proofs.Verdicts
import FormCompiler.Proofs.WellFormed
import FormCompiler.Rule.Basic
import FormCompiler.Rule.Derive
import FormCompiler.Rule.Json
import FormCompiler.Rule.Pattern
import FormCompiler.Text.Basic
import FormCompiler.Text.Numeric
import FormCompiler.Text.Quoted
import FormCompiler.Validation
