import RequestValidation.Calendar.Date
import RequestValidation.Calendar.Moment
import RequestValidation.Chain.Basic
import RequestValidation.Chain.Outline
import RequestValidation.Chain.Report
import RequestValidation.Chain.Run
import RequestValidation.Command.Document
import RequestValidation.Command.Inspect
import RequestValidation.Command.Invocation
import RequestValidation.Command.Session
import RequestValidation.Command.Switch
import RequestValidation.Command.Validate
import RequestValidation.Config.Basic
import RequestValidation.Config.Load
import RequestValidation.Decimal.Binary64
import RequestValidation.Decimal.Numeral
import RequestValidation.Decimal.Radix
import RequestValidation.Decimal.Shortest
import RequestValidation.Error
import RequestValidation.Failure
import RequestValidation.Files
import RequestValidation.Format.Email
import RequestValidation.Format.Host
import RequestValidation.Format.Url
import RequestValidation.Format.Uuid
import RequestValidation.Json.Basic
import RequestValidation.Json.Fault
import RequestValidation.Json.Printer
import RequestValidation.Json.Reader
import RequestValidation.Json.Skip
import RequestValidation.Json.Text
import RequestValidation.Logging
import RequestValidation.Main
import RequestValidation.Members
import RequestValidation.Output.Human
import RequestValidation.Output.Layout
import RequestValidation.Output.Summary
import RequestValidation.Output.Writer
import RequestValidation.Pattern.Basic
import RequestValidation.Pattern.CharSet
import RequestValidation.Pattern.Program
import RequestValidation.Pattern.PropertyTable
import RequestValidation.Pattern.Reader
import RequestValidation.Proofs.Chain.Alone
import RequestValidation.Proofs.Chain.Queue
import RequestValidation.Proofs.Request.Coverage
import RequestValidation.Proofs.Request.LetterCase
import RequestValidation.Proofs.Request.Lookup
import RequestValidation.Proofs.Request.Places
import RequestValidation.Proofs.Request.PlainKeys
import RequestValidation.Proofs.Request.Position
import RequestValidation.Proofs.Request.Selection
import RequestValidation.Proofs.Rule.Faults
import RequestValidation.Proofs.Schema.Modifiers
import RequestValidation.Proofs.Traversal
import RequestValidation.Redaction
import RequestValidation.Request.Basic
import RequestValidation.Request.Location
import RequestValidation.Request.Occurrence
import RequestValidation.Request.Path
import RequestValidation.Rule.Arguments
import RequestValidation.Rule.Basic
import RequestValidation.Rule.Change
import RequestValidation.Rule.Check
import RequestValidation.Schema.Basic
import RequestValidation.Schema.Plan
import RequestValidation.Schema.Reader
import RequestValidation.Settings.Json
import RequestValidation.Settings.Shape
import RequestValidation.Settings.Yaml
import RequestValidation.Text.Blank
import RequestValidation.Text.Case
import RequestValidation.Text.CaseTable
import RequestValidation.Text.Infix
import RequestValidation.Text.PrintableTable
import RequestValidation.Text.Quoted
import RequestValidation.Yaml.Cursor
import RequestValidation.Yaml.Node
import RequestValidation.Yaml.Printer
import RequestValidation.Yaml.Scalar
import RequestValidation.Yaml.ScalarText
import RequestValidation.Yaml.Token
import RequestValidation.Yaml.Value
import RequestValidation.Proofs.Chain.Required
import RequestValidation.Proofs.Chain.Bails
import RequestValidation.Proofs.Chain.Trace
import RequestValidation.Proofs.Chain.Faults
import RequestValidation.Proofs.Report.Cleared
import RequestValidation.Proofs.Redaction.Document
import RequestValidation.Proofs.Schema.Ignored
import RequestValidation.Proofs.Schema.Grammar
import RequestValidation.Proofs.Distinct
import RequestValidation.Proofs.Schema.Precedence
import RequestValidation.Proofs.Report.Merged
import RequestValidation.Proofs.Command.Output
import RequestValidation.Proofs.Json.Spacing
import RequestValidation.Proofs.Json.Literals
import RequestValidation.Proofs.Json.RoundTrip
import RequestValidation.Proofs.Json.OneLine
import RequestValidation.Proofs.Output.Lossless
import RequestValidation.Proofs.Request.Spelling
import RequestValidation.Proofs.Request.OneLocation
import RequestValidation.Proofs.Request.Addresses
import RequestValidation.Proofs.Chain.Gates
import RequestValidation.Proofs.Chain.Outlined
import RequestValidation.Proofs.Chain.Itemwise
import RequestValidation.Proofs.Chain.Calls
import RequestValidation.Proofs.Chain.Alignment
import RequestValidation.Proofs.Chain.Checks
import RequestValidation.Proofs.Chain.Negation
import RequestValidation.Proofs.Rule.Markup
import RequestValidation.Proofs.Rule.Items
import RequestValidation.Proofs.Rule.Trimming
import RequestValidation.Proofs.Text.Margins
import RequestValidation.Proofs.Schema.PlainEntries
import RequestValidation.Proofs.Calendar.Written
import RequestValidation.Proofs.Calendar.Forms
import RequestValidation.Proofs.Calendar.Instant
import RequestValidation.Proofs.Calendar.Rendered
import RequestValidation.Proofs.Rule.Dates
import RequestValidation.Proofs.Decimal.Grammar
import RequestValidation.Proofs.Decimal.Rounding
import RequestValidation.Proofs.Decimal.Accrual
import RequestValidation.Proofs.Decimal.Magnitude
import RequestValidation.Proofs.Rule.Numbers
import RequestValidation.Proofs.Rule.Integers
import RequestValidation.Proofs.Rule.Conversions
import RequestValidation.Proofs.Decimal.Comparison
import RequestValidation.Proofs.Rule.Limits
import RequestValidation.Proofs.Text.Classes
import RequestValidation.Proofs.Rule.Hexadecimal
import RequestValidation.Proofs.Format.Email
import RequestValidation.Proofs.Rule.Counts
import RequestValidation.Proofs.Redaction.Finders
import RequestValidation.Proofs.Redaction.Crossing
import RequestValidation.Proofs.Redaction.Twice
import RequestValidation.Proofs.Format.EmailPattern
import RequestValidation.Proofs.Rule.Roles
import RequestValidation.Proofs.Chain.Built
import RequestValidation.Proofs.Schema.Built
import RequestValidation.Proofs.Output.Tables
