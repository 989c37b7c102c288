import AuditTrail.Calendar.FreeForm.Reader
import AuditTrail.Calendar.IsoReader
import AuditTrail.Coercion
import AuditTrail.Connection.Url
import AuditTrail.Http.Application
import AuditTrail.Json.Encoding
import AuditTrail.Json.Printer
import AuditTrail.Log.Channels
import AuditTrail.Log.Template.Filling
import AuditTrail.Main
import AuditTrail.Number.Decimal
import AuditTrail.Number.Shortest
import AuditTrail.Proofs.Column
import AuditTrail.Proofs.Fault
import AuditTrail.Proofs.Query.Condition
import AuditTrail.Proofs.Query.Expression
import AuditTrail.Proofs.Query.Grouping
import AuditTrail.Proofs.Query.Runs
import AuditTrail.Proofs.Search.Slices
import AuditTrail.Proofs.Service.Run
import AuditTrail.Proofs.Service.Search
import AuditTrail.Proofs.Service.Session
import AuditTrail.Proofs.Service.Table
import AuditTrail.Proofs.Service.Template
import AuditTrail.Proofs.Service.Walk
import AuditTrail.Proofs.Sql.Factor
import AuditTrail.Proofs.Sql.Filter
import AuditTrail.Proofs.Sql.Formula
import AuditTrail.Proofs.Sql.Meaning
import AuditTrail.Proofs.Sql.Parameter
import AuditTrail.Proofs.Sql.Reading
import AuditTrail.Proofs.Sql.Token
import AuditTrail.Proofs.Text.Blank
import AuditTrail.Proofs.Text.Case
import AuditTrail.Query.Compiled
import AuditTrail.Search.Response
import AuditTrail.SearchPath
import AuditTrail.Service.Schema
import AuditTrail.Service.Search
import AuditTrail.Settings
import AuditTrail.Setup.Run
import AuditTrail.Sql.Statement
import AuditTrail.Text.Identifier
import AuditTrail.Text.Percent
import AuditTrail.Text.Word
import AuditTrail.Proofs.Query.Token
import AuditTrail.Proofs.Query.Layout
import AuditTrail.Proofs.Query.LookBack
import AuditTrail.Proofs.Query.Part
import AuditTrail.Proofs.Query.Specific
import AuditTrail.Proofs.Query.Written
import AuditTrail.Proofs.Sql.Check
import AuditTrail.Proofs.Service.Selection
import AuditTrail.Proofs.Service.Parameters
import AuditTrail.Proofs.Coercion
import AuditTrail.Proofs.Http.Application
import AuditTrail.Proofs.Http.Parameters
import AuditTrail.Proofs.Service.Settings
import AuditTrail.Proofs.Settings
import AuditTrail.Proofs.Service.Bounds
import AuditTrail.Proofs.Http.Handler
import AuditTrail.Proofs.Http.Startup
import AuditTrail.Proofs.Http.Dates
import AuditTrail.Proofs.Http.Gate
import AuditTrail.Proofs.Http.Invariant
import AuditTrail.Proofs.Http.Release
import AuditTrail.Proofs.Query.Negation
import AuditTrail.Proofs.Sql.Like
import AuditTrail.Proofs.Sql.Substring
import AuditTrail.Proofs.Service.Configuration
import AuditTrail.Proofs.Http.Configuration
import AuditTrail.Proofs.Json.Reading
import AuditTrail.Proofs.Http.Failure
import AuditTrail.Proofs.Service.Alike
import AuditTrail.Proofs.Http.Uniform
import AuditTrail.Proofs.Query.Origin
import AuditTrail.Proofs.Query.Named
import AuditTrail.Proofs.Query.Plain
import AuditTrail.Proofs.Sql.Vacuous
import AuditTrail.Proofs.Number.Rounding
import AuditTrail.Proofs.Number.Binary64
import AuditTrail.Proofs.Search.Pages
import AuditTrail.Proofs.Service.Window
import AuditTrail.Proofs.Sql.Fragment
import AuditTrail.Proofs.Calendar.RoundTrip
import AuditTrail.Proofs.Text.Utf8
import AuditTrail.Proofs.Text.Percent
import AuditTrail.Proofs.Connection.Locator
import AuditTrail.Proofs.Connection.Redaction
import AuditTrail.Proofs.Service.Disregard
import AuditTrail.Proofs.Service.Recall
import AuditTrail.Proofs.Http.Agreement
import AuditTrail.Proofs.Connection.Precedence
import AuditTrail.Proofs.Log.Threshold
import AuditTrail.Proofs.Log.Shared
import AuditTrail.Proofs.Service.Lifecycle
import AuditTrail.Proofs.Log.Openings
import AuditTrail.Proofs.SearchPath
