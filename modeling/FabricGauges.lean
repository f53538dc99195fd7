import FabricGauges.Address.Ip
import FabricGauges.Address.Socket
import FabricGauges.Certificate.Calendar
import FabricGauges.Certificate.Chain
import FabricGauges.Certificate.Der
import FabricGauges.Certificate.Expiry
import FabricGauges.Certificate.Pem
import FabricGauges.Certificate.Section
import FabricGauges.Client.Addressing
import FabricGauges.Client.Basic
import FabricGauges.Client.Exchange
import FabricGauges.Client.Retry
import FabricGauges.Cycle.Basic
import FabricGauges.Cycle.Error
import FabricGauges.Cycle.Join
import FabricGauges.Cycle.Script
import FabricGauges.Decimal.Double
import FabricGauges.Decimal.Layout
import FabricGauges.Decimal.Scaled
import FabricGauges.Decimal.Shortest
import FabricGauges.Document.Basic
import FabricGauges.Document.Decode
import FabricGauges.Document.Draft
import FabricGauges.Document.Encode
import FabricGauges.Document.Fault
import FabricGauges.Document.Shape
import FabricGauges.Endpoint.Response
import FabricGauges.Endpoint.Route
import FabricGauges.Endpoint.Server
import FabricGauges.Filter
import FabricGauges.Gauge.Board
import FabricGauges.Gauge.Exposition
import FabricGauges.Gauge.Series
import FabricGauges.Http.Message
import FabricGauges.Json.Basic
import FabricGauges.Json.Dialect
import FabricGauges.Json.Draft
import FabricGauges.Json.Malformed
import FabricGauges.Json.Printer
import FabricGauges.Json.Sorted
import FabricGauges.Json.Token
import FabricGauges.Json5.Draft
import FabricGauges.Json5.Literal
import FabricGauges.Json5.Token
import FabricGauges.Launch.Arguments
import FabricGauges.Launch.Basic
import FabricGauges.Launch.Exporter
import FabricGauges.Listing.Walk
import FabricGauges.Log.Event
import FabricGauges.Log.Line
import FabricGauges.Main
import FabricGauges.Manager.Balancer
import FabricGauges.Manager.Cluster
import FabricGauges.Manager.Error
import FabricGauges.Manager.Gateway
import FabricGauges.Manager.Node
import FabricGauges.Manager.Page
import FabricGauges.Manager.Request
import FabricGauges.Metric.Balancer
import FabricGauges.Metric.Basic
import FabricGauges.Metric.Gateway
import FabricGauges.Metric.Node
import FabricGauges.Metric.Reset
import FabricGauges.Metric.Sample
import FabricGauges.Metric.Value
import FabricGauges.Proofs.Certificate.Chain
import FabricGauges.Proofs.Certificate.Concatenation
import FabricGauges.Proofs.Checks
import FabricGauges.Proofs.Client.Addressing
import FabricGauges.Proofs.Client.Base
import FabricGauges.Proofs.Client.Cursors
import FabricGauges.Proofs.Client.Identifiers
import FabricGauges.Proofs.Client.Repetition
import FabricGauges.Proofs.Client.Segments
import FabricGauges.Proofs.Cycle.Accepted
import FabricGauges.Proofs.Cycle.Certificates
import FabricGauges.Proofs.Cycle.Completion
import FabricGauges.Proofs.Cycle.Join
import FabricGauges.Proofs.Cycle.Listed
import FabricGauges.Proofs.Cycle.Members
import FabricGauges.Proofs.Cycle.Order
import FabricGauges.Proofs.Cycle.Progress
import FabricGauges.Proofs.Cycle.Record
import FabricGauges.Proofs.Cycle.Reports
import FabricGauges.Proofs.Cycle.Stages
import FabricGauges.Proofs.Cycle.Turn
import FabricGauges.Proofs.Decimal.Digits
import FabricGauges.Proofs.Decimal.Natural
import FabricGauges.Proofs.Decimal.Rounding
import FabricGauges.Proofs.Decimal.Scaled
import FabricGauges.Proofs.Decimal.Shortest
import FabricGauges.Proofs.Document.Edits
import FabricGauges.Proofs.Document.Members
import FabricGauges.Proofs.Document.Nesting
import FabricGauges.Proofs.Document.Readable
import FabricGauges.Proofs.Document.Regular
import FabricGauges.Proofs.Document.RoundTrip
import FabricGauges.Proofs.Document.Text
import FabricGauges.Proofs.Endpoint.Pattern
import FabricGauges.Proofs.Endpoint.Serving
import FabricGauges.Proofs.Exposition.Board
import FabricGauges.Proofs.Exposition.Grammar
import FabricGauges.Proofs.Exposition.Lines
import FabricGauges.Proofs.Exposition.Number
import FabricGauges.Proofs.Exposition.Verbatim
import FabricGauges.Proofs.Gauge.Family
import FabricGauges.Proofs.Gauge.Overlay
import FabricGauges.Proofs.Http.Target
import FabricGauges.Proofs.Json.Lexing
import FabricGauges.Proofs.Json.Numeral
import FabricGauges.Proofs.Json.Path
import FabricGauges.Proofs.Json.Rereading
import FabricGauges.Proofs.Json.Tree
import FabricGauges.Proofs.Launch.Override
import FabricGauges.Proofs.Launch.Running
import FabricGauges.Proofs.Listing.Chain
import FabricGauges.Proofs.Listing.Pages
import FabricGauges.Proofs.Listing.Trace
import FabricGauges.Proofs.Metric.Arrangement
import FabricGauges.Proofs.Metric.Certificates
import FabricGauges.Proofs.Metric.Draws
import FabricGauges.Proofs.Metric.Entries
import FabricGauges.Proofs.Metric.Filter
import FabricGauges.Proofs.Metric.Identity
import FabricGauges.Proofs.Metric.LabelTuples
import FabricGauges.Proofs.Metric.Meaning
import FabricGauges.Proofs.Metric.Provenance
import FabricGauges.Proofs.Metric.Quantities
import FabricGauges.Proofs.Metric.Series
import FabricGauges.Proofs.Metric.Subject
import FabricGauges.Proofs.Metric.Texts
import FabricGauges.Proofs.Record.Index
import FabricGauges.Proofs.Scraper.Abandonment
import FabricGauges.Proofs.Scraper.AllowLists
import FabricGauges.Proofs.Scraper.Calls
import FabricGauges.Proofs.Scraper.Chronicle
import FabricGauges.Proofs.Scraper.Coherence
import FabricGauges.Proofs.Scraper.History
import FabricGauges.Proofs.Scraper.Notices
import FabricGauges.Proofs.Scraper.Schedule
import FabricGauges.Proofs.Scraper.Shown
import FabricGauges.Proofs.Script.Discipline
import FabricGauges.Proofs.Script.Fetch
import FabricGauges.Proofs.Script.Manager
import FabricGauges.Proofs.Script.Parts
import FabricGauges.Proofs.Script.Protocol
import FabricGauges.Proofs.Script.Trace
import FabricGauges.Proofs.Settings.Validity
import FabricGauges.Proofs.Text.Form
import FabricGauges.Proofs.Text.Percent
import FabricGauges.Proofs.Text.Pieces
import FabricGauges.Proofs.Url.Authority
import FabricGauges.Proofs.Url.Origin
import FabricGauges.Proofs.Url.Path
import FabricGauges.Proofs.Url.Query
import FabricGauges.Proofs.Url.Visible
import FabricGauges.Proofs.Url.Weight
import FabricGauges.Record.Basic
import FabricGauges.Record.Index
import FabricGauges.Record.Key
import FabricGauges.Scraper.Basic
import FabricGauges.Settings.Basic
import FabricGauges.Settings.Connection
import FabricGauges.Settings.Credentials
import FabricGauges.Settings.File
import FabricGauges.Settings.Load
import FabricGauges.Text.Base64
import FabricGauges.Text.Blank
import FabricGauges.Text.Bytes
import FabricGauges.Text.Letters
import FabricGauges.Text.Percent
import FabricGauges.Text.Pieces
import FabricGauges.Text.Quoted
import FabricGauges.Text.Unprintable
import FabricGauges.Url.Authority
import FabricGauges.Url.Basic
import FabricGauges.Url.Foreign
import FabricGauges.Url.Host
import FabricGauges.Url.Punycode
