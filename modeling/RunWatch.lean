import RunWatch.Artifact
import RunWatch.Catalog
import RunWatch.Config
import RunWatch.Control
import RunWatch.Event
import RunWatch.Json.Basic
import RunWatch.Json.Draft
import RunWatch.Json.Printer
import RunWatch.Json.Token
import RunWatch.Ledger
import RunWatch.Links
import RunWatch.Metrics
import RunWatch.Net.Address
import RunWatch.Net.Authority
import RunWatch.Net.Domain
import RunWatch.Net.Domain.Spelling
import RunWatch.Net.Host
import RunWatch.Net.Url
import RunWatch.Net.Url.Path
import RunWatch.Number.Binary64
import RunWatch.Number.Numeral
import RunWatch.Number.Shortest
import RunWatch.Preview
import RunWatch.Proofs.LastMatch
import RunWatch.Proofs.Ledger.Growth
import RunWatch.Proofs.Ledger.History
import RunWatch.Proofs.Ledger.Identity
import RunWatch.Proofs.Ledger.Indexes
import RunWatch.Proofs.Ledger.Interleaving
import RunWatch.Proofs.Ledger.Locality
import RunWatch.Proofs.Ledger.Matching
import RunWatch.Proofs.Ledger.OpenTable
import RunWatch.Proofs.Ledger.Payload
import RunWatch.Proofs.Ledger.Recorded
import RunWatch.Proofs.Ledger.Runs
import RunWatch.Proofs.Ledger.Summaries
import RunWatch.Proofs.Ledger.Tables
import RunWatch.Proofs.Links
import RunWatch.Proofs.Scope
import RunWatch.Proofs.Session.Batches
import RunWatch.Proofs.Session.Calls
import RunWatch.Proofs.Session.Freshness
import RunWatch.Proofs.Session.Log
import RunWatch.Proofs.Tree
import RunWatch.Proofs.Tree.Nesting
import RunWatch.Proofs.View.Coverage
import RunWatch.Proofs.View.Digest
import RunWatch.Proofs.View.Isolation
import RunWatch.Proofs.View.Limits
import RunWatch.Proofs.View.Reach
import RunWatch.Proofs.View.Root
import RunWatch.Run
import RunWatch.Scope
import RunWatch.Service.Command
import RunWatch.Service.Fault
import RunWatch.Service.Handle
import RunWatch.Service.MediaType
import RunWatch.Service.Request
import RunWatch.Service.Settings
import RunWatch.Service.Store
import RunWatch.Session
import RunWatch.Step
import RunWatch.Table
import RunWatch.Text.Blank
import RunWatch.Text.Canonical
import RunWatch.Text.CodeTable
import RunWatch.Text.Composite
import RunWatch.Text.Digits
import RunWatch.Text.Direction
import RunWatch.Text.Joining
import RunWatch.Text.Literal
import RunWatch.Text.Mark
import RunWatch.Text.Percent
import RunWatch.Text.Punycode
import RunWatch.Text.Split
import RunWatch.Time.Calendar
import RunWatch.Time.Instant
import RunWatch.Time.Rfc3339
import RunWatch.Time.Timestamp
import RunWatch.Tree
import RunWatch.View
import RunWatch.Wire.Config
import RunWatch.Wire.Control
import RunWatch.Wire.Document
import RunWatch.Wire.Event
import RunWatch.Wire.Fault
import RunWatch.Wire.Service
import RunWatch.Wire.Shape
import RunWatch.Wire.View
import RunWatch.Proofs.Session.Refusals
import RunWatch.Proofs.Service.Calls
import RunWatch.Proofs.Service.Outbox
import RunWatch.Proofs.Service.Streams
import RunWatch.Proofs.Service.Failures
import RunWatch.Proofs.Links.OwnParent
import RunWatch.Proofs.Links.Tables
import RunWatch.Proofs.Ledger.Resumption
import RunWatch.Proofs.View.Waiting
import RunWatch.Proofs.Text.Digits
import RunWatch.Proofs.Time.Calendar
import RunWatch.Proofs.Time.Rfc3339
import RunWatch.Proofs.Json.Members
import RunWatch.Proofs.Wire.Shape
import RunWatch.Proofs.Wire.Event
import RunWatch.Proofs.Ledger.Redelivery
import RunWatch.Proofs.View.Agreement
import RunWatch.Proofs.Session.Course
import RunWatch.Proofs.Ledger.Padding
import RunWatch.Proofs.View.Padding
import RunWatch.Proofs.Ledger.Recognition
import RunWatch.Proofs.Ledger.Collapse
import RunWatch.Proofs.FirstHit
import RunWatch.Proofs.Details
import RunWatch.Proofs.Preview
import RunWatch.Proofs.Wire.Nulls
import RunWatch.Proofs.Session.Expansion
import RunWatch.Proofs.Tree.Order
import RunWatch.Proofs.Artifact.Retrieval
import RunWatch.Proofs.Number.Binary64
import RunWatch.Proofs.Time.Counts
import RunWatch.Proofs.Text.Percent
import RunWatch.Proofs.Text.Canonical
import RunWatch.Proofs.Net.Path
import RunWatch.Proofs.Net.Domain
import RunWatch.Proofs.Net.Authority
import RunWatch.Proofs.Net.Url
import RunWatch.Proofs.Artifact.Address
