import StubServer.Http.Exchange
import StubServer.Http.Server
import StubServer.Launch
import StubServer.Main
import StubServer.Text.Uuid
import StubServer.Proofs.Dictionary
import StubServer.Proofs.Matcher.Compile
import StubServer.Proofs.Matcher.Method
import StubServer.Proofs.Index.Register
import StubServer.Proofs.Index.Snapshot
import StubServer.Proofs.Index.Tracking
import StubServer.Proofs.Index.Lookup
import StubServer.Proofs.Store.Call
import StubServer.Proofs.Engine.Plan
import StubServer.Proofs.Engine.Call
import StubServer.Proofs.Engine.Keyed
import StubServer.Proofs.Engine.Sync
import StubServer.Proofs.Engine.Shadowing
import StubServer.Proofs.Engine.Activation
import StubServer.Proofs.Engine.Service
import StubServer.Proofs.Engine.Failure
import StubServer.Proofs.Engine.Publication
import StubServer.Proofs.Text.Decimal
import StubServer.Proofs.Json.Lexeme
import StubServer.Proofs.Json.Source
import StubServer.Proofs.Rule.Field
import StubServer.Proofs.Json.Layout
import StubServer.Proofs.Rule.RoundTrip
import StubServer.Proofs.Except
import StubServer.Proofs.Timestamp.Reading
import StubServer.Proofs.Rule.Reading
import StubServer.Proofs.Store.File
import StubServer.Proofs.Store.WriteThrough
import StubServer.Proofs.Http.Listing
import StubServer.Proofs.Store.Numbering
import StubServer.Proofs.Index.Answer
import StubServer.Proofs.Index.Reloading
import StubServer.Proofs.Engine.Repair
import StubServer.Proofs.Engine.Interference
import StubServer.Proofs.Engine.WriteThrough
import StubServer.Proofs.Engine.Restart
import StubServer.Proofs.Store.Reopening
import StubServer.Proofs.Store.Refinement
import StubServer.Proofs.Engine.Identity
import StubServer.Proofs.Engine.Takeover
import StubServer.Proofs.Engine.Contract
import StubServer.Proofs.Engine.Batch
import StubServer.Proofs.Engine.Seeding
import StubServer.Proofs.Engine.Fitness
import StubServer.Proofs.Http.Delivery
import StubServer.Proofs.Text.Integer
import StubServer.Proofs.Text.Split
import StubServer.Proofs.Engine.Caching
import StubServer.Proofs.Rule.Validation
import StubServer.Proofs.Http.Content
import StubServer.Proofs.Settings.Override
import StubServer.Proofs.Http.Routing
import StubServer.Proofs.Http.Administration
import StubServer.Proofs.Metrics
import StubServer.Proofs.Matcher.Lookups
import StubServer.Proofs.Engine.Accounting
import StubServer.Proofs.Regex.Matching
import StubServer.Proofs.Regex.Language
import StubServer.Proofs.Regex.Reading
import StubServer.Proofs.Regex.Locality.Escape
import StubServer.Proofs.Regex.Locality.Opening
import StubServer.Proofs.Regex.Locality.Bracket
import StubServer.Proofs.Regex.Locality.Sequence
import StubServer.Proofs.Regex.Anchoring
import StubServer.Proofs.Matcher.Template
import StubServer.Proofs.Matcher.Containing
import StubServer.Proofs.Matcher.Body
import StubServer.Proofs.Matcher.Rejection
import StubServer.Proofs.Store.Crash
import StubServer.Proofs.Text.Utf8
import StubServer.Proofs.Http.Upkeep
import StubServer.Proofs.Http.PutBack
import StubServer.Proofs.Json.Number
import StubServer.Proofs.Json.Spelling
import StubServer.Proofs.Json.Members
import StubServer.Proofs.Json.Containment
import StubServer.Proofs.Json.RoundTrip
import StubServer.Proofs.Binary64
import StubServer.Proofs.Matcher.Doubling
import StubServer.Proofs.Matcher.Document
import StubServer.Proofs.Text.FormEncoding
import StubServer.Proofs.Request
import StubServer.Proofs.Index.Reordering
import StubServer.Proofs.Matcher.Field
import StubServer.Proofs.Json.Reading.Word
import StubServer.Proofs.Json.Reading.Value
import StubServer.Proofs.Json.Reader
import StubServer.Proofs.Json.Skipping.Word
import StubServer.Proofs.Json.Skipping.Value
import StubServer.Proofs.Rule.Member
import StubServer.Proofs.Rule.Inline
import StubServer.Proofs.Index.Extension
import StubServer.Proofs.Store.Loading
import StubServer.Proofs.Unicode.Casing
import StubServer.Proofs.Engine.Search
import StubServer.Proofs.Engine.Idempotence
import StubServer.Proofs.Regex.Accounting
import StubServer.Proofs.Http.Query
import StubServer.Proofs.Index.Coherence
