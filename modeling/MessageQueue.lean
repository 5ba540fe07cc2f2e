import MessageQueue.Bench.Loops
import MessageQueue.Bench.Summary
import MessageQueue.Client
import MessageQueue.Command.Grammar
import MessageQueue.Command.Invocation
import MessageQueue.Command.Output
import MessageQueue.Command.Run
import MessageQueue.Config
import MessageQueue.Database.ConnectOptions
import MessageQueue.Database.Error
import MessageQueue.Database.Row
import MessageQueue.Database.Server
import MessageQueue.Database.Setup
import MessageQueue.Database.Statement
import MessageQueue.Database.Store
import MessageQueue.Database.Url
import MessageQueue.Decimal.Binary
import MessageQueue.Decimal.Fixed
import MessageQueue.Decimal.Scaled
import MessageQueue.Decimal.Shortest
import MessageQueue.Error
import MessageQueue.Json.Datum
import MessageQueue.Json.Draft
import MessageQueue.Json.Printer
import MessageQueue.Json.Reader
import MessageQueue.Json.Token
import MessageQueue.Json.Value
import MessageQueue.Log
import MessageQueue.Message
import MessageQueue.Proofs.Retry.Attempts
import MessageQueue.Proofs.Store.History
import MessageQueue.Proofs.Store.Lifetime
import MessageQueue.Proofs.Store.Operations
import MessageQueue.Proofs.Store.Record
import MessageQueue.Proofs.Store.Visibility
import MessageQueue.Proofs.Client.Lease
import MessageQueue.Proofs.Store.Conservation
import MessageQueue.Proofs.Store.Delivery
import MessageQueue.Queue.Name
import MessageQueue.Queue.Options
import MessageQueue.Queue.Report
import MessageQueue.Rag.Agent
import MessageQueue.Rag.Document
import MessageQueue.Rag.Project
import MessageQueue.Rag.Request
import MessageQueue.Retry
import MessageQueue.Session
import MessageQueue.SortedMap
import MessageQueue.Store.Memory
import MessageQueue.Store.Queue
import MessageQueue.Store.Request
import MessageQueue.Store.Run
import MessageQueue.Text.Blank
import MessageQueue.Text.Integer
import MessageQueue.Text.Internet
import MessageQueue.Text.Octets
import MessageQueue.Text.Quoted
import MessageQueue.Text.Table
import MessageQueue.Text.Unprintable
import MessageQueue.Time.Calendar
import MessageQueue.Time.Duration
import MessageQueue.Time.Instant
import MessageQueue.Time.Rfc3339
import MessageQueue.Main
import MessageQueue.Proofs.Client.Operations
import MessageQueue.Proofs.Database.Exchanges
import MessageQueue.Proofs.Rag.Loading
import MessageQueue.Proofs.Json.Lexing
import MessageQueue.Proofs.Json.RoundTrip
import MessageQueue.Proofs.Database.Replies
import MessageQueue.Proofs.Database.Agreement
import MessageQueue.Proofs.Store.Separation
import MessageQueue.Proofs.Store.Lifecycle
import MessageQueue.Proofs.Store.Effects
import MessageQueue.Proofs.Client.Decoding
import MessageQueue.Proofs.Client.Draining
import MessageQueue.Proofs.Command.Settings
import MessageQueue.Proofs.Database.Installation
import MessageQueue.Proofs.Database.Statements
import MessageQueue.Proofs.Time.Calendar
import MessageQueue.Proofs.Time.Rfc3339
import MessageQueue.Proofs.Json.Records
import MessageQueue.Proofs.Json.Readings
import MessageQueue.Proofs.Interchange
import MessageQueue.Proofs.Store.Selection
import MessageQueue.Proofs.Store.Batches
import MessageQueue.Proofs.Store.Replacement
import MessageQueue.Proofs.Client.Replacement
import MessageQueue.Proofs.Store.Outages
import MessageQueue.Proofs.Store.Turnover
import MessageQueue.Proofs.Bench.Steps
import MessageQueue.Proofs.Bench.Benchmark
import MessageQueue.Proofs.Bench.Consumer
import MessageQueue.Proofs.Json.Controls
import MessageQueue.Proofs.Rag.Lines
import MessageQueue.Proofs.Rag.Files
import MessageQueue.Proofs.Time.Spans
import MessageQueue.Proofs.Store.Metrics
import MessageQueue.Proofs.Rag.Questions
import MessageQueue.Proofs.Rag.Tables
import MessageQueue.Proofs.Text.Numerals
import MessageQueue.Proofs.Configuration
import MessageQueue.Proofs.Secrets
import MessageQueue.Proofs.Database.Blame
import MessageQueue.Proofs.Command.Benchmarking
import MessageQueue.Proofs.Time.Ends
import MessageQueue.Proofs.Store.Overflow
import MessageQueue.Proofs.Client.Deeds
import MessageQueue.Proofs.Bench.Grouping
import MessageQueue.Proofs.Store.Commutation
import MessageQueue.Proofs.Identifiers
import MessageQueue.Proofs.Bench.Story
import MessageQueue.Proofs.Bench.Progress
