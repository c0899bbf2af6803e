import Parley.Calendar.Date
import Parley.Calendar.Instant
import Parley.Calendar.Timestamp
import Parley.CommandLine.Help
import Parley.CommandLine.Options
import Parley.CommandLine.Parser
import Parley.Config.Basic
import Parley.Config.Check
import Parley.Config.Document
import Parley.Config.Environment
import Parley.Config.Load
import Parley.Config.Template
import Parley.Decimal.Binary
import Parley.Decimal.Shortest
import Parley.Digest.Sha256
import Parley.Error
import Parley.Event.Announcement
import Parley.Event.Body
import Parley.Event.Bus
import Parley.Event.Payload
import Parley.Filter.Basic
import Parley.Filter.Links
import Parley.Filter.Runs
import Parley.Filter.Words
import Parley.Flow.Basic
import Parley.Flow.Course
import Parley.Flow.Outage
import Parley.Flow.Request
import Parley.Guild.Advancement
import Parley.Guild.Basic
import Parley.Guild.Progression
import Parley.Host.Basic
import Parley.Host.File
import Parley.Host.Folder
import Parley.Host.Model
import Parley.Host.Path
import Parley.Host.Variables
import Parley.Json.Basic
import Parley.Json.Decoder
import Parley.Json.Parser
import Parley.Json.Printer
import Parley.Listener.Basic
import Parley.Listener.Handler
import Parley.Listener.Recorder
import Parley.Log.Basic
import Parley.Log.Directive
import Parley.Log.Filter
import Parley.Log.Pattern
import Parley.Main
import Parley.Metric
import Parley.Moderation.Administration
import Parley.Moderation.Ban
import Parley.Moderation.Report
import Parley.Moderation.Rules
import Parley.Moderation.Screening
import Parley.Net.Address
import Parley.Net.SocketAddress
import Parley.Notice.Fanout
import Parley.Notice.Inbox
import Parley.Notice.Kind
import Parley.Notice.Notification
import Parley.Notice.Preferences
import Parley.Program.Migrate
import Parley.Program.Run
import Parley.Program.Serve
import Parley.Program.Settings
import Parley.Redis.Address
import Parley.Redis.Client
import Parley.Redis.Command
import Parley.Redis.Server
import Parley.Remote.Basic
import Parley.Remote.Service
import Parley.Session.Basic
import Parley.Session.Lifecycle
import Parley.Sql.Ban
import Parley.Sql.Basic
import Parley.Sql.Guild
import Parley.Sql.Migration
import Parley.Sql.Notice
import Parley.Sql.Preferences
import Parley.Sql.Report
import Parley.Sql.Script
import Parley.Store.Basic
import Parley.Store.Counters
import Parley.Store.Table
import Parley.Text.Blank
import Parley.Text.Digit
import Parley.Text.Glob
import Parley.Text.Letter.Case
import Parley.Text.Letter.Mark
import Parley.Text.Letter.Range
import Parley.Text.Letter.Unassigned
import Parley.Text.Letter.Word
import Parley.Text.Markup
import Parley.Text.Quoted
import Parley.Text.Utf8
import Parley.Toml.Basic
import Parley.Toml.Decoder
import Parley.Toml.Number
import Parley.Toml.Parser
import Parley.Toml.Quoted
import Parley.Toml.Table
import Parley.Url.Basic
import Parley.Url.HostName
import Parley.Url.HostName.Composition
import Parley.Url.HostName.Direction
import Parley.Url.HostName.Ideograph
import Parley.Url.HostName.Joiner
import Parley.Url.HostName.Letter
import Parley.Url.HostName.Symbol
import Parley.Url.Punycode
import Parley.Url.Query
import Parley.Uuid
import Parley.Word
import Parley.Proofs.Filter.Links
import Parley.Proofs.Filter.Occurrence
import Parley.Proofs.Filter.Runs
import Parley.Proofs.Filter.Shouting
import Parley.Proofs.Filter.Violation
import Parley.Proofs.Letter.Case
import Parley.Proofs.Filter.Masking
import Parley.Proofs.Filter.Lowering
import Parley.Proofs.Filter.Reappearance
import Parley.Proofs.Filter.LinkParts
import Parley.Proofs.Filter.Delinking
import Parley.Proofs.Filter.LoweredLinks
import Parley.Proofs.Filter.Leftover
import Parley.Proofs.Flow.Steps
import Parley.Proofs.Store.Table
import Parley.Proofs.Store.Counters
import Parley.Proofs.Store.Periods
import Parley.Proofs.Moderation.Standing
import Parley.Proofs.Moderation.Conduct
import Parley.Proofs.Moderation.Mirroring
import Parley.Proofs.Moderation.Isolation
import Parley.Proofs.Flow.Trace
import Parley.Proofs.Moderation.Journal
import Parley.Proofs.Store.Newest
import Parley.Proofs.Moderation.Filing
import Parley.Proofs.Moderation.Ledger
import Parley.Proofs.Moderation.Silencing
import Parley.Proofs.Moderation.Spam
import Parley.Proofs.Moderation.Violations
import Parley.Proofs.Moderation.Escalation
import Parley.Proofs.Moderation.Uniqueness
import Parley.Proofs.Moderation.Sentencing
import Parley.Proofs.Refusal
import Parley.Proofs.Flow.Interleaving
import Parley.Proofs.Moderation.Reporting
import Parley.Proofs.Moderation.Contest
import Parley.Proofs.Moderation.Resolution
import Parley.Proofs.Notice.Marking
import Parley.Proofs.Session.Flows
import Parley.Proofs.Session.Sending
import Parley.Proofs.Listener.Deeds
import Parley.Proofs.Listener.Reading
import Parley.Proofs.Listener.Hearing
import Parley.Proofs.Text.Glob
import Parley.Proofs.Text.Language
import Parley.Proofs.Json.Printed
import Parley.Proofs.Listener.Echo
import Parley.Proofs.Listener.Circulation
import Parley.Proofs.Session.Calm
import Parley.Proofs.Notice.Fanning
import Parley.Proofs.Guild.Advancing
import Parley.Proofs.Listener.Posting
import Parley.Proofs.Listener.Subscription
import Parley.Proofs.Listener.Confluence
import Parley.Proofs.Guild.Gaining
import Parley.Proofs.Guild.Rising
import Parley.Proofs.Json.Members
import Parley.Proofs.Event.Fields
import Parley.Proofs.Notice.Asking
import Parley.Proofs.Notice.Classing
import Parley.Proofs.Store.Visits
import Parley.Proofs.Moderation.Accounts
import Parley.Proofs.Event.Delivery
import Parley.Proofs.Filter.Escaping
import Parley.Proofs.Filter.Relowering
import Parley.Proofs.Filter.Entities
import Parley.Proofs.Config.Fields
import Parley.Proofs.Config.Precedence
import Parley.Proofs.Config.EarlyLogging
import Parley.Proofs.Session.Stopping
import Parley.Proofs.Session.Phases
import Parley.Proofs.Session.Lifetime
import Parley.Proofs.Store.Paging
import Parley.Proofs.Guild.Searching
import Parley.Proofs.Notice.Channels
import Parley.Proofs.Store.Deadlines
import Parley.Proofs.Text.Parts
import Parley.Proofs.Filter.Nesting
import Parley.Proofs.Net.Address
import Parley.Proofs.Url.Reading
import Parley.Proofs.Url.Masking
