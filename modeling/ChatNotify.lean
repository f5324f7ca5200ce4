import ChatNotify.Cache.Backing
import ChatNotify.Cache.Basic
import ChatNotify.Cache.Event
import ChatNotify.Cache.Gates
import ChatNotify.Cache.Hook
import ChatNotify.Cache.Key
import ChatNotify.Cache.Layer
import ChatNotify.Cache.Plan
import ChatNotify.Cache.Settings
import ChatNotify.Cache.Shelf
import ChatNotify.Cache.Shelves
import ChatNotify.Cache.Together
import ChatNotify.Chat.Channel
import ChatNotify.Chat.Post
import ChatNotify.Chat.Preferences
import ChatNotify.Chat.Presence
import ChatNotify.Chat.User
import ChatNotify.Cluster.Bus
import ChatNotify.Cluster.BusyFlag
import ChatNotify.Cluster.BusyState
import ChatNotify.Digest.Entry
import ChatNotify.Digest.Flush
import ChatNotify.Digest.Queue
import ChatNotify.Digest.Verdict
import ChatNotify.Failure
import ChatNotify.Gate
import ChatNotify.Id
import ChatNotify.Journal
import ChatNotify.Json.Basic
import ChatNotify.Json.Reader
import ChatNotify.Json.Record
import ChatNotify.Json.Writer
import ChatNotify.Markup.Block
import ChatNotify.Markup.Delimiter
import ChatNotify.Markup.Document
import ChatNotify.Markup.Entity
import ChatNotify.Markup.Html
import ChatNotify.Markup.Inline
import ChatNotify.Markup.Line
import ChatNotify.Markup.Link
import ChatNotify.Markup.Node
import ChatNotify.Markup.Table
import ChatNotify.Mention.Keyword
import ChatNotify.Mention.Kind
import ChatNotify.Mention.Mentions
import ChatNotify.Mention.Scan
import ChatNotify.Notification.Eligibility
import ChatNotify.Notification.Naming
import ChatNotify.Notification.Plan
import ChatNotify.Notification.Policy
import ChatNotify.Notification.Service
import ChatNotify.Notification.Suggestion
import ChatNotify.Proofs.Cache.Archive
import ChatNotify.Proofs.Cache.Coherence
import ChatNotify.Proofs.Cache.Interleaving
import ChatNotify.Proofs.Cache.Invalidation
import ChatNotify.Proofs.Cache.LatestChange
import ChatNotify.Proofs.Cache.Lawful
import ChatNotify.Proofs.Cache.Rest
import ChatNotify.Proofs.Cache.Shelf
import ChatNotify.Proofs.Cache.Transparency
import ChatNotify.Proofs.Chat.PostList
import ChatNotify.Proofs.Mention.Kinds
import ChatNotify.Proofs.Notification.Recipients
import ChatNotify.Settings.Basic
import ChatNotify.Settings.Draft
import ChatNotify.Settings.Path
import ChatNotify.Settings.Source
import ChatNotify.Settings.Value
import ChatNotify.Store.Memory
import ChatNotify.Table
import ChatNotify.Telemetry.Filter
import ChatNotify.Telemetry.Level
import ChatNotify.Telemetry.Metric
import ChatNotify.Telemetry.Report
import ChatNotify.Telemetry.Startup
import ChatNotify.Text.Alphanumeric
import ChatNotify.Text.Blank
import ChatNotify.Text.CaseFold
import ChatNotify.Text.CodeRange
import ChatNotify.Text.Digits
import ChatNotify.Text.Lowercase
import ChatNotify.Text.Punctuation
import ChatNotify.Text.Search
import ChatNotify.Text.Shortest
import ChatNotify.Time.Calendar
import ChatNotify.Time.Instant
import ChatNotify.Time.Ticker
import ChatNotify.Time.Timeline
import ChatNotify.Time.Timestamp
import ChatNotify.Toml.Reader
import ChatNotify.Toml.Scalar
import ChatNotify.Toml.Tree
import ChatNotify.Wire.Cache
import ChatNotify.Wire.Chat
import ChatNotify.Wire.Reading
import ChatNotify.Wire.Settings
import ChatNotify.Word
import ChatNotify.Proofs.Mention.Findings
import ChatNotify.Proofs.Notification.Refusal
import ChatNotify.Proofs.Digest.Account
import ChatNotify.Proofs.Cluster.Node
import ChatNotify.Proofs.Cluster.TimedFlag
import ChatNotify.Proofs.Text.Digits
import ChatNotify.Proofs.Time.Calendar
import ChatNotify.Proofs.Time.Timestamp
import ChatNotify.Proofs.Json.Scalar
import ChatNotify.Proofs.Json.RoundTrip
import ChatNotify.Proofs.Cluster.Wire
import ChatNotify.Proofs.Cluster.Convergence
import ChatNotify.Proofs.Cache.Batching
import ChatNotify.Proofs.Journal
import ChatNotify.Proofs.Notification.Delivery
import ChatNotify.Proofs.Mention.Index
import ChatNotify.Proofs.Mention.Calls
import ChatNotify.Proofs.Mention.Buckets
import ChatNotify.Proofs.Notification.Permission
import ChatNotify.Proofs.Cache.Apart
import ChatNotify.Proofs.Cache.Line
import ChatNotify.Proofs.Cache.Sharing
import ChatNotify.Proofs.Cluster.Lossless
import ChatNotify.Proofs.Mention.Potential
import ChatNotify.Proofs.Notification.OptIn
import ChatNotify.Proofs.Time.Grammar
import ChatNotify.Proofs.Text.Splitting
import ChatNotify.Proofs.Text.LetterCase
import ChatNotify.Proofs.Text.Count
import ChatNotify.Proofs.Mention.Tags
import ChatNotify.Proofs.Digest.Verdict
import ChatNotify.Proofs.Notification.Outsiders
import ChatNotify.Proofs.Cache.Occupancy
import ChatNotify.Proofs.Cache.Failure
import ChatNotify.Proofs.Cache.Ledger
import ChatNotify.Proofs.Cache.Contents
import ChatNotify.Proofs.Chat.Preferences
import ChatNotify.Proofs.Mention.PlainWord
import ChatNotify.Proofs.Notification.FirstName
import ChatNotify.Proofs.Mention.LetterCase
import ChatNotify.Proofs.Markup.Fragments
import ChatNotify.Proofs.Cache.Succession
import ChatNotify.Proofs.Mention.Unresolved
import ChatNotify.Proofs.Mention.Combination
import ChatNotify.Proofs.Settings.Check
import ChatNotify.Proofs.Mention.History
import ChatNotify.Proofs.Notification.Contribution
