import Vussa.Lib.Run
import Vussa.Lib.SortedSet
import Vussa.Lib.Timeline
import Vussa.Lib.Effect
import Vussa.Lib.Join
import Vussa.Lib.ReadCommitted
import Vussa.Lib.Broadcast
import Vussa.Lib.Tokens
import Vussa.Lib.Unique
import Vussa.Lib.Holders
import Vussa.Lib.Cascade
import Vussa.Model.Types
import Vussa.Model.Database
import Vussa.Model.Messages
import Vussa.Model.HotHistory
import Vussa.Model.Backend
import Vussa.Model.Text
import Vussa.Model.Channels
import Vussa.Model.Handler
import Vussa.Model.Requests
import Vussa.Model.Server
import Vussa.Model.Writes
import Vussa.History.Paging
import Vussa.History.CacheAgreement
import Vussa.History.Served
import Vussa.History.Retention
import Vussa.Messages.View
import Vussa.Messages.Reactions
import Vussa.Messages.Redaction
import Vussa.Outbox.Model
import Vussa.Outbox.Delivery
import Vussa.Outbox.Claims
import Vussa.Outbox.Attempts
import Vussa.Sockets.Refusal
import Vussa.Sockets.SessionEnd
import Vussa.Sockets.Access
import Vussa.Sockets.Switch
import Vussa.Sockets.Forwarding
import Vussa.Client.Page
import Vussa.Client.InFlight
import Vussa.Client.Composed
import Vussa.Rooms.Manager
import Vussa.Rooms.Counting
import Vussa.Rooms.Routing
import Vussa.Rooms.Frames
import Vussa.Access.Archived
import Vussa.Access.Banned
import Vussa.Access.Queries
import Vussa.Members.Model
import Vussa.Members.Statements
import Vussa.Members.Keys
import Vussa.Members.Ownership
import Vussa.Lib.Digits
import Vussa.Model.Identifiers
import Vussa.Members.Direct
import Vussa.Members.Links
import Vussa.Accounts.Model
import Vussa.Accounts.Deletion
import Vussa.Accounts.Administrators
import Vussa.Sessions.Index
import Vussa.Flow.Model
import Vussa.Flow.Rows
import Vussa.Flow.Retries
import Vussa.Flow.Resend
import Vussa.Flow.Cache
import Vussa.Flow.Joins
import Vussa.Flow.Pairs
import Vussa.Flow.Projection
import Vussa.History.ChannelNames
import Vussa.Notifications.Model
import Vussa.Notifications.Idempotency
import Vussa.Notifications.Delivery
import Vussa.Presence.Model
import Vussa.Presence.Tabs
import Vussa.Files.Model
import Vussa.Files.Cleanup
import Vussa.Auth.RateLimit
import Vussa.Auth.Flights
import Vussa.Accounts.Recovery
import Vussa.Lib.Readback
import Vussa.Messages.Convergence
import Vussa.Messages.ReadCursor
import Vussa.Lib.Faults
import Vussa.Failures.Services
import Vussa.Failures.Operations
import Vussa.Failures.Atomic
import Vussa.Failures.Audit
import Vussa.Sessions.Ownership
import Vussa.Sessions.Texts
import Vussa.Messages.Authors
import Vussa.Lib.Pages
import Vussa.Accounts.UserList
import Vussa.Messages.Search
import Vussa.Accounts.Identifiers
import Vussa.Rooms.Subscriptions
import Vussa.Messages.Mentions
import Vussa.Previews.PublicHost
import Vussa.Lib.Percent
import Vussa.Files.Names
import Vussa.Accounts.PasswordChange
import Vussa.Access.Revival
import Vussa.Notifications.Allowed
import Vussa.Accounts.Redemption
import Vussa.Lib.Html
import Vussa.Lib.Replace
import Vussa.Client.Highlight
import Vussa.Lib.Delimiters
import Vussa.Lib.Spans
import Vussa.Lib.CodePoints
import Vussa.Lib.UnicodeTables
import Vussa.Model.Characters
import Vussa.Model.Names
import Vussa.Access.StoredNames
import Vussa.Messages.Mentionable
import Vussa.Lib.Upsert
import Vussa.Messages.Drafts
import Vussa.History.StoredOrder
import Vussa.History.HotStore
import Vussa.History.HotReads
import Vussa.History.HasMore
import Vussa.History.Walks
import Vussa.History.Threads
import Vussa.Lib.Merge
import Vussa.Client.ChatState
import Vussa.Client.ReplyCount
import Vussa.Client.ThreadView
import Vussa.Lib.Nesting
import Vussa.Client.Markdown
import Vussa.Client.Emphasis
import Vussa.Client.Links
import Vussa.Sessions.Endings
import Vussa.Access.MainChannel
import Vussa.Lib.Json
import Vussa.Lib.Codec
import Vussa.Model.Wire
import Vussa.Lib.Simulation
import Vussa.Rooms.Payloads
import Vussa.Client.Frames
import Vussa.History.Log
import Vussa.Accounts.Rights
import Vussa.Sessions.Rights
import Vussa.Client.Completion
import Vussa.Accounts.Passwords
import Vussa.Messages.Bulk
import Vussa.Valkey.Models
