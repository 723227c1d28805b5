import BookmarkHub.Connection.Endpoint
import BookmarkHub.Hub.Handler
import BookmarkHub.Json.Reader
import BookmarkHub.Main
import BookmarkHub.Session.ClientSession
import BookmarkHub.Session.HubSession
import BookmarkHub.Session.LoopSession
import BookmarkHub.Settings.File
import BookmarkHub.SignIn.Login
import BookmarkHub.SignIn.Client
import BookmarkHub.Socket.Address
import BookmarkHub.Socket.Message
import BookmarkHub.Wire.HubCommand
import BookmarkHub.Wire.SurfaceCommand
import BookmarkHub.Proofs.Table
import BookmarkHub.Proofs.Connection.History
import BookmarkHub.Proofs.Connection.Coherence
import BookmarkHub.Proofs.Connection.Accounts
import BookmarkHub.Proofs.Connection.Order
import BookmarkHub.Proofs.Connection.Phases
import BookmarkHub.Proofs.Hub.Answers
import BookmarkHub.Proofs.Connection.Attempts
import BookmarkHub.Proofs.Connection.Orderly
import BookmarkHub.Proofs.Connection.Carriage
import BookmarkHub.Proofs.Connection.Moments
import BookmarkHub.Proofs.Connection.Answered
import BookmarkHub.Proofs.Connection.Wakeups
import BookmarkHub.Proofs.Hub.Events
import BookmarkHub.Proofs.Hub.Ownership
import BookmarkHub.Proofs.Hub.Isolation
import BookmarkHub.Proofs.Hub.Windows
import BookmarkHub.Proofs.Hub.Holders
import BookmarkHub.Proofs.Hub.Tabs
import BookmarkHub.Proofs.Connection.Notices
import BookmarkHub.Proofs.Hub.BridgeCalls
import BookmarkHub.Proofs.Connection.Closing
import BookmarkHub.Proofs.Hub.Custody
import BookmarkHub.Proofs.Hub.Succession
import BookmarkHub.Proofs.Hub.Rejections
import BookmarkHub.Proofs.Hub.Shutdown
import BookmarkHub.Proofs.Hub.Landing
import BookmarkHub.Proofs.Hub.Strandings
import BookmarkHub.Proofs.Json.Values
import BookmarkHub.Proofs.Json.Reading
import BookmarkHub.Proofs.Json.Tokens
import BookmarkHub.Proofs.Json.Documents
import BookmarkHub.Proofs.Json.Records
import BookmarkHub.Proofs.Json.Shapes
import BookmarkHub.Proofs.Wire.Envelopes
import BookmarkHub.Proofs.Wire.Commands
import BookmarkHub.Proofs.Operation.Data
import BookmarkHub.Proofs.Operation.Calls
import BookmarkHub.Proofs.Hub.DirectCalls
import BookmarkHub.Proofs.SignIn.Logins
import BookmarkHub.Proofs.Connection.Agenda
import BookmarkHub.Proofs.Connection.Pacing
import BookmarkHub.Proofs.Connection.Punctual
import BookmarkHub.Proofs.Hub.Refusals
import BookmarkHub.Proofs.Operation.Requests
import BookmarkHub.Proofs.Json.Indented
import BookmarkHub.Proofs.Settings.Saving
import BookmarkHub.Proofs.Connection.Spans
import BookmarkHub.Proofs.Connection.Backoff
import BookmarkHub.Proofs.Connection.Retries
import BookmarkHub.Proofs.Text.FormUrlencoded
import BookmarkHub.Proofs.Page.Addresses
import BookmarkHub.Proofs.Page.Roster
import BookmarkHub.Proofs.SignIn.Stores
import BookmarkHub.Proofs.Settings.Loading
import BookmarkHub.Proofs.Connection.Spacing
import BookmarkHub.Proofs.Socket.Messages
import BookmarkHub.Proofs.Socket.Redaction
import BookmarkHub.Proofs.Operation.Arguments
import BookmarkHub.Proofs.CommandLine.Delivery
import BookmarkHub.Proofs.CommandLine.Queries
