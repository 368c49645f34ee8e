import QueryDispatch.Bench
import QueryDispatch.Channel
import QueryDispatch.Environment
import QueryDispatch.Handler
import QueryDispatch.Hub.Basic
import QueryDispatch.Hub.Context
import QueryDispatch.Hub.Dealer
import QueryDispatch.Hub.Directory
import QueryDispatch.Hub.Operation
import QueryDispatch.Hub.Service
import QueryDispatch.Lifecycle
import QueryDispatch.Logging.Filter
import QueryDispatch.Logging.Setup
import QueryDispatch.Logging.Severity
import QueryDispatch.Message.Request
import QueryDispatch.Message.Response
import QueryDispatch.Message.Status
import QueryDispatch.Notice
import QueryDispatch.Proofs.Attribution
import QueryDispatch.Proofs.Dispatch
import QueryDispatch.Proofs.Environment
import QueryDispatch.Proofs.History
import QueryDispatch.Proofs.Hub.Addresses
import QueryDispatch.Proofs.Hub.Atomic
import QueryDispatch.Proofs.Hub.Coherent
import QueryDispatch.Proofs.Hub.Custody
import QueryDispatch.Proofs.Hub.Effect
import QueryDispatch.Proofs.Hub.Fate
import QueryDispatch.Proofs.Hub.Headroom
import QueryDispatch.Proofs.Hub.Lifetime
import QueryDispatch.Proofs.Hub.Part
import QueryDispatch.Proofs.Hub.Past
import QueryDispatch.Proofs.Hub.Replies
import QueryDispatch.Proofs.Hub.Requests
import QueryDispatch.Proofs.Hub.Separate
import QueryDispatch.Proofs.Hub.Standing
import QueryDispatch.Proofs.Hub.Waiting
import QueryDispatch.Proofs.Hub.Work
import QueryDispatch.Proofs.Hub.Yield
import QueryDispatch.Proofs.Independence
import QueryDispatch.Proofs.Lists
import QueryDispatch.Proofs.Message.Codec
import QueryDispatch.Proofs.Message.Recovery
import QueryDispatch.Proofs.Peer
import QueryDispatch.Proofs.Presentation
import QueryDispatch.Proofs.Published
import QueryDispatch.Proofs.Redaction
import QueryDispatch.Proofs.Registry
import QueryDispatch.Proofs.Reply.Content
import QueryDispatch.Proofs.Reply.Ledger
import QueryDispatch.Proofs.Reply.Once
import QueryDispatch.Proofs.Session.Account
import QueryDispatch.Proofs.Session.Books
import QueryDispatch.Proofs.Session.Channels
import QueryDispatch.Proofs.Session.Chronicle
import QueryDispatch.Proofs.Session.Growth
import QueryDispatch.Proofs.Session.Moves
import QueryDispatch.Proofs.Session.Operations
import QueryDispatch.Proofs.Session.Part
import QueryDispatch.Proofs.Session.PartStep
import QueryDispatch.Proofs.Session.Place
import QueryDispatch.Proofs.Session.Rest
import QueryDispatch.Proofs.Session.Rounds
import QueryDispatch.Proofs.Session.Served
import QueryDispatch.Proofs.Session.Side
import QueryDispatch.Proofs.Session.Silence
import QueryDispatch.Proofs.Session.Sound
import QueryDispatch.Proofs.Session.Touch
import QueryDispatch.Proofs.Session.Traffic
import QueryDispatch.Proofs.Session.Uneventful
import QueryDispatch.Proofs.Tally
import QueryDispatch.Proofs.Text
import QueryDispatch.Proofs.Wire.Hex
import QueryDispatch.Proofs.Wire.Utf8
import QueryDispatch.Proofs.Worker.Course
import QueryDispatch.Proofs.Worker.Farewell
import QueryDispatch.Proofs.Worker.Logging
import QueryDispatch.Proofs.Worker.Presentation
import QueryDispatch.Proofs.Worker.Redaction
import QueryDispatch.Proofs.Worker.Refinement
import QueryDispatch.Proofs.Worker.Security
import QueryDispatch.Proofs.Worker.Serve
import QueryDispatch.Proofs.Worker.SocketProtocol
import QueryDispatch.Proofs.Worker.Stop
import QueryDispatch.Proofs.Worker.Tally
import QueryDispatch.Registry
import QueryDispatch.Security
import QueryDispatch.Session.Basic
import QueryDispatch.Session.Step
import QueryDispatch.Session.Turn
import QueryDispatch.Settings
import QueryDispatch.Table
import QueryDispatch.Tally
import QueryDispatch.Text.Basic
import QueryDispatch.Text.Characters
import QueryDispatch.Trace
import QueryDispatch.Transport
import QueryDispatch.Vocabulary
import QueryDispatch.Wire.Bytes
import QueryDispatch.Wire.Hex
import QueryDispatch.Wire.Word
import QueryDispatch.Worker.Exit
import QueryDispatch.Worker.Scripted
