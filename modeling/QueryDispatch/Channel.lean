import QueryDispatch.Settings
import QueryDispatch.Tally
import QueryDispatch.Trace

/-!
# Dispatch on a channel

What a channel makes of one received item. `judge` decides; everything that follows, the outcome,
the events, the counting and what becomes of the chance to answer, is read off its verdict and does
not depend on the transport.

A reply, where there is one, comes after everything else, so a dispatch is the events of its verdict
followed by at most one reply, and the two can be treated one after the other.
-/

namespace QueryDispatch

/-- One of the two channels, as it is served. -/
structure Channel where
  security : Security
  /-- Whether every query is logged. -/
  verbose : Bool := false
  /-- Whether logs hide the peers. -/
  redactRoutes : Bool := false
  registry : Registry (Handler Binding) := .empty

/-- What is to be done about a received item. -/
inductive Verdict where
  /-- The session is over. -/
  | stopped
  /-- There was no query in it. -/
  | rejected (message : MalformedRequest)
  /-- Nobody handles the query. -/
  | unknown (request : Request)
  | accepted (handler : Handler Binding) (request : Request)
  deriving DecidableEq

namespace Verdict

/-- What is counted for a verdict. -/
def outcome : Verdict → Outcome
  | .stopped => .stopped
  | .rejected _ => .malformed
  | .unknown _ => .notFound
  | .accepted .. => .dispatched

/-- Whether a handler asks the workers to stop. -/
def stops : Verdict → Bool
  | .accepted handler _ => handler.stops
  | _ => false

/-- What becomes of the chance to answer. Without a handler, the dispatcher uses it itself, unless
there is no one to answer. -/
def completion : Verdict → Completion
  | .stopped => .dropped
  | .rejected m => .answered (.malformed m)
  | .unknown r => .answered (.notFound r)
  | .accepted handler r => handler.completion r

end Verdict

namespace Channel

/-- A channel as settings ask for it. -/
def ofSettings (s : Settings) (security : Security) (registry : Registry (Handler Binding)) :
    Channel where
  security
  verbose := s.verbose
  redactRoutes := s.redactRoutes
  registry

/-- The text that stands for every peer when peers are hidden. -/
def redactedPeer : String := "[redacted]"

/-- The text a peer is shown by in the log. -/
def showPeer (c : Channel) (r : Route) : String :=
  if c.redactRoutes then redactedPeer else r.display

/-- Decides about a received item. -/
def judge (c : Channel) : Received → Verdict
  | .fault .serviceStopped => .stopped
  | .fault cause => .rejected (.unreadable cause)
  | .message frames =>
    match Request.decode c.security frames with
    | .error m => .rejected m
    | .ok r =>
      match c.registry.get? r.command with
      | none => .unknown r
      | some handler => .accepted handler r

/-- The chance to answer message `number`, whose query is `r`. -/
def ticket (c : Channel) (number : Nat) (r : Request) : Ticket := ⟨number, c.security, r⟩

/-- What happens on a verdict before the reply. -/
def events (c : Channel) (number : Nat) : Verdict → Trace
  | .stopped => []
  | .rejected m => [.noted (.rejected c.security (c.showPeer m.route) m.error)]
  | .unknown r => [.noted (.unknownCommand c.security (c.showPeer r.route) r.command)]
  | .accepted handler r =>
    (if c.verbose then [.noted (.query c.security (c.showPeer r.route) r.command)] else []) ++
      [.invoked (handler.map Binding.number) (c.ticket number r)]

/-- What the log says of a reply the transport refused. The end of the session is no fault, and
nothing is said of it. -/
def refusalNotices (c : Channel) (response : Response) : Refusal → List Notice
  | none => []
  | some .serviceStopped => []
  | some cause =>
    [.replyFailed c.security (c.showPeer response.route) response.command cause]

end Channel

/-- A channel at work: what it has counted, and how many items it has received. -/
structure Dispatcher where
  channel : Channel
  /-- The number of the next item. -/
  arrivals : Nat := 0
  tally : Tally := {}

namespace Dispatcher

/-- Takes note of a verdict. -/
def absorb (d : Dispatcher) (v : Verdict) : Dispatcher :=
  { d with arrivals := d.arrivals + 1, tally := d.tally.count v.outcome }

/-- Takes note of what the transport said to a reply. -/
def settle (d : Dispatcher) (refusal : Refusal) : Dispatcher :=
  { d with tally := d.tally.settle refusal }

end Dispatcher

end QueryDispatch
