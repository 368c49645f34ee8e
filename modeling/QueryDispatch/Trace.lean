import QueryDispatch.Handler
import QueryDispatch.Lifecycle
import QueryDispatch.Notice

/-!
# Traces

What happened, in order. A trace is the full history of a dispatcher or a worker: what reached the
transport and the log, which handlers ran, which stages were entered, and when a stop was first
asked for. Statements about the order of things are statements about traces.

Messages are numbered as they are taken off the transport. A reply carries the number of the message
it answers, and a ticket the number of the message it may answer, so that replies can be told apart
even where their frames agree.
-/

namespace QueryDispatch

/-- The chance to answer one message. -/
structure Ticket where
  /-- The number of the message. -/
  number : Nat
  /-- The channel the reply goes out on. -/
  security : Security
  request : Request
  deriving DecidableEq

namespace Ticket

/-- A ticket as a dump shows it. -/
def dump (t : Ticket) : String := "Responder \x7b security: " ++ t.security.dumpName ++ ", .. \x7d"

end Ticket

/-- A call that a worker makes on its socket. -/
inductive SocketCall where
  | connect (endpoint : String)
  | readable
  | receive
  | disconnect
  deriving DecidableEq

/-- One thing that happened. -/
inductive Event where
  /-- A worker called its socket, in this stage. -/
  | called (call : SocketCall) (stage : Stage)
  /-- A worker moved on to a stage. -/
  | entered (stage : Stage)
  /-- For the first time, the worker was asked to stop. -/
  | stopRequested
  /-- A handler was given a request. -/
  | invoked (handler : Handler Nat) (ticket : Ticket)
  /-- The reply to a message was handed to the transport, which said this. -/
  | sent (number : Nat) (frames : Frames) (refusal : Refusal)
  | noted (notice : Notice)
  deriving DecidableEq

/-- Events, in the order in which they happened. -/
abbrev Trace := List Event

end QueryDispatch
