import QueryDispatch.Transport

/-!
# The tally of a worker

What a worker counts: each message taken off its transport, once by how it was disposed of, and each
reply by whether the transport took it. The counters are machine words and wrap.

A reply refused because the session is over is counted nowhere; it is the normal end of a reply that
outlives its channel.
-/

namespace QueryDispatch

/-- How a received item was disposed of. -/
inductive Outcome where
  /-- The session was over; there was no message. -/
  | stopped
  /-- Answered as no query. -/
  | malformed
  /-- Answered as unknown. -/
  | notFound
  /-- Given to a handler. -/
  | dispatched
  deriving DecidableEq

/-- Counters of one worker. -/
structure Tally where
  received : UInt64 := 0
  dispatched : UInt64 := 0
  malformed : UInt64 := 0
  notFound : UInt64 := 0
  responsesSent : UInt64 := 0
  sendFailures : UInt64 := 0
  deriving DecidableEq

namespace Tally

/-- Counts a received item. -/
def count (t : Tally) : Outcome → Tally
  | .stopped => t
  | .malformed => { t with received := t.received + 1, malformed := t.malformed + 1 }
  | .notFound => { t with received := t.received + 1, notFound := t.notFound + 1 }
  | .dispatched => { t with received := t.received + 1, dispatched := t.dispatched + 1 }

/-- Counts a reply, by what the transport said to it. -/
def settle (t : Tally) : Refusal → Tally
  | none => { t with responsesSent := t.responsesSent + 1 }
  | some .serviceStopped => t
  | some _ => { t with sendFailures := t.sendFailures + 1 }

end Tally

end QueryDispatch
