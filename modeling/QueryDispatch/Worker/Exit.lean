import QueryDispatch.Channel

/-!
# How a worker reacts to its socket

A worker connects, serves until it is told to stop or its session ends, and disconnects. What it
says in the log on the way, where each call leads it, and how it ends are set down here, apart from
any particular socket.

The end of a session is not a fault, so `pollNotices` passes over it; a session that ends while the
worker connects or disconnects is reported like any other cause.
-/

namespace QueryDispatch

/-- Why a worker ended otherwise than in good order. -/
inductive WorkerError where
  | connect (security : Security) (endpoint : String) (cause : TransportError)
  | disconnect (security : Security) (cause : TransportError)
  /-- The worker's task did not end by itself; how it did, in words. -/
  | join (detail : String)
  deriving DecidableEq

namespace WorkerError

/-- The text of the error. -/
def message : WorkerError → String
  | .connect security endpoint cause =>
    "failed to connect " ++ security.name ++ " query worker to " ++ endpoint ++ ": " ++
      cause.message
  | .disconnect security cause =>
    "failed to disconnect " ++ security.name ++ " query worker: " ++ cause.message
  | .join detail => "query worker task failed: " ++ detail

/-- The transport's part in it. -/
def cause? : WorkerError → Option TransportError
  | .connect _ _ cause | .disconnect _ cause => some cause
  | .join _ => none

end WorkerError

/-- How a worker ended. -/
inductive Exit where
  | completed
  | failed (error : WorkerError)
  /-- A handler broke down and took the worker along. -/
  | panicked
  deriving DecidableEq

namespace Worker

/-- Where an attempt to connect leads. -/
def connectChange : Refusal → Change
  | none => .connected
  | some _ => .connectFailed

/-- What the log says of an attempt to connect. -/
def connectNotice (security : Security) (endpoint : String) : Refusal → Notice
  | none => .connected security endpoint
  | some cause => .connectFailed security endpoint cause

/-- How an attempt to connect ends the worker, if it does. -/
def connectExit? (security : Security) (endpoint : String) (refusal : Refusal) : Option Exit :=
  refusal.map fun cause ↦ .failed (.connect security endpoint cause)

/-- What the log says when waiting for a message ends in a fault. -/
def pollNotices (security : Security) : TransportError → List Notice
  | .serviceStopped => []
  | cause => [.pollFailed security cause]

/-- What the log says of an attempt to disconnect. -/
def disconnectNotices (security : Security) : Refusal → List Notice
  | none => []
  | some cause => [.disconnectFailed security cause]

/-- How an attempt to disconnect ends the worker. -/
def disconnectExit (security : Security) : Refusal → Exit
  | none => .completed
  | some cause => .failed (.disconnect security cause)

end Worker

end QueryDispatch
