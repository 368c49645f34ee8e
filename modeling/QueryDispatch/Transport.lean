import QueryDispatch.Wire.Bytes

/-!
# What a transport reports

The causes for which a transport refuses a call, each with its message, and the result of taking one
message off a transport.

`serviceStopped` is the odd one among the causes: it reports the end of a session rather than a
fault, and callers treat it as such.
-/

namespace QueryDispatch

/-- Why a transport could not do what it was asked. -/
inductive TransportError where
  /-- The other side, or this one, has ended the session. -/
  | serviceStopped
  | notConnected
  | alreadyConnected
  /-- Nothing is bound at the address. -/
  | endpointNotFound (address : String)
  /-- The address is bound, or already has its worker. -/
  | endpointInUse (address : String)
  /-- Nothing to read at the moment. -/
  | wouldBlock
  /-- A fault of the medium itself. -/
  | io (detail : String)
  deriving DecidableEq

namespace TransportError

/-- The text of the error. -/
def message : TransportError → String
  | .serviceStopped => "service stopped"
  | .notConnected => "endpoint is not connected"
  | .alreadyConnected => "endpoint is already connected"
  | .endpointNotFound address => "no service bound at " ++ address
  | .endpointInUse address => "address already in use: " ++ address
  | .wouldBlock => "no message ready"
  | .io detail => "transport failure: " ++ detail

end TransportError

/-- What one attempt to take a message yields. -/
inductive Received where
  | message (frames : Frames)
  | fault (cause : TransportError)
  deriving DecidableEq

/-- The outcome of a call that yields nothing else: the cause it was refused for, if it was. -/
abbrev Refusal := Option TransportError

end QueryDispatch
