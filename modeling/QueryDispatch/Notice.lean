import QueryDispatch.Message.Request
import QueryDispatch.Logging.Severity

/-!
# Log notices

Everything the dispatcher and its workers have to say in the log. A notice holds the facts; its
severity, message and fields are read off it. Peers appear as the text they are shown by, so that a
notice never knows more of a peer than the log may.
-/

namespace QueryDispatch

/-- An event of the log. -/
inductive Notice where
  | connected (security : Security) (endpoint : String)
  | connectFailed (security : Security) (endpoint : String) (cause : TransportError)
  /-- Waiting for messages failed. -/
  | pollFailed (security : Security) (cause : TransportError)
  | disconnectFailed (security : Security) (cause : TransportError)
  /-- A message was no query. -/
  | rejected (security : Security) (peer : String) (error : DecodeError)
  /-- A query's command was unknown. -/
  | unknownCommand (security : Security) (peer command : String)
  /-- A query is about to be handled. -/
  | query (security : Security) (peer command : String)
  /-- A reply could not be sent. -/
  | replyFailed (security : Security) (peer command : String) (cause : TransportError)
  deriving DecidableEq

namespace Notice

/-- How much the notice matters. -/
def severity : Notice → Logging.Severity
  | .connected .. | .query .. => .info
  | .connectFailed .. | .disconnectFailed .. => .error
  | .pollFailed .. | .replyFailed .. => .warn
  | .rejected .. | .unknownCommand .. => .debug

/-- The text of the notice, the same for all notices of its kind. -/
def message : Notice → String
  | .connected .. => "Connected query worker"
  | .connectFailed .. => "Failed to connect query worker"
  | .pollFailed .. => "Query worker poller terminated"
  | .disconnectFailed .. => "Failed to disconnect query worker"
  | .rejected .. => "Failed to receive query"
  | .unknownCommand .. => "Invalid query command"
  | .query .. => "Query"
  | .replyFailed .. => "Failed to send query response"

/-- The facts of a notice, by the names the log gives them. -/
def fields : Notice → List (String × String)
  | .connected security endpoint => [("security", security.name), ("endpoint", endpoint)]
  | .connectFailed security endpoint cause =>
    [("security", security.name), ("endpoint", endpoint), ("error", cause.message)]
  | .pollFailed security cause | .disconnectFailed security cause =>
    [("security", security.name), ("error", cause.message)]
  | .rejected security peer error =>
    [("security", security.name), ("route", peer), ("error", error.message)]
  | .unknownCommand security peer command | .query security peer command =>
    [("security", security.name), ("route", peer), ("command", command)]
  | .replyFailed security peer command cause =>
    [("security", security.name), ("route", peer), ("command", command), ("error", cause.message)]

end Notice

end QueryDispatch
