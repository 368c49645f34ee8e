/-!
# Channel security

A node answers queries over two channels that differ only in whether clients must authenticate.
-/

namespace QueryDispatch

/-- Which of the two channels a query arrives on. -/
inductive Security where
  /-- Clients authenticate before they are served. -/
  | secure
  /-- Anyone may query. -/
  | unsecured
  deriving DecidableEq

namespace Security

/-- The channel selected by a flag. -/
def ofFlag (secure : Bool) : Security := if secure then .secure else .unsecured

/-- Whether the channel is the authenticated one. -/
def isSecure (s : Security) : Bool := s == .secure

/-- The word for a channel in settings, messages and logs. -/
def name : Security → String
  | .secure => "secure"
  | .unsecured => "public"

/-- The word for a channel in dumps of values. -/
def dumpName : Security → String
  | .secure => "Secure"
  | .unsecured => "Public"

end Security

end QueryDispatch
