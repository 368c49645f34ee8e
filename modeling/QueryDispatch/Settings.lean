import QueryDispatch.Security
import QueryDispatch.Text.Basic

/-!
# Settings of the query service

Where each channel is served, how much may queue, and what is logged; and the conditions the
settings have to meet before anything is bound.

`violation?` names the first condition that fails, in the order in which the conditions are listed
by `ConfigError`.
-/

namespace QueryDispatch

/-- Why settings cannot be used. -/
inductive ConfigError where
  /-- The channel's endpoint is blank. -/
  | emptyEndpoint (security : Security)
  /-- Both channels have this endpoint. -/
  | sharedEndpoint (address : String)
  /-- Nothing could ever queue. -/
  | zeroHighWaterMark
  deriving DecidableEq

namespace ConfigError

/-- The text of the error. -/
def message : ConfigError → String
  | .emptyEndpoint security => security.name ++ " query endpoint is empty"
  | .sharedEndpoint address => "secure and public query endpoints must differ: " ++ address
  | .zeroHighWaterMark => "high water mark must be non-zero"

end ConfigError

/-- How queries are served. -/
structure Settings where
  secureEndpoint : String := "inproc://secure_query_workers"
  publicEndpoint : String := "inproc://public_query_workers"
  /-- Whether every query is logged. -/
  verbose : Bool := false
  /-- Whether logs hide the peers. -/
  redactRoutes : Bool := false
  /-- How many messages may queue in each direction. -/
  highWaterMark : UInt64 := 1000
  deriving DecidableEq

namespace Settings

/-- The address a channel is served at. -/
def endpoint (s : Settings) : Security → String
  | .secure => s.secureEndpoint
  | .unsecured => s.publicEndpoint

/-- The first condition the settings violate. -/
def violation? (s : Settings) : Option ConfigError :=
  if Text.isBlank s.secureEndpoint then some (.emptyEndpoint .secure)
  else if Text.isBlank s.publicEndpoint then some (.emptyEndpoint .unsecured)
  else if s.secureEndpoint = s.publicEndpoint then some (.sharedEndpoint s.secureEndpoint)
  else if s.highWaterMark = 0 then some .zeroHighWaterMark
  else none

/-- Settings are valid if and only if they violate none of the conditions. -/
theorem violation?_eq_none_iff {s : Settings} :
    s.violation? = none ↔
      Text.isBlank s.secureEndpoint = false ∧ Text.isBlank s.publicEndpoint = false ∧
        s.secureEndpoint ≠ s.publicEndpoint ∧ s.highWaterMark ≠ 0 := by
  unfold violation?
  repeat' split
  all_goals simp_all

end Settings

end QueryDispatch
