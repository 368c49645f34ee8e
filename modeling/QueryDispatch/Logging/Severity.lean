import QueryDispatch.Text.Basic

/-!
# Severities and levels

A log event has a severity. A level is how much of that is let through: nothing, or everything down
to one of the severities.
-/

namespace QueryDispatch.Logging

/-- How grave a log event is. -/
inductive Severity where
  | error
  | warn
  | info
  | debug
  | trace
  deriving DecidableEq

namespace Severity

/-- The word for a severity at the head of a log line. -/
def name : Severity → String
  | .error => "ERROR"
  | .warn => "WARN"
  | .info => "INFO"
  | .debug => "DEBUG"
  | .trace => "TRACE"

/-- The graver, the smaller. -/
def rank : Severity → Nat
  | .error => 1
  | .warn => 2
  | .info => 3
  | .debug => 4
  | .trace => 5

end Severity

/-- How much is let through. -/
inductive Level where
  | off
  | downTo (severity : Severity)
  deriving DecidableEq

namespace Level

/-- The number of severities let through, by which a level may also be written. -/
def rank : Level → Nat
  | .off => 0
  | .downTo s => s.rank

/-- Every level, with the word it is written by. -/
def named : List (String × Level) := [
  ("off", .off),
  ("error", .downTo .error),
  ("warn", .downTo .warn),
  ("info", .downTo .info),
  ("debug", .downTo .debug),
  ("trace", .downTo .trace)]

/-- The level of a rank. -/
def ofRank? (n : Nat) : Option Level := (named.map Prod.snd).find? (·.rank == n)

/-- The level a text writes, by its word in either case or by its rank. -/
def parse? (s : String) : Option Level :=
  match named.find? (fun e ↦ Text.sameIgnoringCase s e.1) with
  | some (_, level) => some level
  | none => (Text.Number.parse? 5 s).bind ofRank?

/-- Whether events of a severity pass. -/
def admits (l : Level) (s : Severity) : Bool := s.rank ≤ l.rank

end Level

end QueryDispatch.Logging
