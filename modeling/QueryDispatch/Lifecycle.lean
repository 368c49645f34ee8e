/-!
# The life of a worker

A worker connects, serves, drains and ends. It moves only along the arrows of this machine; what is
reported in any other stage is refused and moves nothing.
-/

namespace QueryDispatch

/-- Where a worker is in its life. -/
inductive Stage where
  /-- Not connected yet. -/
  | idle
  /-- Serving. -/
  | running
  /-- Told to stop, about to disconnect. -/
  | draining
  /-- Over. -/
  | stopped
  deriving DecidableEq

/-- What moves a worker on. -/
inductive Change where
  | connected
  | connectFailed
  | stopObserved
  | disconnected
  deriving DecidableEq

namespace Change

/-- The word for a change in messages. -/
def name : Change → String
  | .connected => "Connected"
  | .connectFailed => "ConnectFailed"
  | .stopObserved => "StopObserved"
  | .disconnected => "Disconnected"

end Change

namespace Stage

/-- The word for a stage in reports. -/
def name : Stage → String
  | .idle => "idle"
  | .running => "running"
  | .draining => "draining"
  | .stopped => "stopped"

/-- The word for a stage in messages. -/
def messageName : Stage → String
  | .idle => "Idle"
  | .running => "Running"
  | .draining => "Draining"
  | .stopped => "Stopped"

/-- Whether the worker's life is over. -/
def isTerminal (s : Stage) : Bool := s == .stopped

/-- Where a change leads. -/
def after? : Stage → Change → Option Stage
  | .idle, .connected => some .running
  | .idle, .connectFailed => some .stopped
  | .running, .stopObserved => some .draining
  | .draining, .disconnected => some .stopped
  | _, _ => none

/-- The stage after a change; the same one if the change has no place in it. -/
def after (s : Stage) (c : Change) : Stage := (s.after? c).getD s

end Stage

/-- A change that has no place in a stage. -/
structure InvalidTransition where
  stage : Stage
  change : Change
  deriving DecidableEq

namespace InvalidTransition

/-- The text of the objection. -/
def message (e : InvalidTransition) : String :=
  e.change.name ++ " is not valid in state " ++ e.stage.messageName

end InvalidTransition

namespace Stage

/-- The complaint about a change that has no place in a stage. -/
def objection? (s : Stage) (c : Change) : Option InvalidTransition :=
  match s.after? c with
  | some _ => none
  | none => some ⟨s, c⟩

/-- The stages a list of changes leads through, each with the complaint it met. -/
def walk : Stage → List Change → List (Stage × Option InvalidTransition)
  | _, [] => []
  | s, c :: rest => (s.after c, s.objection? c) :: (s.after c).walk rest

end Stage

end QueryDispatch
