import QueryDispatch.Hub.Dealer
import QueryDispatch.Hub.Service
import QueryDispatch.Table
import QueryDispatch.Worker.Exit

/-!
# Sessions

Services and workers sharing one hub. The state of a session, and the single effects that everything
else is made of.

A handler may keep its chance to answer beyond the life of its worker. What is kept holds on to the
worker's side of the link, so the service goes on waiting for replies as long as something might be
answered by a worker that broke down; from a worker that ended in order nothing more can come.
-/

namespace QueryDispatch

/-- A worker of a session. -/
structure Member where
  dispatcher : Dispatcher
  /-- The address it connects to. -/
  endpoint : String
  /-- Its end of the transport. -/
  dealer : Nat
  stage : Stage := .idle
  stopRequested : Bool := false
  /-- How it ended, once it has. -/
  exit : Option Exit := none
  /-- Whether someone may still wait for its end. -/
  attended : Bool := true

namespace Member

/-- The channel the worker serves. -/
def security (m : Member) : Security := m.dispatcher.channel.security

/-- What the worker has counted. -/
def tally (m : Member) : Tally := m.dispatcher.tally

/-- Moves on, if the change has a place in the stage. -/
def change (m : Member) (c : Change) : Member := { m with stage := m.stage.after c }

end Member

/-- A chance to answer that a handler has kept, and the worker it goes through. -/
structure OpenTicket where
  worker : Nat
  ticket : Ticket
  deriving DecidableEq

/-- Services and workers on one hub. -/
structure Session where
  settings : Settings := {}
  registry : Registry (Handler Binding) := .empty
  hub : Hub := {}
  /-- The services in use, by name. -/
  services : Table Nat := {}
  /-- All workers ever started, in the order they were. -/
  workers : List Member := []
  /-- The workers by name. -/
  names : Table Nat := {}
  /-- The chances to answer that were set aside, oldest first. -/
  parked : List OpenTicket := []
  /-- The chances to answer that were put off, oldest first. -/
  deferred : List OpenTicket := []
  trace : Trace := []

namespace Session

/-! ### Single effects -/

/-- Adds events to the trace. -/
def record (s : Session) (events : Trace) : Session := { s with trace := s.trace ++ events }

/-- Writes to the log. -/
def note (s : Session) (notices : List Notice) : Session := s.record (notices.map .noted)

/-- The session after something was done on its hub. -/
def onHub (s : Session) (hub : Hub) : Session := { s with hub }

/-- Changes one worker. -/
def update (s : Session) (w : Nat) (f : Member → Member) : Session :=
  { s with workers := s.workers.modify w f }

/-- To update a worker changes that worker only. -/
theorem getElem?_update (s : Session) (w : Nat) (f : Member → Member) (v : Nat) :
    (s.update w f).workers[v]? = s.workers[v]?.map fun m ↦ if w = v then f m else m := by
  simp [update, List.getElem?_modify]

/-- Asks one worker to stop. -/
def requestStop (s : Session) (w : Nat) : Session :=
  s.update w fun m ↦ { m with stopRequested := true }

/-- Asks every worker to stop. -/
def requestStops (s : Session) : Session :=
  { s with workers := s.workers.map fun m ↦ { m with stopRequested := true } }

/-- Asks every worker to stop if a handler wants that. -/
def heed (s : Session) (stops : Bool) : Session := if stops then s.requestStops else s

/-- Sends a reply through worker `w`, and has the worker count and log what the transport says. -/
def reply (s : Session) (w : Nat) (response : Response) : Session :=
  match s.workers[w]? with
  | none => s
  | some m =>
    let (refusal, hub) := s.hub.send m.dealer response.encode
    ((s.onHub hub).update w fun m ↦ { m with dispatcher := m.dispatcher.settle refusal }).note
      (m.dispatcher.channel.refusalNotices response refusal)

/-- Ends worker `w`, and with it its end of the transport. -/
def conclude (s : Session) (w : Nat) (exit : Exit) : Session :=
  match s.workers[w]? with
  | none => s
  | some m =>
    (s.onHub (s.hub.dropDealer m.dealer)).update w fun m ↦ { m with exit := some exit }

/-- Keeps a chance to answer through worker `w`, which holds on to its side of the link. -/
def retain (s : Session) (w : Nat) : Session :=
  match s.workers[w]? with
  | none => s
  | some m => s.onHub (s.hub.retain m.dealer)

/-- Lets go of a chance to answer that was kept. -/
def release (s : Session) (w : Nat) : Session :=
  match s.workers[w]? with
  | none => s
  | some m => s.onHub (s.hub.release m.dealer)

/-- Carries out what becomes of the chance to answer message `number` of worker `w`. -/
def complete (s : Session) (w number : Nat) (security : Security) : Completion → Session
  | .dropped => s
  | .answered response => s.reply w response
  | .parked r =>
    { s.retain w with parked := s.parked ++ [⟨w, number, security, r⟩] }
  | .deferred r =>
    { s.retain w with deferred := s.deferred ++ [⟨w, number, security, r⟩] }
  | .panicked => s.conclude w .panicked

end Session

end QueryDispatch
