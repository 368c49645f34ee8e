import QueryDispatch.Session.Turn

/-!
# Steps of a session

What someone outside does: bind and drop services, start workers, send messages, take replies, ask
workers to stop and wait for their end, and decide about the chances to answer that handlers set
aside. After each step everyone runs until they have to wait.

Messages of one step are all sent before any worker runs, so how many of them are accepted depends
on the queue alone.
-/

namespace QueryDispatch.Session

/-- A step taken from outside. -/
inductive Step where
  | bind (name : String) (security : Security)
  | unbind (name : String)
  | start (name : String) (security : Security)
  /-- Sends messages from a service, all before any worker runs. -/
  | send (name : String) (messages : List Frames)
  /-- Takes all replies queued for a service. -/
  | drain (name : String)
  /-- Takes one reply. -/
  | collect (name : String)
  | stop (name : String)
  /-- Waits for a worker's end. -/
  | join (name : String)
  /-- Asks a worker to stop and waits for its end. -/
  | shutdown (name : String)
  /-- Decides about the parked chance to answer at an index. -/
  | release (index : Nat) (behaviour : Behaviour)
  deriving DecidableEq

/-- What a step answers. -/
inductive Answer where
  /-- The name stands for nothing. -/
  | unknownName
  | done
  | existed (did : Bool)
  | refused (cause : TransportError)
  /-- The queue asked for is too long to exist. -/
  | oversized
  | delivered (deliveries : List Hub.Delivery)
  | drained (messages : List Frames)
  | collected (found : Hub.Collected)
  | ended (exit : Exit)
  /-- The worker has not ended. -/
  | pending
  /-- No one may wait for this worker any more. -/
  | unattended
  | nothingParked
  | panicked
  deriving DecidableEq

/-- Binds the settings' endpoint for a channel. -/
def bind (s : Session) (name : String) (security : Security) : Answer × Session :=
  match s.hub.bind (s.settings.endpoint security) s.settings.highWaterMark with
  | .error (.inUse address) => (.refused (.endpointInUse address), s)
  | .error .oversized => (.oversized, s)
  | .ok (k, hub) =>
    let hub := match s.services.get? name with
      | none => hub
      | some old => hub.unbind old
    (.done, { s with hub, services := s.services.insert name k })

/-- Drops a service. -/
def unbind (s : Session) (name : String) : Answer × Session :=
  match s.services.get? name with
  | none => (.existed false, s)
  | some k => (.existed true, { s with hub := s.hub.unbind k, services := s.services.erase name })

/-- Starts a worker on a channel. -/
def start (s : Session) (name : String) (security : Security) : Session :=
  let (d, hub) := s.hub.newDealer
  let m : Member :=
    { dispatcher := { channel := .ofSettings s.settings security s.registry }
      endpoint := s.settings.endpoint security
      dealer := d }
  { s with hub, workers := s.workers ++ [m], names := s.names.insert name s.workers.length }

/-- Sends messages from a service one after the other. -/
def deliver (hub : Hub) (k : Nat) : List Frames → List Hub.Delivery × Hub
  | [] => ([], hub)
  | frames :: rest =>
    let (delivery, hub) := hub.deliver k frames
    let (deliveries, hub) := deliver hub k rest
    (delivery :: deliveries, hub)

/-- Takes up to a number of replies of a service. -/
def drain (hub : Hub) (k : Nat) : Nat → List Frames × Hub
  | 0 => ([], hub)
  | n + 1 =>
    match hub.collect k with
    | (.message frames, hub) =>
      let (messages, hub) := drain hub k n
      (frames :: messages, hub)
    | _ => ([], hub)

/-- How many replies are queued for a service. -/
def queued (hub : Hub) (k : Nat) : Nat := (hub.links[k]?.map (·.replies.length)).getD 0

/-- Does something with a worker that someone may still wait for. -/
def attend (s : Session) (name : String) (f : Nat → Answer × Session) : Answer × Session :=
  match s.names.get? name with
  | none => (.unknownName, s)
  | some w => if s.workers[w]?.any Member.attended then f w else (.unattended, s)

/-- Waits for the end of worker `w`, once: whoever has waited may not wait again, even if the end
has not come. -/
def join (s : Session) (w : Nat) : Answer × Session :=
  (match s.workers[w]?.bind Member.exit with
    | some exit => .ended exit
    | none => .pending,
   s.update w fun m ↦ { m with attended := false })

/-- Decides about the parked chance to answer at an index, taking it out first. -/
def releaseAt (s : Session) (index : Nat) (behaviour : Behaviour) : Answer × Session :=
  match s.parked[index]? with
  | none => (.nothingParked, s)
  | some t =>
    (if behaviour.completion t.ticket.request = .panicked then .panicked else .done,
     { s with parked := s.parked.eraseIdx index }.decide t behaviour)

/-- Does something on the hub with a service. -/
def withService (s : Session) (name : String) (f : Nat → Answer × Hub) : Answer × Session :=
  match s.services.get? name with
  | none => (.unknownName, s)
  | some k => ((f k).1, s.onHub (f k).2)

/-- Takes a step, up to the point where everyone runs. -/
def act (s : Session) : Step → Answer × Session
  | .bind name security => s.bind name security
  | .unbind name => s.unbind name
  | .start name security => (.done, s.start name security)
  | .send name messages =>
    s.withService name fun k ↦ (deliver s.hub k messages).map .delivered id
  | .drain name =>
    s.withService name fun k ↦ (drain s.hub k (queued s.hub k)).map .drained id
  | .collect name => s.withService name fun k ↦ (s.hub.collect k).map .collected id
  | .stop name => s.attend name fun w ↦ (.done, s.requestStop w)
  | .join name => s.attend name s.join
  | .shutdown name => s.attend name fun w ↦ ((s.requestStop w).turn w).join w
  | .release index behaviour => s.releaseAt index behaviour

/-- Takes a step and lets everyone run. -/
def step (s : Session) (st : Step) : Session := (s.act st).2.settle

/-- What can be seen of a step: its answer, what happened, and the state it left. -/
structure Report where
  answer : Answer
  events : Trace
  after : Session

/-- Takes a step and reports it. -/
def report (s : Session) (st : Step) : Report :=
  { answer := (s.act st).1
    events := (s.step st).trace.drop s.trace.length
    after := s.step st }

/-- The state after a list of steps. -/
def run (s : Session) (steps : List Step) : Session := steps.foldl step s

/-- The reports of a list of steps. -/
def reports (s : Session) : List Step → List Report
  | [] => []
  | st :: rest => s.report st :: (s.step st).reports rest

/-- A session in which nothing has been bound or started. -/
def fresh (settings : Settings) (registry : Registry (Handler Binding)) : Session :=
  { settings, registry }

@[simp] theorem run_nil (s : Session) : s.run [] = s := rfl

/-- A run takes the first step first. -/
@[simp] theorem run_cons (s : Session) (st : Step) (rest : List Step) :
    s.run (st :: rest) = (s.step st).run rest := rfl

/-- To take two lists of steps is to take one after the other. -/
theorem run_append (s : Session) (xs ys : List Step) : s.run (xs ++ ys) = (s.run xs).run ys := by
  simp [run]

end QueryDispatch.Session
