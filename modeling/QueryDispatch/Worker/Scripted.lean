import QueryDispatch.Bench
import QueryDispatch.Worker.Exit

/-!
# A worker on a scripted socket

A whole run of a worker, from connecting to its end, on a socket that does as a script says: whether
connecting succeeds, what each wait for a message brings and what there is to read after it, how the
script ends, and whether disconnecting succeeds. The script may also have the worker stopped at any
wait.

The worker asks whether it is to stop before every wait and again after it, so a stop that lands
while it waits keeps it from reading. Recursion is over the script, one item for each wait.
-/

namespace QueryDispatch.Worker

/-- What a wait for a message comes to. -/
inductive Readiness where
  /-- The wait fails. -/
  | failed (cause : TransportError)
  /-- There is this to read. -/
  | loaded (received : Received)
  deriving DecidableEq

/-- One wait for a message. -/
structure Item where
  /-- Whether the worker is asked to stop during the wait. -/
  stops : Bool := false
  readiness : Readiness
  deriving DecidableEq

/-- What the wait after the last item comes to. -/
inductive Ending where
  /-- The session is over. -/
  | close
  /-- Nothing, until the worker is asked to stop. -/
  | stop
  deriving DecidableEq

/-- How a socket behaves over a whole run. -/
structure Script where
  connectRefusal : Refusal := none
  disconnectRefusal : Refusal := none
  items : List Item := []
  ending : Ending := .close
  deriving DecidableEq

/-- A worker in the course of a run. -/
structure Run where
  bench : Bench
  stage : Stage := .idle

namespace Run

/-- The channel the worker serves. -/
def security (r : Run) : Security := r.bench.channel.security

/-- Whether the worker has been asked to stop. -/
def stopRequested (r : Run) : Bool := r.bench.stopRequested

/-- Whether nothing more is to be served. -/
def isOver (r : Run) : Bool := r.bench.stopRequested || r.bench.fallen

/-- Notes a call on the socket, with the stage it is made in. -/
def call (r : Run) (c : SocketCall) : Run :=
  { r with bench := r.bench.record [.called c r.stage] }

/-- Writes to the log. -/
def note (r : Run) (notices : List Notice) : Run :=
  { r with bench := r.bench.record (notices.map .noted) }

/-- Moves on, if the change has a place in the stage. -/
def change (r : Run) (c : Change) : Run :=
  match r.stage.after? c with
  | some stage => { bench := r.bench.record [.entered stage], stage }
  | none => r

/-- Asks the worker to stop. -/
def requestStop (r : Run) : Run := { r with bench := r.bench.requestStop }

/-- Receives an item. A wait that turned out empty is passed over. -/
def receive (r : Run) (received : Received) : Run :=
  let r := r.call .receive
  if received = .fault .wouldBlock then r else { r with bench := r.bench.dispatch received }

/-- One wait, and the message it brings. The second part says whether to go on. -/
def round (r : Run) (item : Item) : Run × Bool :=
  let waiting := r.call .readable
  let waited := if item.stops then waiting.requestStop else waiting
  match item.readiness with
  | .failed cause => (waited.note (pollNotices waited.security cause), false)
  | .loaded received => (if waited.stopRequested then waited else waited.receive received, true)

/-- The wait after the last item. -/
def lastRound (r : Run) : Ending → Run
  | .close => r.call .readable
  | .stop => (r.call .readable).requestStop

/-- Serves until there is a reason to stop. -/
def serve (ending : Ending) : List Item → Run → Run
  | [], r => if r.isOver then r else r.lastRound ending
  | item :: rest, r =>
    if r.isOver then r
    else
      match r.round item with
      | (r, true) => serve ending rest r
      | (r, false) => r

/-- Drains and disconnects. -/
def finish (r : Run) (refusal : Refusal) : Run :=
  (((r.change .stopObserved).call .disconnect).note (disconnectNotices r.security refusal)).change
    .disconnected

/-- Serves and finishes; a worker that has broken down just ends. -/
def serveToEnd (r : Run) (script : Script) : Run × Exit :=
  let served := serve script.ending script.items r
  if served.bench.fallen then (served, .panicked)
  else (served.finish script.disconnectRefusal, disconnectExit r.security script.disconnectRefusal)

/-- A whole run. -/
def perform (r : Run) (endpoint : String) (script : Script) : Run × Exit :=
  let connected :=
    ((r.call (.connect endpoint)).note
      [connectNotice r.security endpoint script.connectRefusal]).change
        (connectChange script.connectRefusal)
  match connectExit? r.security endpoint script.connectRefusal with
  | some exit => (connected, exit)
  | none => connected.serveToEnd script

end Run

/-- A worker with everything that it is given: its channel, its socket, and what its transport says
to replies. -/
structure Setup where
  settings : Settings := {}
  security : Security
  registry : Registry (Handler Binding) := .empty
  script : Script := {}
  refusal : Refusal := none
  /-- Whether the worker is asked to stop before it starts. -/
  stopBefore : Bool := false

namespace Setup

/-- The address the worker connects to. -/
def endpoint (s : Setup) : String := s.settings.endpoint s.security

/-- The worker before its run. -/
def initial (s : Setup) : Run :=
  let fresh : Run :=
    { bench :=
        { dispatcher := { channel := .ofSettings s.settings s.security s.registry }
          refusal := s.refusal } }
  if s.stopBefore then fresh.requestStop else fresh

/-- The run, up to the worker's end. -/
def run (s : Setup) : Run × Exit := s.initial.perform s.endpoint s.script

/-- The state in the end, with the replies that were put off sent after the worker is gone. -/
def final (s : Setup) : Run := { s.run.1 with bench := s.run.1.bench.flush }

/-- How the worker ended. -/
def exit (s : Setup) : Exit := s.run.2

end Setup

end QueryDispatch.Worker
