import QueryDispatch.Session.Basic

/-!
# How the workers of a session run

A worker advances by one move at a time: it connects, or it looks for a message and deals with the
one it finds, or it disconnects because it was asked to stop or its service is gone. When it can
only wait, a move changes nothing. Nobody else acts while a worker runs, so the messages queued for
it bound the moves it makes (`turn`).

A handler's request to stop reaches every worker. One that has had its turn already gets another, in
which it finds no message but disconnects. Only when all of them rest are the replies sent that
handlers put off (`settle`).
-/

namespace QueryDispatch.Session

/-- Worker `w` connects. -/
def connect (s : Session) (w : Nat) (m : Member) : Session :=
  let (refusal, hub) := s.hub.connect m.dealer m.endpoint
  let noted := (s.onHub hub).note [Worker.connectNotice m.security m.endpoint refusal]
  let connected := noted.update w (·.change (Worker.connectChange refusal))
  match Worker.connectExit? m.security m.endpoint refusal with
  | none => connected
  | some exit => connected.conclude w exit

/-- Worker `w` drains and disconnects. -/
def finish (s : Session) (w : Nat) (m : Member) : Session :=
  let (refusal, hub) := s.hub.disconnect m.dealer
  let drained := (s.onHub hub).update w fun m ↦ (m.change .stopObserved).change .disconnected
  (drained.note (Worker.disconnectNotices m.security refusal)).conclude w
    (Worker.disconnectExit m.security refusal)

/-- Worker `w` takes note of a verdict: it counts it, and records what happens before the reply. -/
def absorb (s : Session) (w : Nat) (m : Member) (v : Verdict) : Session :=
  (s.record (m.dispatcher.channel.events m.dispatcher.arrivals v)).update w fun m ↦
    { m with dispatcher := m.dispatcher.absorb v }

/-- Worker `w` receives an item: everything up to the reply, then what becomes of the chance to
answer. -/
def dispatch (s : Session) (w : Nat) (m : Member) (received : Received) : Session :=
  let verdict := m.dispatcher.channel.judge received
  ((s.absorb w m verdict).heed verdict.stops).complete w m.dispatcher.arrivals m.security
    verdict.completion

/-- Worker `w` takes the message it was told of. -/
def receive (s : Session) (w : Nat) (m : Member) : Session :=
  let (received, hub) := s.hub.receive m.dealer
  if received = .fault .wouldBlock then s.onHub hub else (s.onHub hub).dispatch w m received

/-- Worker `w` looks for a message and deals with what it finds. -/
def serve (s : Session) (w : Nat) (m : Member) : Session :=
  let (found, hub) := s.hub.poll m.dealer
  match found with
  | .waiting => s
  | .failed cause => ((s.onHub hub).note (Worker.pollNotices m.security cause)).finish w m
  | .ready => (s.onHub hub).receive w m

/-- One move of worker `w`. -/
def advance (s : Session) (w : Nat) : Session :=
  match s.workers[w]? with
  | none => s
  | some m =>
    if m.exit.isSome then s
    else
      match m.stage with
      | .idle => s.connect w m
      | .running => if m.stopRequested then s.finish w m else s.serve w m
      | .draining | .stopped => s

/-- A number of moves of worker `w`. -/
def advances (s : Session) (w : Nat) : Nat → Session
  | 0 => s
  | n + 1 => (s.advance w).advances w n

/-- How many messages worker `w` has yet to receive. -/
def backlog (s : Session) (w : Nat) : Nat :=
  match s.workers[w]? with
  | none => 0
  | some m => s.hub.backlog m.dealer

/-- Worker `w` runs until it has to wait: after a first move, which may connect it, there is one
move for each message it can have, and one to find that there is none left. -/
def turn (s : Session) (w : Nat) : Session :=
  let s := s.advance w
  s.advances w (s.backlog w + 1)

/-- Every worker runs until it has to wait, in the order they were started. -/
def turns (s : Session) : Session := (List.range s.workers.length).foldl turn s

/-- Lets a handler decide about a kept chance to answer, which is let go of in the end. This happens
outside any worker, so a handler that breaks down here takes none along. -/
def decide (s : Session) (t : OpenTicket) (behaviour : Behaviour) : Session :=
  let asked := s.heed behaviour.stops
  let decided := match behaviour.completion t.ticket.request with
    | .panicked => asked
    | completion => asked.complete t.worker t.ticket.number t.ticket.security completion
  decided.release t.worker

/-- Sends the replies that were put off, oldest first. -/
def flush (s : Session) : Session :=
  s.deferred.foldl (fun s t ↦ s.decide t .echo) { s with deferred := [] }

/-- Everyone runs until they have to wait, and then what was put off is done. -/
def settle (s : Session) : Session := s.turns.turns.flush

end QueryDispatch.Session
