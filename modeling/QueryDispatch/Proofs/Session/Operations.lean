import QueryDispatch.Hub.Operation
import QueryDispatch.Session.Step

/-!
# What a session does with its hub

All that services, workers and handlers of a session do on its hub are operations of the hub, and
here they are listed: what a worker does in one move, in its turn, and so on up to a list of steps.
Each list is made along the recursion of what it belongs to, so that it is read off the session and
not searched for; that the hub of a session is what these operations make of an empty one is proved
elsewhere.

A chance to answer that is decided about and kept again is handed on as it is, and no operation is
done.

In a session everyone runs after each step. A `Move` is less than a step: someone outside acts, or
one worker makes one move, or one reply that was put off is sent, and nobody else runs. Lists of
moves are all the orders in which services, workers and handlers can come to act.
-/

namespace QueryDispatch

/-- What is done through a dealer as a chance to answer is used, kept or lost. -/
def Completion.operations (d : Nat) : Completion → List Hub.Operation
  | .dropped => []
  | .answered response => [.send d response.encode]
  | .parked _ | .deferred _ => [.retain d]
  | .panicked => [.drop d]

/-- The same for a chance to answer that was kept, outside any worker. -/
def Completion.releasing (d : Nat) : Completion → List Hub.Operation
  | .answered response => [.send d response.encode, .release d]
  | .parked _ | .deferred _ => []
  | .dropped | .panicked => [.release d]

namespace Member

variable (m : Member) (h : Hub)

/-- What a worker does as it connects, and ends if it cannot. -/
def connecting : List Hub.Operation :=
  .connect m.dealer m.endpoint ::
    if (h.connect m.dealer m.endpoint).1.isSome then [.drop m.dealer] else []

/-- What a worker does as it ends in order. -/
def finishing : List Hub.Operation := [.disconnect m.dealer, .drop m.dealer]

/-- What a worker does about the message it was told of. -/
def receiving : List Hub.Operation :=
  .receive m.dealer ::
    if (h.receive m.dealer).1 = .fault .wouldBlock then []
    else (m.dispatcher.channel.judge (h.receive m.dealer).1).completion.operations m.dealer

/-- What a worker does as it looks for a message. -/
def serving : List Hub.Operation :=
  .poll m.dealer ::
    match (h.poll m.dealer).1 with
    | .waiting => []
    | .failed _ => m.finishing
    | .ready => m.receiving (h.poll m.dealer).2

end Member

namespace Session

/-- What worker `w` does in one move. -/
def movement (s : Session) (w : Nat) : List Hub.Operation :=
  match s.workers[w]? with
  | none => []
  | some m =>
    if m.exit.isSome then []
    else
      match m.stage with
      | .idle => m.connecting s.hub
      | .running => if m.stopRequested then m.finishing else m.serving s.hub
      | .draining | .stopped => []

/-- What worker `w` does in a number of moves. -/
def movements (s : Session) (w : Nat) : Nat → List Hub.Operation
  | 0 => []
  | n + 1 => s.movement w ++ (s.advance w).movements w n

/-- What is done as one thing follows the other. -/
def along {α : Type} (next : Session → α → Session) (does : Session → α → List Hub.Operation) :
    Session → List α → List Hub.Operation
  | _, [] => []
  | s, a :: rest => does s a ++ along next does (next s a) rest

/-- What worker `w` does in its turn. -/
def turnOperations (s : Session) (w : Nat) : List Hub.Operation :=
  s.movement w ++ (s.advance w).movements w ((s.advance w).backlog w + 1)

/-- What is done as every worker has its turn. -/
def turnsOperations (s : Session) : List Hub.Operation :=
  along turn turnOperations s (List.range s.workers.length)

/-- What is done as a handler decides about a chance to answer. -/
def decideOperations (s : Session) (t : OpenTicket) (behaviour : Behaviour) :
    List Hub.Operation :=
  match s.workers[t.worker]? with
  | none => []
  | some m => (behaviour.completion t.ticket.request).releasing m.dealer

/-- What is done as the replies that were put off are sent. -/
def flushOperations (s : Session) : List Hub.Operation :=
  along (·.decide · .echo) (·.decideOperations · .echo) { s with deferred := [] } s.deferred

/-- What is done as everyone runs until they have to wait. -/
def settleOperations (s : Session) : List Hub.Operation :=
  s.turnsOperations ++ (s.turns.turnsOperations ++ s.turns.turns.flushOperations)

/-- What is done as an address is bound under a name. The service that the name stood for is
dropped. -/
def bindOperations (s : Session) (name : String) (security : Security) : List Hub.Operation :=
  .bind (s.settings.endpoint security) s.settings.highWaterMark ::
    match s.hub.bind (s.settings.endpoint security) s.settings.highWaterMark with
    | .error _ => []
    | .ok _ => (s.services.get? name).toList.map .unbind

/-- What is done with the service that a name stands for. -/
def serviceOperations (s : Session) (name : String) (does : Nat → List Hub.Operation) :
    List Hub.Operation :=
  match s.services.get? name with
  | none => []
  | some k => does k

/-- What is done in a step, up to the point where everyone runs. -/
def actOperations (s : Session) : Step → List Hub.Operation
  | .bind name security => s.bindOperations name security
  | .unbind name => s.serviceOperations name fun k ↦ [.unbind k]
  | .start _ _ => [.create]
  | .send name messages => s.serviceOperations name fun k ↦ messages.map (.deliver k)
  | .drain name =>
    s.serviceOperations name fun k ↦ List.replicate (queued s.hub k) (.collect k)
  | .collect name => s.serviceOperations name fun k ↦ [.collect k]
  | .stop _ | .join _ => []
  | .shutdown name =>
    match s.names.get? name with
    | none => []
    | some w =>
      if s.workers[w]?.any Member.attended then (s.requestStop w).turnOperations w else []
  | .release index behaviour =>
    match s.parked[index]? with
    | none => []
    | some t => { s with parked := s.parked.eraseIdx index }.decideOperations t behaviour

/-- What is done in a step. -/
def stepOperations (s : Session) (st : Step) : List Hub.Operation :=
  s.actOperations st ++ (s.act st).2.settleOperations

/-- What is done in a list of steps. -/
def operations (s : Session) (steps : List Step) : List Hub.Operation :=
  along step stepOperations s steps

/-! ### Interleavings -/

/-- What may come next in a session in which nobody waits for the others to finish. -/
inductive Move where
  /-- Someone outside acts, and nobody runs yet. -/
  | act (st : Step)
  /-- Worker `w` makes one move. -/
  | advance (w : Nat)
  /-- The reply at an index of those that were put off is sent. -/
  | echo (index : Nat)
  deriving DecidableEq

/-- Sends the reply at an index of those that were put off. -/
def echoAt (s : Session) (index : Nat) : Session :=
  match s.deferred[index]? with
  | none => s
  | some t => { s with deferred := s.deferred.eraseIdx index }.decide t .echo

/-- Makes a move. -/
def move (s : Session) : Move → Session
  | .act st => (s.act st).2
  | .advance w => s.advance w
  | .echo index => s.echoAt index

/-- Makes moves one after the other, whoever makes them. -/
def interleave (s : Session) (moves : List Move) : Session := moves.foldl move s

/-- What is done in a move. -/
def moveOperations (s : Session) : Move → List Hub.Operation
  | .act st => s.actOperations st
  | .advance w => s.movement w
  | .echo index =>
    match s.deferred[index]? with
    | none => []
    | some t => { s with deferred := s.deferred.eraseIdx index }.decideOperations t .echo

/-- What is done in a list of moves. -/
def interleaveOperations (s : Session) (moves : List Move) : List Hub.Operation :=
  along move moveOperations s moves

end Session

end QueryDispatch
