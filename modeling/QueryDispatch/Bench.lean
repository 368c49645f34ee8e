import QueryDispatch.Channel

/-!
# A dispatcher on the bench

A dispatcher whose transport records every reply and answers each as it is told to. On the bench a
dispatcher is driven by hand: items are received one by one, handlers set requests aside, and
someone else decides later what becomes of them.

The bench is a state and its steps, and the whole of what happened stays in its trace. Three
operations add to the trace and nothing else does: `record`, `reply` and `requestStop`; each is
described by how it extends it. So the trace only grows, and the events that a step reports are
exactly those by which it grew (`trace_step`).
-/

namespace QueryDispatch

/-- A dispatcher, its recording transport, and what its handlers have left behind. -/
structure Bench where
  dispatcher : Dispatcher
  /-- What the transport says to every reply. -/
  refusal : Refusal := none
  /-- Whether anyone has asked for a stop. -/
  stopRequested : Bool := false
  /-- Whether a handler has broken down. -/
  fallen : Bool := false
  /-- The chances to answer that were set aside, oldest first. -/
  parked : List Ticket := []
  /-- The chances to answer that were put off, oldest first. -/
  deferred : List Ticket := []
  trace : Trace := []

namespace Bench

/-- The channel on the bench. -/
def channel (b : Bench) : Channel := b.dispatcher.channel

/-- What the dispatcher has counted. -/
def tally (b : Bench) : Tally := b.dispatcher.tally

/-! ### Single effects -/

/-- Adds events to the trace. -/
def record (b : Bench) (events : Trace) : Bench := { b with trace := b.trace ++ events }

/-- Asks for a stop; a second time makes no difference. -/
def requestStop (b : Bench) : Bench :=
  if b.stopRequested then b else { b with stopRequested := true }.record [.stopRequested]

/-- Asks for a stop if a handler wants one. -/
def heed (b : Bench) (stops : Bool) : Bench := if stops then b.requestStop else b

/-- Takes note of a verdict: counts it, and records what happens before the reply. -/
def absorb (b : Bench) (v : Verdict) : Bench :=
  { b with dispatcher := b.dispatcher.absorb v }.record
    (b.channel.events b.dispatcher.arrivals v)

/-- Sends the reply to message `number`, and counts and logs what the transport says to it. -/
def reply (b : Bench) (number : Nat) (response : Response) : Bench :=
  { b with dispatcher := b.dispatcher.settle b.refusal }.record <|
    .sent number response.encode b.refusal ::
      (b.channel.refusalNotices response b.refusal).map .noted

/-- Carries out what becomes of the chance to answer message `number`. -/
def complete (b : Bench) (number : Nat) : Completion → Bench
  | .dropped => b
  | .answered response => b.reply number response
  | .parked r => { b with parked := b.parked ++ [b.channel.ticket number r] }
  | .deferred r => { b with deferred := b.deferred ++ [b.channel.ticket number r] }
  | .panicked => { b with fallen := true }

/-- What is recorded comes at the end. -/
@[simp] theorem trace_record (b : Bench) (events : Trace) :
    (b.record events).trace = b.trace ++ events := rfl

/-- A first request to stop is recorded, and a later one is not. -/
theorem trace_requestStop (b : Bench) :
    b.requestStop.trace = b.trace ++ if b.stopRequested then [] else [.stopRequested] := by
  unfold requestStop
  split <;> simp [*]

/-- After a request to stop, a stop is requested. -/
theorem stopRequested_requestStop (b : Bench) : b.requestStop.stopRequested = true := by
  unfold requestStop
  split
  · assumption
  · rfl

/-! ### Dispatching -/

/-- What the dispatcher makes of a received item. -/
def judge (b : Bench) (received : Received) : Verdict := b.channel.judge received

/-- Receives an item: everything up to the reply, then what becomes of the chance to answer. -/
def dispatch (b : Bench) (received : Received) : Bench :=
  let verdict := b.judge received
  ((b.absorb verdict).heed verdict.stops).complete b.dispatcher.arrivals verdict.completion

/-- Lets a handler decide about a ticket. -/
def conclude (b : Bench) (t : Ticket) (behaviour : Behaviour) : Bench :=
  (b.heed behaviour.stops).complete t.number (behaviour.completion t.request)

/-- Lets a handler decide about the parked ticket at an index, taking it out first. -/
def release? (b : Bench) (index : Nat) (behaviour : Behaviour) : Option Bench :=
  b.parked[index]?.map fun t ↦
    { b with parked := b.parked.eraseIdx index }.conclude t behaviour

/-- Sends the replies that were put off, oldest first. -/
def flush (b : Bench) : Bench :=
  b.deferred.foldl (fun b t ↦ b.reply t.number (.success t.request t.request.body))
    { b with deferred := [] }

/-! ### Steps and what they report -/

/-- One step of driving a dispatcher by hand. -/
inductive Step where
  | receive (received : Received)
  /-- Decides about the parked ticket at an index. -/
  | release (index : Nat) (behaviour : Behaviour)
  /-- Changes what the transport says from now on. -/
  | setRefusal (refusal : Refusal)
  deriving DecidableEq

/-- What a step answers. -/
inductive Answer where
  | outcome (outcome : Outcome)
  | done
  | nothingParked
  | panicked
  deriving DecidableEq

/-- Takes a step. -/
def step (b : Bench) : Step → Bench
  | .receive received => b.dispatch received
  | .release index behaviour => (b.release? index behaviour).getD b
  | .setRefusal refusal => { b with refusal }

/-- What a step answers, told from the state before it. -/
def answer (b : Bench) : Step → Answer
  | .receive received =>
    let verdict := b.judge received
    if verdict.completion = .panicked then .panicked else .outcome verdict.outcome
  | .release index behaviour =>
    match b.parked[index]? with
    | none => .nothingParked
    | some t => if behaviour.completion t.request = .panicked then .panicked else .done
  | .setRefusal _ => .done

/-- What can be seen of a step: its answer, what happened, and the state it left. -/
structure Report where
  answer : Answer
  events : Trace
  after : Bench

/-- Takes a step and reports it. -/
def report (b : Bench) (s : Step) : Report :=
  { answer := b.answer s
    events := (b.step s).trace.drop b.trace.length
    after := b.step s }

/-! ### The trace only grows -/

theorem trace_le_requestStop (b : Bench) : b.trace <+: b.requestStop.trace :=
  b.trace_requestStop ▸ List.prefix_append _ _

/-- To reply adds to the trace. -/
theorem trace_le_reply (b : Bench) (number : Nat) (response : Response) :
    b.trace <+: (b.reply number response).trace := List.prefix_append _ _

/-- Whatever becomes of a chance to answer adds to the trace. -/
theorem trace_le_complete (b : Bench) (number : Nat) (c : Completion) :
    b.trace <+: (b.complete number c).trace := by
  cases c with
  | answered response => exact b.trace_le_reply number response
  | dropped | parked | deferred | panicked => exact List.prefix_refl _

theorem trace_le_heed (b : Bench) (stops : Bool) : b.trace <+: (b.heed stops).trace := by
  unfold heed
  split
  · exact b.trace_le_requestStop
  · exact List.prefix_refl _

/-- To dispatch adds to the trace. -/
theorem trace_le_dispatch (b : Bench) (received : Received) :
    b.trace <+: (b.dispatch received).trace :=
  .trans (.trans (List.prefix_append _ _) (trace_le_heed (b.absorb (b.judge received)) _))
    (trace_le_complete _ _ _)

theorem trace_le_conclude (b : Bench) (t : Ticket) (behaviour : Behaviour) :
    b.trace <+: (b.conclude t behaviour).trace :=
  .trans (b.trace_le_heed _) (trace_le_complete _ _ _)

/-- To release a ticket adds to the trace. -/
theorem trace_le_release (b : Bench) (index : Nat) (behaviour : Behaviour) :
    b.trace <+: ((b.release? index behaviour).getD b).trace := by
  unfold release?
  cases b.parked[index]? with
  | none => exact List.prefix_refl _
  | some t => exact trace_le_conclude { b with parked := b.parked.eraseIdx index } t behaviour

/-- Every step adds to the trace, and takes nothing from it. -/
theorem trace_le_step (b : Bench) (s : Step) : b.trace <+: (b.step s).trace := by
  cases s with
  | receive received => exact b.trace_le_dispatch received
  | release index behaviour => exact b.trace_le_release index behaviour
  | setRefusal refusal => exact List.prefix_refl _

/-- **A step reports exactly the events by which the trace grew.** -/
theorem trace_step (b : Bench) (s : Step) : (b.step s).trace = b.trace ++ (b.report s).events := by
  obtain ⟨events, h⟩ := b.trace_le_step s
  simp [report, ← h]

/-! ### Histories -/

/-- The state after a list of steps. -/
def run (b : Bench) (steps : List Step) : Bench := steps.foldl step b

/-- The reports of a list of steps. -/
def reports (b : Bench) : List Step → List Report
  | [] => []
  | s :: rest => b.report s :: (b.step s).reports rest

@[simp] theorem run_nil (b : Bench) : b.run [] = b := rfl

/-- A run takes the first step first. -/
@[simp] theorem run_cons (b : Bench) (s : Step) (rest : List Step) :
    b.run (s :: rest) = (b.step s).run rest := rfl

/-- **The reports of a list of steps are the whole of what happened.** -/
theorem trace_run (b : Bench) (steps : List Step) :
    (b.run steps).trace = b.trace ++ (b.reports steps).flatMap Report.events := by
  induction steps generalizing b with
  | nil => simp [reports]
  | cons s rest ih => simp [reports, ih, trace_step]

end Bench

end QueryDispatch
