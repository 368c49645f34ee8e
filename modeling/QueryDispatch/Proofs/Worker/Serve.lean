import QueryDispatch.Proofs.Dispatch
import QueryDispatch.Worker.Scripted

/-!
# How a worker serves

Serving ends where the worker is over (`serve_of_isOver`), and otherwise the next item of the script
takes it one of three ways: the wait fails and serving ends (`serve_of_failed`); the worker is
stopped during the wait and does not read (`serve_of_stops`); or it receives what the item has
loaded and goes on (`serve_of_loaded`). Statements about serving are inductions over the script with
these three cases (`serve_induction`).

For each operation of a worker it is said here what it adds to the trace and what it leaves alone.
The stage in particular is left alone by all of serving, and so are the channel and what the
transport says to replies (`Continues`).
-/

namespace QueryDispatch.Worker.Run

variable (r : Run)

/-- The worker after the wait for an item. -/
def wait (item : Item) : Run :=
  if item.stops then (r.call .readable).requestStop else r.call .readable

/-- What receiving an item adds to the trace after the call itself. -/
def receiveEvents (received : Received) : Trace :=
  if received = .fault .wouldBlock then [] else r.bench.dispatchEvents received

/-! ### What an operation adds -/

@[simp] theorem trace_call (c : SocketCall) :
    (r.call c).bench.trace = r.bench.trace ++ [.called c r.stage] := rfl

@[simp] theorem trace_note (notices : List Notice) :
    (r.note notices).bench.trace = r.bench.trace ++ notices.map .noted := rfl

/-- Asking again changes nothing. -/
theorem requestStop_of_stopRequested (h : r.stopRequested = true) : r.requestStop = r := by
  have hbench : r.bench.requestStop = r.bench := if_pos h
  rw [requestStop, hbench]

/-- What is received is called for, and adds its events. -/
theorem trace_receive (received : Received) :
    (r.receive received).bench.trace =
      r.bench.trace ++ .called .receive r.stage :: r.receiveEvents received := by
  rw [receive, receiveEvents]
  split
  · rfl
  · show ((r.call .receive).bench.dispatch received).trace = _
    rw [Bench.trace_dispatch, trace_call, List.append_assoc]
    rfl

/-- All that can happen during a wait is that the worker is asked to stop. -/
theorem bench_wait (item : Item) :
    (r.wait item).bench = (r.call .readable).bench.heed item.stops := by
  rw [wait, Bench.heed]
  split <;> rfl

/-- To wait is to ask whether there is something to read, and to record a stop. -/
theorem trace_wait (item : Item) :
    (r.wait item).bench.trace =
      r.bench.trace ++ .called .readable r.stage :: r.bench.stopEvents item.stops := by
  rw [bench_wait, Bench.trace_heed, trace_call, List.append_assoc]
  rfl

/-- What is received changes no stage and calls nothing. -/
theorem isLifecycle_of_mem_receiveEvents {received : Received} {e : Event}
    (h : e ∈ r.receiveEvents received) : e.isLifecycle = false := by
  rw [receiveEvents] at h
  split at h
  · cases h
  · exact r.bench.isLifecycle_of_mem_dispatchEvents received h

/-! ### What serving leaves alone -/

/-- What all of serving leaves as it is. -/
structure Continues (r r' : Run) : Prop where
  stage : r'.stage = r.stage
  channel : r'.bench.channel = r.bench.channel
  refusal : r'.bench.refusal = r.bench.refusal

namespace Continues

variable {r r' r'' : Run}

theorem refl (r : Run) : Continues r r := ⟨rfl, rfl, rfl⟩

theorem trans (h : Continues r r') (h' : Continues r' r'') : Continues r r'' :=
  ⟨h'.stage.trans h.stage, h'.channel.trans h.channel, h'.refusal.trans h.refusal⟩

end Continues

theorem continues_call (c : SocketCall) : Continues r (r.call c) := ⟨rfl, rfl, rfl⟩

theorem continues_note (notices : List Notice) : Continues r (r.note notices) := ⟨rfl, rfl, rfl⟩

theorem continues_wait (item : Item) : Continues r (r.wait item) where
  stage := by
    rw [wait]
    split <;> rfl
  channel := by
    rw [bench_wait, Bench.channel_heed]
    rfl
  refusal := by
    rw [bench_wait, Bench.refusal_heed]
    rfl

theorem continues_receive (received : Received) : Continues r (r.receive received) := by
  rw [receive]
  split
  · exact r.continues_call .receive
  · refine ⟨rfl, ?_, ?_⟩
    · exact (r.call .receive).bench.channel_dispatch received
    · exact (r.call .receive).bench.refusal_dispatch received

@[simp] theorem fallen_wait (item : Item) : (r.wait item).bench.fallen = r.bench.fallen := by
  rw [bench_wait, Bench.fallen_heed]
  rfl

/-- What is received breaks nothing down where no handler panics. -/
theorem fallen_receive (hr : r.bench.channel.registry.All Handler.NeverPanics)
    (received : Received) : (r.receive received).bench.fallen = r.bench.fallen := by
  rw [receive]
  split
  · rfl
  · exact (r.call .receive).bench.fallen_dispatch received hr

/-- A worker is stopped by what it receives only if a handler asks for it. -/
theorem stopRequested_receive
    (hr : r.bench.channel.registry.All fun handler ↦ handler.stops = false)
    (received : Received) : (r.receive received).stopRequested = r.stopRequested := by
  rw [receive]
  split
  · rfl
  · have hstops : ((r.call .receive).bench.judge received).stops = false :=
      Channel.stops_judge _ hr received
    show ((r.call .receive).bench.dispatch received).stopRequested = _
    rw [Bench.stopRequested_dispatch, hstops, Bool.or_false]
    rfl

/-- A stop is requested if it was so before or comes while the worker waits. -/
theorem stopRequested_wait (item : Item) :
    (r.wait item).stopRequested = (item.stops || r.stopRequested) := by
  show (r.wait item).bench.stopRequested = _
  rw [bench_wait, Bench.stopRequested_heed, Bool.or_comm]
  rfl

/-! ### The three ways of an item -/

variable {r} {ending : Ending}

/-- A run is not over while no stop is requested and nothing has broken down. -/
theorem isOver_eq_false_iff :
    r.isOver = false ↔ r.stopRequested = false ∧ r.bench.fallen = false :=
  Bool.or_eq_false_iff

/-- Nothing is served by a worker that is over. -/
theorem serve_of_isOver (h : r.isOver = true) (items : List Item) : serve ending items r = r := by
  cases items with
  | nil => rw [serve, if_pos h]
  | cons item rest => rw [serve, if_pos h]

/-- Once a stop is requested nothing more is served. -/
theorem serve_of_stopRequested (h : r.stopRequested = true) (items : List Item) :
    serve ending items r = r :=
  serve_of_isOver (Bool.or_eq_true_iff.2 (.inl h)) items

/-- The wait after the last item is one like any other. -/
theorem serve_nil (h : r.isOver = false) :
    serve ending [] r =
      r.wait { stops := ending == .stop, readiness := .failed .serviceStopped } := by
  rw [serve, if_neg (ne_true_of_eq_false h)]
  rcases ending with - | - <;> rfl

section Item

variable {item : Item} (h : r.isOver = false) (rest : List Item)

include h

/-- To serve a list is to serve its first item, and then the rest unless that was the end. -/
theorem serve_cons :
    serve ending (item :: rest) r =
      if (r.round item).2 then serve ending rest (r.round item).1 else (r.round item).1 := by
  rw [serve, if_neg (ne_true_of_eq_false h)]
  rcases r.round item with ⟨r', - | -⟩ <;> rfl

/-- A wait that fails ends serving. -/
theorem serve_of_failed {cause : TransportError} (hready : item.readiness = .failed cause) :
    serve ending (item :: rest) r = (r.wait item).note (pollNotices r.security cause) := by
  have hsecurity : (r.wait item).security = r.security :=
    congrArg Channel.security (r.continues_wait item).channel
  have hround : r.round item = ((r.wait item).note (pollNotices r.security cause), false) := by
    rw [← hsecurity]
    simp only [round, hready, wait]
  rw [serve_cons h, hround]
  rfl

/-- A stop during the wait keeps the worker from reading, and it finds itself over before the next
wait. -/
theorem serve_of_stops {received : Received} (hready : item.readiness = .loaded received)
    (hstops : item.stops = true) : serve ending (item :: rest) r = r.wait item := by
  have hstopped : (r.wait item).stopRequested = true := by
    rw [stopRequested_wait, hstops, Bool.true_or]
  have hround : r.round item =
      (if (r.wait item).stopRequested then r.wait item else (r.wait item).receive received,
        true) := by
    simp only [round, hready, wait]
    rfl
  rw [serve_cons h, hround, hstopped]
  exact serve_of_stopRequested hstopped rest

/-- What can be read is received, and serving goes on. -/
theorem serve_of_loaded {received : Received} (hready : item.readiness = .loaded received)
    (hstops : item.stops = false) :
    serve ending (item :: rest) r = serve ending rest ((r.call .readable).receive received) := by
  have hwait : r.wait item = r.call .readable := by
    rw [wait, hstops]
    rfl
  have hgoing : (r.call .readable).stopRequested = false := (isOver_eq_false_iff.1 h).1
  have hround : r.round item =
      (if (r.wait item).stopRequested then r.wait item else (r.wait item).receive received,
        true) := by
    simp only [round, hready, wait]
    rfl
  rw [serve_cons h, hround, hwait, hgoing]
  rfl

end Item

/-- **Induction over serving.** What holds of a worker that is over, of a wait that nothing follows,
and of a wait that fails, and carries over from the rest of the script to an item received before
it, holds of all serving. -/
theorem serve_induction {P : List Item → Run → Run → Prop}
    (ended : ∀ items r, r.isOver = true → P items r r)
    (waited : ∀ items item r, r.isOver = false → P items r (r.wait item))
    (failed : ∀ items item cause r, r.isOver = false →
      P items r ((r.wait item).note (pollNotices r.security cause)))
    (received : ∀ rest received r r', r.isOver = false →
      P rest ((r.call .readable).receive received) r' →
        P ({ readiness := .loaded received } :: rest) r r')
    (items : List Item) (r : Run) : P items r (serve ending items r) := by
  induction items generalizing r with
  | nil =>
    rcases hover : r.isOver with - | -
    · rw [serve_nil hover]
      exact waited [] _ r hover
    · rw [serve_of_isOver hover]
      exact ended [] r hover
  | cons item rest ih =>
    rcases hover : r.isOver with - | -
    · rcases hready : item.readiness with cause | x
      · rw [serve_of_failed hover rest hready]
        exact failed (item :: rest) item cause r hover
      · rcases hstops : item.stops with - | -
        · rw [serve_of_loaded hover rest hready hstops]
          obtain rfl : item = { readiness := .loaded x } := by rw [← hready, ← hstops]
          exact received rest x r _ hover (ih _)
        · rw [serve_of_stops hover rest hready hstops]
          exact waited (item :: rest) item r hover
    · rw [serve_of_isOver hover]
      exact ended (item :: rest) r hover

/-! ### All of serving -/

/-- To serve continues the run. -/
theorem continues_serve (items : List Item) (r : Run) : Continues r (serve ending items r) := by
  refine serve_induction (P := fun _ r r' ↦ Continues r r') ?ended ?waited ?failed ?received items r
  case ended => exact fun _ r _ ↦ .refl r
  case waited => exact fun _ item r _ ↦ r.continues_wait item
  case failed => exact fun _ item _ r _ ↦ (r.continues_wait item).trans (continues_note _ _)
  case received =>
    intro _ x r r' _ ih
    exact (r.continues_call .readable).trans ((continues_receive _ x).trans ih)

/-- Serving breaks down only if a handler does. -/
theorem fallen_serve (items : List Item) (r : Run)
    (hr : r.bench.channel.registry.All Handler.NeverPanics) :
    (serve ending items r).bench.fallen = r.bench.fallen := by
  revert hr
  refine serve_induction
    (P := fun _ r r' ↦ r.bench.channel.registry.All Handler.NeverPanics →
      r'.bench.fallen = r.bench.fallen)
    ?ended ?waited ?failed ?received items r
  case ended => exact fun _ r _ _ ↦ rfl
  case waited => exact fun _ item r _ _ ↦ r.fallen_wait item
  case failed => exact fun _ item _ r _ _ ↦ r.fallen_wait item
  case received =>
    intro _ x r r' _ ih hr
    have hchannel := (continues_receive (r.call .readable) x).channel
    rw [ih (hchannel ▸ hr), fallen_receive (r.call .readable) hr x]
    rfl

end QueryDispatch.Worker.Run
