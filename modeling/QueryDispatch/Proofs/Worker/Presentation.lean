import QueryDispatch.Proofs.Presentation
import QueryDispatch.Proofs.Worker.Redaction

/-!
# How a worker presents what it does

A worker has its channel and its address from its settings and its security. What it does on its own
account, to connect, to wait, to move from stage to stage and to disconnect, does not depend on
either; it only mentions them. So a whole run is a run of the worker of the plain channel, presented
as the channel at that address presents things (`Setup.run_presented`), and it ends the same way.
-/

namespace QueryDispatch

/-- The failure under another channel's name and address. -/
def WorkerError.onChannel (security : Security) (address : String) : WorkerError → WorkerError
  | .connect _ _ cause => .connect security address cause
  | .disconnect _ cause => .disconnect security cause
  | .join detail => .join detail

/-- The end under another channel's name and address. -/
def Exit.onChannel (security : Security) (address : String) : Exit → Exit
  | .failed error => .failed (error.onChannel security address)
  | exit => exit

namespace Worker

variable (c : Channel) (address : String)

/-! ### Notices of the worker itself -/

/-- What a worker says of itself mentions no peer, so that there is nothing to hide in it. -/
theorem connectNotice_presented (security : Security) (endpoint : String) (refusal : Refusal) :
    (connectNotice security endpoint refusal).presented c address =
      connectNotice c.security address refusal := by
  rcases refusal with - | cause <;> exact ite_self _

theorem pollNotices_presented (security : Security) (cause : TransportError) :
    (pollNotices security cause).map (Notice.presented c address) =
      pollNotices c.security cause := by
  have hpolled : (Notice.pollFailed security cause).presented c address =
      .pollFailed c.security cause := ite_self _
  cases cause with
  | serviceStopped => rfl
  | _ => exact congrArg ([·]) hpolled

theorem disconnectNotices_presented (security : Security) (refusal : Refusal) :
    (disconnectNotices security refusal).map (Notice.presented c address) =
      disconnectNotices c.security refusal := by
  rcases refusal with - | cause
  · rfl
  · exact congrArg ([·]) (ite_self _)

namespace Run

/-- The run with a channel put in place of the plain one, and all that has happened presented
accordingly. -/
def presented (r : Run) (c : Channel) (address : String) : Run :=
  { r with bench := r.bench.presented c address }

variable (r : Run)

/-- A call is presented as a call. -/
theorem call_presented (call : SocketCall) :
    (r.presented c address).call (call.onAddress address) =
      (r.call call).presented c address := by
  have hrecord := r.bench.record_presented c address [.called call r.stage]
  rw [Trace.presented_cons, Event.presented_called] at hrecord
  exact congrArg (Run.mk · r.stage) hrecord

theorem note_presented (notices : List Notice) :
    (r.presented c address).note (notices.map (Notice.presented c address)) =
      (r.note notices).presented c address := by
  have hrecord := r.bench.record_presented c address (notices.map .noted)
  rw [Trace.presented_noted] at hrecord
  exact congrArg (Run.mk · r.stage) hrecord

theorem change_presented (change : Change) :
    (r.presented c address).change change = (r.change change).presented c address := by
  have hstage : (r.presented c address).stage = r.stage := rfl
  rw [Run.change, Run.change, hstage]
  rcases r.stage.after? change with - | stage
  · rfl
  · have hrecord := r.bench.record_presented c address [.entered stage]
    rw [Trace.presented_cons, Event.presented_entered] at hrecord
    exact congrArg (Run.mk · stage) hrecord

/-- To wait is presented as to wait. -/
theorem wait_presented (item : Item) :
    (r.presented c address).wait item = (r.wait item).presented c address := by
  have hcall := r.call_presented c address .readable
  have hbench : ((r.presented c address).wait item).bench =
      (r.wait item).bench.presented c address := by
    rw [bench_wait, bench_wait, ← Bench.heed_presented]
    exact congrArg (fun r' ↦ r'.bench.heed item.stops) hcall
  have hstage : ∀ r : Run, (r.wait item).stage = r.stage := fun r ↦ (r.continues_wait item).stage
  have heta : ∀ r : Run, r = ⟨r.bench, r.stage⟩ := fun r ↦ rfl
  rw [heta ((r.presented c address).wait item), hbench, hstage]
  show _ = Run.mk _ (r.wait item).stage
  rw [hstage]
  rfl

/-- To finish is presented as to finish. -/
theorem finish_presented (refusal : Refusal) :
    (r.presented c address).finish refusal = (r.finish refusal).presented c address := by
  rw [finish, finish, ← change_presented, ← note_presented, disconnectNotices_presented,
    ← call_presented, ← change_presented]
  rfl

section Plain

variable {r c} (hr : r.bench.channel = c.plain)

include hr

/-- To receive is presented as to receive. -/
theorem receive_presented (x : Received) :
    (r.presented c address).receive x = (r.receive x).presented c address := by
  have hcall := r.call_presented c address .receive
  rw [receive, receive]
  show (if x = .fault .wouldBlock then (r.presented c address).call .receive
    else { (r.presented c address).call .receive with
      bench := ((r.presented c address).call .receive).bench.dispatch x }) = _
  rw [show (r.presented c address).call .receive = _ from hcall]
  split
  · rfl
  · have hdispatch := Bench.dispatch_presented (b := (r.call .receive).bench) address hr x
    exact congrArg (Run.mk · r.stage) hdispatch

/-- **Serving is presented.** -/
theorem serve_presented (ending : Ending) (items : List Item) :
    serve ending items (r.presented c address) = (serve ending items r).presented c address := by
  induction items generalizing r with
  | nil =>
    rcases hover : r.isOver with - | -
    · rw [serve_nil hover, serve_nil (r := r.presented c address) hover, wait_presented]
    · rw [serve_of_isOver hover, serve_of_isOver (r := r.presented c address) hover]
  | cons item rest ih =>
    rcases hover : r.isOver with - | -
    · rcases hready : item.readiness with cause | x
      · rw [serve_of_failed hover rest hready,
          serve_of_failed (r := r.presented c address) hover rest hready, wait_presented,
          ← note_presented, pollNotices_presented]
        rfl
      · rcases hstops : item.stops with - | -
        · have hnext : ((r.call .readable).receive x).bench.channel = c.plain := by
            rw [(continues_receive (r.call .readable) x).channel]
            exact hr
          have hcall : (r.presented c address).call .readable =
              (r.call .readable).presented c address := r.call_presented c address .readable
          rw [serve_of_loaded hover rest hready hstops,
            serve_of_loaded (r := r.presented c address) hover rest hready hstops, hcall,
            receive_presented (r := r.call .readable) address hr, ih hnext]
        · rw [serve_of_stops hover rest hready hstops,
            serve_of_stops (r := r.presented c address) hover rest hready hstops, wait_presented]
    · rw [serve_of_isOver hover, serve_of_isOver (r := r.presented c address) hover]

/-- To serve to the end is presented as that. -/
theorem serveToEnd_presented (script : Script) :
    (r.presented c address).serveToEnd script =
      ((r.serveToEnd script).1.presented c address,
        (r.serveToEnd script).2.onChannel c.security address) := by
  rw [serveToEnd, serveToEnd]
  simp only [serve_presented address hr]
  show (if (serve script.ending script.items r).bench.fallen then _ else _) = _
  split
  · rfl
  · rw [finish_presented]
    rcases script.disconnectRefusal with - | cause <;> rfl

end Plain

end Run

namespace Setup

/-- The worker of the plain channel. -/
def plain (s : Setup) : Setup :=
  { s with
    security := .unsecured
    settings := { s.settings with verbose := false, redactRoutes := false } }

variable (s : Setup)

/-- The opening of a worker is that of the plain one, presented. -/
theorem opened_presented : s.opened = s.plain.opened.presented s.channel s.endpoint := by
  have hinitial : s.initial = s.plain.initial.presented s.channel s.endpoint := by
    have hearly : s.earlyEvents = Trace.presented s.channel s.endpoint s.plain.earlyEvents := by
      show (if s.stopBefore then _ else _) = Trace.presented _ _ (if s.stopBefore then _ else _)
      split
      · rw [Trace.presented_cons, Event.presented_stopRequested]
        rfl
      · rfl
    rw [initial_eq, initial_eq, hearly]
    rfl
  rw [opened, opened, ← Run.change_presented, ← Run.note_presented, ← Run.call_presented,
    ← hinitial, List.map_singleton, connectNotice_presented]
  rfl

/-- **A whole run is that of the plain worker, presented.** -/
theorem run_presented :
    s.run = (s.plain.run.1.presented s.channel s.endpoint,
      s.plain.run.2.onChannel s.security s.endpoint) := by
  rcases hconnect : s.script.connectRefusal with - | cause
  · have hplain : s.plain.opened.bench.channel = s.channel.plain := s.plain.channel_opened
    rw [run_eq_serveToEnd hconnect, run_eq_serveToEnd (s := s.plain) hconnect, opened_presented]
    exact Run.serveToEnd_presented s.endpoint hplain s.script
  · rw [run_of_refused hconnect, run_of_refused (s := s.plain) hconnect, opened_presented]
    rfl

/-- The end of a worker is that of the plain one, presented. -/
theorem final_presented : s.final = s.plain.final.presented s.channel s.endpoint := by
  have hplain : s.plain.run.1.bench.channel = s.channel.plain := s.plain.channel_run
  rw [final, final, run_presented]
  exact congrArg (Run.mk · s.plain.run.1.stage) (Bench.flush_presented s.endpoint hplain)

theorem exit_presented : s.exit = s.plain.exit.onChannel s.security s.endpoint :=
  congrArg Prod.snd s.run_presented

theorem trace_presented : s.trace = s.plain.trace.presented s.channel s.endpoint :=
  congrArg (fun r ↦ r.bench.trace) s.final_presented

end Setup

end Worker

end QueryDispatch
