import QueryDispatch.Proofs.Worker.Serve

/-!
# The course of a whole run

A run opens by connecting. If that is refused it is over; otherwise it serves, closes by
disconnecting, and after its end what handlers had put off is sent. The trace of a whole run is put
together accordingly (`trace_of_refused`, `trace_of_connected`), so what is left to be said of a run
is said of serving.

A run whose handlers break down stops short of the closing, and is left out here.
-/

namespace QueryDispatch.Worker

/-! ### Closing -/

/-- What draining and disconnecting adds to the trace. -/
def closingEvents (security : Security) (refusal : Refusal) : Trace :=
  [.entered .draining, .called .disconnect .draining] ++
    (disconnectNotices security refusal).map .noted ++ [.entered .stopped]

theorem calls_closingEvents (security : Security) (refusal : Refusal) :
    Trace.calls (closingEvents security refusal) = [(.disconnect, .draining)] := by
  rcases refusal with - | cause <;> rfl

theorem stages_closingEvents (security : Security) (refusal : Refusal) :
    Trace.stages (closingEvents security refusal) = [.draining, .stopped] := by
  rcases refusal with - | cause <;> rfl

/-- To finish adds the closing events. -/
theorem bench_finish {r : Run} (h : r.stage = .running) (refusal : Refusal) :
    (r.finish refusal).bench =
      r.bench.rewritten (r.bench.trace ++ closingEvents r.security refusal) := by
  obtain ⟨bench, stage⟩ := r
  obtain rfl : stage = .running := h
  simp [Run.finish, Run.change, Run.call, Run.note, Stage.after?, Bench.record, Bench.rewritten,
    closingEvents, Run.security]

theorem stage_finish {r : Run} (h : r.stage = .running) (refusal : Refusal) :
    (r.finish refusal).stage = .stopped := by
  obtain ⟨bench, stage⟩ := r
  obtain rfl : stage = .running := h
  rfl

namespace Setup

variable (s : Setup)

/-- All that happens in a run, what is sent after its end included. -/
def trace : Trace := s.final.bench.trace

/-- The channel the worker serves. -/
def channel : Channel := .ofSettings s.settings s.security s.registry

/-! ### Opening -/

/-- The worker once it has tried to connect. -/
def opened : Run :=
  ((s.initial.call (.connect s.endpoint)).note
    [connectNotice s.security s.endpoint s.script.connectRefusal]).change
      (connectChange s.script.connectRefusal)

/-- The worker once there is nothing more for it to serve. -/
def served : Run := .serve s.script.ending s.script.items s.opened

/-- What happens before the worker connects: it may have been asked to stop. -/
def earlyEvents : Trace := if s.stopBefore then [.stopRequested] else []

/-- What happens when the worker connects. -/
def openingEvents : Trace :=
  [.called (.connect s.endpoint) .idle,
    .noted (connectNotice s.security s.endpoint s.script.connectRefusal),
    .entered (if s.script.connectRefusal.isNone then .running else .stopped)]

theorem initial_eq :
    s.initial =
      { bench :=
          { dispatcher := { channel := s.channel }
            refusal := s.refusal
            stopRequested := s.stopBefore
            trace := s.earlyEvents } } := by
  unfold initial earlyEvents
  rcases s.stopBefore with - | - <;> rfl

theorem bench_opened :
    s.opened.bench = s.initial.bench.rewritten (s.earlyEvents ++ s.openingEvents) := by
  rw [opened, initial_eq, openingEvents]
  rcases s.script.connectRefusal with - | cause <;>
    simp [Run.call, Run.note, Run.change, connectChange, Stage.after?, Bench.record,
      Bench.rewritten]

/-- The opening leaves the early events and those of the opening. -/
theorem trace_opened : s.opened.bench.trace = s.earlyEvents ++ s.openingEvents := by
  rw [bench_opened]
  rfl

theorem channel_opened : s.opened.bench.channel = s.channel := by
  rw [bench_opened, initial_eq]
  rfl

theorem refusal_opened : s.opened.bench.refusal = s.refusal := by
  rw [bench_opened, initial_eq]
  rfl

theorem fallen_opened : s.opened.bench.fallen = false := by
  rw [bench_opened, initial_eq]
  rfl

theorem stopRequested_opened : s.opened.stopRequested = s.stopBefore := by
  show s.opened.bench.stopRequested = _
  rw [bench_opened, initial_eq]
  rfl

theorem stage_opened :
    s.opened.stage = if s.script.connectRefusal.isNone then .running else .stopped := by
  rw [opened, initial_eq]
  rcases s.script.connectRefusal with - | cause <;> rfl

theorem security_opened : s.opened.security = s.security :=
  congrArg Channel.security s.channel_opened

theorem channel_served : s.served.bench.channel = s.channel :=
  (Run.continues_serve s.script.items s.opened).channel.trans s.channel_opened

/-! ### Whole runs -/

variable {s}

section Refused

variable {cause : TransportError} (h : s.script.connectRefusal = some cause)

include h

/-- A run that cannot connect is over. -/
theorem run_of_refused :
    s.run = (s.opened, .failed (.connect s.security s.endpoint cause)) := by
  have hsecurity : s.initial.security = s.security := by rw [initial_eq]; rfl
  rw [run, Run.perform, hsecurity, h, opened, h]
  rfl

/-- Where the connection is refused the trace ends with the opening. -/
theorem trace_of_refused : s.trace = s.earlyEvents ++ s.openingEvents := by
  have hdeferred : s.opened.bench.deferred = [] := by rw [bench_opened, initial_eq]; rfl
  rw [trace, final, run_of_refused h, Bench.trace_flush, Bench.flushEvents, hdeferred,
    trace_opened, List.flatMap_nil, List.append_nil]

theorem stage_final_of_refused : s.final.stage = .stopped := by
  rw [final, run_of_refused h]
  show s.opened.stage = .stopped
  rw [stage_opened, h]
  rfl

end Refused

section Connected

variable (h : s.script.connectRefusal = none) (hs : s.registry.All Handler.NeverPanics)

include h

/-- A worker that is connected is running. -/
theorem stage_opened_of_connected : s.opened.stage = .running := by
  rw [stage_opened, h]
  rfl

theorem stage_served : s.served.stage = .running :=
  (Run.continues_serve s.script.items s.opened).stage.trans (stage_opened_of_connected h)

/-- What there is to a run that connects comes after its opening. -/
theorem run_eq_serveToEnd : s.run = s.opened.serveToEnd s.script := by
  have hsecurity : s.initial.security = s.security := by rw [initial_eq]; rfl
  rw [run, Run.perform, hsecurity, h, opened, h]
  rfl

include hs

/-- A run that connects serves, and then closes. -/
theorem run_of_connected :
    s.run = (s.served.finish s.script.disconnectRefusal,
      disconnectExit s.security s.script.disconnectRefusal) := by
  have hfallen : s.served.bench.fallen = false := by
    have hchannel : s.opened.bench.channel.registry.All Handler.NeverPanics :=
      s.channel_opened ▸ hs
    rw [served, Run.fallen_serve _ _ hchannel, fallen_opened]
  rw [run_eq_serveToEnd h, Run.serveToEnd, security_opened]
  exact if_neg (ne_true_of_eq_false hfallen)

/-- All that closing does shows in the trace. -/
theorem bench_run_of_connected :
    s.run.1.bench = s.served.bench.rewritten
      (s.served.bench.trace ++ closingEvents s.security s.script.disconnectRefusal) := by
  have hsecurity : s.served.security = s.security :=
    congrArg Channel.security s.channel_served
  rw [run_of_connected h hs, bench_finish (stage_served h), hsecurity]

/-- Where the worker was connected the trace is what it served, the closing and the flush. -/
theorem trace_of_connected :
    s.trace = s.served.bench.trace ++ closingEvents s.security s.script.disconnectRefusal ++
      s.served.bench.flushEvents := by
  show s.run.1.bench.flush.trace = _
  rw [Bench.trace_flush, bench_run_of_connected h hs]
  rfl

/-- A worker that was connected ends stopped. -/
theorem stage_final_of_connected : s.final.stage = .stopped := by
  rw [final, run_of_connected h hs]
  exact stage_finish (stage_served h) _

end Connected

end Setup

end QueryDispatch.Worker
