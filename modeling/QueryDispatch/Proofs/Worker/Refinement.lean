import QueryDispatch.Proofs.Worker.SocketProtocol

/-!
# A worker refines a bare dispatcher

As long as nobody asks it to stop and waiting succeeds, nothing a worker receives ends its run or
disturbs it: it takes every item of the script, and what it does about them is what a dispatcher
does that is given the same items by hand, except those that say there is nothing to read, which
the worker passes over. `refines_dispatcher` is that statement, with the dispatcher on a bench.

The simulation goes item by item (`bench_receiveAll`). Worker and bench differ in nothing but the
calls on the socket that stand between the events of the worker, and since a dispatch does not look
at the past (`Bench.dispatch_rewritten`), the difference stays what it is.
-/

namespace QueryDispatch.Worker

/-- What a dispatcher is given of the items: all but those that say there is nothing to read. -/
def readings (received : List Received) : List Bench.Step :=
  (received.filter (· ≠ .fault .wouldBlock)).map .receive

namespace Run

variable {ending : Ending}

/-- The worker after it has waited for and received each of some items. -/
def receiveAll (r : Run) (received : List Received) : Run :=
  received.foldl (fun r x ↦ (r.call .readable).receive x) r

/-- **Nothing received ends serving**, where no handler asks for a stop or breaks down. -/
theorem serve_loaded (received : List Received) (r : Run) (hover : r.isOver = false)
    (hr : r.bench.channel.registry.All fun handler ↦
      handler.stops = false ∧ handler.NeverPanics) :
    serve ending (received.map fun x ↦ { readiness := .loaded x }) r =
      (r.receiveAll received).wait
        { stops := ending == .stop, readiness := .failed .serviceStopped } := by
  induction received generalizing r with
  | nil => exact serve_nil hover
  | cons x rest ih =>
    have hchannel := (continues_receive (r.call .readable) x).channel
    obtain ⟨hstop, hfallen⟩ := isOver_eq_false_iff.1 hover
    have hnext : ((r.call .readable).receive x).isOver = false := by
      refine isOver_eq_false_iff.2 ⟨?_, ?_⟩
      · exact ((r.call .readable).stopRequested_receive (hr.imp fun _ h ↦ h.1) x).trans hstop
      · exact ((r.call .readable).fallen_receive (hr.imp fun _ h ↦ h.2) x).trans hfallen
    rw [List.map_cons, serve_of_loaded hover _ rfl rfl, ih _ hnext (hchannel ▸ hr)]
    rfl

/-- **The simulation.** A worker that has the history `t` where a bench has its own does what the
bench does with the readings of the items, and what it adds shows the same work. -/
theorem bench_receiveAll (received : List Received) (r : Run) (b : Bench) (t : Trace)
    (hb : r.bench = b.rewritten t)
    (hr : b.channel.registry.All fun handler ↦ handler.stops = false) :
    ∃ es, (r.receiveAll received).bench = (b.run (readings received)).rewritten (t ++ es) ∧
      (b.run (readings received)).trace = b.trace ++ es.filter Event.isWork ∧
      Trace.calls es = received.flatMap fun _ ↦ [(.readable, r.stage), (.receive, r.stage)] := by
  induction received generalizing r b t with
  | nil =>
    refine ⟨[], ?_, ?_, rfl⟩
    · rw [List.append_nil]
      exact hb
    · exact (List.append_nil _).symm
  | cons x rest ih =>
    -- the two calls around the reading are the worker's own
    set calls : Trace := [.called .readable r.stage, .called .receive r.stage] with hcalls
    have hcalled : ((r.call .readable).call .receive).bench = b.rewritten (t ++ calls) := by
      show (r.bench.record _).record _ = _
      rw [hb]
      simp [Bench.record, Bench.rewritten, hcalls, call]
    have hstage : ((r.call .readable).receive x).stage = r.stage :=
      (continues_receive (r.call .readable) x).stage
    by_cases hx : x = .fault .wouldBlock
    · -- nothing to read: the bench is not told
      have hreceive : ((r.call .readable).receive x).bench = b.rewritten (t ++ calls) := by
        rw [receive, if_pos hx]
        exact hcalled
      obtain ⟨es, hbench, htrace, hes⟩ := ih _ b _ hreceive hr
      have hreadings : readings (x :: rest) = readings rest := by
        rw [readings, List.filter_cons_of_neg (by simp [hx])]
        rfl
      refine ⟨calls ++ es, ?_, ?_, ?_⟩
      · rw [hreadings, ← List.append_assoc]
        exact hbench
      · rw [hreadings]
        exact htrace
      · rw [Trace.calls_append, hes, hstage]
        rfl
    · -- the worker dispatches what the bench dispatches
      have hreceive : ((r.call .readable).receive x).bench =
          (b.dispatch x).rewritten (t ++ calls ++ b.dispatchEvents x) := by
        rw [receive, if_neg hx, ← Bench.dispatch_rewritten, ← hcalled]
      obtain ⟨es, hbench, htrace, hes⟩ := ih _ (b.dispatch x) _ hreceive
        (b.channel_dispatch x ▸ hr)
      have hreadings : readings (x :: rest) = .receive x :: readings rest := by
        rw [readings, List.filter_cons_of_pos (by simp [hx])]
        rfl
      have hwork : (b.dispatchEvents x).filter Event.isWork = b.dispatchEvents x :=
        List.filter_eq_self.2 fun e he ↦ b.isWork_of_mem_dispatchEvents x hr he
      have hlife : Trace.calls (b.dispatchEvents x) = [] :=
        Trace.calls_eq_nil fun e he ↦ b.isLifecycle_of_mem_dispatchEvents x he
      refine ⟨calls ++ (b.dispatchEvents x ++ es), ?_, ?_, ?_⟩
      · rw [hreadings, ← List.append_assoc, ← List.append_assoc]
        exact hbench
      · rw [hreadings, Bench.run_cons]
        show ((b.dispatch x).run (readings rest)).trace = _
        rw [htrace, Bench.trace_dispatch, List.filter_append, List.filter_append, hwork,
          List.append_assoc]
        rfl
      · rw [Trace.calls_append, Trace.calls_append, hlife, hes, hstage]
        rfl

end Run

namespace Setup

variable (s : Setup)

/-- The dispatcher a worker is compared with: the same channel, the same word on every reply. -/
def bare : Bench := { dispatcher := { channel := s.channel }, refusal := s.refusal }

section Loaded

variable {s} {received : List Received} (hconnect : s.script.connectRefusal = none)
  (hbefore : s.stopBefore = false)
  (hitems : s.script.items = received.map fun x ↦ { readiness := .loaded x })
  (hcalm : s.registry.All fun handler ↦ handler.stops = false ∧ handler.NeverPanics)

include hbefore hcalm

/-- The worker that has received all items has done what the dispatcher does. -/
theorem bench_received (received : List Received) :
    ∃ es, (s.opened.receiveAll received).bench =
        (s.bare.run (readings received)).rewritten (s.openingEvents ++ es) ∧
      (s.bare.run (readings received)).trace = es.filter Event.isWork ∧
      Trace.calls es =
        received.flatMap fun _ ↦ [(.readable, s.opened.stage), (.receive, s.opened.stage)] := by
  have hopened : s.opened.bench = s.bare.rewritten s.openingEvents := by
    rw [bench_opened, initial_eq, earlyEvents, hbefore]
    rfl
  have hbare : s.bare.channel.registry.All fun handler ↦ handler.stops = false :=
    hcalm.imp fun _ h ↦ h.1
  exact Run.bench_receiveAll received s.opened s.bare s.openingEvents hopened hbare

include hitems

/-- Serving ends with the wait after the last item. -/
theorem served_loaded :
    s.served = (s.opened.receiveAll received).wait
      { stops := s.script.ending == .stop, readiness := .failed .serviceStopped } := by
  have hover : s.opened.isOver = false :=
    Run.isOver_eq_false_iff.2 ⟨s.stopRequested_opened.trans hbefore, s.fallen_opened⟩
  rw [served, hitems]
  exact Run.serve_loaded received s.opened hover (s.channel_opened ▸ hcalm)

/-- At the end of serving only the trace tells the worker from the dispatcher, and whether it was
asked to stop. -/
theorem bench_served_loaded :
    s.served.bench =
      { s.bare.run (readings received) with
        trace := s.served.bench.trace
        stopRequested := s.served.bench.stopRequested } := by
  obtain ⟨es, hbench, -⟩ := bench_received hbefore hcalm received
  set all := s.opened.receiveAll received
  have hcalled : (all.call .readable).bench = (s.bare.run (readings received)).rewritten
      (s.openingEvents ++ es ++ [.called .readable all.stage]) := by
    show all.bench.record [.called .readable all.stage] = _
    rw [hbench]
    rfl
  rw [served_loaded hbefore hitems hcalm, Run.bench_wait, hcalled, Bench.heed_eq]
  rfl

include hconnect

/-- What serving adds to the trace shows the work of the dispatcher. -/
theorem trace_served_loaded :
    ∃ serving : Trace, s.served.bench.trace = s.openingEvents ++ serving ∧
      serving.calls = (received.flatMap fun _ ↦ [(.readable, .running), (.receive, .running)]) ++
        [(.readable, .running)] ∧
      serving.filter Event.isWork = (s.bare.run (readings received)).trace := by
  obtain ⟨es, hbench, htrace, hcalls⟩ := bench_received hbefore hcalm received
  set all := s.opened.receiveAll received
  set item : Item := { stops := s.script.ending == .stop, readiness := .failed .serviceStopped }
  have hserved : s.served = all.wait item := served_loaded hbefore hitems hcalm
  have hstage : all.stage = .running := by
    have hwaited := stage_served hconnect
    rw [hserved, (all.continues_wait item).stage] at hwaited
    exact hwaited
  -- the wait itself may be when the worker is asked to stop
  set last := all.bench.stopEvents item.stops with hlast
  have hasked : ∀ e ∈ last, e = .stopRequested := fun e he ↦
    all.bench.eq_stopRequested_of_mem_stopEvents he
  have hcalls' : Trace.calls last = [] := Trace.calls_eq_nil fun e he ↦ by rw [hasked e he]; rfl
  have hwork : last.filter Event.isWork = [] :=
    List.filter_eq_nil_iff.2 fun e he ↦ by rw [hasked e he]; exact Bool.false_ne_true
  refine ⟨es ++ .called .readable .running :: last, ?_, ?_, ?_⟩
  · rw [hserved, all.trace_wait, hstage, ← hlast, hbench]
    exact List.append_assoc ..
  · rw [Trace.calls_append, Trace.calls_called, hcalls, hcalls', stage_opened_of_connected hconnect]
  · rw [List.filter_append, List.filter_cons_of_neg Bool.false_ne_true, hwork, List.append_nil]
    exact htrace.symm

end Loaded

/-- **A worker refines a bare dispatcher.** Between its opening and its closing the worker makes one
`readable` and one `receive` for each item, and a last `readable`; all else that shows there is what
the dispatcher does that is given the readings of the items. Both count the same, and both send the
same replies if they are asked at last for those that were put off. -/
theorem refines_dispatcher (settings : Settings) (security : Security)
    (registry : Registry (Handler Binding)) (script : Script) (refusal : Refusal)
    (received : List Received) (hconnect : script.connectRefusal = none)
    (hitems : script.items = received.map fun x ↦ { readiness := .loaded x })
    (hcalm : registry.All fun handler ↦ handler.stops = false ∧ handler.NeverPanics) :
    let s : Setup := { settings, security, registry, script, refusal }
    let dispatched := s.bare.run (readings received)
    ∃ serving : Trace,
      s.trace = s.openingEvents ++ serving ++ closingEvents security script.disconnectRefusal ++
        dispatched.flushEvents ∧
      serving.calls = (received.flatMap fun _ ↦ [(.readable, .running), (.receive, .running)]) ++
        [(.readable, .running)] ∧
      serving.filter Event.isWork = dispatched.trace ∧
      s.run.1.bench.tally = dispatched.tally ∧ s.final.bench.tally = dispatched.flush.tally := by
  intro s dispatched
  have hs : s.registry.All Handler.NeverPanics := hcalm.imp fun _ h ↦ h.2
  obtain ⟨serving, htrace, hcalls, hwork⟩ := trace_served_loaded (s := s) hconnect rfl hitems hcalm
  have hbench := bench_served_loaded (s := s) rfl hitems hcalm
  have hrun := bench_run_of_connected hconnect hs
  refine ⟨serving, ?_, hcalls, hwork, ?_, ?_⟩
  · rw [trace_of_connected hconnect hs, htrace, hbench]
    rfl
  · rw [hrun, hbench]
    rfl
  · show s.run.1.bench.flush.tally = _
    rw [hrun, hbench, Bench.tally_flush, Bench.tally_flush]
    rfl

theorem refines_dispatcher_pinging :
    ∃ serving : Trace, serving.calls = [(.readable, .running), (.receive, .running),
      (.readable, .running), (.receive, .running), (.readable, .running)] ∧
      serving.filter Event.isWork =
        ((pinging {}).bare.run (readings [ping, .fault .wouldBlock])).trace := by
  have hcalm : (pinging {}).registry.All fun handler ↦
      handler.stops = false ∧ handler.NeverPanics :=
    Registry.all_ofBehaviours (fun m ↦ ⟨rfl, Handler.neverPanics_node m⟩) fun b hb _ ↦ by
      obtain rfl := List.mem_singleton.1 hb
      exact ⟨rfl, Handler.neverPanics_custom Behaviour.noConfusion⟩
  obtain ⟨serving, -, hcalls, hwork, -⟩ := refines_dispatcher {} .unsecured (pinging {}).registry
    { items := [ping, .fault .wouldBlock].map fun x ↦ { readiness := .loaded x } } none
    [ping, .fault .wouldBlock] rfl rfl hcalm
  exact ⟨serving, hcalls, hwork⟩

end Setup

end QueryDispatch.Worker
