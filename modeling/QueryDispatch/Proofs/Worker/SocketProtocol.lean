import QueryDispatch.Proofs.Worker.Course

/-!
# The socket protocol of a whole run

However a run goes, the calls it makes on its socket are those of

    connect (readable receive)* readable? disconnect

where a refused connect is the only call. `socket_protocol` says so, together with the stages that a
watcher sees, the stage each call and each handler finds the worker in, and how the run ends.

The last `readable` is one that was not followed by a `receive`: it failed, or the worker was
stopped while it waited. Serving shows no more of itself than these pairs (`exchanges_serve`), by
induction over the script; the rest of the protocol is the opening and the closing of the run.
-/

namespace QueryDispatch.Worker

/-- A number of waits that each led to a `receive`. -/
def exchanges (n : Nat) : List (SocketCall × Stage) :=
  (List.replicate n [(SocketCall.readable, Stage.running), (.receive, .running)]).flatten

namespace Run

/-- From `r` to `r'` the worker, while running, waited and received in turn, at most once for each
item, and perhaps waited once more. -/
def Exchanges (items : List Item) (r r' : Run) : Prop :=
  ∃ es, r'.bench.trace = r.bench.trace ++ es ∧ Trace.stages es = [] ∧
    ∃ n ≤ items.length, ∃ last, (last = [] ∨ last = [(.readable, .running)]) ∧
      Trace.calls es = exchanges n ++ last

/-- Serving that ends with a wait, whatever happens during it. -/
theorem exchanges_of_wait {items : List Item} {r r' : Run} {es : Trace}
    (htrace : r'.bench.trace = r.bench.trace ++ .called .readable .running :: es)
    (hes : ∀ e ∈ es, e.isLifecycle = false) : Exchanges items r r' := by
  refine ⟨_, htrace, ?_, 0, Nat.zero_le _, [(.readable, .running)], .inr rfl, ?_⟩
  · rw [Trace.stages_called, Trace.stages_eq_nil hes]
  · rw [Trace.calls_called, Trace.calls_eq_nil hes]
    rfl

/-- **Serving follows the protocol.** -/
theorem exchanges_serve (ending : Ending) (items : List Item) (r : Run) (hr : r.stage = .running) :
    Exchanges items r (serve ending items r) := by
  revert hr
  refine serve_induction (P := fun items r r' ↦ r.stage = .running → Exchanges items r r')
    ?ended ?waited ?failed ?received items r
  case ended =>
    intro items r _ _
    exact ⟨[], (List.append_nil _).symm, rfl, 0, Nat.zero_le _, [], .inl rfl, rfl⟩
  case waited =>
    intro items item r _ hr
    have htrace := r.trace_wait item
    rw [hr] at htrace
    refine exchanges_of_wait htrace fun e he ↦ ?_
    rw [r.bench.eq_stopRequested_of_mem_stopEvents he]
    rfl
  case failed =>
    intro items item cause r _ hr
    have htrace := r.trace_wait item
    rw [hr] at htrace
    have hnoted : ((r.wait item).note (pollNotices r.security cause)).bench.trace =
        r.bench.trace ++ .called .readable .running ::
          (r.bench.stopEvents item.stops ++ (pollNotices r.security cause).map .noted) := by
      rw [trace_note, htrace, List.append_assoc]
      rfl
    refine exchanges_of_wait hnoted fun e he ↦ ?_
    rcases List.mem_append.1 he with he | he
    · rw [r.bench.eq_stopRequested_of_mem_stopEvents he]
      rfl
    · obtain ⟨notice, -, rfl⟩ := List.mem_map.1 he
      rfl
  case received =>
    intro rest x r r' _ ih hr
    obtain ⟨es, htrace, hstages, n, hn, last, hlast, hcalls⟩ :=
      ih ((continues_receive _ x).stage.trans hr)
    -- what the reading itself adds is no call and no stage
    set got := (r.call .readable).receiveEvents x with hgot
    have hlife : ∀ e ∈ got, e.isLifecycle = false := fun e he ↦
      (r.call .readable).isLifecycle_of_mem_receiveEvents he
    refine ⟨.called .readable .running :: .called .receive .running :: (got ++ es), ?_, ?_,
      n + 1, Nat.succ_le_succ hn, last, hlast, ?_⟩
    · rw [htrace, trace_receive, trace_call, ← hgot]
      show r.bench.trace ++ [.called .readable r.stage] ++ .called .receive r.stage :: got ++ es = _
      rw [hr, List.append_assoc, List.append_assoc]
      rfl
    · rw [Trace.stages_called, Trace.stages_called, Trace.stages_append,
        Trace.stages_eq_nil hlife, hstages]
      rfl
    · rw [Trace.calls_called, Trace.calls_called, Trace.calls_append, Trace.calls_eq_nil hlife,
        hcalls]
      rfl

end Run

namespace Setup

variable (s : Setup)

/-- Before the worker connects nothing but a request to stop is recorded. -/
theorem eq_stopRequested_of_mem_earlyEvents {e : Event} (h : e ∈ s.earlyEvents) :
    e = .stopRequested := by
  rw [earlyEvents] at h
  split at h
  · exact List.mem_singleton.1 h
  · cases h

/-- Connecting neither sends anything nor concerns a handler. -/
theorem mem_opening {e : Event} (h : e ∈ s.earlyEvents ++ s.openingEvents) :
    e.isSend = false ∧ e.isInvocation = false := by
  rcases List.mem_append.1 h with h | h
  · rw [s.eq_stopRequested_of_mem_earlyEvents h]
    exact ⟨rfl, rfl⟩
  · simp only [openingEvents, List.mem_cons, List.not_mem_nil, or_false] at h
    rcases h with rfl | rfl | rfl <;> exact ⟨rfl, rfl⟩

/-- The opening connects to the endpoint, once. -/
theorem calls_opening :
    Trace.calls (s.earlyEvents ++ s.openingEvents) = [(.connect s.endpoint, .idle)] := by
  have hearly : Trace.calls s.earlyEvents = [] :=
    Trace.calls_eq_nil fun e he ↦ by rw [s.eq_stopRequested_of_mem_earlyEvents he]; rfl
  rw [Trace.calls_append, hearly]
  rfl

/-- The opening ends with the worker running, or stopped if the connection was refused. -/
theorem stages_opening :
    Trace.stages (s.earlyEvents ++ s.openingEvents) =
      [if s.script.connectRefusal.isNone then .running else .stopped] := by
  have hearly : Trace.stages s.earlyEvents = [] :=
    Trace.stages_eq_nil fun e he ↦ by rw [s.eq_stopRequested_of_mem_earlyEvents he]; rfl
  rw [Trace.stages_append, hearly]
  rfl

theorem reached_opening :
    Trace.reached .idle (s.earlyEvents ++ s.openingEvents) =
      if s.script.connectRefusal.isNone then .running else .stopped := by
  rw [earlyEvents]
  split <;> rfl

/-- What is sent after the end of a run comes with no call, no stage and no handler. -/
theorem mem_flushEvents {e : Event} (h : e ∈ s.served.bench.flushEvents) :
    e.isLifecycle = false ∧ e.isInvocation = false := by
  obtain ⟨number, response, h⟩ := s.served.bench.mem_flushEvents h
  rcases Channel.mem_replyEvents _ h with rfl | ⟨_, _, _, _, rfl⟩ <;> exact ⟨rfl, rfl⟩

/-- No handler is invoked as the worker closes. -/
theorem invoked_notMem_closing (handler : Handler Nat) (ticket : Ticket) :
    .invoked handler ticket ∉ closingEvents s.security s.script.disconnectRefusal ++
      s.served.bench.flushEvents := by
  intro h
  rcases List.mem_append.1 h with h | h
  · rcases hrefusal : s.script.disconnectRefusal with - | cause <;>
      simp [closingEvents, disconnectNotices, hrefusal] at h
  · exact Bool.noConfusion (s.mem_flushEvents h).2

/-- **The socket protocol.** A run that cannot connect makes no other call, serves nothing, passes
from the idle stage to the stopped one, and ends with the cause. A run that connects waits and
receives in turn while running, disconnects last and while draining, passes through every stage,
and ends in good order unless it is disconnecting that fails. Handlers work while it is running. -/
theorem socket_protocol (s : Setup) (hs : s.registry.All Handler.NeverPanics) :
    (∀ cause, s.script.connectRefusal = some cause →
      s.trace.calls = [(.connect s.endpoint, .idle)] ∧
        (∀ e ∈ s.trace, e.isSend = false ∧ e.isInvocation = false) ∧
        s.trace.published = [.idle, .stopped] ∧ s.final.stage = .stopped ∧
        s.exit = .failed (.connect s.security s.endpoint cause)) ∧
    (s.script.connectRefusal = none →
      (∃ n ≤ s.script.items.length, ∃ last, (last = [] ∨ last = [(.readable, .running)]) ∧
        s.trace.calls = (.connect s.endpoint, .idle) :: exchanges n ++ last ++
          [(.disconnect, .draining)]) ∧
        (∀ stage handler ticket, (stage, .invoked handler ticket) ∈ s.trace.staged .idle →
          stage = .running) ∧
        s.trace.published = [.idle, .running, .draining, .stopped] ∧ s.final.stage = .stopped ∧
        s.exit = match s.script.disconnectRefusal with
          | none => .completed
          | some cause => .failed (.disconnect s.security cause)) := by
  constructor
  · -- the run is over once connecting is refused
    intro cause h
    have htrace := trace_of_refused h
    refine ⟨?_, ?_, ?_, stage_final_of_refused h, ?_⟩
    · rw [htrace, calls_opening]
    · rw [htrace]
      exact fun e he ↦ s.mem_opening he
    · rw [htrace, Trace.published, stages_opening, h]
      rfl
    · rw [exit, run_of_refused h]
  · -- the run serves between its opening and its closing
    intro h
    obtain ⟨es, hserved, hstages, n, hn, last, hlast, hcalls⟩ :=
      Run.exchanges_serve s.script.ending s.script.items s.opened (stage_opened_of_connected h)
    rw [← served, trace_opened] at hserved
    have htrace := trace_of_connected h hs
    rw [hserved, List.append_assoc (_ ++ es)] at htrace
    refine ⟨⟨n, hn, last, hlast, ?_⟩, ?_, ?_, stage_final_of_connected h hs, ?_⟩
    · rw [htrace, Trace.calls_append, Trace.calls_append, calls_opening, hcalls,
        Trace.calls_append, calls_closingEvents,
        Trace.calls_eq_nil fun e he ↦ (s.mem_flushEvents he).1, List.append_nil,
        ← List.append_assoc]
      rfl
    · intro stage handler ticket hmem
      rw [htrace] at hmem
      have hopening : Event.invoked handler ticket ∉ s.earlyEvents ++ s.openingEvents :=
        fun he ↦ Bool.noConfusion (s.mem_opening he).2
      rw [Trace.stage_of_mem_staged hopening hstages (s.invoked_notMem_closing handler ticket) hmem,
        reached_opening, h]
      rfl
    · rw [htrace, Trace.published, Trace.stages_append, Trace.stages_append, stages_opening,
        hstages, Trace.stages_append, stages_closingEvents,
        Trace.stages_eq_nil fun e he ↦ (s.mem_flushEvents he).1, h]
      rfl
    · rw [exit, run_of_connected h hs]
      rcases s.script.disconnectRefusal with - | cause <;> rfl

/-- A worker that echoes pings, on a socket that does as told by a script. -/
def pinging (script : Script) : Setup where
  security := .unsecured
  registry := .ofBehaviours false [("ping", .echo)]
  script

/-- A ping as it is received. -/
def ping : Received := .message (.ping 1)

theorem neverPanics_pinging (script : Script) :
    (pinging script).registry.All Handler.NeverPanics :=
  Registry.neverPanics_ofBehaviours (by decide)

theorem socket_protocol_pinging :
    (pinging { items := [{ readiness := .loaded ping }] }).trace.published =
        [.idle, .running, .draining, .stopped] ∧
      (pinging { items := [{ readiness := .loaded ping }] }).exit = .completed ∧
      (pinging { connectRefusal := some .notConnected }).trace.published = [.idle, .stopped] := by
  obtain ⟨-, hconnected⟩ := socket_protocol _
    (neverPanics_pinging { items := [{ readiness := .loaded ping }] })
  obtain ⟨hrefused, -⟩ := socket_protocol _
    (neverPanics_pinging { connectRefusal := some .notConnected })
  obtain ⟨-, -, hpublished, -, hexit⟩ := hconnected rfl
  exact ⟨hpublished, hexit, (hrefused .notConnected rfl).2.2.1⟩

end Setup

end QueryDispatch.Worker
