import QueryDispatch.Proofs.Worker.SocketProtocol
import Mathlib.Data.List.Basic

/-!
# Stopping a worker

A worker asks whether it is to stop at three points: before a wait, during it, and between a wait
and the reading. Together they leave no way to read, or to give anything to a handler, once the stop
was asked for. `stop_dominates` is that statement about whole runs.

In the course of serving a stop comes in one of two ways (`Caught`): during a wait, or from a
handler, which then finishes what it is at. `Halts` says that serving adds little after that, and is
shown by induction over the script. Around it, the opening of a run can only come after a stop asked
for before the run, and the closing neither reads nor counts.

The marks of counted messages are the bridge to the statistics (`counted_final`).
-/

namespace QueryDispatch

/-- An event that serving may still add once a stop was asked for: no call, no stage, and not the
mark of a message. -/
def Event.Aftermath (e : Event) : Prop :=
  e.isLifecycle = false ∧ e.isArrival = false ∧ e ≠ .stopRequested

namespace Worker

/-- **Where a stop comes from** while a worker serves, by what is before and what is after it in the
trace: it comes during a wait, or from a handler that was given a request, and whose reply, if it
has one, is what comes next. -/
def Caught (c : Channel) (refusal : Refusal) (before after : Trace) : Prop :=
  (∃ earlier, before = earlier ++ [.called .readable .running]) ∨
    ∃ earlier handler ticket,
      before = earlier ++ [.invoked (handler.map Binding.number) ticket] ∧
        c.registry.get? ticket.request.command = some handler ∧ handler.stops = true ∧
        c.completionEvents refusal ticket.number (handler.completion ticket.request) <+: after

/-- What was caught by the stop is so whatever came before. -/
theorem Caught.prepend {c : Channel} {refusal : Refusal} {before after : Trace}
    (h : Caught c refusal before after) (pre : Trace) : Caught c refusal (pre ++ before) after := by
  rcases h with ⟨earlier, rfl⟩ | ⟨earlier, handler, ticket, rfl, h⟩
  · exact .inl ⟨pre ++ earlier, (List.append_assoc ..).symm⟩
  · exact .inr ⟨pre ++ earlier, handler, ticket, (List.append_assoc ..).symm, h⟩

/-- What was caught by the stop is so whatever comes after. -/
theorem Caught.append {c : Channel} {refusal : Refusal} {before after : Trace}
    (h : Caught c refusal before after) (post : Trace) :
    Caught c refusal before (after ++ post) := by
  rcases h with h | ⟨earlier, handler, ticket, hbefore, hget, hstops, hprefix⟩
  · exact .inl h
  · exact .inr ⟨earlier, handler, ticket, hbefore, hget, hstops,
      hprefix.trans (List.prefix_append after post)⟩

namespace Run

/-- From `r` to `r'` either nobody asks the worker to stop, or a stop comes once and only little
comes after it. -/
def Halts (r r' : Run) : Prop :=
  ∃ es, r'.bench.trace = r.bench.trace ++ es ∧
    (r'.stopRequested = false ∧ .stopRequested ∉ es ∨
      r'.stopRequested = true ∧ ∃ before after, es = before ++ .stopRequested :: after ∧
        .stopRequested ∉ before ∧ (∀ e ∈ after, e.Aftermath) ∧
        Caught r.bench.channel r.bench.refusal before after)

/-- What comes after a stop adds nothing; before one, it goes on. -/
theorem Halts.trans {r r' r'' : Run} (h : Halts r r') (hcontinues : Continues r r')
    (hgoing : r'.stopRequested = false → Halts r' r'')
    (hover : r'.stopRequested = true → r'' = r') : Halts r r'' := by
  obtain ⟨es, htrace, ⟨hr', hes⟩ | hstop⟩ := h
  · obtain ⟨es', htrace', h⟩ := hgoing hr'
    refine ⟨es ++ es', by rw [htrace', htrace, List.append_assoc], ?_⟩
    rcases h with ⟨hr'', hes'⟩ | ⟨hr'', before, after, rfl, hbefore, hafter, hcaught⟩
    · refine .inl ⟨hr'', fun hmem ↦ ?_⟩
      exact (List.mem_append.1 hmem).elim hes hes'
    · rw [hcontinues.channel, hcontinues.refusal] at hcaught
      refine .inr ⟨hr'', es ++ before, after, (List.append_assoc ..).symm, fun hmem ↦ ?_,
        hafter, hcaught.prepend es⟩
      exact (List.mem_append.1 hmem).elim hes hbefore
  · rw [hover hstop.1]
    exact ⟨es, htrace, .inr hstop⟩

theorem halts_call {r : Run} (hr : r.stopRequested = false) (c : SocketCall) :
    Halts r (r.call c) := by
  refine ⟨[.called c r.stage], r.trace_call c, .inl ⟨hr, fun hmem ↦ ?_⟩⟩
  exact Event.noConfusion (List.mem_singleton.1 hmem)

/-- A stop during a wait. -/
theorem halts_of_wait {r r' : Run} (stops : Bool) (tail : Trace) (hr : r.stopRequested = false)
    (hstage : r.stage = .running) (hr' : r'.stopRequested = stops)
    (htrace : r'.bench.trace =
      r.bench.trace ++ .called .readable r.stage :: (r.bench.stopEvents stops ++ tail))
    (htail : ∀ e ∈ tail, e.Aftermath) : Halts r r' := by
  have hgoing : r.bench.stopRequested = false := hr
  refine ⟨_, htrace, ?_⟩
  rw [hstage, Bench.stopEvents, hgoing]
  have hwait : Event.stopRequested ∉ [Event.called .readable .running] := by decide
  rcases stops with - | -
  · refine .inl ⟨hr', fun hmem ↦ ?_⟩
    rcases List.mem_cons.1 hmem with heq | hmem
    · cases heq
    · exact (htail _ hmem).2.2 rfl
  · exact .inr ⟨hr', [.called .readable .running], tail, rfl, hwait, htail, .inl ⟨[], rfl⟩⟩

/-- What a reply adds comes as an aftermath. -/
theorem aftermath_of_mem_completionEvents {c : Channel} {refusal : Refusal} {number : Nat}
    {completion : Completion} {e : Event} (h : e ∈ c.completionEvents refusal number completion) :
    e.Aftermath := by
  obtain ⟨response, -, h⟩ := c.mem_completionEvents h
  rcases c.mem_replyEvents h with rfl | ⟨_, _, _, _, rfl⟩
  · exact ⟨rfl, rfl, Event.noConfusion⟩
  · exact ⟨rfl, rfl, Event.noConfusion⟩

/-- **A stop from a handler.** The handler had been given its request just before, and its reply is
all that comes after. -/
theorem exists_dispatchEvents_of_stops {b : Bench} {received : Received}
    (hb : b.stopRequested = false) (hstops : (b.judge received).stops = true) :
    ∃ before after, b.dispatchEvents received = before ++ .stopRequested :: after ∧
      .stopRequested ∉ before ∧ (∀ e ∈ after, e.Aftermath) ∧
      Caught b.channel b.refusal before after := by
  have hverdict : ∃ handler r, b.judge received = .accepted handler r := by
    rcases hv : b.judge received with - | m | r | ⟨handler, r⟩
    case accepted => exact ⟨handler, r, rfl⟩
    all_goals
      rw [hv] at hstops
      cases hstops
  obtain ⟨handler, r, hv⟩ := hverdict
  rw [hv] at hstops
  set number := b.dispatcher.arrivals with hnumber
  set before := b.channel.events number (.accepted handler r) with hbefore
  set after := b.channel.completionEvents b.refusal number (handler.completion r) with hafter
  refine ⟨before, after, ?_, fun hmem ↦ ?_, fun e he ↦ aftermath_of_mem_completionEvents he,
    .inr ⟨_, handler, b.channel.ticket number r, hbefore, b.channel.get?_of_judge hv, hstops,
      List.prefix_refl _⟩⟩
  · rw [Bench.dispatchEvents, hv, Bench.stopEvents, hstops, hb, ← hnumber, ← hbefore,
      List.append_assoc]
    rfl
  · exact Bool.noConfusion (b.channel.isWork_of_mem_events hmem)

/-- What is received asks for no stop, or adds little after it. -/
theorem halts_receive {r : Run} (hr : r.stopRequested = false) (received : Received) :
    Halts r (r.receive received) := by
  have hcalled := halts_call hr .receive
  rw [receive]
  split
  · exact hcalled
  · refine hcalled.trans (r.continues_call .receive) (fun _ ↦ ?_) fun h ↦
      absurd h (ne_true_of_eq_false hr)
    set b := (r.call .receive).bench
    have hgoing : b.stopRequested = false := hr
    refine ⟨_, b.trace_dispatch received, ?_⟩
    rcases hstops : (b.judge received).stops with - | -
    · refine .inl ⟨?_, fun hmem ↦ ?_⟩
      · show (b.dispatch received).stopRequested = false
        rw [Bench.stopRequested_dispatch, hgoing, hstops]
        rfl
      · rcases b.mem_dispatchEvents received hmem with hwork | ⟨-, h⟩
        · exact Bool.noConfusion hwork
        · exact absurd h (ne_true_of_eq_false hstops)
    · refine .inr ⟨?_, exists_dispatchEvents_of_stops hgoing hstops⟩
      show (b.dispatch received).stopRequested = true
      rw [Bench.stopRequested_dispatch, hstops, Bool.or_true]

/-- **Serving halts.** -/
theorem halts_serve (ending : Ending) (items : List Item) (r : Run) (hr : r.stopRequested = false)
    (hstage : r.stage = .running) : Halts r (serve ending items r) := by
  -- for the step at a received item it has to be known as well that a worker that is over stays so
  have hstep : (r.isOver = true → serve ending items r = r) ∧
      (r.stopRequested = false → r.stage = .running → Halts r (serve ending items r)) := by
    refine serve_induction (P := fun _ r r' ↦ (r.isOver = true → r' = r) ∧
      (r.stopRequested = false → r.stage = .running → Halts r r'))
      ?ended ?waited ?failed ?received items r
    case ended =>
      intro _ r hover
      refine ⟨fun _ ↦ rfl, fun hr _ ↦ ⟨[], (List.append_nil _).symm, .inl ⟨hr, ?_⟩⟩⟩
      exact List.not_mem_nil
    case waited =>
      intro _ item r hover
      refine ⟨fun h ↦ absurd h (ne_true_of_eq_false hover), fun hr hstage ↦ ?_⟩
      refine halts_of_wait item.stops [] hr hstage ?_ ?_ ?_
      · rw [stopRequested_wait, hr, Bool.or_false]
      · rw [trace_wait, List.append_nil]
      · exact fun e he ↦ absurd he List.not_mem_nil
    case failed =>
      intro _ item cause r hover
      refine ⟨fun h ↦ absurd h (ne_true_of_eq_false hover), fun hr hstage ↦ ?_⟩
      refine halts_of_wait item.stops ((pollNotices r.security cause).map .noted) hr hstage
        ?_ ?_ ?_
      · show (r.wait item).stopRequested = _
        rw [stopRequested_wait, hr, Bool.or_false]
      · rw [trace_note, trace_wait, List.append_assoc]
        rfl
      · intro e he
        obtain ⟨notice, hnotice, rfl⟩ := List.mem_map.1 he
        unfold pollNotices at hnotice
        split at hnotice
        · cases hnotice
        · obtain rfl := List.mem_singleton.1 hnotice
          exact ⟨rfl, rfl, Event.noConfusion⟩
    case received =>
      intro _ x r r' hover ih
      refine ⟨fun h ↦ absurd h (ne_true_of_eq_false hover), fun hr hstage ↦ ?_⟩
      have hcalled := halts_call hr .readable
      have hreceived := halts_receive (r := r.call .readable) hr x
      refine hcalled.trans (r.continues_call .readable) (fun _ ↦ ?_) fun h ↦
        absurd h (ne_true_of_eq_false hr)
      have hcontinues := continues_receive (r.call .readable) x
      refine hreceived.trans hcontinues (fun hgoing ↦ ?_) fun hstopped ↦ ?_
      · exact ih.2 hgoing (hcontinues.stage.trans hstage)
      · exact ih.1 (Bool.or_eq_true_iff.2 (.inl hstopped))
  exact hstep.2 hr hstage

/-! ### Counting -/

/-- To wait keeps the count of what arrived. -/
theorem counted_wait {r : Run} (h : r.bench.Counted) (item : Item) :
    (r.wait item).bench.Counted := by
  have hcalled : (r.call .readable).bench.Counted := h.record rfl
  rw [wait]
  split
  · exact hcalled.requestStop
  · exact hcalled

/-- To receive keeps the count of what arrived. -/
theorem counted_receive {r : Run} (h : r.bench.Counted) (received : Received) :
    (r.receive received).bench.Counted := by
  have hcalled : (r.call .receive).bench.Counted := h.record rfl
  rw [receive]
  split
  · exact hcalled
  · exact hcalled.dispatch received

theorem arrivals_pollNotices (security : Security) (cause : TransportError) :
    Trace.arrivals ((pollNotices security cause).map .noted) = 0 := by
  unfold pollNotices
  split <;> rfl

/-- To serve keeps the count of what arrived. -/
theorem counted_serve (ending : Ending) (items : List Item) (r : Run) (h : r.bench.Counted) :
    (serve ending items r).bench.Counted := by
  revert h
  refine serve_induction (P := fun _ r r' ↦ r.bench.Counted → r'.bench.Counted)
    ?ended ?waited ?failed ?received items r
  case ended => exact fun _ r _ h ↦ h
  case waited => exact fun _ item r _ h ↦ counted_wait h item
  case failed =>
    intro _ item cause r _ h
    exact (counted_wait h item).record (arrivals_pollNotices r.security cause)
  case received =>
    intro _ x r r' _ ih h
    have hcalled : (r.call .readable).bench.Counted := h.record rfl
    exact ih (counted_receive hcalled x)

/-! ### Asking again -/

/-- What a run is made of. -/
inductive Operation where
  | call (c : SocketCall)
  | note (notices : List Notice)
  | change (c : Change)
  | receive (received : Received)
  | requestStop
  /-- Sends the replies that were put off. -/
  | flush

/-- Carries out one operation. -/
def operate (r : Run) : Operation → Run
  | .call c => r.call c
  | .note notices => r.note notices
  | .change c => r.change c
  | .receive received => r.receive received
  | .requestStop => r.requestStop
  | .flush => { r with bench := r.bench.flush }

/-- Carries out operations, one after the other. -/
def operateAll (r : Run) (ops : List Operation) : Run := ops.foldl operate r

theorem operateAll_append (r : Run) (xs ys : List Operation) :
    r.operateAll (xs ++ ys) = (r.operateAll xs).operateAll ys := List.foldl_append

/-- **No operation takes a stop back.** -/
theorem stopRequested_operate {r : Run} (h : r.stopRequested = true) (op : Operation) :
    (r.operate op).stopRequested = true := by
  cases op with
  | call c => exact h
  | note notices => exact h
  | change c =>
    show (r.change c).stopRequested = true
    rw [change]
    split <;> exact h
  | receive received =>
    show (r.receive received).stopRequested = true
    rw [receive]
    split
    · exact h
    · show ((r.call .receive).bench.dispatch received).stopRequested = true
      have hcalled : (r.call .receive).bench.stopRequested = true := h
      rw [Bench.stopRequested_dispatch, hcalled, Bool.true_or]
  | requestStop => exact r.bench.stopRequested_requestStop
  | flush =>
    show r.bench.flush.stopRequested = true
    rw [Bench.stopRequested_flush]
    exact h

/-- A stop that is requested stays so under every operation. -/
theorem stopRequested_operateAll {r : Run} (h : r.stopRequested = true) (ops : List Operation) :
    (r.operateAll ops).stopRequested = true := by
  induction ops generalizing r with
  | nil => exact h
  | cons op rest ih => exact ih (stopRequested_operate h op)

/-- To wait is a list of operations. -/
theorem operations_wait (r : Run) (item : Item) : ∃ ops, r.wait item = r.operateAll ops := by
  rw [wait]
  split
  · exact ⟨[.call .readable, .requestStop], rfl⟩
  · exact ⟨[.call .readable], rfl⟩

/-- To serve is a list of operations. -/
theorem operations_serve (ending : Ending) (items : List Item) (r : Run) :
    ∃ ops, serve ending items r = r.operateAll ops := by
  refine serve_induction (P := fun _ r r' ↦ ∃ ops, r' = r.operateAll ops)
    ?ended ?waited ?failed ?received items r
  case ended => exact fun _ r _ ↦ ⟨[], rfl⟩
  case waited => exact fun _ item r _ ↦ r.operations_wait item
  case failed =>
    intro _ item cause r _
    obtain ⟨ops, hops⟩ := r.operations_wait item
    refine ⟨ops ++ [.note (pollNotices r.security cause)], ?_⟩
    rw [operateAll_append, ← hops]
    rfl
  case received =>
    intro _ x r r' _ ⟨ops, hops⟩
    exact ⟨.call .readable :: .receive x :: ops, hops⟩

/-- What a script says after the point at which the worker was stopped has no effect. -/
theorem serve_append_of_stopRequested {ending : Ending} {items : List Item} {r : Run}
    (h : (serve .close items r).stopRequested = true) (rest : List Item) :
    serve ending (items ++ rest) r = serve .close items r := by
  induction items generalizing r with
  | nil =>
    rcases hover : r.isOver with - | -
    · -- the wait after the last item does not stop the worker
      rw [serve_nil hover, stopRequested_wait, (isOver_eq_false_iff.1 hover).1] at h
      cases h
    · rw [serve_of_isOver hover, serve_of_isOver hover]
  | cons item items ih =>
    rw [List.cons_append]
    rcases hover : r.isOver with - | -
    · rcases hready : item.readiness with cause | x
      · rw [serve_of_failed hover _ hready, serve_of_failed hover _ hready]
      · rcases hstops : item.stops with - | -
        · rw [serve_of_loaded hover _ hready hstops] at h ⊢
          rw [serve_of_loaded hover _ hready hstops, ih h]
        · rw [serve_of_stops hover _ hready hstops, serve_of_stops hover _ hready hstops]
    · rw [serve_of_isOver hover, serve_of_isOver hover]

end Run

namespace Setup

/-! ### Whole runs -/

variable (s : Setup)

/-- The calls that a run still makes once the stop was asked for. -/
def callsLeft : List (SocketCall × Stage) :=
  (if s.stopBefore then [(.connect s.endpoint, .idle)] else []) ++
    if s.script.connectRefusal.isNone then [(.disconnect, .draining)] else []

/-- What is before and what is after the request to stop in the trace of a run. -/
structure StopSplits (before after : Trace) : Prop where
  calls : after.calls = s.callsLeft
  uncounted : ∀ e ∈ after, e.isArrival = false
  once : .stopRequested ∉ before ++ after
  origin : s.stopBefore = true ∧ before = [] ∨
    s.stopBefore = false ∧ Caught s.channel s.refusal before after

/-- Nothing arrives, and no stop is requested, in the opening. -/
theorem uneventful_opening {e : Event} (h : e ∈ s.openingEvents) :
    e.isArrival = false ∧ e ≠ .stopRequested := by
  simp only [openingEvents, List.mem_cons, List.not_mem_nil, or_false] at h
  rcases h with rfl | rfl | rfl
  · exact ⟨rfl, Event.noConfusion⟩
  · rcases s.script.connectRefusal with - | cause <;> exact ⟨rfl, Event.noConfusion⟩
  · exact ⟨rfl, Event.noConfusion⟩

/-- What comes after serving, up to the very last reply. -/
def tailEvents : Trace :=
  closingEvents s.security s.script.disconnectRefusal ++ s.served.bench.flushEvents

theorem calls_tailEvents : Trace.calls s.tailEvents = [(.disconnect, .draining)] := by
  rw [tailEvents, Trace.calls_append, calls_closingEvents,
    Trace.calls_eq_nil fun e he ↦ (s.mem_flushEvents he).1, List.append_nil]

/-- Nothing arrives, and no stop is requested, in the end. -/
theorem uneventful_tail {e : Event} (h : e ∈ s.tailEvents) :
    e.isArrival = false ∧ e ≠ .stopRequested := by
  rcases List.mem_append.1 h with h | h
  · rcases hrefusal : s.script.disconnectRefusal with - | cause <;>
      simp only [closingEvents, disconnectNotices, hrefusal, List.map_nil, List.map_cons,
        List.append_nil, List.cons_append, List.nil_append, List.mem_cons, List.not_mem_nil,
        or_false] at h
    · rcases h with rfl | rfl | rfl <;> exact ⟨rfl, Event.noConfusion⟩
    · rcases h with rfl | rfl | rfl | rfl <;> exact ⟨rfl, Event.noConfusion⟩
  · obtain ⟨number, response, h⟩ := s.served.bench.mem_flushEvents h
    rcases Channel.mem_replyEvents _ h with rfl | ⟨_, _, _, _, rfl⟩ <;>
      exact ⟨rfl, Event.noConfusion⟩

variable {s}

/-- A worker whose connection is refused ends with a stop requested if one was before. -/
theorem stopRequested_final_of_refused {cause : TransportError}
    (h : s.script.connectRefusal = some cause) : s.final.stopRequested = s.stopBefore := by
  show s.run.1.bench.flush.stopRequested = _
  rw [Bench.stopRequested_flush, run_of_refused h]
  exact s.stopRequested_opened

section Connected

variable (h : s.script.connectRefusal = none) (hs : s.registry.All Handler.NeverPanics)

include h hs

theorem final_of_connected :
    s.final.bench =
      (s.served.bench.rewritten (s.served.bench.trace ++
        closingEvents s.security s.script.disconnectRefusal)).flush :=
  congrArg Bench.flush (bench_run_of_connected h hs)

/-- A worker that was connected ends with a stop requested if one was while it served. -/
theorem stopRequested_final_of_connected : s.final.stopRequested = s.served.stopRequested := by
  show s.final.bench.stopRequested = _
  rw [final_of_connected h hs, Bench.stopRequested_flush]
  rfl

end Connected

/-- **A run that is asked to stop before it starts**: all of it comes after that. -/
theorem stopSplits_of_stopBefore (hs : s.registry.All Handler.NeverPanics)
    (hstop : s.stopBefore = true) :
    s.final.stopRequested = true ∧
      ∃ after, s.trace = .stopRequested :: after ∧ s.StopSplits [] after := by
  have hearly : s.earlyEvents = [.stopRequested] := by rw [earlyEvents, if_pos hstop]
  have hopening : Trace.calls s.openingEvents = [(.connect s.endpoint, .idle)] := rfl
  rcases hconnect : s.script.connectRefusal with - | cause
  · -- nothing is served
    have hserved : s.served = s.opened :=
      Run.serve_of_stopRequested (s.stopRequested_opened.trans hstop) _
    refine ⟨?_, s.openingEvents ++ s.tailEvents, ?_, ?_, ?_, ?_, .inl ⟨hstop, rfl⟩⟩
    · rw [stopRequested_final_of_connected hconnect hs, hserved]
      exact s.stopRequested_opened.trans hstop
    · rw [trace_of_connected hconnect hs, List.append_assoc, ← tailEvents, hserved, trace_opened,
        hearly]
      rfl
    · rw [Trace.calls_append, calls_tailEvents, hopening, callsLeft, hstop, hconnect]
      rfl
    · intro e he
      exact (List.mem_append.1 he).elim (fun he ↦ (s.uneventful_opening he).1)
        fun he ↦ (s.uneventful_tail he).1
    · intro he
      rw [List.nil_append] at he
      exact (List.mem_append.1 he).elim (fun he ↦ (s.uneventful_opening he).2 rfl)
        fun he ↦ (s.uneventful_tail he).2 rfl
  · refine ⟨(stopRequested_final_of_refused hconnect).trans hstop, s.openingEvents, ?_, ?_, ?_, ?_,
      .inl ⟨hstop, rfl⟩⟩
    · rw [trace_of_refused hconnect, hearly]
      rfl
    · rw [hopening, callsLeft, hstop, hconnect]
      rfl
    · exact fun e he ↦ (s.uneventful_opening he).1
    · exact fun he ↦ (s.uneventful_opening he).2 rfl

/-- **A run that is not asked to stop before it starts** is asked while it serves, or never. -/
theorem stopSplits_of_not_stopBefore (hs : s.registry.All Handler.NeverPanics)
    (hstop : s.stopBefore = false) :
    s.final.stopRequested = false ∧ .stopRequested ∉ s.trace ∨
      s.final.stopRequested = true ∧
        ∃ before after, s.trace = before ++ .stopRequested :: after ∧
          s.StopSplits before after := by
  have hearly : s.earlyEvents = [] := by rw [earlyEvents, hstop]; rfl
  have hopening : Event.stopRequested ∉ s.openingEvents := fun he ↦
    (s.uneventful_opening he).2 rfl
  have htail : Event.stopRequested ∉ s.tailEvents := fun he ↦ (s.uneventful_tail he).2 rfl
  rcases hconnect : s.script.connectRefusal with - | cause
  · -- nobody has asked when serving starts, so what serving says of itself holds of the run
    obtain ⟨es, hserved, hes⟩ := Run.halts_serve s.script.ending s.script.items s.opened
      (s.stopRequested_opened.trans hstop) (stage_opened_of_connected hconnect)
    rw [← served, trace_opened, hearly, List.nil_append] at hserved
    rw [← served, s.channel_opened, s.refusal_opened] at hes
    have htrace : s.trace = s.openingEvents ++ es ++ s.tailEvents := by
      rw [trace_of_connected hconnect hs, List.append_assoc, ← tailEvents, hserved]
    rw [stopRequested_final_of_connected hconnect hs]
    rcases hes with ⟨hgoing, hes⟩ | ⟨hstopped, before, after, rfl, hbefore, hafter, hcaught⟩
    · refine .inl ⟨hgoing, ?_⟩
      rw [htrace]
      simp only [List.mem_append, not_or]
      exact ⟨⟨hopening, hes⟩, htail⟩
    · refine .inr ⟨hstopped, s.openingEvents ++ before, after ++ s.tailEvents, ?_, ?_, ?_, ?_,
        .inr ⟨hstop, (hcaught.prepend _).append _⟩⟩
      · rw [htrace]
        simp only [List.append_assoc, List.cons_append]
      · rw [Trace.calls_append, Trace.calls_eq_nil fun e he ↦ (hafter e he).1, calls_tailEvents,
          callsLeft, hstop, hconnect]
        rfl
      · intro e he
        exact (List.mem_append.1 he).elim (fun he ↦ (hafter e he).2.1)
          fun he ↦ (s.uneventful_tail he).1
      · simp only [List.mem_append, not_or]
        exact ⟨⟨hopening, hbefore⟩, fun he ↦ (hafter _ he).2.2 rfl, htail⟩
  · refine .inl ⟨(stopRequested_final_of_refused hconnect).trans hstop, ?_⟩
    rw [trace_of_refused hconnect, hearly]
    exact hopening

/-- The setup with another course of its script. -/
def withItems (s : Setup) (items : List Item) (ending : Ending) : Setup :=
  { s with script := { s.script with items, ending } }

/-- **The messages counted are those that are marked in the trace**, over a whole run. -/
theorem counted_final (hs : s.registry.All Handler.NeverPanics) : s.final.bench.Counted := by
  have hopened : s.opened.bench.Counted := by
    have harrivals : Trace.arrivals (s.earlyEvents ++ s.openingEvents) = 0 := by
      unfold earlyEvents openingEvents connectNotice
      split <;> split <;> rfl
    rw [bench_opened, initial_eq]
    show (0 : UInt64) = .ofNat (Trace.arrivals (s.earlyEvents ++ s.openingEvents))
    rw [harrivals]
    rfl
  rcases hconnect : s.script.connectRefusal with - | cause
  · have hclosing : Trace.arrivals
        (closingEvents s.security s.script.disconnectRefusal) = 0 := by
      rcases s.script.disconnectRefusal with - | cause <;> rfl
    rw [final_of_connected hconnect hs]
    exact ((Run.counted_serve s.script.ending s.script.items s.opened hopened).record
      hclosing).flush
  · rw [final, run_of_refused hconnect]
    exact hopened.flush

/-- A run is made of operations. -/
theorem operations_final (hs : s.registry.All Handler.NeverPanics) :
    ∃ ops, s.initial.operateAll ops = s.final := by
  set opening : List Run.Operation := [.call (.connect s.endpoint),
    .note [connectNotice s.security s.endpoint s.script.connectRefusal],
    .change (connectChange s.script.connectRefusal)]
  have hopened : s.opened = s.initial.operateAll opening := rfl
  rcases hconnect : s.script.connectRefusal with - | cause
  · obtain ⟨ops, hops⟩ := Run.operations_serve s.script.ending s.script.items s.opened
    refine ⟨opening ++ ops ++ [.change .stopObserved, .call .disconnect,
      .note (disconnectNotices s.served.security s.script.disconnectRefusal),
      .change .disconnected, .flush], ?_⟩
    rw [Run.operateAll_append, Run.operateAll_append, ← hopened, ← hops, final,
      run_of_connected hconnect hs]
    rfl
  · refine ⟨opening ++ [.flush], ?_⟩
    rw [Run.operateAll_append, ← hopened, final, run_of_refused hconnect]
    rfl

/-- What a script says after the point at which the worker was stopped has no effect on a run. -/
theorem withItems_append (hs : s.registry.All Handler.NeverPanics) {items : List Item}
    (h : (s.withItems items .close).final.stopRequested = true) (rest : List Item)
    (ending : Ending) :
    (s.withItems (items ++ rest) ending).final = (s.withItems items .close).final ∧
      (s.withItems (items ++ rest) ending).exit = (s.withItems items .close).exit := by
  have hopened : (s.withItems (items ++ rest) ending).opened =
      (s.withItems items .close).opened := rfl
  suffices hrun : (s.withItems (items ++ rest) ending).run = (s.withItems items .close).run by
    rw [final, final, exit, exit, hrun]
    exact ⟨rfl, rfl⟩
  rcases hconnect : s.script.connectRefusal with - | cause
  · have hserved : (s.withItems (items ++ rest) ending).served =
        (s.withItems items .close).served := by
      rw [stopRequested_final_of_connected (s := s.withItems items .close) hconnect hs] at h
      exact Run.serve_append_of_stopRequested h rest
    rw [run_of_connected (s := s.withItems (items ++ rest) ending) hconnect hs,
      run_of_connected (s := s.withItems items .close) hconnect hs, hserved]
    rfl
  · rw [run_of_refused (s := s.withItems (items ++ rest) ending) hconnect,
      run_of_refused (s := s.withItems items .close) hconnect, hopened]
    rfl

/-- **Stop dominates.** A stop that was asked for is in the trace once. After it the worker does
not read, gives nothing to a handler, and counts no message; of calls on its socket it makes only
those that end the run. If a handler asked, its reply is what comes next.

A run is operations, one after the other, and none of them takes a stop back. To ask again, at
whatever point, changes nothing at all; nor does anything that the script has in store after the
stop, other stops among it. -/
theorem stop_dominates (s : Setup) (hs : s.registry.All Handler.NeverPanics) :
    (s.final.stopRequested = true ↔ .stopRequested ∈ s.trace) ∧
    (∀ before after, s.trace = before ++ .stopRequested :: after →
      s.StopSplits before after ∧ (∀ e ∈ after, e.isInvocation = false) ∧
        s.final.bench.tally.received = .ofNat before.arrivals) ∧
    (∃ ops, s.initial.operateAll ops = s.final) ∧
    (∀ r : Run, r.stopRequested = true →
      r.requestStop = r ∧ ∀ ops, (r.operateAll ops).stopRequested = true) ∧
    (∀ items rest ending, (s.withItems items .close).final.stopRequested = true →
      (s.withItems (items ++ rest) ending).final = (s.withItems items .close).final ∧
        (s.withItems (items ++ rest) ending).exit = (s.withItems items .close).exit) := by
  have hsplits : s.final.stopRequested = false ∧ .stopRequested ∉ s.trace ∨
      s.final.stopRequested = true ∧
        ∃ before after, s.trace = before ++ .stopRequested :: after ∧
          s.StopSplits before after := by
    rcases hstop : s.stopBefore with - | -
    · exact stopSplits_of_not_stopBefore hs hstop
    · obtain ⟨hfinal, after, htrace, hafter⟩ := stopSplits_of_stopBefore hs hstop
      exact .inr ⟨hfinal, [], after, htrace, hafter⟩
  refine ⟨?_, fun before after htrace ↦ ?_, operations_final hs, fun r hstopped ↦ ?_,
    fun items rest ending h ↦ withItems_append hs h rest ending⟩
  · rcases hsplits with ⟨hfinal, hnone⟩ | ⟨hfinal, before, after, htrace, -⟩
    · rw [hfinal]
      exact ⟨Bool.noConfusion, fun h ↦ absurd h hnone⟩
    · rw [htrace]
      exact ⟨fun _ ↦ List.mem_append_right _ List.mem_cons_self, fun _ ↦ hfinal⟩
  · -- the stop is in the trace once, so there is one way to split the trace at it
    have hsplit : s.StopSplits before after := by
      rcases hsplits with ⟨-, hnone⟩ | ⟨-, before', after', htrace', hsplit⟩
      · exact absurd (htrace ▸ List.mem_append_right _ List.mem_cons_self) hnone
      · obtain ⟨hbefore, hafter⟩ := not_or.1 (mt List.mem_append.2 hsplit.once)
        obtain ⟨rfl, -, rfl⟩ := (List.append_cons_inj_of_notMem hbefore hafter).1
          (htrace'.symm.trans htrace)
        exact hsplit
    refine ⟨hsplit, fun e he ↦ e.isInvocation_eq_false (hsplit.uncounted e he), ?_⟩
    have hcounted : s.final.bench.tally.received = .ofNat s.trace.arrivals := counted_final hs
    have hafter : Trace.arrivals after = 0 :=
      List.countP_eq_zero.2 fun e he ↦ ne_true_of_eq_false (hsplit.uncounted e he)
    rw [hcounted, htrace, Trace.arrivals_append]
    show UInt64.ofNat (before.arrivals + Trace.arrivals after) = _
    rw [hafter, Nat.add_zero]
  · exact ⟨r.requestStop_of_stopRequested hstopped, Run.stopRequested_operateAll hstopped⟩

theorem stop_dominates_pinging :
    let s := pinging { items := [{ readiness := .loaded ping }], ending := .stop }
    ∃ before after, s.trace = before ++ .stopRequested :: after ∧
      Trace.calls after = [(.disconnect, .draining)] ∧
        s.final.bench.tally.received = .ofNat (Trace.arrivals before) := by
  intro s
  obtain ⟨hmem, hsplits, -⟩ := stop_dominates s (neverPanics_pinging _)
  have hstopped : s.final.stopRequested = true := by decide
  obtain ⟨before, after, htrace⟩ := List.append_of_mem (hmem.1 hstopped)
  obtain ⟨hsplit, -, hcounted⟩ := hsplits before after htrace
  exact ⟨before, after, htrace, hsplit.calls, hcounted⟩

end Setup

end Worker

end QueryDispatch
