import QueryDispatch.Proofs.Worker.Redaction

/-!
# The end of a session in the log

That the session is over is no fault. A dispatcher that receives it says nothing, sends nothing and
counts nothing (`Bench.dispatch_serviceStopped`), a reply that comes too late is passed over, and a
worker that waits for messages just stops serving.

A worker that connects or disconnects makes no such difference. There the end of the session is
logged like any other cause, and the worker ends with it; so the log tells of it exactly when the
worker's end does, and then once (`Setup.farewells_trace`). Nothing else comes of it in any run: no
reply, and nothing in the tally.
-/

namespace QueryDispatch

/-! ### What tells of the end -/

/-- A text that begins otherwise is another text. -/
theorem append_ne_of_isPrefixOf {start rest text : String}
    (h : start.toList.isPrefixOf text.toList = false) : start ++ rest ≠ text := by
  rintro rfl
  rw [String.toList_append, List.isPrefixOf_iff_prefix.2 (List.prefix_append _ _)] at h
  cases h

/-- A cause reads as the end of the service only if it is that. -/
theorem TransportError.message_eq_serviceStopped_iff {cause : TransportError} :
    cause.message = serviceStopped.message ↔ cause = .serviceStopped := by
  refine ⟨fun h ↦ ?_, fun h ↦ congrArg message h⟩
  cases cause with
  | serviceStopped => rfl
  | notConnected | alreadyConnected | wouldBlock => exact absurd h (by decide)
  | endpointNotFound | endpointInUse | io =>
    exact absurd h (append_ne_of_isPrefixOf (by decide))

/-- No defect of a request reads as the end of the service. -/
theorem DecodeError.message_ne_serviceStopped (error : DecodeError) :
    error.message ≠ TransportError.serviceStopped.message := by
  cases error with
  | invalidCommand => decide
  | frameCount | invalidCorrelationId | invalidStatus | unreadable =>
    exact append_ne_of_isPrefixOf (by decide)

/-- Whether the notice is about the end of the session. -/
def Notice.tellsOfEnd : Notice → Bool
  | .connectFailed _ _ cause | .pollFailed _ cause | .disconnectFailed _ cause
  | .replyFailed _ _ _ cause => cause = .serviceStopped
  | .rejected _ _ error => error = .unreadable .serviceStopped
  | _ => false

/-- A notice that gives the end of the session as its error is about it. -/
theorem Notice.tellsOfEnd_of_mem_fields {n : Notice}
    (h : ("error", TransportError.serviceStopped.message) ∈ n.fields) : n.tellsOfEnd = true := by
  cases n with
  | connectFailed | pollFailed | disconnectFailed | replyFailed =>
    simpa [fields, tellsOfEnd, eq_comm, TransportError.message_eq_serviceStopped_iff] using h
  | rejected security peer error =>
    simp [fields, error.message_ne_serviceStopped.symm] at h
  | connected | unknownCommand | query => simp [fields] at h

namespace Event

/-- Whether the event writes to the log that the session is over. -/
def isFarewell (e : Event) : Bool := e.notice?.any Notice.tellsOfEnd

/-- Whether the end of the session shows in the event: in the log, or in what the transport says to
a reply. -/
def tellsOfEnd (e : Event) : Bool := e.isFarewell || e.refusal? == some (some .serviceStopped)

end Event

namespace Trace

/-- What the log says of the end of the session. -/
def farewells (t : Trace) : List Notice := t.notices.filter Notice.tellsOfEnd

theorem farewells_append (t t' : Trace) : farewells (t ++ t') = farewells t ++ farewells t' := by
  rw [farewells, notices_append, List.filter_append]
  rfl

theorem farewells_eq_nil {t : Trace} (h : ∀ e ∈ t, e.isFarewell = false) : farewells t = [] := by
  refine List.filter_eq_nil_iff.2 fun n hn ↦ ?_
  obtain ⟨e, he, hnotice⟩ := List.mem_filterMap.1 hn
  have hevent := h e he
  rw [Event.isFarewell, hnotice] at hevent
  exact ne_true_of_eq_false hevent

/-- A notice that tells of the end is a farewell. -/
theorem mem_farewells {t : Trace} {n : Notice} (hn : .noted n ∈ t) (htells : n.tellsOfEnd = true) :
    n ∈ t.farewells :=
  List.mem_filter.2 ⟨List.mem_filterMap.2 ⟨_, hn, rfl⟩, htells⟩

/-- Leaving out what does not count leaves the tally as it is. -/
theorem tally_filter {t : Trace} {p : Event → Bool}
    (h : ∀ e ∈ t, p e = false → e.isCounted = false) : tally (t.filter p) = tally t := by
  induction t with
  | nil => rfl
  | cons e rest ih =>
    have hrest := ih fun e' he' ↦ h e' (List.mem_cons_of_mem e he')
    rw [List.filter_cons, ← List.singleton_append (l := rest), tally_append, ← hrest]
    split
    · rw [← List.singleton_append, tally_append]
    · next hp =>
      -- what is left out would have added nothing
      have hnone : tally [e] = 0 := tally_eq_zero fun e' he' ↦ by
        obtain rfl := List.mem_singleton.1 he'
        exact h e' List.mem_cons_self (eq_false_of_ne_true hp)
      rw [hnone, Tally.zero_add]

end Trace

/-! ### Dispatchers say nothing of it -/

namespace Channel

variable (c : Channel)

/-- A message is never rejected because the session is over. -/
theorem error_ne_of_judge_eq_rejected {x : Received} {m : MalformedRequest}
    (h : c.judge x = .rejected m) : m.error ≠ .unreadable .serviceStopped := by
  rcases x with frames | cause
  · rw [judge] at h
    rcases hdecode : Request.decode c.security frames with m' | r
    · rw [hdecode] at h
      obtain rfl := Verdict.rejected.inj h
      exact (Request.recovered_of_decode_eq_error hdecode).2 _
    · rw [hdecode] at h
      dsimp only at h
      split at h <;> cases h
  · cases cause with
    | serviceStopped => cases h
    | _ =>
      obtain rfl := Verdict.rejected.inj h
      exact fun h' ↦ TransportError.noConfusion (DecodeError.unreadable.inj h')

/-- No event of a request is a farewell. -/
theorem isFarewell_of_mem_events {number : Nat} {x : Received} {e : Event}
    (h : e ∈ c.events number (c.judge x)) : e.isFarewell = false := by
  rcases c.mem_events h with ⟨m, hrejected, rfl⟩ | ⟨_, -, rfl⟩ | ⟨_, _, -, rfl | rfl⟩
  · exact decide_eq_false (c.error_ne_of_judge_eq_rejected hrejected)
  · rfl
  · rfl
  · rfl

/-- A reply that comes too late is passed over. -/
theorem isFarewell_of_mem_replyEvents {refusal : Refusal} {number : Nat} {response : Response}
    {e : Event} (h : e ∈ c.replyEvents refusal number response) : e.isFarewell = false := by
  rcases List.mem_cons.1 h with rfl | h
  · rfl
  · obtain ⟨n, hn, rfl⟩ := List.mem_map.1 h
    rcases refusal with - | cause
    · cases hn
    · cases cause with
      | serviceStopped => cases hn
      | _ =>
        obtain rfl := List.mem_singleton.1 hn
        rfl

end Channel

namespace Bench

variable (b : Bench)

theorem isFarewell_of_mem_stopEvents {stops : Bool} {e : Event} (h : e ∈ b.stopEvents stops) :
    e.isFarewell = false := by
  rw [b.eq_stopRequested_of_mem_stopEvents h]
  rfl

/-- To dispatch says no farewell. -/
theorem farewells_dispatchEvents (x : Received) : Trace.farewells (b.dispatchEvents x) = [] := by
  refine Trace.farewells_eq_nil fun e he ↦ ?_
  rcases List.mem_append.1 he with he | he
  · rcases List.mem_append.1 he with he | he
    · exact b.channel.isFarewell_of_mem_events he
    · exact b.isFarewell_of_mem_stopEvents he
  · obtain ⟨response, -, he⟩ := b.channel.mem_completionEvents he
    exact b.channel.isFarewell_of_mem_replyEvents he

/-- A flush says no farewell. -/
theorem farewells_flush : b.flush.trace.farewells = b.trace.farewells := by
  have hflush : Trace.farewells b.flushEvents = [] := Trace.farewells_eq_nil fun e he ↦ by
    obtain ⟨number, response, he⟩ := b.mem_flushEvents he
    exact b.channel.isFarewell_of_mem_replyEvents he
  rw [trace_flush, Trace.farewells_append, hflush, List.append_nil]

end Bench

/-! ### Workers -/

/-- What the log says of the end of the session when a worker ends like this. -/
def Exit.farewells : Exit → List Notice
  | .failed (.connect security endpoint .serviceStopped) =>
    [.connectFailed security endpoint .serviceStopped]
  | .failed (.disconnect security .serviceStopped) => [.disconnectFailed security .serviceStopped]
  | _ => []

/-- A farewell is not counted. -/
theorem Exit.isCounted_of_mem_farewells {exit : Exit} {n : Notice} (h : n ∈ exit.farewells) :
    (Event.noted n).isCounted = false := by
  unfold farewells at h
  split at h
  · obtain rfl := List.mem_singleton.1 h
    rfl
  · obtain rfl := List.mem_singleton.1 h
    rfl
  · cases h

namespace Worker

namespace Run

variable (r : Run)

/-- To wait says no farewell. -/
theorem farewells_wait (item : Item) :
    (r.wait item).bench.trace.farewells = r.bench.trace.farewells := by
  have hwaited :
      Trace.farewells (.called .readable r.stage :: r.bench.stopEvents item.stops) = [] :=
    Trace.farewells_eq_nil fun e he ↦ by
      rcases List.mem_cons.1 he with rfl | he
      · rfl
      · exact r.bench.isFarewell_of_mem_stopEvents he
  rw [trace_wait, Trace.farewells_append, hwaited, List.append_nil]

/-- To receive says no farewell. -/
theorem farewells_receive (x : Received) :
    (r.receive x).bench.trace.farewells = r.bench.trace.farewells := by
  have hreceived : Trace.farewells (r.receiveEvents x) = [] := by
    rw [receiveEvents]
    split
    · rfl
    · exact r.bench.farewells_dispatchEvents x
  rw [trace_receive, Trace.farewells_append]
  show _ ++ Trace.farewells (r.receiveEvents x) = _
  rw [hreceived, List.append_nil]

/-- A worker that serves stops in silence when the session is over. -/
theorem farewells_serve (ending : Ending) (items : List Item) :
    (serve ending items r).bench.trace.farewells = r.bench.trace.farewells := by
  refine serve_induction
    (P := fun _ r r' ↦ r'.bench.trace.farewells = r.bench.trace.farewells)
    ?ended ?waited ?failed ?received items r
  case ended => exact fun _ _ _ ↦ rfl
  case waited => exact fun _ item r _ ↦ r.farewells_wait item
  case failed =>
    intro _ item cause r _
    have hpolled : Trace.farewells ((pollNotices r.security cause).map .noted) = [] := by
      cases cause <;> rfl
    rw [trace_note, Trace.farewells_append, hpolled, List.append_nil, farewells_wait]
  case received =>
    intro _ x r r' _ ih
    rw [ih, farewells_receive, trace_call, Trace.farewells_append]
    exact List.append_nil _

end Run

/-- The closing says the farewell of its exit. -/
theorem farewells_closingEvents (security : Security) (refusal : Refusal) :
    Trace.farewells (closingEvents security refusal) =
      (disconnectExit security refusal).farewells := by
  rcases refusal with - | cause
  · rfl
  · cases cause <;> rfl

namespace Setup

variable (s : Setup)

/-- The opening says the farewell of its exit. -/
theorem farewells_opened :
    s.opened.bench.trace.farewells =
      ((connectExit? s.security s.endpoint s.script.connectRefusal).map
        Exit.farewells).getD [] := by
  have hearly : Trace.farewells s.earlyEvents = [] := by
    rw [earlyEvents]
    split <;> rfl
  rw [trace_opened, Trace.farewells_append, hearly, List.nil_append, openingEvents]
  rcases s.script.connectRefusal with - | cause
  · rfl
  · cases cause <;> rfl

/-- **The log tells of the end of the session when the worker's end does**, and then once. -/
theorem farewells_trace : s.trace.farewells = s.exit.farewells := by
  show s.run.1.bench.flush.trace.farewells = s.run.2.farewells
  rw [Bench.farewells_flush]
  have hopened := s.farewells_opened
  rcases hconnect : s.script.connectRefusal with - | cause <;> rw [hconnect] at hopened
  · -- up to here nothing is told; what is told after it, a worker that breaks down leaves out
    have hserved : s.served.bench.trace.farewells = [] :=
      (Run.farewells_serve ..).trans hopened
    have hsecurity : s.served.security = s.security := congrArg Channel.security s.channel_served
    rw [run_eq_serveToEnd hconnect, Run.serveToEnd, security_opened]
    show (if s.served.bench.fallen then _ else _ : Run × Exit).1.bench.trace.farewells =
      (if s.served.bench.fallen then _ else _ : Run × Exit).2.farewells
    split
    · exact hserved
    · show (s.served.finish _).bench.trace.farewells = _
      rw [bench_finish (stage_served hconnect)]
      show Trace.farewells (s.served.bench.trace ++ _) = _
      rw [Trace.farewells_append, hserved, hsecurity, farewells_closingEvents]
      rfl
  · rw [run_of_refused hconnect]
    exact hopened

/-- **The end of the session is told of by a worker that ends with it**, and by no other. However a
run goes, also one that a handler breaks off, and wherever the session is found over, the log tells
of it just when it is the cause that the worker could not connect or disconnect, and then once; no
other notice gives it as its error. Nobody is answered because of it, and nothing is counted because
of it: the tally is that of all the rest of the run. -/
theorem end_of_session_told_by_exit (s : Setup) :
    s.trace.notices.filter Notice.tellsOfEnd = s.exit.farewells ∧
      (∀ n ∈ s.trace.notices, ("error", TransportError.serviceStopped.message) ∈ n.fields →
        n ∈ s.exit.farewells) ∧
      (∀ number frames, (number, frames) ∈ s.trace.replies →
        s.incoming[number]? ≠ some (.fault .serviceStopped)) ∧
      s.final.bench.tally = Trace.tally (s.trace.filter fun e ↦ !e.tellsOfEnd) := by
  refine ⟨s.farewells_trace, ?_, ?_, ?_⟩
  · intro n hn herror
    rw [← farewells_trace]
    exact List.mem_filter.2 ⟨hn, Notice.tellsOfEnd_of_mem_fields herror⟩
  · intro number frames hmem
    obtain ⟨x, hx, hend, -⟩ := Trace.exists_of_mem_replies s.answers_trace hmem
    rw [hx]
    exact fun h ↦ hend (Option.some.inj h)
  · rw [tally_final, Trace.tally_filter]
    intro e he htells
    cases e with
    | noted n =>
      -- a notice can be the mark of a message, but none of those that tell of the end is
      have hn : n.tellsOfEnd = true := by
        simpa [Event.tellsOfEnd, Event.isFarewell, Event.notice?, Event.refusal?] using htells
      exact Exit.isCounted_of_mem_farewells (s.farewells_trace ▸ Trace.mem_farewells he hn)
    | sent number frames refusal =>
      obtain rfl : refusal = some .serviceStopped := by
        simpa [Event.tellsOfEnd, Event.isFarewell, Event.notice?, Event.refusal?] using htells
      rfl
    | _ => cases htells

/-- A worker whose session is over when it disconnects says so in the log. -/
theorem end_of_session_told_parting :
    .disconnectFailed .unsecured .serviceStopped ∈
        (pinging { disconnectRefusal := some .serviceStopped }).trace.notices ∧
      ("error", TransportError.serviceStopped.message) ∈
        (Notice.disconnectFailed .unsecured .serviceStopped).fields := by
  decide

theorem end_of_session_told_by_exit_pinging :
    .disconnectFailed .unsecured .serviceStopped ∈
        (pinging { disconnectRefusal := some .serviceStopped }).exit.farewells ∧
      (pinging { items := [{ readiness := .loaded ping }] }).incoming[0]? ≠
        some (.fault .serviceStopped) := by
  obtain ⟨-, htold, -⟩ := end_of_session_told_by_exit
    (pinging { disconnectRefusal := some .serviceStopped })
  obtain ⟨-, -, hanswered, -⟩ := end_of_session_told_by_exit
    (pinging { items := [{ readiness := .loaded ping }] })
  have hreply : 0 ∈ (pinging { items := [{ readiness := .loaded ping }] }).trace.replies.map
      Prod.fst := by decide
  obtain ⟨⟨number, frames⟩, hmem, hnumber⟩ := List.mem_map.1 hreply
  exact ⟨htold _ (by decide) (by decide), hnumber ▸ hanswered number frames hmem⟩

end Setup

end Worker

end QueryDispatch
