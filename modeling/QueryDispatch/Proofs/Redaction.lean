import QueryDispatch.Proofs.Peer

/-!
# Hidden peers

A channel that hides its peers shows the same text for all of them. So what it does with a message
whose first frame is wiped is what it does with the message, with that frame wiped wherever it turns
up: nothing of the first frame decides anything, and the log is not changed at all.

Wiping (`unrouted`) is carried through everything the dispatcher handles, and each operation
commutes with it, from reading a message (`Request.decode_unrouted`) up to whole histories
(`Bench.reports_unrouted`). Two histories that differ in nothing but first frames agree once wiped,
so whoever does not see routes sees no difference between them.
-/

namespace QueryDispatch

/-! ### Wiping first frames -/

/-- The frames with the first one wiped, if there is one. -/
def Frames.unrouted : Frames → Frames
  | [] => []
  | _ :: rest => [] :: rest

/-- What is received without the route of its message. -/
def Received.unrouted : Received → Received
  | .message frames => .message frames.unrouted
  | .fault cause => .fault cause

/-- The request of a message without its route. -/
def Request.unrouted (r : Request) : Request := { r with route := .empty }

/-- What is recovered of a message without its route. -/
def MalformedRequest.unrouted (m : MalformedRequest) : MalformedRequest :=
  { m with route := .empty }

/-- The reply to a message without its route. -/
def Response.unrouted (response : Response) : Response := { response with route := .empty }

/-- The chance to answer a message without its route. -/
def Ticket.unrouted (t : Ticket) : Ticket := { t with request := t.request.unrouted }

/-- The verdict on a message without its route. -/
def Verdict.unrouted : Verdict → Verdict
  | .stopped => .stopped
  | .rejected m => .rejected m.unrouted
  | .unknown r => .unknown r.unrouted
  | .accepted handler r => .accepted handler r.unrouted

/-- What becomes of the chance to answer a message without its route. -/
def Completion.unrouted : Completion → Completion
  | .dropped => .dropped
  | .answered response => .answered response.unrouted
  | .parked r => .parked r.unrouted
  | .deferred r => .deferred r.unrouted
  | .panicked => .panicked

/-- The event as it is seen by one who does not see routes. What is written to the log stays as it
is. -/
def Event.unrouted : Event → Event
  | .invoked handler t => .invoked handler t.unrouted
  | .sent number frames refusal => .sent number frames.unrouted refusal
  | e => e

/-- The log does not change with the routes of messages. -/
theorem Trace.notices_map_unrouted (t : Trace) :
    Trace.notices (t.map Event.unrouted) = t.notices := by
  rw [notices, List.filterMap_map]
  refine List.filterMap_congr fun e _ ↦ ?_
  cases e <;> rfl

/-! ### Messages -/

/-- A reply without its route is written as its frames without the first. -/
theorem Response.encode_unrouted (response : Response) :
    response.unrouted.encode = response.encode.unrouted := rfl

/-- Reading a message does not look at its first frame. -/
theorem Request.decode_unrouted (security : Security) (frames : Frames) :
    decode security frames.unrouted =
      match decode security frames with
      | .ok r => .ok r.unrouted
      | .error m => .error m.unrouted := by
  rcases frames with - | ⟨route, - | ⟨commandFrame, rest⟩⟩
  · rfl
  · rfl
  · rw [Frames.unrouted, decode, decode]
    rcases Wire.ofUtf8? commandFrame with - | command
    · rfl
    · rcases rest with - | ⟨idFrame, rest⟩
      · rfl
      · dsimp only
        rcases Wire.Word.decode? idFrame with - | id
        · rfl
        · rcases rest with - | ⟨body, - | ⟨more, rest⟩⟩ <;> rfl

namespace Channel

variable (c : Channel)

/-- What is decided about a message does not depend on its route. -/
theorem judge_unrouted (x : Received) : c.judge x.unrouted = (c.judge x).unrouted := by
  rcases x with frames | cause
  · rw [Received.unrouted, judge, judge, Request.decode_unrouted]
    rcases hdecode : Request.decode c.security frames with m | r
    · rfl
    · have hcommand : r.unrouted.command = r.command := rfl
      dsimp only
      rw [hcommand]
      rcases c.registry.get? r.command with - | handler <;> rfl
  · cases cause <;> rfl

end Channel

/-- What a behaviour does with its chance to answer does not depend on the route. -/
theorem Behaviour.completion_unrouted (β : Behaviour) (r : Request) :
    β.completion r.unrouted = (β.completion r).unrouted := by
  cases β with
  | failure code =>
    rw [completion, completion]
    rcases FailureCode.ofCode? code with - | fc <;> rfl
  | _ => rfl

namespace Verdict

variable (v : Verdict)

theorem outcome_unrouted : v.unrouted.outcome = v.outcome := by
  cases v <;> rfl

theorem stops_unrouted : v.unrouted.stops = v.stops := by
  cases v <;> rfl

theorem completion_unrouted : v.unrouted.completion = v.completion.unrouted := by
  cases v with
  | accepted handler r =>
    show handler.completion r.unrouted = (handler.completion r).unrouted
    rw [← handler.completion_behaviour, ← handler.completion_behaviour,
      Behaviour.completion_unrouted]
  | _ => rfl

end Verdict

/-- To break down has nothing to do with routes. -/
theorem Completion.unrouted_eq_panicked_iff (completion : Completion) :
    completion.unrouted = .panicked ↔ completion = .panicked := by
  cases completion <;> simp [unrouted]

/-! ### Events -/

namespace Channel

variable {c : Channel} (hc : c.redactRoutes = true)

include hc

/-- All peers are shown alike. -/
theorem showPeer_of_redactRoutes (r : Route) : c.showPeer r = redactedPeer := if_pos hc

/-- Where routes are hidden, what happens on a verdict shows nothing of them. -/
theorem events_unrouted (number : Nat) (v : Verdict) :
    c.events number v.unrouted = (c.events number v).map Event.unrouted := by
  cases v with
  | stopped => rfl
  | rejected m | unknown r =>
    simp only [Verdict.unrouted, events, showPeer_of_redactRoutes hc]
    rfl
  | accepted handler r =>
    simp only [Verdict.unrouted, events, showPeer_of_redactRoutes hc, List.map_append]
    split <;> rfl

/-- Where routes are hidden, the log of a refused reply shows nothing of them. -/
theorem refusalNotices_unrouted (response : Response) (refusal : Refusal) :
    c.refusalNotices response.unrouted refusal = c.refusalNotices response refusal := by
  unfold refusalNotices
  simp only [showPeer_of_redactRoutes hc]
  rfl

/-- Where routes are hidden, a reply differs in its first frame only. -/
theorem replyEvents_unrouted (refusal : Refusal) (number : Nat) (response : Response) :
    c.replyEvents refusal number response.unrouted =
      (c.replyEvents refusal number response).map Event.unrouted := by
  rw [replyEvents, replyEvents, refusalNotices_unrouted hc, List.map_cons, List.map_map,
    Response.encode_unrouted]
  rfl

end Channel

/-! ### The bench -/

namespace Bench

/-- The bench with the first frame of every message wiped, wherever it is kept. -/
def unrouted (b : Bench) : Bench :=
  { b with
    parked := b.parked.map Ticket.unrouted
    deferred := b.deferred.map Ticket.unrouted
    trace := b.trace.map Event.unrouted }

/-- The step, on messages without their routes. -/
def Step.unrouted : Step → Step
  | .receive x => .receive x.unrouted
  | .release index behaviour => .release index behaviour
  | .setRefusal refusal => .setRefusal refusal

/-- The report of the step on messages without their routes. -/
def Report.unrouted (r : Report) : Report where
  answer := r.answer
  events := r.events.map Event.unrouted
  after := r.after.unrouted

variable (b : Bench)

/-- To record makes no difference between routes. -/
theorem record_unrouted (events : Trace) :
    b.unrouted.record (events.map Event.unrouted) = (b.record events).unrouted := by
  simp [record, unrouted]

theorem requestStop_unrouted : b.unrouted.requestStop = b.requestStop.unrouted := by
  rw [requestStop, requestStop]
  show (if b.stopRequested then b.unrouted else _) = _
  split
  · rfl
  · exact record_unrouted { b with stopRequested := true } [.stopRequested]

theorem heed_unrouted (stops : Bool) : b.unrouted.heed stops = (b.heed stops).unrouted := by
  rw [heed, heed]
  split
  · exact b.requestStop_unrouted
  · rfl

/-- The verdict makes no difference between routes. -/
theorem judge_unrouted (x : Received) : b.unrouted.judge x.unrouted = (b.judge x).unrouted :=
  b.channel.judge_unrouted x

section Redacted

variable {b} (hb : b.channel.redactRoutes = true)

include hb

theorem absorb_unrouted (v : Verdict) : b.unrouted.absorb v.unrouted = (b.absorb v).unrouted := by
  rw [absorb, absorb, ← record_unrouted, ← Channel.events_unrouted hb]
  show Bench.record { b.unrouted with dispatcher := b.dispatcher.absorb v.unrouted } _ = _
  rw [Dispatcher.absorb, Verdict.outcome_unrouted]
  rfl

/-- To reply makes no difference between routes. -/
theorem reply_unrouted (number : Nat) (response : Response) :
    b.unrouted.reply number response.unrouted = (b.reply number response).unrouted := by
  have hevents := Channel.replyEvents_unrouted hb b.refusal number response
  rw [reply, reply]
  show Bench.record _ (b.channel.replyEvents b.refusal number response.unrouted) =
    (Bench.record _ (b.channel.replyEvents b.refusal number response)).unrouted
  rw [hevents, ← record_unrouted]
  rfl

/-- To use a chance to answer commutes with taking the routes away. -/
theorem complete_unrouted (number : Nat) (completion : Completion) :
    b.unrouted.complete number completion.unrouted = (b.complete number completion).unrouted := by
  cases completion with
  | dropped | panicked => rfl
  | answered response => exact reply_unrouted hb number response
  | parked r | deferred r => simp [complete, Completion.unrouted, unrouted, Channel.ticket,
      Ticket.unrouted, channel]

/-- To dispatch commutes with taking the routes away. -/
theorem dispatch_unrouted (x : Received) :
    b.unrouted.dispatch x.unrouted = (b.dispatch x).unrouted := by
  have hchannel : ((b.absorb (b.judge x)).heed (b.judge x).stops).channel.redactRoutes = true := by
    rw [channel_heed, channel_absorb, hb]
  rw [dispatch, dispatch, judge_unrouted, absorb_unrouted hb, Verdict.stops_unrouted,
    heed_unrouted, Verdict.completion_unrouted]
  exact complete_unrouted hchannel _ _

/-- To conclude makes no difference between routes. -/
theorem conclude_unrouted (t : Ticket) (behaviour : Behaviour) :
    b.unrouted.conclude t.unrouted behaviour = (b.conclude t behaviour).unrouted := by
  have hchannel : (b.heed behaviour.stops).channel.redactRoutes = true := by
    rw [channel_heed, hb]
  rw [conclude, conclude, heed_unrouted]
  show Bench.complete _ t.number (behaviour.completion t.request.unrouted) = _
  rw [Behaviour.completion_unrouted]
  exact complete_unrouted hchannel _ _

/-- To release a ticket commutes with taking the routes away. -/
theorem release_unrouted (index : Nat) (behaviour : Behaviour) :
    (b.unrouted.release? index behaviour).getD b.unrouted =
      ((b.release? index behaviour).getD b).unrouted := by
  rw [release?, release?]
  show (((b.parked.map Ticket.unrouted)[index]?).map _).getD b.unrouted = _
  rw [List.getElem?_map]
  rcases b.parked[index]? with - | t
  · rfl
  · have herase : ({ b with parked := b.parked.eraseIdx index } : Bench).unrouted =
        { b.unrouted with parked := (b.parked.map Ticket.unrouted).eraseIdx index } := by
      simp [unrouted, List.eraseIdx_map]
    show Bench.conclude { b.unrouted with
      parked := (b.parked.map Ticket.unrouted).eraseIdx index } t.unrouted behaviour = _
    rw [← herase]
    exact conclude_unrouted (b := { b with parked := b.parked.eraseIdx index }) hb t behaviour

/-- To send what was put off commutes with taking the routes away. -/
theorem flush_unrouted : b.unrouted.flush = b.flush.unrouted := by
  have hevents : b.unrouted.flushEvents = b.flushEvents.map Event.unrouted := by
    rw [flushEvents, flushEvents]
    show (b.deferred.map Ticket.unrouted).flatMap _ = _
    rw [List.flatMap_map, List.map_flatMap]
    exact List.flatMap_congr fun t _ ↦ Channel.replyEvents_unrouted hb b.refusal t.number
      (.success t.request t.request.body)
  rw [flush_eq, flush_eq, hevents]
  simp [unrouted, tally, List.foldl_map]

/-- A step commutes with taking the routes away. -/
theorem step_unrouted (s : Step) : b.unrouted.step s.unrouted = (b.step s).unrouted := by
  cases s with
  | receive x => exact dispatch_unrouted hb x
  | release index behaviour => exact release_unrouted hb index behaviour
  | setRefusal refusal => rfl

end Redacted

/-- The answer to a step does not depend on routes. -/
theorem answer_unrouted (s : Step) : b.unrouted.answer s.unrouted = b.answer s := by
  cases s with
  | receive x =>
    show (if (b.unrouted.judge x.unrouted).completion = .panicked then _ else _) = _
    rw [judge_unrouted, Verdict.completion_unrouted, Verdict.outcome_unrouted]
    simp only [Completion.unrouted_eq_panicked_iff]
    rfl
  | release index behaviour =>
    have hparked : b.unrouted.parked[index]? = b.parked[index]?.map Ticket.unrouted :=
      List.getElem?_map ..
    show b.unrouted.answer (.release index behaviour) = _
    rw [answer, answer, hparked]
    rcases b.parked[index]? with - | t
    · rfl
    · show (if behaviour.completion t.request.unrouted = .panicked then Answer.panicked else .done)
        = _
      rw [Behaviour.completion_unrouted]
      simp only [Completion.unrouted_eq_panicked_iff]
  | setRefusal refusal => rfl

/-- The report of a step without the routes is the report without the routes. -/
theorem report_unrouted {b : Bench} (hb : b.channel.redactRoutes = true) (s : Step) :
    b.unrouted.report s.unrouted = (b.report s).unrouted := by
  have hdrop : ((b.step s).trace.map Event.unrouted).drop (b.trace.map Event.unrouted).length =
      ((b.step s).trace.drop b.trace.length).map Event.unrouted := by
    rw [List.length_map, List.map_drop]
  rw [report, report, step_unrouted hb, answer_unrouted]
  exact congrArg (fun events ↦ Report.mk _ events _) hdrop

/-- No step changes the channel. -/
theorem channel_step (s : Step) : (b.step s).channel = b.channel := by
  cases s with
  | receive x => exact b.channel_dispatch x
  | release index behaviour =>
    show ((b.release? index behaviour).getD b).channel = _
    rw [release?]
    rcases b.parked[index]? with - | t
    · rfl
    · show (Bench.conclude _ t behaviour).channel = _
      rw [conclude, channel_complete, channel_heed]
      rfl
  | setRefusal refusal => rfl

/-- A run on messages without their routes is the run without the routes. -/
theorem run_unrouted {b : Bench} (hb : b.channel.redactRoutes = true) (steps : List Step) :
    b.unrouted.run (steps.map Step.unrouted) = (b.run steps).unrouted := by
  induction steps generalizing b with
  | nil => rfl
  | cons s rest ih =>
    rw [List.map_cons, run_cons, run_cons, step_unrouted hb, ih (b.channel_step s ▸ hb)]

/-- No run changes the channel. -/
theorem channel_run (steps : List Step) : (b.run steps).channel = b.channel := by
  induction steps generalizing b with
  | nil => rfl
  | cons s rest ih => rw [run_cons, ih, channel_step]

/-- **Wiping first frames before a history is wiping them after it.** -/
theorem reports_unrouted {b : Bench} (hb : b.channel.redactRoutes = true) (steps : List Step) :
    b.unrouted.reports (steps.map Step.unrouted) = (b.reports steps).map Report.unrouted := by
  induction steps generalizing b with
  | nil => rfl
  | cons s rest ih =>
    rw [List.map_cons, reports, reports, report_unrouted hb, step_unrouted hb,
      ih (b.channel_step s ▸ hb)]
    rfl

/-! ### What an onlooker sees -/

/-- Two benches that are the same to one who does not see routes. -/
structure Alike (b b' : Bench) : Prop where
  dispatcher : b.dispatcher = b'.dispatcher
  refusal : b.refusal = b'.refusal
  stopRequested : b.stopRequested = b'.stopRequested
  fallen : b.fallen = b'.fallen
  parked : b.parked.length = b'.parked.length
  notices : b.trace.notices = b'.trace.notices
  trace : b.trace.map Event.unrouted = b'.trace.map Event.unrouted

/-- Two reports that are the same to one who does not see routes. -/
structure Report.Alike (r r' : Report) : Prop where
  answer : r.answer = r'.answer
  notices : r.events.notices = r'.events.notices
  events : r.events.map Event.unrouted = r'.events.map Event.unrouted
  after : r.after.Alike r'.after

/-- Traces that differ in routes only have the same log. -/
theorem notices_eq_of_map_unrouted {t t' : Trace}
    (h : t.map Event.unrouted = t'.map Event.unrouted) : t.notices = t'.notices := by
  rw [← Trace.notices_map_unrouted t, h, Trace.notices_map_unrouted]

/-- Benches that differ in routes only are alike. -/
theorem Alike.of_unrouted_eq {b b' : Bench} (h : b.unrouted = b'.unrouted) : b.Alike b' := by
  simp only [unrouted, mk.injEq] at h
  obtain ⟨hdispatcher, hrefusal, hstop, hfallen, hparked, -, htrace⟩ := h
  have hlength := congrArg List.length hparked
  rw [List.length_map, List.length_map] at hlength
  exact ⟨hdispatcher, hrefusal, hstop, hfallen, hlength, notices_eq_of_map_unrouted htrace,
    htrace⟩

/-- Reports that differ in routes only are alike. -/
theorem Report.Alike.of_unrouted_eq {r r' : Report} (h : r.unrouted = r'.unrouted) :
    r.Alike r' := by
  simp only [unrouted, mk.injEq] at h
  obtain ⟨hanswer, hevents, hafter⟩ := h
  exact ⟨hanswer, notices_eq_of_map_unrouted hevents, hevents, .of_unrouted_eq hafter⟩

/-- Histories that differ in first frames only are reported alike, step by step. -/
theorem reports_alike {b : Bench} (hb : b.channel.redactRoutes = true) {steps steps' : List Step}
    (h : steps.map Step.unrouted = steps'.map Step.unrouted) :
    List.Forall₂ Report.Alike (b.reports steps) (b.reports steps') := by
  have hreports :
      (b.reports steps).map Report.unrouted = (b.reports steps').map Report.unrouted := by
    rw [← reports_unrouted hb, h, reports_unrouted hb]
  have hlength := congrArg List.length hreports
  rw [List.length_map, List.length_map] at hlength
  refine List.forall₂_iff_get.2 ⟨hlength, fun i hi hi' ↦ ?_⟩
  have hget := congrArg (·[i]?) hreports
  simp only [List.getElem?_map, List.getElem?_eq_getElem hi, List.getElem?_eq_getElem hi',
    Option.map_some, Option.some.injEq] at hget
  exact .of_unrouted_eq hget

/-- Runs on messages that differ in routes only are alike. -/
theorem run_alike {b : Bench} (hb : b.channel.redactRoutes = true) {steps steps' : List Step}
    (h : steps.map Step.unrouted = steps'.map Step.unrouted) :
    (b.run steps).flush.Alike (b.run steps').flush := by
  refine .of_unrouted_eq ?_
  rw [← flush_unrouted (b.channel_run steps ▸ hb), ← flush_unrouted (b.channel_run steps' ▸ hb),
    ← run_unrouted hb, ← run_unrouted hb, h]

end Bench

end QueryDispatch
