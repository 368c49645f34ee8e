import QueryDispatch.Proofs.Redaction

/-!
# How a channel presents what it does

A channel has a name, which it puts on requests, tickets and notices, and it logs as it is told to:
it may announce queries, and it may hide its peers. None of this bears on what it does. Whatever
happens on a channel is what happens on the plain channel with the same handlers (`Channel.plain`),
presented as the channel presents things: under its own name, with its peers hidden if they are to
be, and with an announcement before each invocation if there is to be one (`Event.presented`).

Presenting commutes with all that a dispatcher does, from the verdict on an item
(`Channel.judge_presented`) up to whole histories (`Bench.reports_presented`). So to compare two
channels with the same handlers it is enough to compare two ways of presenting one event.
-/

namespace QueryDispatch

/-! ### Ways of presenting -/

/-- The channel with the same handlers that has the name of the public one and logs no more than it
must, and all of that openly. -/
def Channel.plain (c : Channel) : Channel where
  security := .unsecured
  registry := c.registry

/-- The ticket under another channel's name. -/
def Ticket.onChannel (t : Ticket) (security : Security) : Ticket :=
  { t with security, request := t.request.onChannel security }

/-- The verdict on a message that came by another channel. -/
def Verdict.onChannel (security : Security) : Verdict → Verdict
  | .stopped => .stopped
  | .rejected m => .rejected m
  | .unknown r => .unknown (r.onChannel security)
  | .accepted handler r => .accepted handler (r.onChannel security)

/-- What becomes of the chance to answer on another channel. -/
def Completion.onChannel (security : Security) : Completion → Completion
  | .dropped => .dropped
  | .answered response => .answered response
  | .parked r => .parked (r.onChannel security)
  | .deferred r => .deferred (r.onChannel security)
  | .panicked => .panicked

namespace Notice

/-- The notice under another channel's name and address. -/
def onChannel (security : Security) (address : String) : Notice → Notice
  | .connected _ _ => .connected security address
  | .connectFailed _ _ cause => .connectFailed security address cause
  | .pollFailed _ cause => .pollFailed security cause
  | .disconnectFailed _ cause => .disconnectFailed security cause
  | .rejected _ peer error => .rejected security peer error
  | .unknownCommand _ peer command => .unknownCommand security peer command
  | .query _ peer command => .query security peer command
  | .replyFailed _ peer command cause => .replyFailed security peer command cause

/-- The notice with the peer hidden, if it mentions one. -/
def redacted : Notice → Notice
  | .rejected security _ error => .rejected security Channel.redactedPeer error
  | .unknownCommand security _ command => .unknownCommand security Channel.redactedPeer command
  | .query security _ command => .query security Channel.redactedPeer command
  | .replyFailed security _ command cause =>
    .replyFailed security Channel.redactedPeer command cause
  | n => n

/-- The notice as a channel presents it. -/
def presented (c : Channel) (address : String) (n : Notice) : Notice :=
  if c.redactRoutes then (n.onChannel c.security address).redacted
  else n.onChannel c.security address

end Notice

/-- The call, made to another address. -/
def SocketCall.onAddress (address : String) : SocketCall → SocketCall
  | .connect _ => .connect address
  | call => call

namespace Event

/-- The event under another channel's name and address. -/
def onChannel (security : Security) (address : String) : Event → Event
  | .called call stage => .called (call.onAddress address) stage
  | .invoked handler t => .invoked handler (t.onChannel security)
  | .noted n => .noted (n.onChannel security address)
  | e => e

/-- The event with the peer hidden, if it writes one to the log. -/
def redacted : Event → Event
  | .noted n => .noted n.redacted
  | e => e

/-- The event, with an announcement before it if it is an invocation. -/
def announced (c : Channel) : Event → Trace
  | .invoked handler t =>
    [.noted (.query t.security (c.showPeer t.request.route) t.request.command), .invoked handler t]
  | e => [e]

/-- The event as a channel at an address presents it. -/
def presented (c : Channel) (address : String) (e : Event) : Trace :=
  let named := e.onChannel c.security address
  let shown := if c.redactRoutes then named.redacted else named
  if c.verbose then shown.announced c else [shown]

variable (c : Channel) (address : String)

@[simp] theorem presented_called (call : SocketCall) (stage : Stage) :
    presented c address (.called call stage) = [.called (call.onAddress address) stage] := by
  rw [presented]
  split <;> split <;> rfl

@[simp] theorem presented_entered (stage : Stage) :
    presented c address (.entered stage) = [.entered stage] := by
  rw [presented]
  split <;> split <;> rfl

@[simp] theorem presented_stopRequested :
    presented c address .stopRequested = [.stopRequested] := by
  rw [presented]
  split <;> split <;> rfl

@[simp] theorem presented_sent (number : Nat) (frames : Frames) (refusal : Refusal) :
    presented c address (.sent number frames refusal) = [.sent number frames refusal] := by
  rw [presented]
  split <;> split <;> rfl

@[simp] theorem presented_noted (n : Notice) :
    presented c address (.noted n) = [.noted (n.presented c address)] := by
  rw [presented, Notice.presented]
  split <;> split <;> rfl

/-- An invocation is announced by a channel that announces queries. -/
theorem presented_invoked (handler : Handler Nat) (t : Ticket) :
    presented c address (.invoked handler t) =
      (if c.verbose then
        [.noted (.query c.security (c.showPeer t.request.route) t.request.command)] else []) ++
        [.invoked handler (t.onChannel c.security)] := by
  rw [presented]
  split <;> split <;> rfl

end Event

namespace Trace

/-- What happened, as a channel at an address presents it. -/
def presented (c : Channel) (address : String) (t : Trace) : Trace :=
  t.flatMap (Event.presented c address)

variable (c : Channel) (address : String)

/-- A trace is presented event by event. -/
theorem presented_cons (e : Event) (t : Trace) :
    presented c address (e :: t) = e.presented c address ++ presented c address t :=
  List.flatMap_cons

theorem presented_append (t t' : Trace) :
    presented c address (t ++ t') = presented c address t ++ presented c address t' :=
  List.flatMap_append

theorem presented_noted (notices : List Notice) :
    presented c address (notices.map .noted) =
      (notices.map (Notice.presented c address)).map .noted := by
  simp only [presented, List.flatMap_map, Event.presented_noted, List.map_map]
  exact List.map_eq_flatMap.symm

end Trace

/-! ### Messages -/

/-- Reading a message does not depend on the channel, but for the name that the request gets. -/
theorem Request.decode_onChannel (security security' : Security) (frames : Frames) :
    decode security' frames = (decode security frames).map (·.onChannel security') := by
  rcases frames with - | ⟨route, - | ⟨commandFrame, rest⟩⟩
  · rfl
  · rfl
  · rw [decode, decode]
    rcases Wire.ofUtf8? commandFrame with - | command
    · rfl
    · rcases rest with - | ⟨idFrame, rest⟩
      · rfl
      · dsimp only
        rcases Wire.Word.decode? idFrame with - | id
        · rfl
        · rcases rest with - | ⟨body, - | ⟨more, rest⟩⟩ <;> rfl

/-- **What is to be done about an item does not depend on how the channel presents it.** -/
theorem Channel.judge_presented (c : Channel) (x : Received) :
    c.judge x = (c.plain.judge x).onChannel c.security := by
  rcases x with frames | cause
  · rw [judge, judge, Request.decode_onChannel c.plain.security]
    rcases Request.decode c.plain.security frames with m | r
    · rfl
    · have hcommand : (r.onChannel c.security).command = r.command := rfl
      have hregistry : c.plain.registry = c.registry := rfl
      simp only [Except.map, hcommand, hregistry]
      rcases c.registry.get? r.command with - | handler <;> rfl
  · cases cause <;> rfl

/-- What a behaviour does is the same on every channel. -/
theorem Behaviour.completion_onChannel (β : Behaviour) (r : Request) (security : Security) :
    β.completion (r.onChannel security) = (β.completion r).onChannel security := by
  cases β with
  | failure code =>
    rw [completion, completion]
    rcases FailureCode.ofCode? code with - | fc <;> rfl
  | _ => rfl

namespace Verdict

variable (v : Verdict) (security : Security)

theorem outcome_onChannel : (v.onChannel security).outcome = v.outcome := by
  cases v <;> rfl

theorem stops_onChannel : (v.onChannel security).stops = v.stops := by
  cases v <;> rfl

theorem completion_onChannel :
    (v.onChannel security).completion = v.completion.onChannel security := by
  cases v with
  | accepted handler r =>
    show handler.completion (r.onChannel security) = (handler.completion r).onChannel security
    rw [← handler.completion_behaviour, ← handler.completion_behaviour,
      Behaviour.completion_onChannel]
  | _ => rfl

end Verdict

/-- A handler panics on every channel or on none. -/
theorem Completion.onChannel_eq_panicked_iff (completion : Completion) (security : Security) :
    completion.onChannel security = .panicked ↔ completion = .panicked := by
  cases completion <;> simp [onChannel]

/-! ### Events -/

namespace Channel

variable (c : Channel) (address : String)

theorem presented_rejected (peer : Route) (security : Security) (error : DecodeError) :
    (Notice.rejected security peer.display error).presented c address =
      .rejected c.security (c.showPeer peer) error := by
  rw [Notice.presented, showPeer]
  split <;> rfl

theorem presented_unknownCommand (peer : Route) (security : Security) (command : String) :
    (Notice.unknownCommand security peer.display command).presented c address =
      .unknownCommand c.security (c.showPeer peer) command := by
  rw [Notice.presented, showPeer]
  split <;> rfl

theorem presented_replyFailed (peer : Route) (security : Security) (command : String)
    (cause : TransportError) :
    (Notice.replyFailed security peer.display command cause).presented c address =
      .replyFailed c.security (c.showPeer peer) command cause := by
  rw [Notice.presented, showPeer]
  split <;> rfl

/-- **What happens on a verdict is presented.** -/
theorem events_presented (number : Nat) (v : Verdict) :
    c.events number (v.onChannel c.security) =
      (Trace.presented c address (c.plain.events number v)) := by
  cases v with
  | stopped => rfl
  | rejected m =>
    show _ = Event.presented c address (.noted (.rejected _ m.route.display m.error)) ++ []
    rw [Event.presented_noted, presented_rejected]
    rfl
  | unknown r =>
    show _ = Event.presented c address (.noted (.unknownCommand _ r.route.display r.command)) ++ []
    rw [Event.presented_noted, presented_unknownCommand]
    rfl
  | accepted handler r =>
    show _ = Event.presented c address (.invoked _ (c.plain.ticket number r)) ++ []
    rw [Event.presented_invoked, List.append_nil]
    rfl

/-- The notices of a refusal are those of the plain channel, presented. -/
theorem refusalNotices_presented (response : Response) (refusal : Refusal) :
    c.refusalNotices response refusal =
      (c.plain.refusalNotices response refusal).map (Notice.presented c address) := by
  unfold refusalNotices
  split
  · rfl
  · rfl
  · rw [List.map_singleton]
    exact congrArg ([·]) (c.presented_replyFailed address response.route _ _ _).symm

/-- The events of a reply are those of the plain channel, presented. -/
theorem replyEvents_presented (refusal : Refusal) (number : Nat) (response : Response) :
    c.replyEvents refusal number response =
      Trace.presented c address (c.plain.replyEvents refusal number response) := by
  rw [replyEvents, replyEvents, c.refusalNotices_presented address, ← Trace.presented_noted,
    Trace.presented_cons, Event.presented_sent]
  rfl

end Channel

/-! ### The bench -/

namespace Bench

/-- The bench with a channel put in place of the plain one, and all that has happened presented
accordingly. -/
def presented (b : Bench) (c : Channel) (address : String) : Bench where
  dispatcher := { b.dispatcher with channel := c }
  refusal := b.refusal
  stopRequested := b.stopRequested
  fallen := b.fallen
  parked := b.parked.map (·.onChannel c.security)
  deferred := b.deferred.map (·.onChannel c.security)
  trace := b.trace.presented c address

/-- The report as the other channel presents it. -/
def Report.presented (r : Report) (c : Channel) (address : String) : Report where
  answer := r.answer
  events := r.events.presented c address
  after := r.after.presented c address

variable (b : Bench) (c : Channel) (address : String)

theorem record_presented (events : Trace) :
    (b.presented c address).record (Trace.presented c address events) =
      (b.record events).presented c address := by
  simp [record, presented, Trace.presented_append]

theorem heed_presented (stops : Bool) :
    (b.presented c address).heed stops = (b.heed stops).presented c address := by
  have hevents : (b.presented c address).stopEvents stops =
      Trace.presented c address (b.stopEvents stops) := by
    rw [stopEvents, stopEvents]
    show (if stops && !b.stopRequested then _ else _) = _
    split
    · rw [Trace.presented_cons, Event.presented_stopRequested]
      rfl
    · rfl
  rw [heed_eq, heed_eq, hevents]
  simp [presented, Trace.presented_append]

section Plain

variable {b c} (hb : b.channel = c.plain)

include hb

/-- The verdict is the same but for its channel. -/
theorem judge_presented (x : Received) :
    (b.presented c address).judge x = (b.judge x).onChannel c.security := by
  show c.judge x = (b.channel.judge x).onChannel c.security
  rw [hb, Channel.judge_presented]

theorem absorb_presented (v : Verdict) :
    (b.presented c address).absorb (v.onChannel c.security) =
      (b.absorb v).presented c address := by
  have hevents := c.events_presented address b.dispatcher.arrivals v
  rw [← hb] at hevents
  rw [absorb, absorb, ← record_presented, ← hevents]
  show Bench.record _ _ = Bench.record _ _
  rw [Dispatcher.absorb, Verdict.outcome_onChannel]
  rfl

/-- To reply is presented as to reply. -/
theorem reply_presented (number : Nat) (response : Response) :
    (b.presented c address).reply number response =
      (b.reply number response).presented c address := by
  have hevents := c.replyEvents_presented address b.refusal number response
  rw [← hb] at hevents
  show Bench.record _ (c.replyEvents b.refusal number response) =
    (Bench.record _ (b.channel.replyEvents b.refusal number response)).presented c address
  rw [hevents, ← record_presented]
  rfl

/-- To complete is presented as to complete. -/
theorem complete_presented (number : Nat) (completion : Completion) :
    (b.presented c address).complete number (completion.onChannel c.security) =
      (b.complete number completion).presented c address := by
  cases completion with
  | dropped | panicked => rfl
  | answered response => exact reply_presented address hb number response
  | parked r | deferred r =>
    simp [complete, Completion.onChannel, presented, Channel.ticket, Ticket.onChannel, channel]

/-- To dispatch is presented as to dispatch. -/
theorem dispatch_presented (x : Received) :
    (b.presented c address).dispatch x = (b.dispatch x).presented c address := by
  have hchannel : ((b.absorb (b.judge x)).heed (b.judge x).stops).channel = c.plain := by
    rw [channel_heed, channel_absorb, hb]
  rw [dispatch, dispatch, judge_presented address hb, absorb_presented address hb,
    Verdict.stops_onChannel, heed_presented, Verdict.completion_onChannel]
  exact complete_presented address hchannel _ _

theorem conclude_presented (t : Ticket) (behaviour : Behaviour) :
    (b.presented c address).conclude (t.onChannel c.security) behaviour =
      (b.conclude t behaviour).presented c address := by
  have hchannel : (b.heed behaviour.stops).channel = c.plain := by
    rw [channel_heed, hb]
  rw [conclude, conclude, heed_presented]
  show Bench.complete _ t.number (behaviour.completion (t.request.onChannel c.security)) = _
  rw [Behaviour.completion_onChannel]
  exact complete_presented address hchannel _ _

/-- To release is presented as to release. -/
theorem release_presented (index : Nat) (behaviour : Behaviour) :
    ((b.presented c address).release? index behaviour).getD (b.presented c address) =
      ((b.release? index behaviour).getD b).presented c address := by
  rw [release?, release?]
  show (((b.parked.map (·.onChannel c.security))[index]?).map _).getD _ = _
  rw [List.getElem?_map]
  rcases b.parked[index]? with - | t
  · rfl
  · have herase : ({ b with parked := b.parked.eraseIdx index } : Bench).presented c address =
        { b.presented c address with
          parked := (b.parked.map (·.onChannel c.security)).eraseIdx index } := by
      simp [presented, List.eraseIdx_map]
    show Bench.conclude { b.presented c address with
      parked := (b.parked.map (·.onChannel c.security)).eraseIdx index }
        (t.onChannel c.security) behaviour = _
    rw [← herase]
    exact conclude_presented (b := { b with parked := b.parked.eraseIdx index }) address hb t
      behaviour

/-- A flush is presented as a flush. -/
theorem flush_presented :
    (b.presented c address).flush = b.flush.presented c address := by
  have hevents : (b.presented c address).flushEvents =
      Trace.presented c address b.flushEvents := by
    rw [flushEvents, flushEvents, Trace.presented, List.flatMap_assoc]
    show (b.deferred.map (·.onChannel c.security)).flatMap _ = _
    rw [List.flatMap_map, hb]
    exact List.flatMap_congr fun t _ ↦ c.replyEvents_presented address b.refusal t.number
      (.success t.request t.request.body)
  rw [flush_eq, flush_eq, hevents]
  simp [presented, tally, List.foldl_map, Trace.presented_append]

/-- A step is presented as a step. -/
theorem step_presented (s : Step) :
    (b.presented c address).step s = (b.step s).presented c address := by
  cases s with
  | receive x => exact dispatch_presented address hb x
  | release index behaviour => exact release_presented address hb index behaviour
  | setRefusal refusal => rfl

/-- The answers do not depend on how the bench is presented. -/
theorem answer_presented (s : Step) : (b.presented c address).answer s = b.answer s := by
  cases s with
  | receive x =>
    rw [answer, answer, judge_presented address hb, Verdict.completion_onChannel,
      Verdict.outcome_onChannel]
    simp only [Completion.onChannel_eq_panicked_iff]
  | release index behaviour =>
    have hparked : (b.presented c address).parked[index]? =
        b.parked[index]?.map (·.onChannel c.security) := List.getElem?_map ..
    rw [answer, answer, hparked]
    rcases b.parked[index]? with - | t
    · rfl
    · show (if behaviour.completion (t.request.onChannel c.security) = .panicked then
        Answer.panicked else .done) = _
      rw [Behaviour.completion_onChannel]
      simp only [Completion.onChannel_eq_panicked_iff]
  | setRefusal refusal => rfl

theorem report_presented (s : Step) :
    (b.presented c address).report s = (b.report s).presented c address := by
  have hevents : ((b.presented c address).report s).events =
      Trace.presented c address (b.report s).events := by
    have hgrown := (b.presented c address).trace_step s
    rw [step_presented address hb] at hgrown
    have hsame : Trace.presented c address (b.step s).trace =
        Trace.presented c address b.trace ++ ((b.presented c address).report s).events := hgrown
    rw [trace_step, Trace.presented_append] at hsame
    exact (List.append_cancel_left hsame).symm
  show Report.mk ((b.presented c address).answer s) ((b.presented c address).report s).events
    ((b.presented c address).step s) = _
  rw [hevents, answer_presented address hb, step_presented address hb]
  rfl

/-- A run is presented as a run. -/
theorem run_presented (steps : List Step) :
    (b.presented c address).run steps = (b.run steps).presented c address := by
  induction steps generalizing b with
  | nil => rfl
  | cons s rest ih => rw [run_cons, run_cons, step_presented address hb, ih (b.channel_step s ▸ hb)]

/-- **Whatever happens on a channel is what happens on the plain one, presented.** -/
theorem reports_presented (steps : List Step) :
    (b.presented c address).reports steps = (b.reports steps).map (·.presented c address) := by
  induction steps generalizing b with
  | nil => rfl
  | cons s rest ih =>
    rw [reports, reports, report_presented address hb, step_presented address hb,
      ih (b.channel_step s ▸ hb)]
    rfl

end Plain

/-- A fresh bench is the plain one, presented. -/
theorem fresh_presented (refusal : Refusal) :
    fresh c refusal = (fresh c.plain refusal).presented c address := rfl

end Bench

end QueryDispatch
