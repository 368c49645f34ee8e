import QueryDispatch.Bench
import QueryDispatch.Proofs.History
import Mathlib.Tactic.Set

/-!
# What a dispatch adds and changes

A dispatch writes its events at the end of the trace, and neither these events nor anything else it
does depends on what the trace held before: `dispatch_rewritten` is that, and `trace_dispatch` is
the case of it that everyone uses. So a dispatcher can be compared with another one that has a
different past, which is how a worker is compared with a bare dispatcher.

The events come in three parts: those of the verdict, the request to stop if the handler makes one
and is the first to, and the reply if there is one. Of the state, a dispatch changes what is
counted, whether a stop is requested, whether a handler has broken down, and what is kept for later;
the channel and what the transport says stay as they were.

Conditions on handlers are put on a registry with `Registry.All`.
-/

namespace QueryDispatch

/-! ### Messages that runs are tried on -/

/-- The frames of a query. -/
def Frames.query (peer : Bytes) (command : String) (id : UInt8) (body : Bytes) : Frames :=
  [peer, Wire.utf8 command, [id, 0, 0, 0], body]

/-- The frames of a ping of peer `n`. -/
def Frames.ping (n : UInt8) : Frames := .query [n] "ping" 7 [2]

/-- The frames of the reply that a query went well. -/
def Frames.reply (peer : Bytes) (command : String) (id : UInt8) (body : Bytes) : Frames :=
  [peer, Wire.utf8 command, [id, 0, 0, 0], [0, 0, 0, 0] ++ body]

/-! ### Conditions on handlers -/

/-- Every handler that is bound meets a condition. -/
def Registry.All {α : Type} (p : α → Prop) (g : Registry α) : Prop :=
  ∀ command handler, g.get? command = some handler → p handler

namespace Registry

variable {α : Type} {p q : α → Prop} {g : Registry α}

/-- A condition that follows from one that all handlers meet is met by all. -/
theorem All.imp (h : g.All p) (hpq : ∀ handler, p handler → q handler) : g.All q :=
  fun command handler hget ↦ hpq handler (h command handler hget)

/-- To load handlers that meet a condition keeps it. -/
theorem All.insertMany (h : g.All p) {bindings : List (String × α)}
    (hb : ∀ b ∈ bindings, p b.2) : (g.insertMany bindings).All p := by
  induction bindings generalizing g with
  | nil => exact h
  | cons b rest ih =>
    rw [insertMany_cons]
    refine ih (fun command handler hget ↦ ?_) fun b' hb' ↦ hb b' (List.mem_cons_of_mem b hb')
    rw [get?_insert] at hget
    split at hget
    · obtain rfl := Option.some.inj hget
      exact hb b List.mem_cons_self
    · exact h command handler hget

/-- The handlers of a list of bindings meet a condition if the node's do and those listed do. -/
theorem all_ofBehaviours {p : Handler Binding → Prop} {withNode : Bool}
    {bindings : List (String × Behaviour)} (hnode : ∀ m, p (.node m))
    (hb : ∀ b ∈ bindings, ∀ number, p (.custom ⟨number, b.2⟩)) :
    (Registry.ofBehaviours withNode bindings).All p := by
  have hempty : (Registry.empty : Registry (Handler Binding)).All p :=
    fun command handler hget ↦ by cases hget
  have hbase : (if withNode then Registry.empty.insertNode else
      (Registry.empty : Registry (Handler Binding))).All p := by
    split
    · refine hempty.insertMany fun b hmem ↦ ?_
      obtain ⟨⟨command, m⟩, -, rfl⟩ := List.mem_map.1 hmem
      exact hnode m
    · exact hempty
  refine hbase.insertMany fun b hmem ↦ ?_
  obtain ⟨⟨b', number⟩, hzip, rfl⟩ := List.mem_map.1 hmem
  exact hb b' (List.fst_mem_of_mem_zipIdx hzip) number

end Registry

/-- The answer, if there is one at once. -/
def Completion.reply? : Completion → Option Response
  | .answered response => some response
  | _ => none

/-- The handler does not break down, whatever it is given. -/
def Handler.NeverPanics (handler : Handler Binding) : Prop :=
  ∀ r, handler.completion r ≠ .panicked

/-- A behaviour breaks the handler down only if it is to panic. -/
theorem Behaviour.completion_ne_panicked {b : Behaviour} (h : b ≠ .panic) (r : Request) :
    b.completion r ≠ .panicked := by
  cases b with
  | failure code => rw [completion]; split <;> exact Completion.noConfusion
  | panic => exact absurd rfl h
  | _ => exact Completion.noConfusion

/-- Of all that a binding can ask for, only to panic breaks a handler down. -/
theorem Handler.neverPanics_custom {number : Nat} {b : Behaviour} (h : b ≠ .panic) :
    (Handler.custom ⟨number, b⟩).NeverPanics :=
  fun r ↦ b.completion_ne_panicked h r

/-- The node never breaks down. -/
theorem Handler.neverPanics_node (m : Method) : (Handler.node m).NeverPanics :=
  fun _ ↦ Completion.noConfusion

/-- The handlers of a list never break down if no behaviour in it is to panic. -/
theorem Registry.neverPanics_ofBehaviours {withNode : Bool} {bindings : List (String × Behaviour)}
    (hb : ∀ b ∈ bindings, b.2 ≠ .panic) :
    (Registry.ofBehaviours withNode bindings).All Handler.NeverPanics :=
  all_ofBehaviours Handler.neverPanics_node fun b hmem _ ↦ Handler.neverPanics_custom (hb b hmem)

namespace Channel

variable (c : Channel)

/-- A message is given to a handler if it is a query for a command that has one. -/
theorem judge_eq_accepted_iff {received : Received} {handler : Handler Binding} {r : Request} :
    c.judge received = .accepted handler r ↔ ∃ frames, received = .message frames ∧
      Request.decode c.security frames = .ok r ∧ c.registry.get? r.command = some handler := by
  constructor
  · intro h
    unfold judge at h
    split at h
    · cases h
    · cases h
    · next frames =>
      split at h
      · cases h
      · next hdecode =>
        split at h
        · cases h
        · next hget =>
          cases h
          exact ⟨frames, rfl, hdecode, hget⟩
  · rintro ⟨frames, rfl, hdecode, hget⟩
    simp only [judge, hdecode, hget]

/-- A request is only ever given to the handler of its command. -/
theorem get?_of_judge {received : Received} {handler : Handler Binding} {r : Request}
    (h : c.judge received = .accepted handler r) : c.registry.get? r.command = some handler := by
  obtain ⟨frames, -, -, hget⟩ := c.judge_eq_accepted_iff.1 h
  exact hget

/-- A dispatch breaks down only if a handler does. -/
theorem completion_judge_ne_panicked (hc : c.registry.All Handler.NeverPanics)
    (received : Received) : (c.judge received).completion ≠ .panicked := by
  cases hv : c.judge received with
  | accepted handler r => exact hc r.command handler (c.get?_of_judge hv) r
  | _ => exact Completion.noConfusion

/-- A dispatch asks for a stop only if a handler does. -/
theorem stops_judge (hc : c.registry.All fun handler ↦ handler.stops = false)
    (received : Received) : (c.judge received).stops = false := by
  cases hv : c.judge received with
  | accepted handler r => exact hc r.command handler (c.get?_of_judge hv)
  | _ => rfl

/-! ### The parts of a dispatch's events -/

/-- What happens when a reply is handed to the transport. -/
def replyEvents (refusal : Refusal) (number : Nat) (response : Response) : Trace :=
  .sent number response.encode refusal :: (c.refusalNotices response refusal).map .noted

/-- What happens when the chance to answer message `number` is used, if it is used at once. -/
def completionEvents (refusal : Refusal) (number : Nat) : Completion → Trace
  | .answered response => c.replyEvents refusal number response
  | _ => []

/-- What happens on a verdict is a word about a message that is not handled, or the announcement or
the invocation of its handler. -/
theorem mem_events {number : Nat} {v : Verdict} {e : Event} (h : e ∈ c.events number v) :
    (∃ m, v = .rejected m ∧
        e = .noted (.rejected c.security (c.showPeer m.route) m.error)) ∨
      (∃ r, v = .unknown r ∧
        e = .noted (.unknownCommand c.security (c.showPeer r.route) r.command)) ∨
      ∃ handler r, v = .accepted handler r ∧
        (e = .noted (.query c.security (c.showPeer r.route) r.command) ∨
          e = .invoked (handler.map Binding.number) (c.ticket number r)) := by
  cases v with
  | stopped => cases h
  | rejected m => exact .inl ⟨m, rfl, List.mem_singleton.1 h⟩
  | unknown r => exact .inr (.inl ⟨r, rfl, List.mem_singleton.1 h⟩)
  | accepted handler r =>
    refine .inr (.inr ⟨handler, r, rfl, ?_⟩)
    rcases List.mem_append.1 h with h | h
    · split at h
      · exact .inl (List.mem_singleton.1 h)
      · cases h
    · exact .inr (List.mem_singleton.1 h)

/-- What happens on a verdict is a dispatcher's work. -/
theorem isWork_of_mem_events {number : Nat} {v : Verdict} {e : Event}
    (h : e ∈ c.events number v) : e.isWork = true := by
  rcases c.mem_events h with ⟨_, -, rfl⟩ | ⟨_, -, rfl⟩ | ⟨_, _, -, rfl | rfl⟩ <;> rfl

/-- Whatever follows the hand-over of a reply is a word about its being refused. -/
theorem mem_replyEvents {refusal : Refusal} {number : Nat} {response : Response} {e : Event}
    (h : e ∈ c.replyEvents refusal number response) :
    e = .sent number response.encode refusal ∨
      ∃ security peer command cause, e = .noted (.replyFailed security peer command cause) := by
  rcases List.mem_cons.1 h with rfl | h
  · exact .inl rfl
  · obtain ⟨notice, hmem, rfl⟩ := List.mem_map.1 h
    refine .inr ?_
    unfold refusalNotices at hmem
    split at hmem
    · cases hmem
    · cases hmem
    · obtain rfl := List.mem_singleton.1 hmem
      exact ⟨_, _, _, _, rfl⟩

/-- What comes of a chance to answer belongs to a reply. -/
theorem mem_completionEvents {refusal : Refusal} {number : Nat} {completion : Completion}
    {e : Event} (h : e ∈ c.completionEvents refusal number completion) :
    ∃ response, completion = .answered response ∧ e ∈ c.replyEvents refusal number response := by
  cases completion with
  | answered response => exact ⟨response, rfl, h⟩
  | _ => cases h

/-- What comes of a chance to answer is a dispatcher's work. -/
theorem isWork_of_mem_completionEvents {refusal : Refusal} {number : Nat}
    {completion : Completion} {e : Event} (h : e ∈ c.completionEvents refusal number completion) :
    e.isWork = true := by
  obtain ⟨response, -, h⟩ := c.mem_completionEvents h
  rcases c.mem_replyEvents h with rfl | ⟨_, _, _, _, rfl⟩ <;> rfl

/-- Every verdict but that the session is over marks one message. -/
theorem arrivals_events (number : Nat) (v : Verdict) :
    Trace.arrivals (c.events number v) = if v = .stopped then 0 else 1 := by
  cases v with
  | accepted handler r => rw [events]; split <;> rfl
  | _ => rfl

/-- No message is counted in a reply. -/
theorem arrivals_replyEvents (refusal : Refusal) (number : Nat) (response : Response) :
    Trace.arrivals (c.replyEvents refusal number response) = 0 := by
  refine List.countP_eq_zero.2 fun e he ↦ ?_
  rcases c.mem_replyEvents he with rfl | ⟨_, _, _, _, rfl⟩ <;> exact Bool.false_ne_true

/-- No message is counted in what comes of a chance to answer. -/
theorem arrivals_completionEvents (refusal : Refusal) (number : Nat) (completion : Completion) :
    Trace.arrivals (c.completionEvents refusal number completion) = 0 := by
  cases completion with
  | answered response => exact c.arrivals_replyEvents refusal number response
  | _ => rfl

end Channel

/-- A reply is no message, whatever the transport says to it. -/
theorem Tally.received_settle (t : Tally) (refusal : Refusal) :
    (t.settle refusal).received = t.received := by
  unfold settle
  split <;> rfl

namespace Bench

variable (b : Bench)

/-! ### One history for another -/

/-- The bench with another history. -/
def rewritten (t : Trace) : Bench := { b with trace := t }

/-- What asking for a stop adds to the trace. -/
def stopEvents (stops : Bool) : Trace :=
  if stops && !b.stopRequested then [.stopRequested] else []

/-- What dispatching an item adds to the trace. -/
def dispatchEvents (received : Received) : Trace :=
  let v := b.judge received
  b.channel.events b.dispatcher.arrivals v ++ b.stopEvents v.stops ++
    b.channel.completionEvents b.refusal b.dispatcher.arrivals v.completion

/-- What sending the replies that were put off adds to the trace. -/
def flushEvents : Trace :=
  b.deferred.flatMap fun t ↦
    b.channel.replyEvents b.refusal t.number (.success t.request t.request.body)

/-- All that asking for a stop does. -/
theorem requestStop_eq :
    b.requestStop =
      { b with stopRequested := true, trace := b.trace ++ b.stopEvents true } := by
  obtain ⟨dispatcher, refusal, stopRequested, fallen, parked, deferred, trace⟩ := b
  rcases stopRequested with - | -
  · rfl
  · simp [requestStop, stopEvents]

/-- All that heeding a handler does. -/
theorem heed_eq (stops : Bool) :
    b.heed stops =
      { b with
        stopRequested := b.stopRequested || stops
        trace := b.trace ++ b.stopEvents stops } := by
  rcases stops with - | -
  · simp [heed, stopEvents]
  · rw [Bool.or_true]
    exact b.requestStop_eq

/-- What is added on a request to stop does not depend on what the trace held. -/
theorem heed_rewritten (t : Trace) (stops : Bool) :
    (b.rewritten t).heed stops = (b.heed stops).rewritten (t ++ b.stopEvents stops) := by
  rw [heed_eq, heed_eq]
  rfl

/-- A handler's request to stop adds its event, if it is the first. -/
theorem trace_heed (stops : Bool) : (b.heed stops).trace = b.trace ++ b.stopEvents stops :=
  congrArg Bench.trace (b.heed_eq stops)

/-- What is added by a completion does not depend on what the trace held. -/
theorem complete_rewritten (t : Trace) (number : Nat) (completion : Completion) :
    (b.rewritten t).complete number completion =
      (b.complete number completion).rewritten
        (t ++ b.channel.completionEvents b.refusal number completion) := by
  cases completion with
  | answered response => rfl
  | _ => simp [complete, rewritten, Channel.completionEvents, channel]

@[simp] theorem channel_absorb (v : Verdict) : (b.absorb v).channel = b.channel := rfl

@[simp] theorem channel_heed (stops : Bool) : (b.heed stops).channel = b.channel := by
  rw [heed_eq]
  rfl

@[simp] theorem refusal_heed (stops : Bool) : (b.heed stops).refusal = b.refusal := by
  rw [heed_eq]

@[simp] theorem fallen_heed (stops : Bool) : (b.heed stops).fallen = b.fallen := by
  rw [heed_eq]

@[simp] theorem tally_heed (stops : Bool) : (b.heed stops).tally = b.tally := by
  rw [heed_eq]
  rfl

/-- A stop is requested after a handler if it was before, or if the handler asks for it. -/
theorem stopRequested_heed (stops : Bool) :
    (b.heed stops).stopRequested = (b.stopRequested || stops) := by
  rw [heed_eq]

@[simp] theorem channel_complete (number : Nat) (completion : Completion) :
    (b.complete number completion).channel = b.channel := by
  cases completion <;> rfl

@[simp] theorem refusal_complete (number : Nat) (completion : Completion) :
    (b.complete number completion).refusal = b.refusal := by
  cases completion <;> rfl

@[simp] theorem stopRequested_complete (number : Nat) (completion : Completion) :
    (b.complete number completion).stopRequested = b.stopRequested := by
  cases completion <;> rfl

/-- No completion but a panic breaks a handler down. -/
theorem fallen_complete (number : Nat) {completion : Completion} (h : completion ≠ .panicked) :
    (b.complete number completion).fallen = b.fallen := by
  cases completion with
  | panicked => exact absurd rfl h
  | _ => rfl

/-! ### Dispatching -/

variable (received : Received)

/-- **A dispatch does not look at the past.** With another history it does the same, and adds the
same events. -/
theorem dispatch_rewritten (t : Trace) :
    (b.rewritten t).dispatch received =
      (b.dispatch received).rewritten (t ++ b.dispatchEvents received) := by
  set v := b.judge received with hv
  have habsorb : (b.rewritten t).absorb v =
      (b.absorb v).rewritten (t ++ b.channel.events b.dispatcher.arrivals v) := rfl
  have hstop : (b.absorb v).stopEvents v.stops = b.stopEvents v.stops := rfl
  show (((b.rewritten t).absorb v).heed v.stops).complete b.dispatcher.arrivals v.completion = _
  rw [habsorb, heed_rewritten, hstop, complete_rewritten, channel_heed, refusal_heed,
    dispatchEvents, ← hv, ← List.append_assoc, ← List.append_assoc, List.append_assoc t]
  rfl

/-- A dispatch adds its events. -/
theorem trace_dispatch : (b.dispatch received).trace = b.trace ++ b.dispatchEvents received :=
  congrArg Bench.trace (b.dispatch_rewritten received b.trace)

/-- To find the session over is to have received an item, and nothing else: nothing is said, sent,
kept or counted. -/
theorem dispatch_serviceStopped :
    b.dispatch (.fault .serviceStopped) =
      { b with dispatcher := { b.dispatcher with arrivals := b.dispatcher.arrivals + 1 } } := by
  show (Bench.record { b with dispatcher := _ } []) = _
  rw [record, List.append_nil]
  rfl

@[simp] theorem channel_dispatch : (b.dispatch received).channel = b.channel := by
  rw [dispatch, channel_complete, channel_heed, channel_absorb]

@[simp] theorem refusal_dispatch : (b.dispatch received).refusal = b.refusal := by
  rw [dispatch, refusal_complete, refusal_heed]
  rfl

/-- A stop is requested after a dispatch if it was before, or if the handler asks for it. -/
theorem stopRequested_dispatch :
    (b.dispatch received).stopRequested = (b.stopRequested || (b.judge received).stops) := by
  rw [dispatch, stopRequested_complete, stopRequested_heed]
  rfl

/-- Handlers that never panic break nothing down. -/
theorem fallen_dispatch (hb : b.channel.registry.All Handler.NeverPanics) :
    (b.dispatch received).fallen = b.fallen := by
  have hcompletion : (b.judge received).completion ≠ .panicked :=
    b.channel.completion_judge_ne_panicked hb received
  rw [dispatch, fallen_complete _ _ hcompletion, fallen_heed]
  rfl

/-- All that is recorded of a request to stop is that there is one. -/
theorem eq_stopRequested_of_mem_stopEvents {stops : Bool} {e : Event}
    (h : e ∈ b.stopEvents stops) : e = .stopRequested := by
  rw [stopEvents] at h
  split at h
  · exact List.mem_singleton.1 h
  · cases h

/-- What a dispatch adds is a dispatcher's work, but for a request to stop. -/
theorem mem_dispatchEvents {e : Event} (h : e ∈ b.dispatchEvents received) :
    e.isWork = true ∨ e = .stopRequested ∧ (b.judge received).stops = true := by
  rcases List.mem_append.1 h with h | h
  · rcases List.mem_append.1 h with h | h
    · exact .inl (b.channel.isWork_of_mem_events h)
    · refine .inr ⟨b.eq_stopRequested_of_mem_stopEvents h, ?_⟩
      rcases hstops : (b.judge received).stops with - | -
      · rw [hstops] at h
        cases h
      · rfl
  · exact .inl (b.channel.isWork_of_mem_completionEvents h)

/-- Nothing that a dispatch adds is of a worker's life. -/
theorem isLifecycle_of_mem_dispatchEvents {e : Event} (h : e ∈ b.dispatchEvents received) :
    e.isLifecycle = false := by
  rcases b.mem_dispatchEvents received h with h | ⟨rfl, -⟩
  · exact e.isLifecycle_of_isWork h
  · rfl

/-- Where no handler asks for a stop, nothing but a dispatcher's work is added. -/
theorem isWork_of_mem_dispatchEvents
    (hb : b.channel.registry.All fun handler ↦ handler.stops = false) {e : Event}
    (h : e ∈ b.dispatchEvents received) : e.isWork = true := by
  rcases b.mem_dispatchEvents received h with h | ⟨-, h⟩
  · exact h
  · exact absurd h (ne_true_of_eq_false (b.channel.stops_judge hb received))

/-! ### Counting -/

/-- No message is counted in a request to stop. -/
theorem arrivals_stopEvents (stops : Bool) : Trace.arrivals (b.stopEvents stops) = 0 := by
  rw [stopEvents]
  split <;> rfl

/-- What becomes of a chance to answer counts no message. -/
theorem received_complete (number : Nat) (completion : Completion) :
    (b.complete number completion).tally.received = b.tally.received := by
  cases completion with
  | answered response => exact b.tally.received_settle b.refusal
  | _ => rfl

/-- **A message is counted when its mark is written**, and at no other time. -/
theorem received_dispatch :
    (b.dispatch received).tally.received =
      b.tally.received + .ofNat (Trace.arrivals (b.dispatchEvents received)) := by
  have hevents : Trace.arrivals (b.dispatchEvents received) =
      Trace.arrivals (b.channel.events b.dispatcher.arrivals (b.judge received)) := by
    rw [dispatchEvents, Trace.arrivals_append, Trace.arrivals_append, arrivals_stopEvents,
      Channel.arrivals_completionEvents, Nat.add_zero]
  rw [dispatch, received_complete, tally_heed, hevents]
  show (b.tally.count (b.judge received).outcome).received = _
  rw [Channel.arrivals_events]
  cases b.judge received with
  | stopped => exact (UInt64.add_zero _).symm
  | rejected m | unknown r | accepted handler r => rfl

/-- The messages counted are those that are marked in the trace. -/
def Counted : Prop := b.tally.received = .ofNat b.trace.arrivals

variable {b}

/-- Events that are no message keep the count. -/
theorem Counted.record (h : b.Counted) {events : Trace} (hevents : events.arrivals = 0) :
    (b.record events).Counted := by
  show b.tally.received = .ofNat (Trace.arrivals (b.trace ++ events))
  rw [Trace.arrivals_append, hevents, Nat.add_zero]
  exact h

/-- So does a request to stop. -/
theorem Counted.requestStop (h : b.Counted) : b.requestStop.Counted := by
  rw [Bench.requestStop]
  split
  · exact h
  · exact Counted.record (b := { b with stopRequested := true }) h rfl

/-- A dispatch counts the message and marks it. -/
theorem Counted.dispatch (h : b.Counted) (received : Received) : (b.dispatch received).Counted := by
  have htally : b.tally.received = .ofNat b.trace.arrivals := h
  show (b.dispatch received).tally.received = .ofNat (b.dispatch received).trace.arrivals
  rw [received_dispatch, trace_dispatch, Trace.arrivals_append, UInt64.ofNat_add, htally]

variable (b)

/-! ### Sending what was put off -/

/-- Replies sent one after the other, each with the number of its message. -/
theorem foldl_reply (tickets : List Ticket) (b : Bench) :
    tickets.foldl (fun b t ↦ b.reply t.number (.success t.request t.request.body)) b =
      { b with
        dispatcher :=
          { b.dispatcher with
            tally := tickets.foldl (fun tally _ ↦ tally.settle b.refusal) b.tally }
        trace := b.trace ++ tickets.flatMap fun t ↦
          b.channel.replyEvents b.refusal t.number (.success t.request t.request.body) } := by
  induction tickets generalizing b with
  | nil => simp [tally]
  | cons first rest ih =>
    have htrace : (b.reply first.number (.success first.request first.request.body)).trace =
        b.trace ++ b.channel.replyEvents b.refusal first.number
          (.success first.request first.request.body) := rfl
    rw [List.foldl_cons, ih, htrace, List.flatMap_cons, ← List.append_assoc]
    rfl

/-- **What flushing changes**: each reply that was put off is written down, and counted by what the
transport says to it. -/
theorem flush_eq :
    b.flush =
      { b with
        dispatcher :=
          { b.dispatcher with
            tally := b.deferred.foldl (fun tally _ ↦ tally.settle b.refusal) b.tally }
        deferred := []
        trace := b.trace ++ b.flushEvents } :=
  foldl_reply b.deferred { b with deferred := [] }

/-- To send what was put off adds the replies. -/
theorem trace_flush : b.flush.trace = b.trace ++ b.flushEvents := by
  rw [flush_eq]

/-- For each reply that was put off, one is counted. -/
theorem tally_flush :
    b.flush.tally = b.deferred.foldl (fun tally _ ↦ tally.settle b.refusal) b.tally := by
  rw [flush_eq]
  rfl

/-- To send what was put off asks nobody to stop. -/
theorem stopRequested_flush : b.flush.stopRequested = b.stopRequested := by
  rw [flush_eq]

/-- To send what was put off counts no message. -/
theorem received_flush : b.flush.tally.received = b.tally.received := by
  rw [tally_flush]
  generalize b.tally = tally
  induction b.deferred generalizing tally with
  | nil => rfl
  | cons first rest ih => rw [List.foldl_cons, ih, Tally.received_settle]

/-- All that happens as what was put off is sent belongs to a reply. -/
theorem mem_flushEvents {e : Event} (h : e ∈ b.flushEvents) :
    ∃ number response, e ∈ b.channel.replyEvents b.refusal number response := by
  obtain ⟨t, -, he⟩ := List.mem_flatMap.1 h
  exact ⟨t.number, _, he⟩

/-- To send what was put off keeps the count. -/
theorem Counted.flush {b : Bench} (h : b.Counted) : b.flush.Counted := by
  have hflush : Trace.arrivals b.flushEvents = 0 := by
    refine List.countP_eq_zero.2 fun e he ↦ ?_
    obtain ⟨number, response, he⟩ := b.mem_flushEvents he
    exact List.countP_eq_zero.1 (b.channel.arrivals_replyEvents b.refusal number response) e he
  show b.flush.tally.received = .ofNat b.flush.trace.arrivals
  rw [received_flush, trace_flush, Trace.arrivals_append, hflush, Nat.add_zero]
  exact h

end Bench

end QueryDispatch
