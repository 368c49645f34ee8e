import QueryDispatch.Proofs.Reply.Content

/-!
# The peer a message is from

The first frame of a message is the peer it is from, whether or not the message is a query, and a
message that cannot be read is from nobody. Whatever is made of an item concerns its peer and no
other: the handler is given a request of that peer, the reply is addressed to it, and a ticket that
is kept for later remembers it (`Completion.IsFor`). That the session is over is no message, and
nobody is answered.

`Bench.isFrom_dispatchEvents` says so of the events of one dispatch, and `Bench.Addressed` of all
that is kept and has happened on a bench, whoever decided it and however late.
-/

namespace QueryDispatch

/-- The peer that an item is from. -/
def Received.peer : Received → Route
  | .message frames => ⟨frames.headD []⟩
  | .fault _ => .empty

/-- The peer that a verdict is about. -/
def Verdict.route : Verdict → Route
  | .stopped => .empty
  | .rejected m => m.route
  | .unknown r => r.route
  | .accepted _ r => r.route

/-- The route of a verdict is that of the peer. -/
theorem Channel.route_judge (c : Channel) (x : Received) : (c.judge x).route = x.peer := by
  rcases x with frames | cause
  · show (c.judge (.message frames)).route = ⟨frames.headD []⟩
    rw [judge]
    rcases hdecode : Request.decode c.security frames with m | r
    · exact congrArg Route.mk (Request.route_of_decode_eq_error hdecode)
    · have hroute : r.route = ⟨frames.headD []⟩ := by
        rw [← (Request.decode_eq_ok_iff.1 hdecode).1]
        rfl
      rcases hget : c.registry.get? r.command with - | handler <;> simp only [hget] <;> exact hroute
  · cases cause <;> rfl

/-! ### What becomes of a chance to answer -/

/-- Whatever comes of the chance to answer is for this peer. -/
def Completion.IsFor (peer : Route) : Completion → Prop
  | .answered response => response.route = peer
  | .parked r | .deferred r => r.route = peer
  | .dropped | .panicked => True

/-- A completion is for the one who asked. -/
theorem Behaviour.isFor_completion (β : Behaviour) (r : Request) :
    (β.completion r).IsFor r.route := by
  cases β with
  | failure code =>
    rw [completion]
    split
    · rfl
    · trivial
  | echo | stopEcho | body | notFound | park | later => rfl
  | silent | stop | panic => trivial

theorem Verdict.isFor_completion (v : Verdict) : v.completion.IsFor v.route := by
  cases v with
  | accepted handler r =>
    have h := handler.behaviour.isFor_completion r
    rwa [handler.completion_behaviour r] at h
  | stopped => trivial
  | rejected | unknown => rfl

/-! ### Events -/

/-- If the event is of a message, it is of message `number` and concerns this peer only. -/
def Event.IsFrom (number : Nat) (peer : Route) : Event → Prop
  | .invoked _ t => t.number = number ∧ t.request.route = peer
  | .sent n frames _ => n = number ∧ frames.head? = some peer.bytes
  | _ => True

/-- The ticket is the chance to answer one of the items, and its request is of that item's peer. -/
def Ticket.Answers (items : List Received) (t : Ticket) : Prop :=
  ∃ x, items[t.number]? = some x ∧ x ≠ .fault .serviceStopped ∧ t.request.route = x.peer

/-- If the event is of a message, that message was received, and the event concerns the peer it was
from. -/
def Event.Answers (items : List Received) : Event → Prop
  | .invoked _ t => t.Answers items
  | .sent n frames _ =>
    ∃ x, items[n]? = some x ∧ x ≠ .fault .serviceStopped ∧ frames.head? = some x.peer.bytes
  | _ => True

/-- An event from the peer of an item answers that item. -/
theorem Event.IsFrom.answers {e : Event} {items : List Received} {n : Nat} {x : Received}
    (h : e.IsFrom n x.peer) (hx : items[n]? = some x) (hend : x ≠ .fault .serviceStopped) :
    e.Answers items := by
  cases e with
  | invoked handler t => exact ⟨x, h.1 ▸ hx, hend, h.2⟩
  | sent n' frames refusal => exact ⟨x, h.1 ▸ hx, hend, h.2⟩
  | _ => trivial

/-- A ticket answers its item as more is received. -/
theorem Ticket.Answers.append {t : Ticket} {items : List Received} (h : t.Answers items)
    (more : List Received) : t.Answers (items ++ more) := by
  obtain ⟨x, hx, hend, hroute⟩ := h
  exact ⟨x, getElem?_append_of_eq_some hx more, hend, hroute⟩

theorem Event.Answers.append {e : Event} {items : List Received} (h : e.Answers items)
    (more : List Received) : e.Answers (items ++ more) := by
  cases e with
  | invoked handler t => exact Ticket.Answers.append h more
  | sent n frames refusal =>
    obtain ⟨x, hx, hend, hframes⟩ := h
    exact ⟨x, getElem?_append_of_eq_some hx more, hend, hframes⟩
  | _ => trivial

namespace Channel

variable (c : Channel)

/-- The events of a verdict come from its peer. -/
theorem isFrom_events {number : Nat} {v : Verdict} {e : Event} (h : e ∈ c.events number v) :
    e.IsFrom number v.route := by
  rcases c.mem_events h with ⟨m, rfl, rfl⟩ | ⟨r, rfl, rfl⟩ | ⟨handler, r, rfl, rfl | rfl⟩
  · trivial
  · trivial
  · trivial
  · exact ⟨rfl, rfl⟩

/-- The events of a reply come from the peer it is for. -/
theorem isFrom_replyEvents {refusal : Refusal} {number : Nat} {response : Response} {e : Event}
    (h : e ∈ c.replyEvents refusal number response) : e.IsFrom number response.route := by
  rcases c.mem_replyEvents h with rfl | ⟨_, _, _, _, rfl⟩
  · exact ⟨rfl, rfl⟩
  · trivial

/-- The events of a completion come from the peer it is for. -/
theorem isFrom_completionEvents {refusal : Refusal} {number : Nat} {completion : Completion}
    {peer : Route} (hfor : completion.IsFor peer) {e : Event}
    (h : e ∈ c.completionEvents refusal number completion) : e.IsFrom number peer := by
  obtain ⟨response, rfl, h⟩ := c.mem_completionEvents h
  exact (show response.route = peer from hfor) ▸ c.isFrom_replyEvents h

end Channel

namespace Bench

variable {b : Bench} {items : List Received}

theorem isFrom_stopEvents {stops : Bool} {e : Event} (h : e ∈ b.stopEvents stops) (number : Nat)
    (peer : Route) : e.IsFrom number peer := by
  rw [b.eq_stopRequested_of_mem_stopEvents h]
  trivial

/-- **A dispatch is about one message and its peer**, whatever comes of it. -/
theorem isFrom_dispatchEvents (b : Bench) (x : Received) {e : Event} (h : e ∈ b.dispatchEvents x) :
    e.IsFrom b.dispatcher.arrivals x.peer := by
  have hroute : (b.judge x).route = x.peer := b.channel.route_judge x
  rw [← hroute]
  rcases List.mem_append.1 h with h | h
  · rcases List.mem_append.1 h with h | h
    · exact b.channel.isFrom_events h
    · exact isFrom_stopEvents h _ _
  · exact b.channel.isFrom_completionEvents (b.judge x).isFor_completion h

/-! ### All that has happened -/

/-- Messages are numbered as they are received, and all that is kept of them and has happened to
them concerns the peers they are from. -/
structure Addressed (items : List Received) (b : Bench) : Prop where
  arrivals : b.dispatcher.arrivals = items.length
  kept : ∀ t ∈ b.parked ++ b.deferred, t.Answers items
  trace : ∀ e ∈ b.trace, e.Answers items

namespace Addressed

/-- At the start there is nobody to answer. -/
theorem fresh (c : Channel) (refusal : Refusal) : Addressed [] (.fresh c refusal) where
  arrivals := rfl
  kept _ ht := by cases ht
  trace _ he := by cases he

variable (h : Addressed items b)

include h

theorem record {events : Trace} (hevents : ∀ e ∈ events, e.Answers items) :
    Addressed items (b.record events) where
  arrivals := h.arrivals
  kept := h.kept
  trace e he := (List.mem_append.1 he).elim (h.trace e) (hevents e)

theorem heed (stops : Bool) : Addressed items (b.heed stops) := by
  rw [heed_eq]
  refine ⟨h.arrivals, h.kept, fun e he ↦ (List.mem_append.1 he).elim (h.trace e) fun he ↦ ?_⟩
  rw [b.eq_stopRequested_of_mem_stopEvents he]
  trivial

/-- What becomes of the chance to answer a message is for the message's peer, and so is all that
follows from it. -/
theorem complete {number : Nat} {x : Received} (hx : items[number]? = some x)
    (hend : x ≠ .fault .serviceStopped) {completion : Completion}
    (hfor : completion.IsFor x.peer) :
    Addressed items (b.complete number completion) := by
  cases completion with
  | dropped | panicked => exact ⟨h.arrivals, h.kept, h.trace⟩
  | answered response =>
    refine ⟨h.arrivals, h.kept, fun e he ↦ (List.mem_append.1 he).elim (h.trace e) fun he ↦ ?_⟩
    have hfrom := b.channel.isFrom_replyEvents he
    exact (hfor ▸ hfrom).answers hx hend
  | parked r =>
    refine ⟨h.arrivals, fun t ht ↦ ?_, h.trace⟩
    simp only [Bench.complete, List.mem_append, List.mem_singleton] at ht
    rcases ht with (ht | rfl) | ht
    · exact h.kept t (List.mem_append_left _ ht)
    · exact ⟨x, hx, hend, hfor⟩
    · exact h.kept t (List.mem_append_right _ ht)
  | deferred r =>
    refine ⟨h.arrivals, fun t ht ↦ ?_, h.trace⟩
    simp only [Bench.complete, List.mem_append, List.mem_singleton] at ht
    rcases ht with ht | ht | rfl
    · exact h.kept t (List.mem_append_left _ ht)
    · exact h.kept t (List.mem_append_right _ ht)
    · exact ⟨x, hx, hend, hfor⟩

/-- To dispatch answers nobody but the one who asked. -/
theorem dispatch (x : Received) : Addressed (items ++ [x]) (b.dispatch x) := by
  have hlength : b.dispatcher.arrivals + 1 = (items ++ [x]).length := by
    rw [List.length_append, ← h.arrivals]
    rfl
  by_cases hend : x = .fault .serviceStopped
  · rw [hend, dispatch_serviceStopped]
    exact ⟨hend ▸ hlength, fun t ht ↦ (h.kept t ht).append _, fun e he ↦ (h.trace e he).append _⟩
  · have hx : (items ++ [x])[b.dispatcher.arrivals]? = some x := by
      rw [h.arrivals]
      exact List.getElem?_concat_length
    have hroute : (b.judge x).route = x.peer := b.channel.route_judge x
    have habsorbed : Addressed (items ++ [x]) (b.absorb (b.judge x)) := by
      refine ⟨hlength, fun t ht ↦ (h.kept t ht).append [x], fun e he ↦ ?_⟩
      rcases List.mem_append.1 he with he | he
      · exact (h.trace e he).append [x]
      · exact (hroute ▸ b.channel.isFrom_events he).answers hx hend
    exact (habsorbed.heed _).complete hx hend (hroute ▸ (b.judge x).isFor_completion)

/-- To release a ticket answers nobody but the one who asked. -/
theorem release (index : Nat) (behaviour : Behaviour) :
    Addressed items ((b.release? index behaviour).getD b) := by
  rw [release?]
  rcases ht : b.parked[index]? with - | t
  · exact h
  · obtain ⟨x, hx, hend, hroute⟩ := h.kept t (List.mem_append_left _ (List.mem_of_getElem? ht))
    have htaken : Addressed items { b with parked := b.parked.eraseIdx index } := by
      refine ⟨h.arrivals, fun t' ht' ↦ h.kept t' ?_, h.trace⟩
      rcases List.mem_append.1 ht' with ht' | ht'
      · exact List.mem_append_left _ (List.mem_of_mem_eraseIdx ht')
      · exact List.mem_append_right _ ht'
    exact (htaken.heed behaviour.stops).complete hx hend
      (hroute ▸ behaviour.isFor_completion t.request)

/-- The replies that were put off go where they would have gone at once. -/
theorem flush : Addressed items b.flush := by
  rw [flush_eq]
  refine ⟨h.arrivals, fun t ht ↦ h.kept t (List.mem_append_left _ ?_), fun e he ↦ ?_⟩
  · rwa [List.append_nil] at ht
  · rcases List.mem_append.1 he with he | he
    · exact h.trace e he
    · obtain ⟨t, ht, he⟩ := List.mem_flatMap.1 he
      obtain ⟨x, hx, hend, hroute⟩ := h.kept t (List.mem_append_right _ ht)
      have hfrom : e.IsFrom t.number t.request.route := b.channel.isFrom_replyEvents he
      exact (hroute ▸ hfrom).answers hx hend

/-- A step answers nobody but the one who asked. -/
theorem step (s : Step) : Addressed (items ++ s.item?.toList) (b.step s) := by
  cases s with
  | receive x => exact h.dispatch x
  | release index behaviour =>
    show Addressed (items ++ []) _
    rw [List.append_nil]
    exact h.release index behaviour
  | setRefusal refusal =>
    show Addressed (items ++ []) _
    rw [List.append_nil]
    exact ⟨h.arrivals, h.kept, h.trace⟩

/-- A run answers nobody but those who asked. -/
theorem run (steps : List Step) : Addressed (items ++ Bench.items steps) (b.run steps) := by
  induction steps generalizing b items with
  | nil =>
    rw [Bench.items, List.filterMap_nil, List.append_nil]
    exact h
  | cons s rest ih =>
    rw [Bench.items_cons, ← List.append_assoc]
    exact ih (h.step s)

end Addressed

end Bench

/-- A reply is to a message that was received, and its first frame is that of the message. -/
theorem Trace.exists_of_mem_replies {t : Trace} {items : List Received}
    (h : ∀ e ∈ t, e.Answers items) {number : Nat} {frames : Frames}
    (hmem : (number, frames) ∈ t.replies) :
    ∃ x, items[number]? = some x ∧ x ≠ .fault .serviceStopped ∧
      frames.head? = some x.peer.bytes := by
  obtain ⟨e, he, hreply⟩ := List.mem_filterMap.1 hmem
  cases e with
  | sent n out refusal =>
    obtain ⟨rfl, rfl⟩ := Prod.mk.inj (Option.some.inj hreply)
    exact h _ he
  | _ => cases hreply

/-- A reply goes to the peer of the item that it answers. -/
theorem Bench.Addressed.head?_of_mem_replies {b : Bench} {items : List Received}
    (h : Addressed items b) {number : Nat} {frames : Frames}
    (hmem : (number, frames) ∈ b.trace.replies) :
    ∃ x, items[number]? = some x ∧ frames.head? = some x.peer.bytes := by
  obtain ⟨x, hx, -, hframes⟩ := Trace.exists_of_mem_replies h.trace hmem
  exact ⟨x, hx, hframes⟩

end QueryDispatch
