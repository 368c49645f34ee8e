import QueryDispatch.Proofs.Peer

/-!
# Peers do not disturb each other

A dispatch does not look at the past, and all its events concern the peer of the item it received.
So what a peer sees of a history, the requests of its own that handlers were given and the replies
that were sent to it, is put together from its own messages, one after the other, and each
contributes what it would contribute anywhere (`Bench.seenBy_run`). What other peers send leaves no
trace there, and neither does anything that could not be read.

Replies that were put off are no exception: each peer's come in the order of its messages
(`Bench.seenBy_flushEvents_run`).
-/

namespace QueryDispatch

/-! ### What a peer sees -/

namespace Event

/-- Whether a handler is given a request of the peer, or a reply is sent to it. -/
def concerns (peer : Route) : Event → Bool
  | .invoked _ t => t.request.route = peer
  | .sent _ frames _ => frames.head? = some peer.bytes
  | _ => false

/-- The event without the number of its message, which counts what all peers have sent. -/
def unnumbered : Event → Event
  | .invoked handler t => .invoked handler { t with number := 0 }
  | .sent _ frames refusal => .sent 0 frames refusal
  | e => e

theorem concerns_unnumbered (peer : Route) (e : Event) :
    e.unnumbered.concerns peer = e.concerns peer := by
  cases e <;> rfl

/-- What is about one peer does not concern another. -/
theorem IsFrom.eq_of_concerns {e : Event} {number : Nat} {peer peer' : Route}
    (h : e.IsFrom number peer) (hconcerns : e.concerns peer' = true) : peer = peer' := by
  cases e with
  | invoked handler t => exact h.2.symm.trans (of_decide_eq_true hconcerns)
  | sent n frames refusal =>
    have hbytes := h.2.symm.trans (of_decide_eq_true hconcerns)
    exact congrArg Route.mk (Option.some.inj hbytes)
  | _ => cases hconcerns

end Event

namespace Trace

/-- What a peer sees of a trace: the requests of its own that handlers were given, and the replies
that were sent to it. -/
def seenBy (peer : Route) (t : Trace) : Trace :=
  (t.filter (Event.concerns peer)).map Event.unnumbered

variable {peer : Route} {t t' : Trace}

theorem seenBy_append (peer : Route) (t t' : Trace) :
    seenBy peer (t ++ t') = seenBy peer t ++ seenBy peer t' := by
  rw [seenBy, List.filter_append, List.map_append]
  rfl

/-- Numbers make no difference to a peer. -/
theorem seenBy_congr (h : t.map Event.unnumbered = t'.map Event.unnumbered) :
    seenBy peer t = seenBy peer t' := by
  have hview : ∀ t : Trace,
      seenBy peer t = (t.map Event.unnumbered).filter (Event.concerns peer) := fun t ↦ by
    rw [seenBy, List.filter_map]
    refine congrArg (List.map Event.unnumbered) (List.filter_congr fun e _ ↦ ?_)
    exact (e.concerns_unnumbered peer).symm
  rw [hview, hview, h]

/-- Nothing from another peer is seen by this one. -/
theorem seenBy_eq_nil {number : Nat} {peer' : Route} (h : ∀ e ∈ t, e.IsFrom number peer')
    (hne : peer' ≠ peer) : seenBy peer t = [] := by
  rw [seenBy, List.map_eq_nil_iff, List.filter_eq_nil_iff]
  exact fun e he hconcerns ↦ hne ((h e he).eq_of_concerns hconcerns)

end Trace

/-! ### What an item contributes -/

namespace Channel

variable (c : Channel)

/-- What is made of an item at once, whenever it comes. A request to stop is not among it, as only
the first one shows. -/
def responseEvents (refusal : Refusal) (x : Received) : Trace :=
  c.events 0 (c.judge x) ++ c.completionEvents refusal 0 (c.judge x).completion

/-- What is made of an item later. -/
def lateEvents (refusal : Refusal) (x : Received) : Trace :=
  (c.judge x).completion.deferred?.toList.flatMap fun r ↦
    c.replyEvents refusal 0 (.success r r.body)

/-- The events of a verdict depend on its number only by that number. -/
theorem unnumbered_events (n m : Nat) (v : Verdict) :
    (c.events n v).map Event.unnumbered = (c.events m v).map Event.unnumbered := by
  cases v with
  | accepted handler r =>
    rw [events, events, List.map_append, List.map_append]
    rfl
  | _ => rfl

/-- The events of a completion depend on its number only by that number. -/
theorem unnumbered_completionEvents (refusal : Refusal) (n m : Nat) (completion : Completion) :
    (c.completionEvents refusal n completion).map Event.unnumbered =
      (c.completionEvents refusal m completion).map Event.unnumbered := by
  cases completion <;> rfl

end Channel

namespace Bench

variable {peer : Route}

/-- A peer sees of a dispatch the events of the response to it. -/
theorem seenBy_dispatchEvents (b : Bench) (x : Received) :
    Trace.seenBy peer (b.dispatchEvents x) =
      Trace.seenBy peer (b.channel.responseEvents b.refusal x) := by
  have hstop : Trace.seenBy peer (b.stopEvents (b.judge x).stops) = [] := by
    rw [stopEvents]
    split <;> rfl
  rw [dispatchEvents, Channel.responseEvents, Trace.seenBy_append, Trace.seenBy_append, hstop,
    List.append_nil, Trace.seenBy_append,
    Trace.seenBy_congr (b.channel.unnumbered_events b.dispatcher.arrivals 0 (b.judge x)),
    Trace.seenBy_congr (b.channel.unnumbered_completionEvents b.refusal b.dispatcher.arrivals 0
      (b.judge x).completion)]
  rfl

/-- To dispatch an item puts off what is made of it later, behind what was put off before. -/
theorem flushEvents_dispatch (b : Bench) (x : Received) :
    ∃ late, (b.dispatch x).flushEvents = b.flushEvents ++ late ∧
      late.map Event.unnumbered = (b.channel.lateEvents b.refusal x).map Event.unnumbered ∧
      ∀ e ∈ late, e.IsFrom b.dispatcher.arrivals x.peer := by
  set v := b.judge x with hv
  set ticket? := v.completion.deferred?.map (b.channel.ticket b.dispatcher.arrivals) with hticket
  have hdeferred : (b.dispatch x).deferred = b.deferred ++ ticket?.toList := by
    show (Bench.complete _ b.dispatcher.arrivals v.completion).deferred = _
    rw [deferred_complete _ ⟨b.dispatcher.arrivals, none, v.completion⟩, channel_heed, heed_eq]
    rfl
  refine ⟨ticket?.toList.flatMap fun t ↦
    b.channel.replyEvents b.refusal t.number (.success t.request t.request.body), ?_, ?_, ?_⟩
  · rw [flushEvents, hdeferred, channel_dispatch, refusal_dispatch, List.flatMap_append]
    rfl
  · rw [Channel.lateEvents]
    show _ = (v.completion.deferred?.toList.flatMap _).map _
    rw [hticket]
    rcases v.completion.deferred? with - | r
    · rfl
    · simp [Channel.ticket, Channel.replyEvents, Event.unnumbered]
  · intro e he
    obtain ⟨t, ht, he⟩ := List.mem_flatMap.1 he
    obtain ⟨r, hr, rfl⟩ := Option.map_eq_some_iff.1 (Option.mem_toList.1 ht)
    have hpeer : r.route = x.peer := by
      have hfor := v.isFor_completion
      rw [hv, show (b.judge x).route = x.peer from b.channel.route_judge x, ← hv] at hfor
      cases hcompletion : v.completion with
      | deferred r' =>
        rw [hcompletion] at hr hfor
        cases hr
        exact hfor
      | _ =>
        rw [hcompletion] at hr
        cases hr
    exact hpeer ▸ b.channel.isFrom_replyEvents he

/-! ### What a history comes to for a peer -/

/-- **A peer sees what its own messages contribute**, in their order, and nothing else. -/
theorem seenBy_run (b : Bench) (xs : List Received) :
    Trace.seenBy peer (b.run (xs.map .receive)).trace = Trace.seenBy peer b.trace ++
      (xs.filter (·.peer = peer)).flatMap fun x ↦
        Trace.seenBy peer (b.channel.responseEvents b.refusal x) := by
  -- of the bench only the channel and the refusal matter for what comes, and they stay
  induction xs generalizing b with
  | nil => exact (List.append_nil _).symm
  | cons x rest ih =>
    show Trace.seenBy peer ((b.dispatch x).run _).trace = _
    rw [ih, trace_dispatch, Trace.seenBy_append, channel_dispatch, refusal_dispatch,
      List.append_assoc]
    by_cases hpeer : x.peer = peer
    · rw [List.filter_cons, if_pos (decide_eq_true hpeer), List.flatMap_cons, seenBy_dispatchEvents]
    · have hnone := Trace.seenBy_eq_nil (fun e he ↦ b.isFrom_dispatchEvents x he) hpeer
      rw [List.filter_cons, if_neg (by simpa using hpeer), hnone, List.nil_append]

/-- Of what was put off, too, each peer gets its own in the order of its messages. -/
theorem seenBy_flushEvents_run (b : Bench) (xs : List Received) :
    Trace.seenBy peer (b.run (xs.map .receive)).flushEvents = Trace.seenBy peer b.flushEvents ++
      (xs.filter (·.peer = peer)).flatMap fun x ↦
        Trace.seenBy peer (b.channel.lateEvents b.refusal x) := by
  induction xs generalizing b with
  | nil => exact (List.append_nil _).symm
  | cons x rest ih =>
    obtain ⟨late, hflush, hlate, hfrom⟩ := b.flushEvents_dispatch x
    show Trace.seenBy peer ((b.dispatch x).run _).flushEvents = _
    rw [ih, hflush, Trace.seenBy_append, channel_dispatch, refusal_dispatch, List.append_assoc]
    by_cases hpeer : x.peer = peer
    · rw [List.filter_cons, if_pos (decide_eq_true hpeer), List.flatMap_cons,
        Trace.seenBy_congr hlate]
    · rw [List.filter_cons, if_neg (by simpa using hpeer), Trace.seenBy_eq_nil hfrom hpeer,
        List.nil_append]

/-- **Peers do not disturb each other.** Two histories of a dispatcher, on any channel and whatever
its transport says to replies, in which a peer has sent the same messages in the same order: the
handlers are given the same requests of that peer and the same replies are sent to it, in the same
order, whatever else was received, how often and when. So it is for replies that were put off. A
message that cannot be read is from nobody, that is, from the peer without a name. -/
theorem peers_do_not_interfere (c : Channel) (refusal : Refusal) (peer : Route)
    (xs ys : List Received) (h : xs.filter (·.peer = peer) = ys.filter (·.peer = peer)) :
    let b := (fresh c refusal).run (xs.map .receive)
    let b' := (fresh c refusal).run (ys.map .receive)
    Trace.seenBy peer b.trace = Trace.seenBy peer b'.trace ∧
      Trace.seenBy peer b.flush.trace = Trace.seenBy peer b'.flush.trace := by
  intro b b'
  have htrace : Trace.seenBy peer b.trace = Trace.seenBy peer b'.trace := by
    rw [seenBy_run, seenBy_run, h]
  have hflush : Trace.seenBy peer b.flushEvents = Trace.seenBy peer b'.flushEvents := by
    rw [seenBy_flushEvents_run, seenBy_flushEvents_run, h]
  refine ⟨htrace, ?_⟩
  rw [trace_flush, trace_flush, Trace.seenBy_append, Trace.seenBy_append, htrace, hflush]

end Bench

/-- A channel that answers a ping at once and a wait later. -/
def Channel.patient : Channel where
  security := .unsecured
  registry := .ofBehaviours false [("ping", .echo), ("wait", .later)]

/-- What one peer sends: a wait, and then a ping. -/
def Bench.patience : List Received :=
  [.message (.query [1] "wait" 7 []),
    .message (.query [1] "ping" 8 [])]

/-- The same, among what other peers send and what cannot be read. -/
def Bench.crowd : List Received :=
  [.message (.query [2] "ping" 7 []), .fault .wouldBlock,
    .message (.query [1] "wait" 7 []), .message [[2]], .message [[2], [1]],
    .message (.query [1] "ping" 8 []), .message []]

theorem Bench.peers_do_not_interfere_crowd :
    let own := ((fresh .patient none).run (patience.map .receive)).flush.trace
    let all := ((fresh .patient none).run (crowd.map .receive)).flush.trace
    Trace.seenBy ⟨[1]⟩ own = Trace.seenBy ⟨[1]⟩ all ∧ (Trace.seenBy ⟨[1]⟩ own).length = 4 ∧
      all.length = 14 := by
  intro own all
  obtain ⟨-, hflush⟩ := peers_do_not_interfere .patient none ⟨[1]⟩ patience crowd (by decide)
  exact ⟨hflush, by decide, by decide⟩

end QueryDispatch
