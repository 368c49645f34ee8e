import QueryDispatch.Proofs.Dispatch
import QueryDispatch.Proofs.Session.Rest

/-!
# Traffic between a service and its worker

Messages go from a service through a bounded queue to the worker, and replies through another one
back. Both ends are followed here on their own: what a service gets accepted (`deliver_eq`) and
collects (`drain_eq`), and what the worker does about the messages queued for it
(`Linked.advances_eq`).

Where handlers answer at once or not at all, all of this changes three things of a session: the two
queues of the link, what the worker has counted, and the trace. `midway` is a session with these
three replaced, so each lemma is an equation between sessions, and says that nothing else changes.
-/

namespace QueryDispatch

/-! ### Handlers that answer at once or not at all -/

/-- The handler sends its reply at once, or never, and asks for nothing else. -/
def Behaviour.isImmediate : Behaviour → Bool
  | .echo | .body _ | .failure _ | .notFound | .silent => true
  | .park | .later | .stop | .stopEcho | .panic => false

/-- The handler answers at once or not at all, and asks for nothing else. The node always does. -/
def Handler.isImmediate : Handler Binding → Bool
  | .node _ => true
  | .custom b => b.behaviour.isImmediate

/-- A handler that answers at once stops nothing. -/
theorem Handler.stops_of_isImmediate {handler : Handler Binding}
    (h : handler.isImmediate = true) : handler.stops = false := by
  rcases handler with m | ⟨number, behaviour⟩
  · rfl
  · cases behaviour with
    | echo | body | failure | notFound | silent => rfl
    | _ => cases h

/-- The status and the body that a handler which answers at once answers a request with, if it
answers it. -/
def Handler.due? (handler : Handler Binding) (r : Request) : Option (Status × Bytes) :=
  match handler with
  | .node m => some (.success, Wire.utf8 m.label)
  | .custom b =>
    match b.behaviour with
    | .echo => some (.success, r.body)
    | .body bytes => some (.success, bytes)
    | .failure code => (FailureCode.ofCode? code).map fun c ↦ (.failure c, [])
    | .notFound => some (.notFound, [])
    | .silent | .park | .later | .stop | .stopEcho | .panic => none

/-- Such a handler sends what is due, back to where the request came from, and nothing else. -/
theorem Handler.completion_of_isImmediate {handler : Handler Binding}
    (h : handler.isImmediate = true) (r : Request) :
    handler.completion r =
      match handler.due? r with
      | none => .dropped
      | some (status, body) => .answered ⟨r.route, r.command, r.id, status, body⟩ := by
  rcases handler with m | ⟨number, behaviour⟩
  · rfl
  · cases behaviour with
    | echo | body | notFound | silent => rfl
    | failure code =>
      simp only [completion, Behaviour.completion, due?]
      rcases FailureCode.ofCode? code with - | c
      · rfl
      · rfl
    | _ => cases h

namespace Channel

variable (c : Channel)

/-- **The one reply a message is due**, if it is due one, with all that it says: the message could
not be read, or nobody handles its command, or what the handler of its command answers. It goes back
to where the message came from, as far as that can be told. -/
def expectedReply (frames : Frames) : Option Response :=
  match Request.decode c.security frames with
  | .error m => some ⟨m.route, m.command, m.id, .badStream, []⟩
  | .ok r =>
    let due : Option (Status × Bytes) :=
      match c.registry.get? r.command with
      | none => some (.notFound, [])
      | some handler => handler.due? r
    due.map fun (status, body) ↦ ⟨r.route, r.command, r.id, status, body⟩

/-- What happens on each of some messages before its reply, the first of them being message
`number`. -/
def intake (number : Nat) (messages : List Frames) : Trace :=
  (messages.zipIdx number).flatMap fun (frames, n) ↦ c.events n (c.judge (.message frames))

/-- The replies some messages are due. -/
def expectedReplies (messages : List Frames) : List Frames :=
  messages.filterMap fun frames ↦ (c.expectedReply frames).map Response.encode

/-- The replies to expect come message by message. -/
theorem expectedReplies_cons (frames : Frames) (rest : List Frames) :
    c.expectedReplies (frames :: rest) = c.expectedReplies [frames] ++ c.expectedReplies rest :=
  List.filterMap_append (l := [frames])

/-- There is at most one reply to expect for each message. -/
theorem length_expectedReplies_le (messages : List Frames) :
    (c.expectedReplies messages).length ≤ messages.length := List.length_filterMap_le ..

/-- The intake of messages comes message by message. -/
theorem intake_cons (number : Nat) (frames : Frames) (rest : List Frames) :
    c.intake number (frames :: rest) = c.intake number [frames] ++ c.intake (number + 1) rest := by
  simp [intake]

variable {c}

/-- Only an error can say that the session is over. -/
theorem judge_message_ne_stopped (c : Channel) (frames : Frames) :
    c.judge (.message frames) ≠ .stopped := by
  rw [judge]
  split
  · exact Verdict.noConfusion
  · split <;> exact Verdict.noConfusion

/-- Nothing but the expected reply comes of a message. -/
theorem judge_message (hc : c.registry.All fun handler ↦ handler.isImmediate = true)
    (frames : Frames) :
    (c.judge (.message frames)).stops = false ∧
      (c.judge (.message frames)).completion =
        match c.expectedReply frames with
        | none => .dropped
        | some response => .answered response := by
  have hjudge : c.judge (.message frames) =
      match Request.decode c.security frames with
      | .error m => .rejected m
      | .ok r =>
        match c.registry.get? r.command with
        | none => .unknown r
        | some handler => .accepted handler r := rfl
  rw [hjudge, expectedReply]
  rcases Request.decode c.security frames with m | r
  · exact ⟨rfl, rfl⟩
  · dsimp only
    rcases hget : c.registry.get? r.command with - | handler
    · exact ⟨rfl, rfl⟩
    · have himmediate := hc r.command handler hget
      refine ⟨Handler.stops_of_isImmediate himmediate, ?_⟩
      refine (Handler.completion_of_isImmediate himmediate r).trans ?_
      dsimp only
      rcases handler.due? r with - | ⟨status, body⟩
      · rfl
      · rfl

end Channel

/-- The dispatcher after a message, whose reply, if it is due one, the transport takes. -/
def Dispatcher.digest (d : Dispatcher) (frames : Frames) : Dispatcher :=
  let absorbed := d.absorb (d.channel.judge (.message frames))
  if (d.channel.expectedReply frames).isSome then absorbed.settle none else absorbed

/-- To digest a message leaves the channel. -/
theorem Dispatcher.channel_digest (d : Dispatcher) (frames : Frames) :
    (d.digest frames).channel = d.channel := by
  rw [digest]
  split <;> rfl

/-- Every message digested is an arrival. -/
theorem Dispatcher.arrivals_digest (d : Dispatcher) (frames : Frames) :
    (d.digest frames).arrivals = d.arrivals + 1 := by
  rw [digest]
  split <;> rfl

/-- A message is counted as received, whatever is in it. -/
theorem Dispatcher.received_digest (d : Dispatcher) (frames : Frames) :
    (d.digest frames).tally.received = d.tally.received + 1 := by
  have habsorb : (d.absorb (d.channel.judge (.message frames))).tally.received =
      d.tally.received + 1 := by
    show (d.tally.count (d.channel.judge (.message frames)).outcome).received = _
    rcases hjudge : d.channel.judge (.message frames) with - | m | r | ⟨handler, r⟩
    · exact absurd hjudge (d.channel.judge_message_ne_stopped frames)
    all_goals rfl
  rw [digest]
  split
  · exact (Tally.received_settle _ none).trans habsorb
  · exact habsorb

theorem Dispatcher.channel_foldl_digest (d : Dispatcher) (messages : List Frames) :
    (messages.foldl digest d).channel = d.channel := by
  induction messages generalizing d with
  | nil => rfl
  | cons frames rest ih => rw [List.foldl_cons, ih, channel_digest]

/-- Every message digested is counted as received. -/
theorem Dispatcher.received_foldl_digest (d : Dispatcher) (messages : List Frames) :
    (messages.foldl digest d).tally.received = d.tally.received + .ofNat messages.length := by
  induction messages generalizing d with
  | nil => exact (UInt64.add_zero _).symm
  | cons frames rest ih =>
    rw [List.foldl_cons, ih, received_digest, List.length_cons, Nat.add_comm, UInt64.ofNat_add,
      UInt64.add_assoc]
    rfl

/-! ### Changing one link -/

namespace Hub

variable {h : Hub} {k : Nat} {l : Link}

/-- An update of a link depends on what it does to that link only. -/
theorem updateLink_congr {f g : Link → Link} (hl : h.links[k]? = some l) (hfg : f l = g l) :
    h.updateLink k f = h.updateLink k g := by
  rw [updateLink, updateLink, modify_congr hl hfg]

/-- An update that leaves its link leaves the hub. -/
theorem updateLink_of_eq {f : Link → Link} (hl : h.links[k]? = some l) (hf : f l = l) :
    h.updateLink k f = h := by
  rw [updateLink, modify_of_eq hl hf]

/-- Two updates of a link are one. -/
theorem updateLink_updateLink (h : Hub) (k : Nat) (f g : Link → Link) :
    (h.updateLink k f).updateLink k g = h.updateLink k (g ∘ f) := by
  rw [updateLink, updateLink, updateLink, List.modify_modify_eq]

end Hub

namespace Session

/-! ### What a service sends and collects -/

/-- **A service gets accepted what fits.** The messages after that are told that the queue is full,
and are not queued. -/
theorem deliver_eq {hub : Hub} {k : Nat} {l : Link} (messages : List Frames)
    (hl : hub.links[k]? = some l) (hreceiver : hub.hasReceiver k l = true) :
    deliver hub k messages =
      (List.replicate (min messages.length (l.capacity - l.requests.length)) .accepted ++
        List.replicate (messages.length - (l.capacity - l.requests.length)) .full,
      hub.updateLink k fun l' ↦
        { l' with requests := l'.requests ++ messages.take (l.capacity - l.requests.length) }) := by
  induction messages generalizing hub l with
  | nil =>
    rw [deliver, Hub.updateLink_of_eq hl (by rw [List.take_nil, List.append_nil])]
    simp
  | cons frames rest ih =>
    by_cases hfull : l.capacity ≤ l.requests.length
    · -- nothing fits any more, this message or a later one
      have hfirst : hub.deliver k frames = (.full, hub) := by
        rw [Hub.deliver, hl]
        simp [hreceiver, hfull]
      rw [deliver, hfirst]
      dsimp only
      rw [ih hl hreceiver, Nat.sub_eq_zero_of_le hfull]
      simp [List.replicate_succ]
    · have hfirst : hub.deliver k frames =
          (.accepted, hub.updateLink k fun l ↦ { l with requests := l.requests ++ [frames] }) := by
        rw [Hub.deliver, hl]
        simp [hreceiver, hfull]
      set longer : Link := { l with requests := l.requests ++ [frames] } with hlonger
      have hl' : (hub.updateLink k fun l ↦
          { l with requests := l.requests ++ [frames] }).links[k]? = some longer := by
        rw [Hub.getElem?_updateLink, hl, Option.map_some, if_pos rfl]
      obtain ⟨room, hroom⟩ : ∃ room, l.capacity - l.requests.length = room + 1 :=
        Nat.exists_eq_add_one.2 (Nat.sub_pos_of_lt (Nat.lt_of_not_le hfull))
      have hroom' : longer.capacity - longer.requests.length = room := by
        rw [hlonger]
        simp only [List.length_append, List.length_singleton]
        omega
      rw [deliver, hfirst]
      dsimp only
      rw [ih hl' hreceiver, hroom', hroom, Hub.updateLink_updateLink]
      refine Prod.ext ?_ (Hub.updateLink_congr hl ?_)
      · show Hub.Delivery.accepted :: _ = _
        rw [List.length_cons, Nat.add_min_add_right, Nat.add_sub_add_right, List.replicate_succ]
        rfl
      · simp [List.take_succ_cons]

/-- To drain a link of all its replies gives them in order and leaves none. -/
theorem drain_eq {hub : Hub} {k : Nat} {l : Link} {replies : List Frames}
    (hl : hub.links[k]? = some l) (hr : l.replies = replies) :
    drain hub k replies.length =
      (replies, hub.updateLink k fun l ↦ { l with replies := [] }) := by
  induction replies generalizing hub l with
  | nil => rw [List.length_nil, drain, Hub.updateLink_of_eq hl (by rw [← hr])]
  | cons frames rest ih =>
    have hfirst : hub.collect k =
        (.message frames, hub.updateLink k fun l ↦ { l with replies := rest }) := by
      rw [Hub.collect, hl]
      simp only [hr]
    have hl' : (hub.updateLink k fun l ↦ { l with replies := rest }).links[k]? =
        some { l with replies := rest } := by
      rw [Hub.getElem?_updateLink, hl, Option.map_some, if_pos rfl]
    rw [List.length_cons, drain, hfirst]
    dsimp only
    rw [ih hl' rfl, Hub.updateLink_updateLink]
    rfl

/-! ### What a worker does about its messages -/

/-- The session with these in the queues of link `k`, with this counted by worker `w`, and with more
events. -/
def midway (s : Session) (w k : Nat) (requests replies : List Frames) (d : Dispatcher)
    (events : Trace) : Session :=
  { s with
    hub := s.hub.updateLink k fun l ↦ { l with requests, replies }
    workers := s.workers.modify w fun m ↦ { m with dispatcher := d }
    trace := s.trace ++ events }

/-- Worker `w` serves, and the link `k` that its dealer is connected to has a live service. -/
structure Linked (s : Session) (w k : Nat) (m : Member) (l : Link) : Prop where
  worker : s.workers[w]? = some m
  link : s.hub.links[k]? = some l
  running : m.stage = .running
  going : m.stopRequested = false
  exit : m.exit = none
  served : l.served = true
  taker : l.taker = some m.dealer
  dealer : ∃ dealer, s.hub.dealers[m.dealer]? = some dealer ∧ dealer.pending = none ∧
    dealer.inbound = some k ∧ dealer.phase = .connected k

variable {s : Session} {w k : Nat} {m : Member} {l : Link}

/-- What comes later on the way takes the place of what came before, and the events add up. -/
theorem midway_midway (s : Session) (w k : Nat) (requests replies requests' replies' : List Frames)
    (d d' : Dispatcher) (events events' : Trace) :
    (s.midway w k requests replies d events).midway w k requests' replies' d' events' =
      s.midway w k requests' replies' d' (events ++ events') := by
  simp only [midway, Hub.updateLink_updateLink, List.modify_modify_eq, List.append_assoc]
  rfl

namespace Linked

variable (h : s.Linked w k m l)

include h

/-- On the way the worker and its link stay together. -/
theorem midway (requests replies : List Frames) (d : Dispatcher) (events : Trace) :
    (s.midway w k requests replies d events).Linked w k { m with dispatcher := d }
      { l with requests, replies } where
  worker := by
    show (s.workers.modify w _)[w]? = _
    rw [List.getElem?_modify_eq, h.worker]
    rfl
  link := by
    show (s.hub.updateLink k _).links[k]? = _
    rw [Hub.getElem?_updateLink, h.link, Option.map_some, if_pos rfl]
  running := h.running
  going := h.going
  exit := h.exit
  served := h.served
  taker := h.taker
  dealer := h.dealer

/-- At the start of the way is the session itself. -/
theorem midway_self : s.midway w k l.requests l.replies m.dispatcher [] = s := by
  rw [Session.midway, Hub.updateLink_of_eq h.link rfl, modify_of_eq h.worker rfl, List.append_nil]

/-- A change of the queues of the link. -/
theorem onHub_eq {f : Link → Link} {requests replies : List Frames}
    (hf : f l = { l with requests, replies }) :
    s.onHub (s.hub.updateLink k f) = s.midway w k requests replies m.dispatcher [] := by
  have hhub : s.hub.updateLink k f = s.hub.updateLink k fun l ↦ { l with requests, replies } :=
    Hub.updateLink_congr h.link hf
  rw [Session.midway, hhub, modify_of_eq h.worker rfl, List.append_nil]
  rfl

/-- A worker whose link holds no request is at rest. -/
theorem rests (hr : l.requests = []) : s.Rests w := by
  obtain ⟨dealer, hd, hp, hk, -⟩ := h.dealer
  refine rests_of_getElem? h.worker fun _ ↦ ⟨?_, fun _ ↦ ⟨h.going, ?_⟩⟩
  · rw [h.running]
    exact Stage.noConfusion
  · exact ⟨dealer, k, l, hd, hp, hk, h.link, hr, h.served⟩

/-- A reply goes into the queue of the link if it fits, and the transport says that all is well. -/
theorem send (frames : Frames) (hroom : l.replies.length < l.capacity) :
    s.hub.send m.dealer frames =
      (none, s.hub.updateLink k fun l ↦ { l with replies := l.replies ++ [frames] }) := by
  obtain ⟨dealer, hd, -, -, hphase⟩ := h.dealer
  rw [Hub.send, hd]
  simp only [hphase]
  have hhas : l.hasRoom = true := by
    rw [Link.hasRoom, h.served, Bool.true_and]
    exact decide_eq_true hroom
  exact congrArg (Prod.mk none) (Hub.updateLink_congr h.link (by rw [if_pos hhas]))

/-- A reply for which there is room is put on the link. -/
theorem reply_eq (response : Response) (hroom : l.replies.length < l.capacity) :
    s.reply w response =
      s.midway w k l.requests (l.replies ++ [response.encode]) (m.dispatcher.settle none) [] := by
  have hhub : s.hub.updateLink k (fun l ↦ { l with replies := l.replies ++ [response.encode] }) =
      s.hub.updateLink k fun l' ↦
        { l' with requests := l.requests, replies := l.replies ++ [response.encode] } :=
    Hub.updateLink_congr h.link rfl
  have hworkers : s.workers.modify w
        (fun m' ↦ { m' with dispatcher := m'.dispatcher.settle none }) =
      s.workers.modify w fun m' ↦ { m' with dispatcher := m.dispatcher.settle none } :=
    modify_congr h.worker rfl
  rw [reply, h.worker]
  dsimp only
  rw [h.send response.encode hroom]
  show { s with
    hub := s.hub.updateLink k _
    workers := s.workers.modify w fun m' ↦ { m' with dispatcher := m'.dispatcher.settle none }
    trace := s.trace ++ [] } = s.midway w k _ _ _ _
  rw [hhub, hworkers]
  rfl

/-- A dispatch, where the handlers answer at once or not at all, queues the expected reply. -/
theorem dispatch_eq (hc : m.dispatcher.channel.registry.All fun handler ↦
      handler.isImmediate = true) (frames : Frames) (hroom : l.replies.length < l.capacity) :
    s.dispatch w m (.message frames) =
      s.midway w k l.requests
        (l.replies ++ m.dispatcher.channel.expectedReplies [frames])
        (m.dispatcher.digest frames)
        (m.dispatcher.channel.intake m.dispatcher.arrivals [frames]) := by
  obtain ⟨hstops, hcompletion⟩ := Channel.judge_message hc frames
  set c := m.dispatcher.channel with hchannel
  set v := c.judge (.message frames) with hv
  set events := c.events m.dispatcher.arrivals v with hevents
  have hintake : c.intake m.dispatcher.arrivals [frames] = events := List.append_nil _
  -- up to the reply, the worker counts the message and leaves its marks
  have habsorb : s.absorb w m v =
      s.midway w k l.requests l.replies (m.dispatcher.absorb v) events := by
    have hworkers : s.workers.modify w
          (fun m' ↦ { m' with dispatcher := m'.dispatcher.absorb v }) =
        s.workers.modify w fun m' ↦ { m' with dispatcher := m.dispatcher.absorb v } :=
      modify_congr h.worker rfl
    rw [Session.midway, Hub.updateLink_of_eq h.link rfl, ← hworkers]
    rfl
  have hlinked := h.midway l.requests l.replies (m.dispatcher.absorb v) events
  show ((s.absorb w m v).heed v.stops).complete w m.dispatcher.arrivals m.security v.completion = _
  rw [hstops, hcompletion, habsorb, hintake]
  show (s.midway w k l.requests l.replies (m.dispatcher.absorb v) events).complete w _ _ _ = _
  rcases hreply : c.expectedReply frames with - | response
  · have hdigest : m.dispatcher.digest frames = m.dispatcher.absorb v := by
      rw [Dispatcher.digest, ← hchannel, hreply]
      rfl
    have hnone : c.expectedReplies [frames] = [] := by
      rw [Channel.expectedReplies, List.filterMap_cons, hreply]
      rfl
    rw [hdigest, hnone, List.append_nil]
    rfl
  · have hdigest : m.dispatcher.digest frames = (m.dispatcher.absorb v).settle none := by
      rw [Dispatcher.digest, ← hchannel, hreply]
      rfl
    have hsome : c.expectedReplies [frames] = [response.encode] := by
      rw [Channel.expectedReplies, List.filterMap_cons, hreply]
      rfl
    rw [hdigest, hsome]
    show (s.midway w k l.requests l.replies (m.dispatcher.absorb v) events).reply w response = _
    rw [hlinked.reply_eq response hroom, midway_midway, List.append_nil]

/-- **A move of the worker**: it takes the first message off the queue and dispatches it. -/
theorem advance_eq (hc : m.dispatcher.channel.registry.All fun handler ↦
      handler.isImmediate = true) {frames : Frames} {rest : List Frames}
    (hr : l.requests = frames :: rest) (hroom : l.replies.length < l.capacity) :
    s.advance w =
      s.midway w k rest
        (l.replies ++ m.dispatcher.channel.expectedReplies [frames])
        (m.dispatcher.digest frames)
        (m.dispatcher.channel.intake m.dispatcher.arrivals [frames]) := by
  obtain ⟨dealer, hd, hp, hk, -⟩ := h.dealer
  have hready : (s.hub.poll m.dealer).1 = .ready := by
    rw [Hub.poll_of_requests hd hp hk h.link hr]
  have hreceive := Hub.receive_poll_of_requests hd hp hk h.link hr
  have hmessage : ((s.onHub (s.hub.poll m.dealer).2).hub.receive m.dealer).1 = .message frames :=
    congrArg Prod.fst hreceive
  have hserve : s.advance w = s.serve w m := by
    rw [advance, h.worker]
    simp only [h.exit, h.running, h.going, Option.isSome_none, Bool.false_eq_true, if_false]
  -- the message is off the queue, and nothing else has changed
  have htaken : s.onHub (s.hub.updateLink k fun l ↦ { l with requests := rest }) =
      s.midway w k rest l.replies m.dispatcher [] := h.onHub_eq rfl
  rw [hserve, serve_of_ready hready, receive_of_message hmessage]
  show (s.onHub ((s.hub.poll m.dealer).2.receive m.dealer).2).dispatch w m (.message frames) = _
  rw [hreceive, htaken]
  have hdispatch := (h.midway rest l.replies m.dispatcher []).dispatch_eq hc frames hroom
  rw [midway_midway, List.nil_append] at hdispatch
  exact hdispatch

end Linked

/-- **The moves of the worker**: it dispatches all that is queued for it, in order. -/
theorem Linked.advances_eq (h : s.Linked w k m l) (hc : m.dispatcher.channel.registry.All
      fun handler ↦ handler.isImmediate = true) {messages : List Frames}
    (hr : l.requests = messages) (hroom : l.replies.length + messages.length ≤ l.capacity) :
    s.advances w messages.length =
      s.midway w k [] (l.replies ++ m.dispatcher.channel.expectedReplies messages)
        (messages.foldl Dispatcher.digest m.dispatcher)
        (m.dispatcher.channel.intake m.dispatcher.arrivals messages) := by
  induction messages generalizing s m l with
  | nil =>
    have hself := h.midway_self
    rw [hr] at hself
    rw [Channel.expectedReplies, List.filterMap_nil, List.append_nil]
    exact hself.symm
  | cons frames rest ih =>
    rw [List.length_cons] at hroom
    set d := m.dispatcher with hd
    have hchannel : (d.digest frames).channel = d.channel := d.channel_digest frames
    have hadvance := h.advance_eq hc hr (by omega)
    rw [← hd] at hadvance
    have hlinked := h.midway rest (l.replies ++ d.channel.expectedReplies [frames])
      (d.digest frames) (d.channel.intake d.arrivals [frames])
    -- a message is due one reply at most, so the replies to the rest still fit
    have hone := d.channel.length_expectedReplies_le [frames]
    have hroom' : (l.replies ++ d.channel.expectedReplies [frames]).length + rest.length ≤
        l.capacity := by
      rw [List.length_append]
      simp only [List.length_singleton] at hone
      omega
    have hrest := ih hlinked (by rw [hchannel]; exact hc) rfl hroom'
    rw [List.length_cons, advances, hadvance, hrest, midway_midway]
    dsimp only
    rw [hchannel, d.arrivals_digest, d.channel.expectedReplies_cons frames rest,
      d.channel.intake_cons d.arrivals frames rest, List.append_assoc]
    rfl

/-- **The turn of the worker.** -/
theorem Linked.turn_eq (h : s.Linked w k m l) (hc : m.dispatcher.channel.registry.All
      fun handler ↦ handler.isImmediate = true)
    (hroom : l.replies.length + l.requests.length ≤ l.capacity) :
    s.turn w =
      s.midway w k [] (l.replies ++ m.dispatcher.channel.expectedReplies l.requests)
        (l.requests.foldl Dispatcher.digest m.dispatcher)
        (m.dispatcher.channel.intake m.dispatcher.arrivals l.requests) := by
  have hadvances := h.advances_eq hc rfl hroom
  have hrests : (s.advances w l.requests.length).Rests w := by
    rw [hadvances]
    exact (h.midway _ _ _ _).rests rfl
  have hturn : s.turn w = s.advances w ((s.advance w).backlog w + 1 + 1) := rfl
  have hturned := s.rests_turn w
  rw [hturn] at hturned
  rw [hturn, advances_eq_of_rests hturned hrests, hadvances]

end Session

end QueryDispatch
