import QueryDispatch.Proofs.Session.Traffic

/-!
# Rounds of messages and replies

In a round a service sends messages, the worker runs until it has to wait, and the service takes the
replies. Where handlers answer at once or not at all, a round has an exact account
(`rounds_exactly_once`): as many messages as the queue holds are accepted; the worker dispatches
these, in order; and the replies taken are the ones these messages are due, in order.

The account can be given of any round in any session that can come about, because a round leaves the
session as it found it, but for what the worker has counted and for the trace: both queues are
empty again, and everyone else has rested all along.
-/

namespace QueryDispatch.Session

variable {settings : Settings} {registry : Registry (Handler Binding)} {s : Session} {name : String}
  {w v k : Nat} {m : Member} {l : Link}

/-! ### When only one worker has something to do -/

/-- Where only one worker has something to do, a round of turns is its turn. -/
theorem turns_eq_turn (hw : w < s.workers.length) (hothers : ∀ v, v ≠ w → s.Rests v)
    (hafter : ∀ v, (s.turn w).Rests v) : s.turns = s.turn w := by
  have hfoldl : ∀ n, (List.range n).foldl turn s = if w < n then s.turn w else s := by
    intro n
    induction n with
    | zero => rfl
    | succ n ih =>
      rw [List.range_succ, List.foldl_append, ih, List.foldl_cons, List.foldl_nil]
      rcases Nat.lt_trichotomy w n with hlt | rfl | hgt
      · rw [if_pos hlt, if_pos (Nat.lt_succ_of_lt hlt), turn_of_rests (hafter n)]
      · rw [if_neg (Nat.lt_irrefl w), if_pos (Nat.lt_succ_self w)]
      · rw [if_neg (Nat.not_lt_of_gt hgt), if_neg (Nat.not_lt_of_ge hgt),
          turn_of_rests (hothers n (Nat.ne_of_lt hgt))]
  rw [turns, hfoldl, if_pos hw]

/-- Where all rest, a round of turns changes nothing. -/
theorem turns_of_rests (h : ∀ v, s.Rests v) : s.turns = s := by
  have hfoldl : ∀ n, (List.range n).foldl turn s = s := by
    intro n
    induction n with
    | zero => rfl
    | succ n ih =>
      rw [List.range_succ, List.foldl_append, ih]
      exact turn_of_rests (h n)
  exact hfoldl s.workers.length

/-- Where no ticket is deferred, a flush changes nothing. -/
theorem flush_of_deferred_eq_nil (hd : s.deferred = []) : s.flush = s := by
  obtain ⟨⟩ := s
  obtain rfl := hd
  rfl

/-- Where all rest and no ticket is deferred there is nothing to settle. -/
theorem settle_of_rests (h : ∀ v, s.Rests v) (hd : s.deferred = []) : s.settle = s := by
  rw [settle, turns_of_rests h, turns_of_rests h, flush_of_deferred_eq_nil hd]

/-- Where only one worker has something to do, the session settles with its turn. -/
theorem settle_eq_turn (hw : w < s.workers.length) (hothers : ∀ v, v ≠ w → s.Rests v)
    (hafter : ∀ v, (s.turn w).Rests v) (hd : (s.turn w).deferred = []) :
    s.settle = s.turn w := by
  rw [settle, turns_eq_turn hw hothers hafter, turns_of_rests hafter, flush_of_deferred_eq_nil hd]

/-! ### A service and its worker -/

/-- Service `name` and worker `w` serve each other over link `k`: the worker is the one that took
the link, and runs, and nothing is queued in either direction. -/
structure Paired (s : Session) (name : String) (w k : Nat) (m : Member) (l : Link) : Prop where
  service : s.services.get? name = some k
  worker : s.workers[w]? = some m
  link : s.hub.links[k]? = some l
  taker : l.taker = some m.dealer
  running : m.stage = .running
  exit : m.exit = none
  requests : l.requests = []
  replies : l.replies = []

/-- In a session at rest, the worker waits at the other end of its service's link. -/
theorem Paired.linked (h : s.Paired name w k m l) (hs : s.Sound settings registry)
    (hrests : s.Rests w) : s.Linked w k m l := by
  obtain ⟨-, hrunning⟩ := hrests m h.worker h.exit
  obtain ⟨hgoing, dealer, j, l', hd, hp, hj, hl', -, hserved⟩ := hrunning h.running
  have hphase := hs.coherent.connected_of_inbound hd hj
  -- the dealer took the link of the service, so this is the link it receives from
  obtain ⟨dealer', hd', hor⟩ := hs.coherent.connected_of_taker h.link h.taker
  rw [hd] at hd'
  obtain rfl := Option.some.inj hd'
  rw [hphase] at hor
  have hjk : j = k := by
    rcases hor with hor | hor
    · exact Phase.connected.inj hor
    · cases hor
  subst hjk
  rw [h.link] at hl'
  obtain rfl := Option.some.inj hl'
  exact ⟨h.worker, h.link, h.running, hgoing, h.exit, hserved, h.taker, dealer, hd, hp, hj, hphase⟩

/-- A worker linked to its service receives from it. -/
theorem Linked.hasReceiver (h : s.Linked w k m l) : s.hub.hasReceiver k l = true := by
  obtain ⟨dealer, hd, -, hk, -⟩ := h.dealer
  simp [Hub.hasReceiver, h.taker, hd, hk]

/-- What is queued for one worker, and what it counts, leaves every other worker at rest. -/
theorem Rests.midway (hv : s.Rests v) (hs : s.Sound settings registry) (h : s.Linked w k m l)
    (hne : v ≠ w) (requests replies : List Frames) (d : Dispatcher) (events : Trace) :
    (s.midway w k requests replies d events).Rests v := by
  intro m' hm' hexit
  have hm : s.workers[v]? = some m' := by
    rw [← hm']
    exact (List.getElem?_modify_ne _ _ hne.symm).symm
  obtain ⟨hidle, hrunning⟩ := hv m' hm hexit
  refine ⟨hidle, fun hstage ↦ ⟨(hrunning hstage).1, ?_⟩⟩
  obtain ⟨dealer, j, l', hd, hp, hj, hl', hr, hserved⟩ := (hrunning hstage).2
  -- the other worker has a dealer of its own, and so another link
  obtain ⟨l'', hl'', htaker⟩ := hs.coherent.taker_of_connected hd
    (hs.coherent.connected_of_inbound hd hj)
  have hkj : k ≠ j := by
    rintro rfl
    rw [h.link] at hl''
    obtain rfl := Option.some.inj hl''
    rw [h.taker] at htaker
    exact hs.dealer_ne hne h.worker hm (Option.some.inj htaker)
  refine ⟨dealer, j, l', hd, hp, hj, ?_, hr, hserved⟩
  show (s.hub.updateLink k _).links[j]? = _
  rw [Hub.getElem?_updateLink, hl', Option.map_some, if_neg hkj]

/-- On the way with nothing left to receive, all rest. -/
theorem Linked.rests_midway (h : s.Linked w k m l) (hs : s.Sound settings registry)
    (hrests : ∀ v, s.Rests v) (replies : List Frames) (d : Dispatcher) (events : Trace) (v : Nat) :
    (s.midway w k [] replies d events).Rests v := by
  by_cases hne : v = w
  · subst hne
    exact (h.midway [] replies d events).rests rfl
  · exact (hrests v).midway hs h hne [] replies d events

/-! ### One round -/

section Round

variable (hs : s.Sound settings registry) (hrests : ∀ v, s.Rests v) (hdeferred : s.deferred = [])
  (h : s.Paired name w k m l) (messages : List Frames)

include hs hrests h

/-- What a service gets accepted goes into the queue of its worker. -/
theorem Paired.act_send :
    s.act (.send name messages) =
      (.delivered (List.replicate (min messages.length l.capacity) .accepted ++
        List.replicate (messages.length - l.capacity) .full),
      s.midway w k (messages.take l.capacity) [] m.dispatcher []) := by
  have hlinked := h.linked hs (hrests w)
  have hdeliver := deliver_eq messages h.link hlinked.hasReceiver
  rw [h.requests, List.length_nil, Nat.sub_zero] at hdeliver
  have hqueued : s.onHub (s.hub.updateLink k fun l' ↦
        { l' with requests := l'.requests ++ messages.take l.capacity }) =
      s.midway w k (messages.take l.capacity) [] m.dispatcher [] := by
    refine hlinked.onHub_eq ?_
    rw [h.requests, List.nil_append, ← h.replies]
  rw [act, withService, h.service]
  show (((deliver s.hub k messages).map Answer.delivered id).1,
    s.onHub ((deliver s.hub k messages).map Answer.delivered id).2) = _
  rw [hdeliver]
  exact congrArg (Prod.mk _) hqueued

include hdeferred

/-- **The worker answers what its service got accepted.** -/
theorem Paired.step_send
    (himmediate : registry.All fun handler ↦ handler.isImmediate = true) :
    s.step (.send name messages) =
      s.midway w k []
        (m.dispatcher.channel.expectedReplies (messages.take l.capacity))
        ((messages.take l.capacity).foldl Dispatcher.digest m.dispatcher)
        (m.dispatcher.channel.intake m.dispatcher.arrivals (messages.take l.capacity)) := by
  have hlinked := h.linked hs (hrests w)
  have hc : m.dispatcher.channel.registry.All fun handler ↦ handler.isImmediate = true := by
    rw [hs.channel_eq h.worker]
    exact himmediate
  set accepted := messages.take l.capacity with haccepted
  -- what has been sent, before anyone runs
  set queued := s.midway w k accepted [] m.dispatcher [] with hqueued
  have hqueued' := hlinked.midway accepted [] m.dispatcher []
  have hturn : queued.turn w = s.midway w k []
      (m.dispatcher.channel.expectedReplies accepted)
      (accepted.foldl Dispatcher.digest m.dispatcher)
      (m.dispatcher.channel.intake m.dispatcher.arrivals accepted) := by
    -- both queues hold as much, so there is room for the reply to each accepted message
    have hroom : ([] : List Frames).length + accepted.length ≤ l.capacity := by
      rw [List.length_nil, Nat.zero_add, haccepted]
      exact List.length_take_le _ _
    rw [hqueued'.turn_eq hc hroom, midway_midway]
    rfl
  have hw : w < queued.workers.length := (List.getElem?_eq_some_iff.1 hqueued'.worker).1
  rw [step, h.act_send hs hrests messages, ← haccepted, ← hqueued, ← hturn]
  refine settle_eq_turn hw (fun v hne ↦ ?_) (fun v ↦ ?_) ?_
  · exact (hrests v).midway hs hlinked hne accepted [] m.dispatcher []
  · rw [hturn]
    exact hlinked.rests_midway hs hrests _ _ _ v
  · rw [hturn]
    exact hdeferred

end Round

/-- **The service takes all replies**, and nobody has anything to do about it. -/
theorem Linked.step_drain (hs : s.Sound settings registry) (hrests : ∀ v, s.Rests v)
    (hdeferred : s.deferred = []) (hservice : s.services.get? name = some k)
    (h : s.Linked w k m l) (hr : l.requests = []) :
    s.act (.drain name) = (.drained l.replies, s.midway w k [] [] m.dispatcher []) ∧
      s.step (.drain name) = s.midway w k [] [] m.dispatcher [] := by
  have hqueued : queued s.hub k = l.replies.length := by
    rw [queued, h.link]
    rfl
  have hact : s.act (.drain name) = (.drained l.replies, s.midway w k [] [] m.dispatcher []) := by
    have htaken : s.onHub (s.hub.updateLink k fun l ↦ { l with replies := [] }) =
        s.midway w k [] [] m.dispatcher [] := h.onHub_eq (by rw [← hr])
    rw [act, withService, hservice]
    show (((drain s.hub k (queued s.hub k)).map Answer.drained id).1,
      s.onHub ((drain s.hub k (queued s.hub k)).map Answer.drained id).2) = _
    rw [hqueued, drain_eq h.link rfl]
    exact congrArg (Prod.mk _) htaken
  refine ⟨hact, ?_⟩
  rw [step, hact]
  exact settle_of_rests (h.rests_midway hs hrests [] m.dispatcher []) hdeferred

/-! ### Any number of rounds -/

/-- The steps of a round: all messages are sent before the worker runs, and then all replies are
taken. -/
def round (name : String) (messages : List Frames) : List Step :=
  [.send name messages, .drain name]

theorem run_round (s : Session) (name : String) (messages : List Frames) :
    s.run (round name messages) = (s.step (.send name messages)).step (.drain name) := by
  rw [round, run_cons, run_cons, run_nil]

section Rounds

variable (hs : s.Sound settings registry) (hrests : ∀ v, s.Rests v) (hdeferred : s.deferred = [])
  (himmediate : registry.All fun handler ↦ handler.isImmediate = true)
  (h : s.Paired name w k m l)

include hs hrests hdeferred himmediate h

/-- **The account of one round.** -/
theorem Paired.account (messages : List Frames) :
    ((s.step (.send name messages)).act (.drain name)).1 =
        .drained (m.dispatcher.channel.expectedReplies (messages.take l.capacity)) ∧
      s.run (round name messages) =
        s.midway w k [] [] ((messages.take l.capacity).foldl Dispatcher.digest m.dispatcher)
          (m.dispatcher.channel.intake m.dispatcher.arrivals (messages.take l.capacity)) := by
  have hlinked := h.linked hs (hrests w)
  have hsend := h.step_send hs hrests hdeferred messages himmediate
  have hsound := hs.step (.send name messages)
  generalize m.dispatcher.channel.expectedReplies (messages.take l.capacity) = replies at hsend ⊢
  generalize (messages.take l.capacity).foldl Dispatcher.digest m.dispatcher = d at hsend ⊢
  generalize m.dispatcher.channel.intake m.dispatcher.arrivals (messages.take l.capacity) = events
    at hsend ⊢
  rw [hsend] at hsound
  have hrests' := hlinked.rests_midway hs hrests replies d events
  have hlinked' := hlinked.midway [] replies d events
  obtain ⟨hact, hstep⟩ := hlinked'.step_drain hsound hrests' hdeferred h.service rfl
  rw [midway_midway, List.append_nil] at hstep
  refine ⟨?_, ?_⟩
  · rw [hsend, hact]
  · rw [run_round, hsend, hstep]

/-- After a round the service and the worker have nothing queued between them, as before it. -/
theorem Paired.after_round (messages : List Frames) :
    ∃ m' l', (s.run (round name messages)).Paired name w k m' l' ∧
      m'.dispatcher.channel = m.dispatcher.channel ∧
      m'.tally.received = m.tally.received + .ofNat (messages.take l.capacity).length := by
  obtain ⟨-, hrun⟩ := h.account hs hrests hdeferred himmediate messages
  have hlinked := (h.linked hs (hrests w)).midway [] []
    ((messages.take l.capacity).foldl Dispatcher.digest m.dispatcher)
    (m.dispatcher.channel.intake m.dispatcher.arrivals (messages.take l.capacity))
  rw [hrun]
  refine ⟨_, _, ⟨h.service, hlinked.worker, hlinked.link, h.taker, h.running, h.exit, rfl, rfl⟩,
    ?_, ?_⟩
  · exact m.dispatcher.channel_foldl_digest _
  · exact m.dispatcher.received_foldl_digest _

end Rounds

/-- And so it is after any number of rounds. -/
theorem Paired.after_rounds (himmediate : registry.All fun handler ↦ handler.isImmediate = true)
    {m : Member} {l : Link} (steps : List Step) (rounds : List (List Frames))
    (h : ((fresh settings registry).run steps).Paired name w k m l) :
    ∃ m' l', ((fresh settings registry).run
        (steps ++ rounds.flatMap (round name))).Paired name w k m' l' ∧
      m'.dispatcher.channel = m.dispatcher.channel := by
  induction rounds generalizing steps m l with
  | nil =>
    rw [List.flatMap_nil, List.append_nil]
    exact ⟨m, l, h, rfl⟩
  | cons messages rest ih =>
    obtain ⟨hrests, hdeferred⟩ := rests_run settings registry steps
    obtain ⟨m', l', h', hchannel, -⟩ := h.after_round (sound_run settings registry steps) hrests
      hdeferred himmediate messages
    rw [← run_append] at h'
    obtain ⟨m'', l'', h'', hchannel'⟩ := ih _ h'
    rw [List.flatMap_cons, ← List.append_assoc]
    exact ⟨m'', l'', h'', hchannel'.trans hchannel⟩

/-- **Exactly once, round after round.** Take any session, with handlers that answer at once or not
at all, in which a service and its worker have nothing queued between them. However many rounds
there have been, in the next one the service gets accepted as many messages as a queue holds, and
the others are not queued; the worker dispatches the accepted ones, in order and once each; and the
replies that are taken are those that the accepted ones are due, in order. Nothing else changes:
both queues are empty again, and the worker goes on running. -/
theorem rounds_exactly_once (settings : Settings) (registry : Registry (Handler Binding))
    (himmediate : registry.All fun handler ↦ handler.isImmediate = true) (steps : List Step)
    {name : String} {w k : Nat} {m₀ : Member} {l₀ : Link}
    (hpaired : ((fresh settings registry).run steps).Paired name w k m₀ l₀)
    (rounds : List (List Frames)) (messages : List Frames) :
    let s := (fresh settings registry).run (steps ++ rounds.flatMap (round name))
    let channel := Channel.ofSettings settings m₀.security registry
    let room := max settings.highWaterMark.toNat 1
    let accepted := messages.take room
    ∃ m l, s.Paired name w k m l ∧
      (s.report (.send name messages)).answer =
        .delivered (List.replicate (min messages.length room) .accepted ++
          List.replicate (messages.length - room) .full) ∧
      (s.report (.send name messages)).events = channel.intake m.dispatcher.arrivals accepted ∧
      ((s.step (.send name messages)).report (.drain name)).answer =
        .drained (channel.expectedReplies accepted) ∧
      ((s.step (.send name messages)).report (.drain name)).events = [] ∧
      s.run (round name messages) =
        s.midway w k [] [] (accepted.foldl Dispatcher.digest m.dispatcher)
          (channel.intake m.dispatcher.arrivals accepted) ∧
      ∃ m' l', (s.run (round name messages)).Paired name w k m' l' ∧
        m'.tally.received = m.tally.received + .ofNat accepted.length := by
  intro s channel room accepted
  have hs : s.Sound settings registry := sound_run settings registry _
  obtain ⟨hrests, hdeferred⟩ := rests_run settings registry (steps ++ rounds.flatMap (round name))
  obtain ⟨m, l, h, hchannel⟩ := hpaired.after_rounds himmediate steps rounds
  have hroom : l.capacity = room := hs.capacity_eq h.link
  have hchannel' : m.dispatcher.channel = channel :=
    hchannel.trans ((sound_run settings registry steps).channel_eq hpaired.worker)
  have hact := h.act_send hs hrests messages
  have hsend := h.step_send hs hrests hdeferred messages himmediate
  obtain ⟨hdrain, hround⟩ := h.account hs hrests hdeferred himmediate messages
  obtain ⟨m', l', h', -, hreceived⟩ := h.after_round hs hrests hdeferred himmediate messages
  rw [hroom, hchannel'] at hsend hdrain hround
  rw [hroom] at hact hreceived
  refine ⟨m, l, h, ?_, ?_, ?_, ?_, hround, m', l', h', hreceived⟩
  · rw [report, hact]
  · dsimp only [report]
    rw [hsend]
    exact List.drop_left
  · rw [report, hdrain]
  · dsimp only [report]
    rw [← run_round, hround, hsend]
    exact List.drop_length

/-- Pings are echoed. -/
def echoing : Registry (Handler Binding) := .ofBehaviours false [("ping", .echo)]

theorem isImmediate_echoing : echoing.All fun handler ↦ handler.isImmediate = true :=
  Registry.all_ofBehaviours (fun _ ↦ rfl) fun b hb _ ↦ by
    obtain rfl := List.mem_singleton.1 hb
    rfl

/-- A service is bound, and a worker started that finds it. -/
def opening : List Step := [.bind "service" .unsecured, .start "worker" .unsecured]

theorem paired_opening : ∃ m l,
    ((fresh { highWaterMark := 1 } echoing).run opening).Paired "service" 0 0 m l ∧
      m.security = .unsecured :=
  ⟨_, _, ⟨rfl, rfl, rfl, rfl, rfl, rfl, rfl, rfl⟩, rfl⟩

theorem rounds_exactly_once_echoing :
    let s := (fresh { highWaterMark := 1 } echoing).run
      (opening ++ [[.ping 1], [.ping 2, .ping 3]].flatMap (round "service"))
    (s.report (.send "service" [.ping 4, .ping 5])).answer = .delivered [.accepted, .full] ∧
      ((s.step (.send "service" [.ping 4, .ping 5])).report (.drain "service")).answer =
        .drained [.reply [4] "ping" 7 [2]] := by
  obtain ⟨m, l, h, hsecurity⟩ := paired_opening
  obtain ⟨-, -, -, hsend, -, hdrain, -⟩ := rounds_exactly_once { highWaterMark := 1 } echoing
    isImmediate_echoing opening h [[.ping 1], [.ping 2, .ping 3]] [.ping 4, .ping 5]
  rw [hsecurity] at hdrain
  exact ⟨hsend, hdrain.trans (by decide)⟩

end QueryDispatch.Session
