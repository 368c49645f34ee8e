import Mathlib.Logic.Relation
import QueryDispatch.Proofs.Dispatch
import QueryDispatch.Proofs.Hub.Coherent
import QueryDispatch.Session.Turn

/-!
# What a worker touches

Much of what is said about sessions is said about a pair of them, one from which a worker sets out
and one to which it comes: what was kept, who was spared, what was added to the trace. It need not
be shown for everything a worker does. All of it is a few touches, one after the other: events of
its own channel, a change of its own state, an operation through its own dealer, a chance to answer
that is kept in its name. In a touch a worker stays where it is (`Touches`); besides, it connects,
disconnects and moves on in its life (`Does`). Whatever a touch keeps, everything keeps that is made
of touches.

Only a handler can reach beyond its worker, by asking everyone to stop.

## Main results

* `touched_complete`: what becomes of a chance to answer is touches.
* `touched_decide`: so is what is decided about one that was kept.
* `moved_advance`: a move of a worker is done by the worker, but for the request of a handler.
-/

namespace QueryDispatch

/-- The channel a notice is about. -/
def Notice.security : Notice → Security
  | .connected security _ | .connectFailed security _ _ | .pollFailed security _
  | .disconnectFailed security _ | .rejected security _ _ | .unknownCommand security _ _
  | .query security _ _ | .replyFailed security _ _ _ => security

/-- The channel an event is one of. -/
def Event.side? : Event → Option Security
  | .invoked _ ticket => some ticket.security
  | .noted notice => some notice.security
  | _ => none

/-- Whether an event is one of the channel. -/
def Event.isOf (side : Security) (e : Event) : Bool := e.side? == some side

/-- What a worker has for its whole life. -/
def Member.place (m : Member) : Nat × String × Channel :=
  (m.dealer, m.endpoint, m.dispatcher.channel)

/-- The place of a worker says on which channel it is. -/
theorem Member.security_of_place {m m' : Member} (h : m'.place = m.place) :
    m'.security = m.security := congrArg (fun place ↦ place.2.2.security) h

/-! ### What is written down about a channel -/

/-- What happens on a message is about the channel it came by. -/
theorem Channel.isOf_events {c : Channel} {number : Nat} {v : Verdict} {e : Event}
    (he : e ∈ c.events number v) : e.isOf c.security = true := by
  rcases c.mem_events he with ⟨_, -, rfl⟩ | ⟨_, -, rfl⟩ | ⟨_, _, -, rfl | rfl⟩ <;>
    exact beq_self_eq_true _

/-- A channel speaks of its own security when it logs a refusal. -/
theorem Channel.security_refusalNotices {c : Channel} {response : Response} {refusal : Refusal}
    {notice : Notice} (h : notice ∈ c.refusalNotices response refusal) :
    notice.security = c.security := by
  unfold refusalNotices at h
  split at h
  · cases h
  · cases h
  · obtain rfl := List.mem_singleton.1 h
    rfl

namespace Worker

variable {security : Security} {notice : Notice}

/-- The notice of a connection speaks of the channel that connects. -/
theorem security_connectNotice (security : Security) (endpoint : String) (refusal : Refusal) :
    (connectNotice security endpoint refusal).security = security := by
  cases refusal <;> rfl

/-- The notices of a poll speak of the channel that polls. -/
theorem security_pollNotices {cause : TransportError} (h : notice ∈ pollNotices security cause) :
    notice.security = security := by
  unfold pollNotices at h
  split at h
  · cases h
  · obtain rfl := List.mem_singleton.1 h
    rfl

/-- The notices of a disconnection speak of the channel that disconnects. -/
theorem security_disconnectNotices {refusal : Refusal}
    (h : notice ∈ disconnectNotices security refusal) : notice.security = security := by
  unfold disconnectNotices at h
  split at h
  · cases h
  · obtain rfl := List.mem_singleton.1 h
    rfl

end Worker

namespace Session

/-- The channel of a worker. -/
def side? (s : Session) (w : Nat) : Option Security := s.workers[w]?.map Member.security

/-- The chances to answer that were set aside, and those that were put off. -/
def tickets (s : Session) : List OpenTicket × List OpenTicket := (s.parked, s.deferred)

/-- One touch of worker `w`, which stays where it is. Chances to answer are kept on channel `c`. -/
inductive Touches (w : Nat) (c : Security) (s : Session) : Session → Prop where
  | record {side : Security} {events : Trace} (hw : s.side? w = some side)
      (hevents : ∀ e ∈ events, e.isOf side = true) : Touches w c s (s.record events)
  | update {f : Member → Member} (hplace : ∀ m, (f m).place = m.place)
      (hstage : ∀ m, (f m).stage = m.stage) : Touches w c s (s.update w f)
  | onHub {m : Member} {hub : Hub} (hm : s.workers[w]? = some m)
      (hhub : s.hub.Handles m.dealer hub) : Touches w c s (s.onHub hub)
  | park (number : Nat) (r : Request) :
      Touches w c s { s with parked := s.parked ++ [⟨w, number, c, r⟩] }
  | defer (number : Nat) (r : Request) :
      Touches w c s { s with deferred := s.deferred ++ [⟨w, number, c, r⟩] }

/-- One thing that worker `w` does: a touch, or it connects, disconnects, or moves on in its
life. -/
inductive Does (w : Nat) (c : Security) (s : Session) : Session → Prop where
  | touches {s' : Session} (h : Touches w c s s') : Does w c s s'
  | onHub {m : Member} {hub : Hub} (hm : s.workers[w]? = some m)
      (hhub : s.hub.Acts m.dealer m.endpoint hub) : Does w c s (s.onHub hub)
  | update {f : Member → Member} (hplace : ∀ m, (f m).place = m.place) :
      Does w c s (s.update w f)

/-- Touches of worker `w`, one after the other. -/
abbrev Touched (w : Nat) (c : Security) : Session → Session → Prop :=
  Relation.ReflTransGen (Touches w c)

/-- What worker `w` does, one thing after the other. -/
abbrev Done (w : Nat) (c : Security) : Session → Session → Prop :=
  Relation.ReflTransGen (Does w c)

/-- Worker `w` has tried to connect, and ends next if it could not. -/
def tried (s : Session) (w : Nat) (m : Member) : Session :=
  ((s.onHub (s.hub.connect m.dealer m.endpoint).2).note
    [Worker.connectNotice m.security m.endpoint (s.hub.connect m.dealer m.endpoint).1]).update w
      (·.change (Worker.connectChange (s.hub.connect m.dealer m.endpoint).1))

/-- Worker `w` has disconnected, and ends next. -/
def drained (s : Session) (w : Nat) (m : Member) : Session :=
  ((s.onHub (s.hub.disconnect m.dealer).2).update w
    fun m ↦ (m.change .stopObserved).change .disconnected).note
      (Worker.disconnectNotices m.security (s.hub.disconnect m.dealer).1)

variable {s s' : Session} {w : Nat} {c side : Security} {m : Member}

/-- What touches a worker is done on it. -/
theorem Touched.done (h : Touched w c s s') : Done w c s s' :=
  Relation.ReflTransGen.mono (fun _ _ ↦ .touches) _ _ h

/-! ### Where things are after an effect -/

/-- The side of a worker is its security. -/
theorem side?_of_getElem? (hm : s.workers[w]? = some m) : s.side? w = some m.security := by
  rw [side?, hm]
  rfl

/-- What has a side is a worker of it. -/
theorem exists_of_side? (hw : s.side? w = some side) :
    ∃ m, s.workers[w]? = some m ∧ m.security = side := Option.map_eq_some_iff.1 hw

theorem getElem?_update_self (hm : s.workers[w]? = some m) (f : Member → Member) :
    (s.update w f).workers[w]? = some (f m) := by
  rw [getElem?_update, hm, Option.map_some, if_pos rfl]

/-- An update that leaves the place of its worker leaves all sides. -/
theorem side?_update {f : Member → Member} (hf : ∀ m, (f m).place = m.place) (v : Nat) :
    (s.update w f).side? v = s.side? v := by
  rw [side?, side?, getElem?_update, Option.map_map]
  congr 1
  funext m
  show (if w = v then f m else m).security = m.security
  split
  · exact Member.security_of_place (hf m)
  · rfl

/-- Nobody changes sides. -/
theorem Does.side? (h : Does w c s s') (v : Nat) : s'.side? v = s.side? v := by
  cases h with
  | touches h =>
    cases h with
    | update hplace => exact side?_update hplace v
    | _ => rfl
  | update hplace => exact side?_update hplace v
  | _ => rfl

/-- What is done on a worker leaves all sides. -/
theorem Done.side? (h : Done w c s s') (v : Nat) : s'.side? v = s.side? v := by
  induction h with
  | refl => rfl
  | tail _ hlast ih => exact (hlast.side? v).trans ih

theorem parked_of_tickets (h : s'.tickets = s.tickets) : s'.parked = s.parked := congrArg Prod.fst h

theorem deferred_of_tickets (h : s'.tickets = s.tickets) : s'.deferred = s.deferred :=
  congrArg Prod.snd h

/-- Heeding a stop does not change the tickets. -/
theorem tickets_heed (s : Session) (stops : Bool) : (s.heed stops).tickets = s.tickets := by
  rw [heed]
  split <;> rfl

theorem tickets_conclude (s : Session) (w : Nat) (exit : Exit) :
    (s.conclude w exit).tickets = s.tickets := by
  rw [conclude]
  split <;> rfl

theorem tickets_retain (s : Session) (w : Nat) : (s.retain w).tickets = s.tickets := by
  rw [retain]
  split <;> rfl

/-! ### Single effects -/

/-- Notices of its own channel touch a worker only. -/
theorem touched_note (hw : s.side? w = some side) {notices : List Notice}
    (hnotices : ∀ n ∈ notices, n.security = side) : Touched w c s (s.note notices) := by
  refine .single (.record hw fun e he ↦ ?_)
  obtain ⟨notice, hnotice, rfl⟩ := List.mem_map.1 he
  exact beq_iff_eq.2 (congrArg some (hnotices notice hnotice))

/-- An update that leaves place and stage touches its worker only. -/
theorem touched_update {f : Member → Member} (hplace : ∀ m, (f m).place = m.place)
    (hstage : ∀ m, (f m).stage = m.stage) : Touched w c s (s.update w f) :=
  .single (.update hplace hstage)

/-- A hub in which one dealer was handled touches the worker of that dealer only. -/
theorem touched_onHub (hm : s.workers[w]? = some m) {hub : Hub}
    (hhub : s.hub.Handles m.dealer hub) : Touched w c s (s.onHub hub) := .single (.onHub hm hhub)

/-- To request a stop touches one worker. -/
theorem touched_requestStop : Touched w c s (s.requestStop w) := by
  refine touched_update ?_ ?_
  · exact fun _ ↦ rfl
  · exact fun _ ↦ rfl

/-- To reply touches one worker. -/
theorem touched_reply (response : Response) : Touched w c s (s.reply w response) := by
  rw [reply]
  rcases hm : s.workers[w]? with - | m
  · exact .refl
  · have hsent : Touched w c s (s.onHub (s.hub.send m.dealer response.encode).2) :=
      touched_onHub hm (.send _)
    have hside : s.side? w = some m.security := side?_of_getElem? hm
    refine (hsent.trans (touched_update ?_ ?_)).trans
      (touched_note ?_ fun _ hn ↦ Channel.security_refusalNotices hn)
    · exact fun _ ↦ rfl
    · exact fun _ ↦ rfl
    · rw [side?_update]
      · exact hside
      · exact fun _ ↦ rfl

/-- To conclude touches one worker. -/
theorem touched_conclude (exit : Exit) : Touched w c s (s.conclude w exit) := by
  rw [conclude]
  rcases hm : s.workers[w]? with - | m
  · exact .refl
  · refine (touched_onHub hm .drop).trans (touched_update ?_ ?_)
    · exact fun _ ↦ rfl
    · exact fun _ ↦ rfl

/-- To retain a ticket touches one worker. -/
theorem touched_retain : Touched w c s (s.retain w) := by
  rw [retain]
  rcases hm : s.workers[w]? with - | m
  · exact .refl
  · exact touched_onHub hm .retain

/-- To release a ticket touches one worker. -/
theorem touched_release : Touched w c s (s.release w) := by
  rw [release]
  rcases hm : s.workers[w]? with - | m
  · exact .refl
  · exact touched_onHub hm .release

/-- **What becomes of a chance to answer** touches its worker only. -/
theorem touched_complete (number : Nat) (completion : Completion) :
    Touched w c s (s.complete w number c completion) := by
  cases completion with
  | dropped => exact .refl
  | answered response => exact touched_reply response
  | parked r =>
    have hretained : Touched w c s _ := touched_retain.tail (.park number r)
    rw [parked_of_tickets (s.tickets_retain w)] at hretained
    exact hretained
  | deferred r =>
    have hretained : Touched w c s _ := touched_retain.tail (.defer number r)
    rw [deferred_of_tickets (s.tickets_retain w)] at hretained
    exact hretained
  | panicked => exact touched_conclude .panicked

/-- **To decide about a chance to answer** touches its worker only, once a handler has asked
everyone to stop if it wants that. -/
theorem touched_decide (s : Session) (t : OpenTicket) (behaviour : Behaviour) :
    Touched t.worker t.ticket.security (s.heed behaviour.stops) (s.decide t behaviour) := by
  rw [decide]
  refine .trans ?_ touched_release
  split
  · exact .refl
  · exact touched_complete _ _

/-- What a verdict asks for touches one worker. -/
theorem touched_absorb (hm : s.workers[w]? = some m) (v : Verdict) :
    Touched w c s (s.absorb w m v) := by
  have hrecorded : Touched w c s
      (s.record (m.dispatcher.channel.events m.dispatcher.arrivals v)) :=
    .single (.record (side?_of_getElem? hm) fun _ he ↦ Channel.isOf_events he)
  refine hrecorded.trans (touched_update ?_ ?_)
  · exact fun _ ↦ rfl
  · exact fun _ ↦ rfl

/-! ### A worker's moves -/

/-- A worker that has tried to connect stays, or ends where it is. -/
theorem touched_connect (s : Session) (w : Nat) (m : Member) :
    Touched w c (s.tried w m) (s.connect w m) := by
  rw [connect]
  dsimp only
  split
  · exact .refl
  · exact touched_conclude _

/-- A worker that has disconnected ends where it is. -/
theorem touched_finish (s : Session) (w : Nat) (m : Member) :
    Touched w c (s.drained w m) (s.finish w m) := touched_conclude _

section Moves

variable (hm : s.workers[w]? = some m)

include hm

/-- A trial to connect is done on one worker. -/
theorem done_tried : Done w c s (s.tried w m) := by
  have hside : (s.onHub (s.hub.connect m.dealer m.endpoint).2).side? w = some m.security :=
    side?_of_getElem? hm
  have hconnected : Done w c s (s.onHub (s.hub.connect m.dealer m.endpoint).2) :=
    .single (.onHub hm .connect)
  have hnoted : Touched w c (s.onHub (s.hub.connect m.dealer m.endpoint).2)
      ((s.onHub (s.hub.connect m.dealer m.endpoint).2).note
        [Worker.connectNotice m.security m.endpoint (s.hub.connect m.dealer m.endpoint).1]) := by
    refine touched_note hside fun n hn ↦ ?_
    rw [List.mem_singleton.1 hn, Worker.security_connectNotice]
  refine (hconnected.trans hnoted.done).tail (.update ?_)
  exact fun _ ↦ rfl

/-- To connect is done on one worker. -/
theorem done_connect : Done w c s (s.connect w m) :=
  (done_tried hm).trans (Touched.done (s.touched_connect w m))

theorem done_drained : Done w c s (s.drained w m) := by
  have hside : s.side? w = some m.security := side?_of_getElem? hm
  have hdisconnected : Done w c s (s.onHub (s.hub.disconnect m.dealer).2) :=
    .single (.onHub hm .disconnect)
  refine (hdisconnected.tail (.update ?_)).trans
    (Touched.done (touched_note ?_ fun _ hn ↦ Worker.security_disconnectNotices hn))
  · exact fun _ ↦ rfl
  · rw [side?_update]
    · exact hside
    · exact fun _ ↦ rfl

/-- To finish is done on one worker. -/
theorem done_finish : Done w c s (s.finish w m) :=
  (done_drained hm).trans (Touched.done (s.touched_finish w m))

end Moves

/-- What a move of worker `w` may come to: the worker does something, or a handler of it asks
everyone to stop in the middle of a touch. -/
inductive Moved (w : Nat) (m : Member) (s s' : Session) : Prop where
  | done (h : Done w m.security s s')
  | asked {received : Received} {z : Session}
      (hstops : (m.dispatcher.channel.judge received).stops = true)
      (hbefore : Touched w m.security s z) (hafter : Touched w m.security z.requestStops s')

/-- What was touched before is part of the move. -/
theorem Moved.of_touched {z : Session} (h : Touched w m.security s z) (hz : Moved w m z s') :
    Moved w m s s' := by
  cases hz with
  | done hz => exact .done (h.done.trans hz)
  | asked hstops hbefore hafter => exact .asked hstops (h.trans hbefore) hafter

section Moves

variable (hm : s.workers[w]? = some m)

include hm

/-- To dispatch moves one worker. -/
theorem moved_dispatch (received : Received) : Moved w m s (s.dispatch w m received) := by
  rw [dispatch]
  set verdict := m.dispatcher.channel.judge received
  have habsorbed : Touched w m.security s _ := touched_absorb hm verdict
  have hcompleted := touched_complete (s := (s.absorb w m verdict).heed verdict.stops) (w := w)
    (c := m.security) m.dispatcher.arrivals verdict.completion
  rcases hstops : verdict.stops with - | -
  · rw [hstops] at hcompleted
    exact .done (Touched.done (habsorbed.trans hcompleted))
  · rw [hstops] at hcompleted
    exact .asked hstops habsorbed hcompleted

/-- To receive moves one worker. -/
theorem moved_receive : Moved w m s (s.receive w m) := by
  have hreceived : Touched w m.security s (s.onHub (s.hub.receive m.dealer).2) :=
    touched_onHub hm .receive
  rw [receive]
  dsimp only
  split
  · exact .done hreceived.done
  · exact .of_touched hreceived (moved_dispatch (s := s.onHub (s.hub.receive m.dealer).2) hm _)

/-- To serve moves one worker. -/
theorem moved_serve : Moved w m s (s.serve w m) := by
  have hpolled : Touched w m.security s (s.onHub (s.hub.poll m.dealer).2) := touched_onHub hm .poll
  rw [serve]
  dsimp only
  split
  · exact .done .refl
  · next cause _ =>
    have hside : (s.onHub (s.hub.poll m.dealer).2).side? w = some m.security :=
      side?_of_getElem? hm
    have hnoted := hpolled.trans (touched_note hside
      fun n (hn : n ∈ Worker.pollNotices m.security cause) ↦ Worker.security_pollNotices hn)
    exact .done ((Touched.done hnoted).trans (done_finish hm))
  · exact .of_touched hpolled (moved_receive (s := s.onHub (s.hub.poll m.dealer).2) hm)

/-- **A move of a worker is done by the worker**, but for the request of a handler that everyone
stop. -/
theorem moved_advance : Moved w m s (s.advance w) := by
  rw [advance, hm]
  dsimp only
  split
  · exact .done .refl
  · split
    · exact .done (done_connect hm)
    · split
      · exact .done (done_finish hm)
      · exact moved_serve hm
    · exact .done .refl
    · exact .done .refl

end Moves

end Session

end QueryDispatch
