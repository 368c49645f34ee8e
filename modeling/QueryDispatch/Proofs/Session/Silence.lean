import Mathlib.Data.List.Induction
import QueryDispatch.Proofs.Session.Moves

/-!
# Chances to answer that outlive their worker

A handler may keep its chance to answer until after its worker has stopped. Using it then comes to
nothing: no service gets anything, no worker counts anything, and the log says nothing. `Quiet` is
what this means for two sessions, one after the other. It rests on one fact, that the dealer of a
worker that has stopped, if it ever connected, has closed; a sender of a closed dealer is told that
the session is over, which a worker neither counts nor logs.

Deciding about such a chance may still ask all workers to stop. Those that do disconnect and say
nothing either, so the whole step is quiet.

## Main results

* `quiet_decide`: deciding about a chance to answer through a closed dealer is quiet.
* `quiet_release`: so is the whole step in which it is decided about.
* `replies_of_stops`: in the move in which a worker stops, no service gets or loses a reply, since
  no move changes both where a worker is and what is queued for a service (`keepsEither_move`).
* `late_replies_are_silent`: in every session, and what was queued for the service is collected.
-/

namespace QueryDispatch.Session

/-- From `s` to `s'`, nothing was logged, nothing counted, and no service got or lost anything. -/
structure Quiet (s s' : Session) : Prop where
  trace : s'.trace = s.trace
  tallies : s'.workers.map Member.tally = s.workers.map Member.tally
  replies : s'.hub.links.map Link.replies = s.hub.links.map Link.replies

/-- The worker has stopped. -/
def HasStopped (s : Session) (w : Nat) : Prop := ∃ m, s.workers[w]? = some m ∧ m.stage = .stopped

/-- The worker connected once, and its dealer has closed. -/
def HasDisconnected (s : Session) (w : Nat) : Prop :=
  ∃ m, s.workers[w]? = some m ∧ s.hub.phase? m.dealer = some .closed

/-- The session when everyone has had their turn after a step, and what was put off is about to be
done. -/
def rested (s : Session) (st : Step) : Session := (s.act st).2.turns.turns

/-- The session after some of what was put off is done. -/
def flushed (s : Session) (tickets : List OpenTicket) : Session :=
  tickets.foldl (fun s t ↦ s.decide t .echo) { s with deferred := [] }

variable {settings : Settings} {registry : Registry (Handler Binding)} {s s' s'' : Session}
  {w v index : Nat} {m : Member} {t : OpenTicket} {behaviour : Behaviour}

namespace Quiet

theorem refl (s : Session) : s.Quiet s := ⟨rfl, rfl, rfl⟩

theorem trans (h : s.Quiet s') (h' : s'.Quiet s'') : s.Quiet s'' :=
  ⟨h'.trace.trans h.trace, h'.tallies.trans h.tallies, h'.replies.trans h.replies⟩

end Quiet

/-! ### Effects that nobody notices -/

/-- A hub that shows every service the same keeps the session quiet. -/
theorem quiet_onHub (s : Session) {hub : Hub} (hface : ∀ k, hub.face? k = s.hub.face? k) :
    s.Quiet (s.onHub hub) := ⟨rfl, rfl, Hub.replies_of_face hface⟩

/-- An update that leaves the tally of its worker is quiet. -/
theorem quiet_update (s : Session) (w : Nat) {f : Member → Member}
    (hf : ∀ m, (f m).tally = m.tally) : s.Quiet (s.update w f) :=
  ⟨rfl, s.map_workers_update w hf, rfl⟩

theorem quiet_heed (s : Session) (stops : Bool) : s.Quiet (s.heed stops) := by
  rw [heed]
  split
  · exact ⟨rfl, List.map_map, rfl⟩
  · exact .refl s

/-- Nothing at all is done for a worker that is not there. -/
theorem quiet_of_worker {g : Member → Session} (h : ∀ m, s.workers[w]? = some m → s.Quiet (g m)) :
    s.Quiet (match s.workers[w]? with | none => s | some m => g m) := by
  split
  · exact .refl s
  · next m hm => exact h m hm

/-- To conclude a worker is quiet. -/
theorem quiet_conclude (s : Session) (w : Nat) (exit : Exit) : s.Quiet (s.conclude w exit) :=
  quiet_of_worker fun m _ ↦
    (s.quiet_onHub (s.hub.still_dropDealer m.dealer).face).trans (quiet_update _ w fun _ ↦ rfl)

theorem quiet_retain (s : Session) (w : Nat) : s.Quiet (s.retain w) :=
  quiet_of_worker fun m _ ↦ s.quiet_onHub (s.hub.still_retain m.dealer).face

theorem quiet_letGo (s : Session) (w : Nat) : s.Quiet (s.release w) :=
  quiet_of_worker fun m _ ↦ s.quiet_onHub (s.hub.still_release m.dealer).face

/-- Whatever a worker says when it stops, services keep what is queued for them. -/
theorem replies_finish (s : Session) (w : Nat) (m : Member) :
    (s.finish w m).hub.links.map Link.replies = s.hub.links.map Link.replies :=
  (quiet_conclude (s.drained w m) w _).replies.trans
    (Hub.replies_of_face (s.hub.face_disconnect m.dealer))

/-- A worker that disconnects in order says nothing. -/
theorem quiet_finish {k : Nat} (s : Session) (w : Nat) (m : Member)
    (hphase : s.hub.phase? m.dealer = some (.connected k)) : s.Quiet (s.finish w m) := by
  obtain ⟨dealer, hdisconnect⟩ := Hub.disconnect_of_connected hphase
  have hnotices : (s.finish w m).trace = s.trace := by
    rw [finish, (quiet_conclude _ w _).trace, hdisconnect]
    exact List.append_nil s.trace
  refine ⟨hnotices, ?_, s.replies_finish w m⟩
  rw [finish, (quiet_conclude _ w _).tallies]
  exact map_workers_update _ w fun _ ↦ rfl

/-! ### Deciding when it is too late -/

/-- A worker that has disconnected stays so. -/
theorem HasDisconnected.of_steady (h : s.HasDisconnected w) (hsteady : s.Steady s') :
    s'.HasDisconnected w := by
  obtain ⟨m, hm, hclosed⟩ := h
  obtain ⟨m', hm', -, hdealer⟩ := exists_of_stations hsteady.stations hm
  exact ⟨m', hm', by rw [hdealer, hsteady.phase, hclosed]⟩

/-- **A worker that has stopped while a chance to answer is kept has disconnected.** -/
theorem Placed.hasDisconnected (hp : s.Placed) (ht : t ∈ s.kept)
    (hstopped : s.HasStopped t.worker) : s.HasDisconnected t.worker := by
  obtain ⟨m, hm, hstage⟩ := hstopped
  obtain ⟨m', hm', hconnected⟩ := hp.tickets t ht
  obtain rfl := Option.some.inj (hm.symm.trans hm')
  have hplaced := hp.members t.worker m hm
  rw [Member.Placed, hstage] at hplaced
  exact ⟨m, hm, hplaced.resolve_left hconnected⟩

/-- The transport says that the session is over, and that is no news to anyone. -/
theorem quiet_reply (h : s.HasDisconnected w) (response : Response) :
    s.Quiet (s.reply w response) := by
  obtain ⟨m, hm, hclosed⟩ := h
  rw [reply, hm]
  dsimp only
  rw [Hub.send_of_closed hclosed]
  refine ⟨List.append_nil s.trace, ?_, rfl⟩
  exact map_workers_update _ w fun _ ↦ rfl

/-- To complete a ticket of a worker that has disconnected is quiet. -/
theorem quiet_complete (h : s.HasDisconnected w) (number : Nat) (security : Security)
    (completion : Completion) : s.Quiet (s.complete w number security completion) := by
  cases completion with
  | dropped => exact .refl s
  | answered response => exact quiet_reply h response
  | parked r | deferred r =>
    have hretain := s.quiet_retain w
    exact ⟨hretain.trace, hretain.tallies, hretain.replies⟩
  | panicked => exact s.quiet_conclude w .panicked

/-- **Deciding when it is too late is quiet**, whatever is decided. -/
theorem quiet_decide (h : s.HasDisconnected t.worker) (behaviour : Behaviour) :
    s.Quiet (s.decide t behaviour) := by
  have hheed := s.quiet_heed behaviour.stops
  refine .trans ?_ (quiet_letGo _ t.worker)
  split
  · exact hheed
  · exact hheed.trans (quiet_complete (h.of_steady (s.steady_heed _)) _ _ _)

/-! ### Everyone runs, and nobody notices -/

/-- A calm worker whose turn comes stops at most, and disconnects in order. -/
theorem quiet_turn (hp : s.Placed) (hcalm : s.Calm w) :
    s.Quiet (s.turn w) ∧ (s.turn w).tickets = s.tickets := by
  rcases hm : s.workers[w]? with - | m
  · rw [turn_of_rests (rests_of_getElem?_eq_none hm)]
    exact ⟨.refl s, rfl⟩
  · rcases turn_of_calm hcalm hm with hstays | ⟨hstage, hfinishes⟩
    · rw [hstays]
      exact ⟨.refl s, rfl⟩
    · have hplaced := hp.members w m hm
      rw [Member.Placed, hstage] at hplaced
      obtain ⟨k, hphase⟩ := hplaced
      rw [hfinishes]
      exact ⟨quiet_finish s w m hphase, s.tickets_finish w m⟩

section Calm

variable (hs : s.Sound settings registry) (hp : s.Placed)

include hs hp

/-- Turns of calm workers are quiet and leave the tickets. -/
theorem quiet_foldl_turn (hcalm : ∀ v, s.Calm v) (n : Nat) :
    s.Quiet ((List.range n).foldl turn s) ∧
      ((List.range n).foldl turn s).tickets = s.tickets := by
  induction n with
  | zero => exact ⟨.refl s, rfl⟩
  | succ n ih =>
    have hbefore := (Continues.refl hs hp).foldl_turn (List.range n)
    have hturn := quiet_turn hbefore.placed ((rests_foldl_turn hs hcalm n).1 n)
    rw [List.range_succ, List.foldl_append]
    exact ⟨ih.1.trans hturn.1, hturn.2.trans ih.2⟩

/-- Two rounds of turns of calm workers are quiet and leave the tickets. -/
theorem quiet_turns_turns (hcalm : ∀ v, s.Calm v) :
    s.Quiet s.turns.turns ∧ s.turns.turns.tickets = s.tickets := by
  have hbefore := (Continues.refl hs hp).turns
  obtain ⟨hquiet, htickets⟩ := quiet_foldl_turn hs hp hcalm s.workers.length
  obtain ⟨hquiet', htickets'⟩ :=
    quiet_foldl_turn hbefore.sound hbefore.placed (calm_turns hs) s.turns.workers.length
  exact ⟨hquiet.trans hquiet', htickets'.trans htickets⟩

end Calm

/-- To answer deferred tickets binds and connects nothing. -/
theorem steady_flushed (hh : s.hub.Coherent) (tickets : List OpenTicket) :
    s.Steady (s.flushed tickets) ∧ (s.flushed tickets).hub.Coherent := by
  have hfoldl : ∀ (tickets : List OpenTicket) {z : Session}, s.Steady z → z.hub.Coherent →
      s.Steady (tickets.foldl (fun s t ↦ s.decide t .echo) z) ∧
        (tickets.foldl (fun s t ↦ s.decide t .echo) z).hub.Coherent := by
    intro tickets
    induction tickets with
    | nil => exact fun h hz ↦ ⟨h, hz⟩
    | cons t rest ih =>
      intro z h hz
      exact ih (h.trans (steady_decide hz t .echo)) ((z.keeps_decide t .echo).hub.coherent hz)
  exact hfoldl tickets (steady_of_hub_eq rfl fun _ ↦ rfl) hh

/-- The last ticket is answered after the others. -/
theorem flushed_concat (s : Session) (tickets : List OpenTicket) (t : OpenTicket) :
    s.flushed (tickets ++ [t]) = (s.flushed tickets).decide t .echo := by
  rw [flushed, List.foldl_append]
  rfl

/-- What was put off until after its workers stopped is done in silence. -/
theorem quiet_flushed (hh : s.hub.Coherent) {tickets : List OpenTicket}
    (h : ∀ t ∈ tickets, s.HasDisconnected t.worker) : s.Quiet (s.flushed tickets) := by
  induction tickets using List.reverseRecOn with
  | nil => exact ⟨rfl, rfl, rfl⟩
  | append_singleton rest t ih =>
    rw [flushed_concat]
    refine (ih fun t' ht' ↦ h t' (List.mem_append_left _ ht')).trans (quiet_decide ?_ .echo)
    exact (h t (List.mem_append_right _ List.mem_cons_self)).of_steady (steady_flushed hh rest).1

/-- When nobody has anything to do but stop, and what is put off is too late, nobody notices. -/
theorem quiet_settle (hs : s.Sound settings registry) (hp : s.Placed) (hcalm : ∀ v, s.Calm v)
    (hstopped : ∀ t ∈ s.deferred, s.HasStopped t.worker) : s.Quiet s.settle := by
  obtain ⟨hquiet, htickets⟩ := quiet_turns_turns hs hp hcalm
  have hrested := (Continues.refl hs hp).turns.turns
  refine hquiet.trans (quiet_flushed hrested.sound.coherent fun t ht ↦ ?_)
  refine hrested.placed.hasDisconnected (List.mem_append_right _ ht) ?_
  rw [deferred_of_tickets htickets] at ht
  obtain ⟨m, hm, hstage⟩ := hstopped t ht
  obtain ⟨m', hm', hstage', -⟩ := hrested.follows.stopped _ m hm hstage
  exact ⟨m', hm', hstage'⟩

/-! ### The step in which it is decided -/

/-- A worker that has stopped is calm. -/
theorem Calm.of_hasStopped (h : s.HasStopped w) : s.Calm w := by
  obtain ⟨m, hm, hstage⟩ := h
  intro m' hm' _
  obtain rfl := Option.some.inj (hm.symm.trans hm')
  rw [hstage]
  exact ⟨Stage.noConfusion, fun h ↦ nomatch h⟩

/-- A worker that has stopped stays so while the workers keep their stations. -/
theorem HasStopped.of_stations (h : s.HasStopped w)
    (hstations : ∀ v, s'.station? v = s.station? v) : s'.HasStopped w := by
  obtain ⟨m, hm, hstage⟩ := h
  obtain ⟨m', hm', hstage', -⟩ := exists_of_stations hstations hm
  exact ⟨m', hm', hstage'.trans hstage⟩

/-- Others can at most be asked to stop. -/
theorem Calm.decide (hs : s.Sound settings registry) (hstopped : s.HasStopped t.worker)
    (h : s.Calm v) (behaviour : Behaviour) : (s.decide t behaviour).Calm v := by
  by_cases hne : t.worker = v
  · rw [← hne]
    exact .of_hasStopped (hstopped.of_stations (steady_decide hs.coherent t behaviour).stations)
  · have hasked := h.heed behaviour.stops
    have hsound := hs.of_keeps (s.keeps_heed behaviour.stops)
    obtain ⟨m, hm, -⟩ := hstopped.of_stations (s.steady_heed behaviour.stops).stations
    have hd := dealer_of_getElem? hm
    exact hasked.of_spares hsound hd (Touched.spares hd (s.touched_decide t behaviour)) hne

/-- A ticket that is deferred after another was answered was so before, or is one of the same
worker. -/
theorem mem_deferred_decide (s : Session) (t : OpenTicket) (behaviour : Behaviour) {t' : OpenTicket}
    (ht' : t' ∈ (s.decide t behaviour).deferred) : t' ∈ s.deferred ∨ t'.worker = t.worker := by
  have hheed := deferred_of_tickets (s.tickets_heed behaviour.stops)
  rw [← hheed]
  exact (Touched.mem_kept (s.touched_decide t behaviour)).2 t' ht'

/-- **To decide too late about what was set aside is quiet.** -/
theorem quiet_releaseAt (hp : s.Placed) {index : Nat} (ht : s.parked[index]? = some t)
    (hstopped : s.HasStopped t.worker) (behaviour : Behaviour) :
    s.Quiet (s.act (.release index behaviour)).2 := by
  have hkept : t ∈ s.kept := List.mem_append_left _ (List.mem_of_getElem? ht)
  have hquiet := quiet_decide (s := { s with parked := s.parked.eraseIdx index })
    (hp.hasDisconnected hkept hstopped) behaviour
  rw [act, releaseAt, ht]
  exact ⟨hquiet.trace, hquiet.tallies, hquiet.replies⟩

/-- And so it is about what was put off. -/
theorem quiet_deferred (hp : s.Placed) {index : Nat} (ht : s.deferred[index]? = some t)
    (hstopped : s.HasStopped t.worker) (behaviour : Behaviour) :
    s.Quiet (({ s with deferred := s.deferred.eraseIdx index } : Session).decide t behaviour) := by
  have hkept : t ∈ s.kept := List.mem_append_right _ (List.mem_of_getElem? ht)
  have hquiet := quiet_decide (s := { s with deferred := s.deferred.eraseIdx index })
    (hp.hasDisconnected hkept hstopped) behaviour
  exact ⟨hquiet.trace, hquiet.tallies, hquiet.replies⟩

/-- **The whole step in which it is decided too late is quiet.** -/
theorem quiet_release (hs : s.Sound settings registry) (hp : s.Placed) (hrests : ∀ v, s.Rests v)
    (hdeferred : s.deferred = []) {index : Nat} (ht : s.parked[index]? = some t)
    (hstopped : s.HasStopped t.worker) (behaviour : Behaviour) :
    s.Quiet (s.step (.release index behaviour)) := by
  have hdecide := quiet_releaseAt hp ht hstopped behaviour
  have hsound := hs.act (.release index behaviour)
  have hplaced := (account_act hs hp (.release index behaviour)).1
  set z : Session := { s with parked := s.parked.eraseIdx index } with hz
  have hact : (s.act (.release index behaviour)).2 = z.decide t behaviour := by
    rw [act, releaseAt, ht]
  have hz' : z.Sound settings registry := hs.of_eq rfl rfl rfl rfl
  have hstopped' : z.HasStopped t.worker := hstopped
  rw [step]
  rw [hact] at hdecide hsound hplaced ⊢
  refine hdecide.trans (quiet_settle hsound hplaced (fun v ↦ ?_) fun t' ht' ↦ ?_)
  · exact Calm.decide hz' hstopped' (hrests v).calm behaviour
  · rcases z.mem_deferred_decide t behaviour ht' with ht' | hworker
    · rw [show z.deferred = [] from hdeferred] at ht'
      cases ht'
    · rw [hworker]
      exact hstopped'.of_stations (steady_decide hz'.coherent t behaviour).stations

/-! ### The move in which a worker stops -/

/-- The worker, if it is there, has been asked to stop. -/
def Asked (s : Session) (w : Nat) : Prop :=
  ∀ m, s.workers[w]? = some m → m.stopRequested = true

/-- A request to stop outlives what does not take it back. -/
theorem Asked.of_map (h : s.Asked w)
    (hmap : s'.workers.map Member.stopRequested = s.workers.map Member.stopRequested) :
    s'.Asked w := by
  intro m' hm'
  have hw := congrArg (·[w]?) hmap
  simp only [List.getElem?_map, hm'] at hw
  obtain ⟨m, hm, heq⟩ := Option.map_eq_some_iff.1 hw.symm
  rw [← heq]
  exact h m hm

/-- To conclude a worker leaves the requests to stop. -/
theorem stops_conclude (s : Session) (w : Nat) (exit : Exit) :
    (s.conclude w exit).workers.map Member.stopRequested =
      s.workers.map Member.stopRequested := by
  rw [conclude]
  split
  · rfl
  · exact map_workers_update _ w fun _ ↦ rfl

/-- To connect leaves the requests to stop. -/
theorem stops_connect (s : Session) (w : Nat) (m : Member) :
    (s.connect w m).workers.map Member.stopRequested = s.workers.map Member.stopRequested := by
  have htried : (s.tried w m).workers.map Member.stopRequested =
      s.workers.map Member.stopRequested := map_workers_update _ w fun _ ↦ rfl
  rw [connect]
  dsimp only
  split
  · exact htried
  · exact (stops_conclude (s.tried w m) w _).trans htried

/-- To finish leaves the requests to stop. -/
theorem stops_finish (s : Session) (w : Nat) (m : Member) :
    (s.finish w m).workers.map Member.stopRequested = s.workers.map Member.stopRequested := by
  have hdrained : (s.drained w m).workers.map Member.stopRequested =
      s.workers.map Member.stopRequested := map_workers_update _ w fun _ ↦ rfl
  exact (stops_conclude (s.drained w m) w _).trans hdrained

/-- To connect takes a link, and leaves what is queued on it. -/
theorem replies_connect (s : Session) (w : Nat) (m : Member) :
    (s.connect w m).hub.links.map Link.replies = s.hub.links.map Link.replies := by
  have htried : (s.tried w m).hub.links.map Link.replies = s.hub.links.map Link.replies :=
    s.hub.replies_connect m.dealer m.endpoint
  rw [connect]
  dsimp only
  split
  · exact htried
  · exact (quiet_conclude (s.tried w m) w _).replies.trans htried

/-- A worker that has been asked to stop sends nothing in its next move, and is still asked. -/
theorem Asked.advance (h : s.Asked w) : (s.advance w).Asked w ∧
    (s.advance w).hub.links.map Link.replies = s.hub.links.map Link.replies := by
  have hmoves := s.moves_advance w
  generalize s.advance w = s' at hmoves ⊢
  cases hmoves with
  | rests => exact ⟨h, rfl⟩
  | @connects m hm => exact ⟨h.of_map (s.stops_connect w m), s.replies_connect w m⟩
  | @stops m hm => exact ⟨h.of_map (s.stops_finish w m), s.replies_finish w m⟩
  | fails hm _ _ hgoing | receives hm _ _ hgoing =>
    rw [h _ hm] at hgoing
    cases hgoing

/-- The turn of a worker that was asked to stop puts no reply on any link. -/
theorem Asked.turn (h : s.Asked w) :
    (s.turn w).hub.links.map Link.replies = s.hub.links.map Link.replies := by
  have hadvances : ∀ (n : Nat) {s : Session}, s.Asked w →
      (s.advances w n).hub.links.map Link.replies = s.hub.links.map Link.replies := by
    intro n
    induction n with
    | zero => exact fun _ ↦ rfl
    | succ n ih => exact fun h ↦ (ih h.advance.1).trans h.advance.2
  exact (hadvances _ h.advance.1).trans h.advance.2

/-- To be shut down, a worker sends nothing more. -/
theorem replies_shutdown (s : Session) (name : String) :
    (s.act (.shutdown name)).2.hub.links.map Link.replies = s.hub.links.map Link.replies := by
  have hasked : ∀ w, (s.requestStop w).Asked w := by
    intro w m' hm'
    rw [requestStop, getElem?_update] at hm'
    obtain ⟨m, -, rfl⟩ := Option.map_eq_some_iff.1 hm'
    rw [if_pos rfl]
  rw [act, attend]
  split
  · rfl
  · split
    · exact (hasked _).turn
    · rfl

/-- From `s` to `s'` the workers keep their stations, or the links their replies. -/
def KeepsEither (s s' : Session) : Prop :=
  (∀ v, s'.station? v = s.station? v) ∨
    s'.hub.links.map Link.replies = s.hub.links.map Link.replies

/-- What leaves the workers keeps their stations. -/
theorem keepsEither_of_workers (h : s'.workers = s.workers) : s.KeepsEither s' :=
  .inl fun v ↦ by rw [station?, station?, h]

/-- To answer a ticket keeps the stations. -/
theorem keepsEither_decide {z : Session} (hs : s.Sound settings registry) (hhub : z.hub = s.hub)
    (hworkers : z.workers = s.workers) (t : OpenTicket) (behaviour : Behaviour) :
    s.KeepsEither (z.decide t behaviour) := by
  have hsteady := steady_decide (hhub ▸ hs.coherent) t behaviour
  refine .inl fun v ↦ (hsteady.stations v).trans ?_
  rw [station?, station?, hworkers]

/-- A step keeps the stations or the replies: whoever is shut down in it sends nothing more. -/
theorem keepsEither_act (hs : s.Sound settings registry) (st : Step) :
    s.KeepsEither (s.act st).2 := by
  cases st with
  | bind name security =>
    refine keepsEither_of_workers ?_
    rw [act, Session.bind]
    split <;> rfl
  | unbind name =>
    refine keepsEither_of_workers ?_
    rw [act, Session.unbind]
    split <;> rfl
  | start name security => exact .inr rfl
  | send name messages | drain name | collect name =>
    refine keepsEither_of_workers ?_
    rw [act, withService]
    split <;> rfl
  | stop name | join name =>
    rw [act, attend]
    split
    · exact .inl fun _ ↦ rfl
    · split
      · exact .inl (s.stations_update _ fun _ ↦ rfl)
      · exact .inl fun _ ↦ rfl
  | shutdown name => exact .inr (s.replies_shutdown name)
  | release index behaviour =>
    rw [act, releaseAt]
    split
    · exact keepsEither_of_workers rfl
    · exact keepsEither_decide (z := { s with parked := s.parked.eraseIdx index }) hs rfl rfl _ _

/-- An advance keeps the stations or the replies: a worker replies only to what it has received,
and then stays where it is. -/
theorem keepsEither_advance (hs : s.Sound settings registry) (v : Nat) :
    s.KeepsEither (s.advance v) := by
  have hmoves := s.moves_advance v
  generalize s.advance v = s' at hmoves ⊢
  cases hmoves with
  | rests => exact .inl fun _ ↦ rfl
  | @connects m => exact .inr (s.replies_connect v m)
  | @stops m => exact .inr (s.replies_finish v m)
  | @fails m =>
    exact .inr ((replies_finish _ v m).trans
      (Hub.replies_of_face (s.hub.still_poll m.dealer).face))
  | @receives m frames hm =>
    set z := (s.onHub (s.hub.poll m.dealer).2).onHub ((s.hub.poll m.dealer).2.receive m.dealer).2
    have hreceived : Touched v m.security s z := (touched_onHub hm .poll).trans
      (touched_onHub (s := s.onHub (s.hub.poll m.dealer).2) hm .receive)
    have hcoherent := (Touched.keeps hreceived).hub.coherent hs.coherent
    have hdispatched := steady_dispatch (s := z) hcoherent hm (.message frames)
    exact .inl ((Touched.steady hs.coherent hreceived).trans hdispatched).stations

/-- A move keeps the stations or the replies. -/
theorem keepsEither_move (hs : s.Sound settings registry) (move : Move) :
    s.KeepsEither (s.move move) := by
  cases move with
  | act st => exact keepsEither_act hs st
  | advance v => exact keepsEither_advance hs v
  | echo index =>
    rw [Session.move, Session.echoAt]
    split
    · exact keepsEither_of_workers rfl
    · exact keepsEither_decide (z := { s with deferred := s.deferred.eraseIdx index }) hs rfl rfl
        _ _

/-- **In the move in which a worker stops, no service gets or loses a reply.** -/
theorem replies_of_stops (hs : s.Sound settings registry) {move : Move} (hnot : ¬ s.HasStopped w)
    (hstops : (s.move move).HasStopped w) :
    (s.move move).hub.links.map Link.replies = s.hub.links.map Link.replies := by
  rcases keepsEither_move hs move with hstations | hreplies
  · exact absurd (hstops.of_stations fun v ↦ (hstations v).symm) hnot
  · exact hreplies

/-! ### In every session -/

/-- **The service of a worker that has stopped gets no more than is queued for it.** -/
theorem Placed.isOver (hs : s.Sound settings registry) (hp : s.Placed)
    (hm : s.workers[w]? = some m) (hstage : m.stage = .stopped) {k : Nat} {l : Link}
    (hl : s.hub.links[k]? = some l) (htaker : l.taker = some m.dealer) : s.hub.IsOver l := by
  obtain ⟨dealer, hd, hphase⟩ := hs.coherent.connected_of_taker hl htaker
  have hplaced := hp.members w m hm
  rw [Member.Placed, hstage, Hub.phase?_of_getElem? hd] at hplaced
  -- the dealer connected to the link once, so it cannot be still unconnected
  have hclosed : dealer.phase = .closed := by
    rcases hphase with hphase | hphase
    · simp [hphase] at hplaced
    · exact hphase
  exact ⟨m.dealer, htaker, by rw [Hub.phase?_of_getElem? hd, hclosed]⟩

/-- To release a ticket that is parked is done. -/
theorem answer_release (ht : s.parked[index]? = some t) (hbehaviour : behaviour ≠ .panic) :
    (s.act (.release index behaviour)).1 = .done := by
  rw [act, releaseAt, ht]
  exact if_neg (behaviour.completion_ne_panicked hbehaviour t.ticket.request)

/-- To collect from a service gives what its link gives. -/
theorem answer_collect {name : String} {k : Nat} (h : s.services.get? name = some k) :
    (s.act (.collect name)).1 = .collected (s.hub.collect k).1 := by
  rw [act, withService, h]
  rfl

/-- **A chance to answer that outlives its worker is silent.** To decide about one that was set
aside, or put off, is quiet if its worker has stopped: after any list of steps, down to the end of
the step in which it is decided, and as what was put off is done; and at every moment on the way,
since a list of steps is a list of moves, and in whatever order everyone moves.

A worker that has stopped stays so, and the move in which it stops adds nothing to what is queued
for a service, nor takes from it. While a service lives, what was queued for it at any moment is the
first that it collects from there, in order. If its worker has stopped, that is all it collects, and
then it is told that nothing more will come. -/
theorem late_replies_are_silent (settings : Settings) (registry : Registry (Handler Binding))
    (steps : List Step) (moves later : List Move) :
    let u := (fresh settings registry).run steps
    let s := (fresh settings registry).interleave moves
    let s' := s.interleave later
    (∃ moves, (fresh settings registry).interleave moves = u ∧
      ∀ k, (fresh settings registry).handedAmong k moves =
        (fresh settings registry).handedAll k steps) ∧
    (∀ index t behaviour, u.parked[index]? = some t → u.HasStopped t.worker →
      u.Quiet (u.step (.release index behaviour)) ∧
        (behaviour ≠ .panic → (u.act (.release index behaviour)).1 = .done)) ∧
    (∀ st before t after behaviour, (u.rested st).deferred = before ++ t :: after →
      (u.rested st).HasStopped t.worker →
        ((u.rested st).flushed before).Quiet (((u.rested st).flushed before).decide t behaviour)) ∧
    (∀ index t behaviour, s.parked[index]? = some t → s.HasStopped t.worker →
      s.Quiet (s.act (.release index behaviour)).2 ∧
        (behaviour ≠ .panic → (s.act (.release index behaviour)).1 = .done)) ∧
    (∀ index t behaviour, s.deferred[index]? = some t → s.HasStopped t.worker →
      s.Quiet ({ s with deferred := s.deferred.eraseIdx index }.decide t behaviour)) ∧
    (∀ w, s.HasStopped w → s'.HasStopped w) ∧
    (∀ w move, ¬ s.HasStopped w → (s.move move).HasStopped w →
      (s.move move).hub.links.map Link.replies = s.hub.links.map Link.replies) ∧
    ∀ (k : Nat) (l : Link), s.hub.links[k]? = some l →
      ∃ l', s'.hub.links[k]? = some l' ∧ (l'.served = true →
        l.replies <+: s.handedAmong k later ++ l'.replies ∧
        ∀ (w : Nat) (m : Member), s.workers[w]? = some m → m.stage = .stopped →
          l.taker = some m.dealer → l.replies = s.handedAmong k later ++ l'.replies ∧
            ∀ name, s'.services.get? name = some k →
              (s'.act (.collect name)).1 =
                .collected (l'.replies.head?.elim .closed .message)) := by
  intro u s s'
  have hu : u.Sound settings registry := sound_run settings registry steps
  have hpu : u.Placed := placed_run settings registry steps
  obtain ⟨hrests, hnone⟩ : (∀ v, u.Rests v) ∧ u.deferred = [] := rests_run settings registry steps
  obtain ⟨hs, hp, -⟩ := account_interleave (sound_fresh settings registry)
    (placed_run settings registry []) moves
  obtain ⟨-, -, hafter⟩ := account_interleave hs hp later
  refine ⟨exists_interleave_run _ steps,
    fun index t behaviour ht hlate ↦ ⟨?_, answer_release ht⟩,
    fun st before t after behaviour hsplit hlate ↦ ?_,
    fun index t behaviour ht hlate ↦ ⟨?_, answer_release ht⟩,
    fun index t behaviour ht hlate ↦ ?_, fun w hstopped ↦ ?_, fun w move ↦ replies_of_stops hs,
    fun k l hl ↦ ?_⟩
  · exact quiet_release hu hpu hrests hnone ht hlate behaviour
  · have hrested := (Continues.refl (hu.act st) (account_act hu hpu st).1).turns.turns
    have hkept : t ∈ (u.rested st).kept := by
      refine List.mem_append_right _ ?_
      rw [hsplit]
      exact List.mem_append_right _ List.mem_cons_self
    have hdisconnected := hrested.placed.hasDisconnected hkept hlate
    exact quiet_decide (hdisconnected.of_steady (steady_flushed hrested.sound.coherent before).1) _
  · exact quiet_releaseAt hp ht hlate behaviour
  · exact quiet_deferred hp ht hlate behaviour
  · obtain ⟨m, hm, hstage⟩ := hstopped
    obtain ⟨m', hm', hstage', -⟩ := hafter.stopped w m hm hstage
    exact ⟨m', hm', hstage'⟩
  · obtain ⟨l', hy⟩ := hafter.yields k l hl
    refine ⟨l', hy.link, fun hserved ↦ ?_⟩
    obtain ⟨-, added, hreplies, hadded⟩ := hy.account hserved
    refine ⟨⟨added, hreplies⟩, fun w m hm hstage htaker ↦ ?_⟩
    have hover := hp.isOver hs hm hstage hl htaker
    rw [hadded hover, List.append_nil] at hreplies
    refine ⟨hreplies, fun name hname ↦ ?_⟩
    rw [answer_collect hname, Hub.collect_of_isOver hy.link (hy.isOver hover)]

/-- Handlers that keep their chance to answer, one that answers, and one that stops everything. -/
def hesitant : Registry (Handler Binding) :=
  .ofBehaviours false [("park", .park), ("ping", .echo), ("later", .later), ("stop", .stop)]

/-- A service is bound, and a worker started that finds it. -/
def arrival : List Step := [.bind "service" .unsecured, .start "worker" .unsecured]

/-- The worker sets a query aside and is shut down; then the address is bound again, and another
worker comes. -/
def succession : List Step :=
  [.send "service" [.query [1] "park" 7 []], .shutdown "worker", .unbind "service"] ++ arrival

/-- A worker keeps one chance to answer, puts off another, and answers a third query. Then it is
asked to stop. -/
def leaving : List Move :=
  arrival.map .act ++ [.advance 0,
    .act (.send "service"
      [.query [1] "park" 7 [], .query [2] "later" 7 [], .query [3] "ping" 7 []]),
    .advance 0, .advance 0, .advance 0, .act (.stop "worker")]

/-- The first worker puts off an answer and is stopped in one step. -/
theorem exists_overdue :
    let x := ((fresh {} hesitant).run arrival).rested
      (.send "service" [.query [1] "later" 7 [], .query [2] "stop" 7 []])
    ∃ t, x.deferred = [t] ∧ x.HasStopped t.worker := by
  intro x
  have hdeferred : x.deferred.map OpenTicket.worker = [0] := by decide +kernel
  have hstage : x.workers[0]?.map Member.stage = some .stopped := by decide +kernel
  obtain ⟨t, ht, hworker⟩ := List.map_eq_singleton_iff.1 hdeferred
  obtain ⟨m, hm, hstage'⟩ := Option.map_eq_some_iff.1 hstage
  exact ⟨t, ht, m, hworker ▸ hm, hstage'⟩

/-- A chance to answer that was set aside outlives its worker. -/
theorem exists_survivor :
    let u := (fresh {} hesitant).run (arrival ++ succession)
    ∃ t, u.parked[0]? = some t ∧ u.HasStopped t.worker := by
  intro u
  have hparked : u.parked[0]?.map OpenTicket.worker = some 0 := by decide +kernel
  have hstage : u.workers[0]?.map Member.stage = some .stopped := by decide +kernel
  obtain ⟨t, ht, hworker⟩ := Option.map_eq_some_iff.1 hparked
  obtain ⟨m, hm, hstage'⟩ := Option.map_eq_some_iff.1 hstage
  exact ⟨t, ht, m, hworker ▸ hm, hstage'⟩

theorem exists_departed :
    let p := (fresh {} hesitant).interleave leaving
    let s := p.move (.advance 0)
    ¬ p.HasStopped 0 ∧ ∃ m l t, s.workers[0]? = some m ∧ m.stage = .stopped ∧
      s.services.get? "service" = some 0 ∧ s.hub.links[0]? = some l ∧ l.served = true ∧
      l.taker = some m.dealer ∧ l.replies = [.reply [3] "ping" 7 []] ∧
      s.deferred = [t] ∧ t.worker = 0 := by
  intro p s
  have hserves : p.workers[0]?.map Member.stage = some .running := by decide +kernel
  have hworker : s.workers[0]?.map Member.station = some (.stopped, 0) := by decide +kernel
  have hname : s.services.get? "service" = some 0 := by decide +kernel
  have hlink : s.hub.links[0]?.map Link.face =
      some (true, some 0, [.reply [3] "ping" 7 []]) := by decide +kernel
  have hdeferred : s.deferred.map OpenTicket.worker = [0] := by decide +kernel
  refine ⟨?_, ?_⟩
  · rintro ⟨m, hm, hstage⟩
    rw [hm, Option.map_some, hstage] at hserves
    cases hserves
  · obtain ⟨m, hm, hstation⟩ := Option.map_eq_some_iff.1 hworker
    obtain ⟨hstage, hdealer⟩ : m.stage = .stopped ∧ m.dealer = 0 := Prod.mk.inj hstation
    obtain ⟨l, hl, hface⟩ := Option.map_eq_some_iff.1 hlink
    obtain ⟨hserved, htaker, hreplies⟩ :
        l.served = true ∧ l.taker = some 0 ∧ l.replies = [.reply [3] "ping" 7 []] := by
      simpa [Link.face] using hface
    obtain ⟨t, ht, hkeeper⟩ := List.map_eq_singleton_iff.1 hdeferred
    exact ⟨m, l, t, hm, hstage, hname, hl, hserved, by rw [htaker, hdealer], hreplies, ht, hkeeper⟩

/-- A link that passes from one worker to another, whose replies come too late for the first. -/
theorem late_replies_are_silent_succession :
    let u := (fresh {} hesitant).run (arrival ++ succession)
    let x := ((fresh {} hesitant).run arrival).rested
      (.send "service" [.query [1] "later" 7 [], .query [2] "stop" 7 []])
    let p := (fresh {} hesitant).interleave leaving
    let s := p.move (.advance 0)
    u.Quiet (u.step (.release 0 .echo)) ∧ (u.act (.release 0 .echo)).1 = .done ∧
      (∃ t, x.deferred = [t] ∧ (x.flushed []).Quiet ((x.flushed []).decide t .echo)) ∧
      s.hub.links.map Link.replies = p.hub.links.map Link.replies ∧
      (∃ t, s.deferred = [t] ∧
        s.Quiet ({ s with deferred := s.deferred.eraseIdx 0 }.decide t .echo)) ∧
      (s.act (.collect "service")).1 = .collected (.message (.reply [3] "ping" 7 [])) := by
  intro u x p s
  have hmove : (fresh {} hesitant).interleave (leaving ++ [.advance 0]) = s :=
    interleave_append _ leaving [.advance 0]
  obtain ⟨t, ht, hstopped⟩ := exists_survivor
  obtain ⟨t', ht', hoverdue⟩ := exists_overdue
  obtain ⟨hserves, m, l, t'', hm, hstage, hname, hl, hserved, htaker, hreplies, ht'', hkeeper⟩ :=
    exists_departed
  obtain ⟨-, hrelease, -⟩ := late_replies_are_silent {} hesitant (arrival ++ succession) [] []
  obtain ⟨-, -, hflush, -, -, -, hstops, -⟩ :=
    late_replies_are_silent {} hesitant arrival leaving []
  obtain ⟨-, -, -, -, hdefer, -, -, hlinks⟩ :=
    late_replies_are_silent {} hesitant [] (leaving ++ [.advance 0]) []
  rw [hmove] at hdefer hlinks
  have hdeparted : s.HasStopped 0 := ⟨m, hm, hstage⟩
  obtain ⟨hquiet, hdone⟩ := hrelease 0 t .echo ht hstopped
  refine ⟨hquiet, hdone Behaviour.noConfusion,
    ⟨t', ht', hflush _ [] t' [] .echo ht' hoverdue⟩, hstops 0 (.advance 0) hserves hdeparted,
    ⟨t'', ht'', hdefer 0 t'' .echo (by rw [ht'']; rfl) (hkeeper ▸ hdeparted)⟩, ?_⟩
  obtain ⟨l', hl', hcollects⟩ := hlinks 0 l hl
  obtain rfl : l' = l := Option.some.inj (hl'.symm.trans hl)
  obtain ⟨-, hcollect⟩ := hcollects hserved
  have hcollected := (hcollect 0 m hm hstage htaker).2 "service" hname
  rw [hreplies] at hcollected
  exact hcollected

end QueryDispatch.Session
