import QueryDispatch.Proofs.Hub.Yield
import QueryDispatch.Proofs.Session.Rest

/-!
# Where the workers of a session are, and what their services get

The stage of a worker shows in the phase of its dealer: a worker that serves is connected, and one
that has stopped is not, whether it never was or has disconnected. A chance to answer is kept only
by workers that connected once. This is `Placed`, and it holds of every session that can come about
(`placed_run`).

On the way there, `Follows` keeps the account of every service: what it collected, and what its
worker could still add (`account_run`).

Most of what happens leaves stages and phases alone (`Steady`); connecting and disconnecting do not.
-/

namespace QueryDispatch

/-- Where the worker is in its life shows in the phase of its dealer. -/
def Member.Placed (m : Member) (h : Hub) : Prop :=
  match m.stage with
  | .idle => h.phase? m.dealer = some .unconnected
  | .running => ∃ k, h.phase? m.dealer = some (.connected k)
  | .draining => False
  | .stopped => h.phase? m.dealer = some .unconnected ∨ h.phase? m.dealer = some .closed

/-- What the place of a worker depends on. -/
def Member.station (m : Member) : Stage × Nat := (m.stage, m.dealer)

namespace Session

/-- What the place of a worker depends on, if it is there. -/
def station? (s : Session) (v : Nat) : Option (Stage × Nat) := s.workers[v]?.map Member.station

/-- All chances to answer that are kept. -/
def kept (s : Session) : List OpenTicket := s.parked ++ s.deferred

/-- The worker has connected, and may have disconnected since. -/
def HasConnected (s : Session) (w : Nat) : Prop :=
  ∃ m, s.workers[w]? = some m ∧ s.hub.phase? m.dealer ≠ some .unconnected

/-- All workers are where their dealers are, and who keeps a chance to answer has connected. -/
structure Placed (s : Session) : Prop where
  members : ∀ (v : Nat) (m : Member), s.workers[v]? = some m → m.Placed s.hub
  tickets : ∀ t ∈ s.kept, s.HasConnected t.worker

/-- From `s` to `s'`, stopped workers stayed so, and services collected what is `taken` of them. -/
structure Follows (s s' : Session) (taken : Nat → List Frames) : Prop where
  stopped : ∀ (v : Nat) (m : Member), s.workers[v]? = some m → m.stage = .stopped →
    ∃ m' : Member, s'.workers[v]? = some m' ∧ m'.stage = .stopped ∧ m'.dealer = m.dealer
  yields : ∀ (k : Nat) (l : Link), s.hub.links[k]? = some l →
    ∃ l', Hub.Yields k s.hub l (taken k) s'.hub l'

/-- No worker changes its stage and no dealer its phase, and nothing is collected. -/
structure Steady (s s' : Session) : Prop where
  stations : ∀ v, s'.station? v = s.station? v
  phase : ∀ d, s'.hub.phase? d = s.hub.phase? d
  yields : ∀ (k : Nat) (l : Link), s.hub.links[k]? = some l →
    ∃ l', Hub.Yields k s.hub l [] s'.hub l'

variable {s s' s'' : Session} {w v d : Nat} {m : Member}

namespace Follows

theorem refl (s : Session) : s.Follows s fun _ ↦ [] :=
  ⟨fun _ m hm hstage ↦ ⟨m, hm, hstage, rfl⟩, fun _ l hl ↦ ⟨l, .refl hl⟩⟩

theorem trans {xs ys : Nat → List Frames} (h : s.Follows s' xs) (h' : s'.Follows s'' ys) :
    s.Follows s'' fun k ↦ xs k ++ ys k where
  stopped v m hm hstage := by
    obtain ⟨m', hm', hstage', hdealer'⟩ := h.stopped v m hm hstage
    obtain ⟨m'', hm'', hstage'', hdealer''⟩ := h'.stopped v m' hm' hstage'
    exact ⟨m'', hm'', hstage'', hdealer''.trans hdealer'⟩
  yields k l hl := by
    obtain ⟨l', hy⟩ := h.yields k l hl
    obtain ⟨l'', hy'⟩ := h'.yields k l' hy.link
    exact ⟨l'', hy.trans hy'⟩

/-- What comes next collects nothing. -/
theorem extend {xs : Nat → List Frames} (h : s.Follows s' xs) (h' : s'.Follows s'' fun _ ↦ []) :
    s.Follows s'' xs := by
  have htrans := h.trans h'
  simp only [List.append_nil] at htrans
  exact htrans

end Follows

namespace Steady

theorem refl (s : Session) : s.Steady s :=
  ⟨fun _ ↦ rfl, fun _ ↦ rfl, fun _ l hl ↦ ⟨l, .refl hl⟩⟩

theorem trans (h : s.Steady s') (h' : s'.Steady s'') : s.Steady s'' where
  stations v := (h'.stations v).trans (h.stations v)
  phase d := (h'.phase d).trans (h.phase d)
  yields k l hl := by
    obtain ⟨l', hy⟩ := h.yields k l hl
    obtain ⟨l'', hy'⟩ := h'.yields k l' hy.link
    exact ⟨l'', hy.trans hy'⟩

end Steady

section Stations

variable (hstations : ∀ v, s'.station? v = s.station? v)

include hstations

/-- Workers that keep their stations keep stage and dealer. -/
theorem exists_of_stations (hm : s.workers[v]? = some m) :
    ∃ m' : Member, s'.workers[v]? = some m' ∧ m'.stage = m.stage ∧ m'.dealer = m.dealer := by
  have hv := hstations v
  rw [station?, station?, hm] at hv
  obtain ⟨m', hm', heq⟩ := Option.map_eq_some_iff.1 hv
  exact ⟨m', hm', congrArg Prod.fst heq, congrArg Prod.snd heq⟩

/-- They kept them from before as well. -/
theorem exists_of_stations' (hm : s'.workers[v]? = some m) :
    ∃ m' : Member, s.workers[v]? = some m' ∧ m'.stage = m.stage ∧ m'.dealer = m.dealer :=
  exists_of_stations (fun v ↦ (hstations v).symm) hm

/-- What is taken from the links follows while the workers keep their stations. -/
theorem Follows.of_stations {taken : Nat → List Frames}
    (hyields : ∀ (k : Nat) (l : Link), s.hub.links[k]? = some l →
      ∃ l', Hub.Yields k s.hub l (taken k) s'.hub l') :
    s.Follows s' taken where
  stopped v m hm hstage := by
    obtain ⟨m', hm', hstage', hdealer⟩ := exists_of_stations hstations hm
    exact ⟨m', hm', hstage'.trans hstage, hdealer⟩
  yields := hyields

variable (hphase : ∀ d, s'.hub.phase? d = s.hub.phase? d)

include hphase

/-- A worker that has connected stays so while the workers keep their stations. -/
theorem HasConnected.of_stations (hw : s.HasConnected w) : s'.HasConnected w := by
  obtain ⟨m, hm, hconnected⟩ := hw
  obtain ⟨m', hm', -, hdealer⟩ := exists_of_stations hstations hm
  exact ⟨m', hm', by rwa [hdealer, hphase]⟩

/-- Every ticket stays placed while the workers keep their stations and the tickets come from those
that have connected. -/
theorem Placed.of_stations (hp : s.Placed)
    (hkept : ∀ t ∈ s'.kept, t ∈ s.kept ∨ s.HasConnected t.worker) : s'.Placed where
  members v m hm := by
    obtain ⟨m', hm', hstage, hdealer⟩ := exists_of_stations' hstations hm
    have hplaced := hp.members v m' hm'
    rw [Member.Placed, hstage, hdealer] at hplaced
    simp only [Member.Placed, hphase]
    exact hplaced
  tickets t ht := by
    refine HasConnected.of_stations hstations hphase ?_
    exact (hkept t ht).elim (hp.tickets t) id

end Stations

/-- A worker that serves has connected. -/
theorem Placed.hasConnected (hp : s.Placed) (hm : s.workers[w]? = some m)
    (hstage : m.stage = .running) : s.HasConnected w := by
  have hplaced := hp.members w m hm
  rw [Member.Placed, hstage] at hplaced
  obtain ⟨k, hphase⟩ := hplaced
  exact ⟨m, hm, by simp [hphase]⟩

/-- Where links and stations are kept nothing is taken. -/
theorem Steady.follows (h : s.Steady s') : s.Follows s' fun _ ↦ [] :=
  .of_stations h.stations h.yields

/-- Where links, stations and tickets are kept every ticket stays placed. -/
theorem Placed.of_steady (hp : s.Placed) (h : s.Steady s') (hkept : s'.kept = s.kept) : s'.Placed :=
  .of_stations h.stations h.phase hp fun _ ht ↦ .inl (hkept ▸ ht)

/-! ### What leaves the workers where they are -/

/-- An update that leaves the station of its worker leaves all stations. -/
theorem stations_update (s : Session) (w : Nat) {f : Member → Member}
    (hf : ∀ m, (f m).station = m.station) (v : Nat) :
    (s.update w f).station? v = s.station? v := by
  rw [station?, station?, getElem?_update, Option.map_map]
  congr 1
  funext m
  show (if w = v then f m else m).station = m.station
  split
  · exact hf m
  · rfl

/-- A session with the same hub and the same stations has everything where it was. -/
theorem steady_of_hub_eq (hhub : s'.hub = s.hub)
    (hstations : ∀ v, s'.station? v = s.station? v) :
    s.Steady s' := by
  refine ⟨hstations, fun d ↦ by rw [hhub], fun k l hl ↦ ?_⟩
  rw [hhub]
  exact ⟨l, .refl hl⟩

/-- An update that leaves the station of its worker has everything where it was. -/
theorem steady_update (s : Session) (w : Nat) {f : Member → Member}
    (hf : ∀ m, (f m).station = m.station) : s.Steady (s.update w f) :=
  steady_of_hub_eq rfl (s.stations_update w hf)

/-- Heeding a stop has everything where it was. -/
theorem steady_heed (s : Session) (stops : Bool) : s.Steady (s.heed stops) := by
  rw [heed]
  split
  · refine steady_of_hub_eq rfl fun v ↦ ?_
    show (s.workers.map _)[v]?.map Member.station = _
    rw [List.getElem?_map, Option.map_map]
    rfl
  · exact .refl s

section Touched

variable {c : Security} (hh : s.hub.Coherent)

include hh

/-- **What touches a worker leaves it where it is.** -/
theorem Touches.steady (h : Touches w c s s') : s.Steady s' := by
  cases h with
  | update hplace hstage =>
    refine s.steady_update w fun m ↦ ?_
    exact Prod.ext (hstage m) (congrArg (·.1) (hplace m))
  | onHub hm hhub =>
    exact ⟨fun _ ↦ rfl, hhub.phase?, fun _ _ hl ↦ Hub.Yields.handles hh hl hhub⟩
  | record | park | defer => exact steady_of_hub_eq rfl fun _ ↦ rfl

/-- What touches a worker has everything where it was. -/
theorem Touched.steady (h : Touched w c s s') : s.Steady s' := by
  induction h with
  | refl => exact .refl s
  | tail hfirst hlast ih => exact ih.trans (hlast.steady ((Touched.keeps hfirst).hub.coherent hh))

/-- To answer a ticket has everything where it was. -/
theorem steady_decide (t : OpenTicket) (behaviour : Behaviour) : s.Steady (s.decide t behaviour) :=
  (s.steady_heed _).trans
    ((s.touched_decide t behaviour).steady ((s.keeps_heed behaviour.stops).hub.coherent hh))

/-- To dispatch has everything where it was. -/
theorem steady_dispatch (hm : s.workers[w]? = some m) (received : Received) :
    s.Steady (s.dispatch w m received) := by
  set verdict := m.dispatcher.channel.judge received
  have habsorbed := touched_absorb (c := m.security) hm verdict
  have hcoherent := (Touched.keeps habsorbed).hub.coherent hh
  have hasked := keeps_heed (s.absorb w m verdict) verdict.stops
  exact ((Touched.steady hh habsorbed).trans (steady_heed _ verdict.stops)).trans
    (Touched.steady (hasked.hub.coherent hcoherent) (touched_complete _ _))

end Touched

/-! ### Chances to answer -/

theorem kept_of_tickets (h : s'.tickets = s.tickets) : s'.kept = s.kept :=
  congrArg (fun p ↦ p.1 ++ p.2) h

/-- Whatever is kept was kept before, or is kept by the worker that is at it. -/
theorem Touched.mem_kept {c : Security} (h : Touched w c s s') :
    (∀ t ∈ s'.parked, t ∈ s.parked ∨ t.worker = w) ∧
      ∀ t ∈ s'.deferred, t ∈ s.deferred ∨ t.worker = w := by
  have hconcat : ∀ {tickets : List OpenTicket} {t t' : OpenTicket}, t'.worker = w →
      t ∈ tickets ++ [t'] → t ∈ tickets ∨ t.worker = w := by
    rintro tickets t t' hworker ht
    refine (List.mem_append.1 ht).imp_right fun heq ↦ ?_
    rw [List.mem_singleton.1 heq, hworker]
  induction h with
  | refl => exact ⟨fun _ ↦ .inl, fun _ ↦ .inl⟩
  | tail _ hlast ih =>
    obtain ⟨hparked, hdeferred⟩ := ih
    cases hlast with
    | park => exact ⟨fun t ht ↦ (hconcat rfl ht).elim (hparked t) .inr, hdeferred⟩
    | defer => exact ⟨hparked, fun t ht ↦ (hconcat rfl ht).elim (hdeferred t) .inr⟩
    | record | update | onHub => exact ⟨hparked, hdeferred⟩

/-- **What touches a worker that has connected leaves everyone in place.** -/
theorem Placed.touched {c : Security} (hp : s.Placed) (hh : s.hub.Coherent)
    (hw : s.HasConnected w) (h : Touched w c s s') : s'.Placed := by
  have hsteady := Touched.steady hh h
  obtain ⟨hparked, hdeferred⟩ := Touched.mem_kept h
  refine .of_stations hsteady.stations hsteady.phase hp fun t ht ↦ ?_
  have hkept : t ∈ s.kept ∨ t.worker = w := by
    rcases List.mem_append.1 ht with ht | ht
    · exact (hparked t ht).imp_left (List.mem_append_left _)
    · exact (hdeferred t ht).imp_left (List.mem_append_right _)
  refine hkept.imp_right fun heq ↦ ?_
  rw [heq]
  exact hw

/-! ### Connecting and disconnecting -/

theorem tickets_connect (s : Session) (w : Nat) (m : Member) :
    (s.connect w m).tickets = s.tickets := by
  rw [connect]
  dsimp only
  split
  · rfl
  · rw [tickets_conclude]
    rfl

theorem tickets_finish (s : Session) (w : Nat) (m : Member) :
    (s.finish w m).tickets = s.tickets := by
  rw [finish]
  dsimp only
  rw [tickets_conclude]
  rfl

section Ends

variable (hh : s.hub.Coherent) (hm : s.workers[w]? = some m)

include hh

/-- But for the trial to connect, a connection has everything where it was. -/
theorem steady_connect : (s.tried w m).Steady (s.connect w m) :=
  (s.touched_connect (c := m.security) w m).steady ((s.hub.keeps_connect _ _).coherent hh)

/-- But for the draining of the link, finishing has everything where it was. -/
theorem steady_finish : (s.drained w m).Steady (s.finish w m) :=
  (s.touched_finish (c := m.security) w m).steady ((s.hub.keeps_disconnect _).coherent hh)

include hm

/-- Where an attempt to connect leads a worker. -/
theorem exists_connect :
    ∃ m', (s.connect w m).workers[w]? = some m' ∧ m'.dealer = m.dealer ∧
      m'.stage = m.stage.after (Worker.connectChange (s.hub.connect m.dealer m.endpoint).1) := by
  have htried : (s.tried w m).workers[w]? =
      some (m.change (Worker.connectChange (s.hub.connect m.dealer m.endpoint).1)) :=
    getElem?_update_self hm _
  obtain ⟨m', hm', hstage, hdealer⟩ := exists_of_stations (steady_connect hh).stations htried
  exact ⟨m', hm', hdealer, hstage⟩

/-- A worker that has finished has passed through the stages to its end. -/
theorem exists_finish :
    ∃ m', (s.finish w m).workers[w]? = some m' ∧ m'.dealer = m.dealer ∧
      m'.stage = (m.stage.after .stopObserved).after .disconnected := by
  have hdrained : (s.drained w m).workers[w]? =
      some ((m.change .stopObserved).change .disconnected) := getElem?_update_self hm _
  obtain ⟨m', hm', hstage, hdealer⟩ := exists_of_stations (steady_finish hh).stations hdrained
  exact ⟨m', hm', hdealer, hstage⟩

end Ends

section Moves

variable {settings : Settings} {registry : Registry (Handler Binding)}
  (hs : s.Sound settings registry) (hp : s.Placed)

/-- A worker that is not stopped moves, and those that are stay so. -/
theorem Follows.of_spares (hm : s.workers[w]? = some m) (hstage : m.stage ≠ .stopped)
    (hspares : Spares w d s s') (hyields : ∀ (k : Nat) (l : Link), s.hub.links[k]? = some l →
      ∃ l', Hub.Yields k s.hub l [] s'.hub l') : s.Follows s' fun _ ↦ [] where
  stopped v m' hm' hstopped := by
    have hwv : w ≠ v := by
      rintro rfl
      obtain rfl := Option.some.inj (hm.symm.trans hm')
      exact hstage hstopped
    exact ⟨m', (hspares.others v hwv).trans hm', hstopped, rfl⟩
  yields := hyields

include hs hp

/-- One worker moves to another place, and the others stay where they are. -/
theorem Placed.of_spares (hm : s.workers[w]? = some m) (hspares : Spares w m.dealer s s')
    (hphase : ∀ e, m.dealer ≠ e → s'.hub.phase? e = s.hub.phase? e)
    (hself : ∀ m', s'.workers[w]? = some m' → m'.Placed s'.hub)
    (hconnected : s.HasConnected w → s'.HasConnected w) (hkept : s'.kept = s.kept) : s'.Placed where
  members v m' hm' := by
    by_cases hwv : w = v
    · subst hwv
      exact hself m' hm'
    · rw [hspares.others v hwv] at hm'
      have hplaced := hp.members v m' hm'
      rw [Member.Placed, hphase _ (hs.dealer_ne (Ne.symm hwv) hm hm')]
      exact hplaced
  tickets t ht := by
    rw [hkept] at ht
    have hbefore := hp.tickets t ht
    by_cases hwt : w = t.worker
    · subst hwt
      exact hconnected hbefore
    · obtain ⟨m', hm', hphase'⟩ := hbefore
      refine ⟨m', (hspares.others _ hwt).trans hm', ?_⟩
      rwa [hphase _ (hs.dealer_ne (Ne.symm hwt) hm hm')]

/-- To connect places the worker and takes nothing from the links. -/
theorem Placed.connect (hm : s.workers[w]? = some m) (hstage : m.stage = .idle) :
    (s.connect w m).Placed ∧ s.Follows (s.connect w m) fun _ ↦ [] := by
  have hsteady := steady_connect (w := w) (m := m) hs.coherent
  have hphases : ∀ d, (s.connect w m).hub.phase? d =
      (s.hub.connect m.dealer m.endpoint).2.phase? d := hsteady.phase
  have hspares := Done.spares (dealer_of_getElem? hm) (done_connect (c := m.security) hm)
  have hidle : s.hub.phase? m.dealer = some .unconnected := by
    have hplaced := hp.members w m hm
    rwa [Member.Placed, hstage] at hplaced
  refine ⟨.of_spares hs hp hm hspares (fun e he ↦ ?_) (fun m' hm' ↦ ?_) (fun hw ↦ ?_)
    (kept_of_tickets (s.tickets_connect w m)), .of_spares hm ?_ hspares fun k l hl ↦ ?_⟩
  · rw [hphases, Hub.phase?_connect_of_ne he]
  · obtain ⟨m'', hm'', hdealer, hstage'⟩ := exists_connect hs.coherent hm
    obtain rfl := Option.some.inj (hm'.symm.trans hm'')
    rw [hstage] at hstage'
    rw [Member.Placed, hdealer, hphases]
    rcases s.hub.connect_cases m.dealer m.endpoint with
      ⟨cause, hconnect⟩ | ⟨k, dealer, l, hd, -, -, hconnect⟩
    · rw [hconnect] at hstage' ⊢
      rw [hstage']
      exact .inl hidle
    · rw [hconnect] at hstage' ⊢
      rw [hstage']
      refine ⟨k, ?_⟩
      exact Hub.phase?_of_getElem?
        (Hub.getElem?_updateDealer_self (h := s.hub.updateLink k _) hd _)
  · -- a worker that has yet to connect never did
    obtain ⟨m', hm', hconnected⟩ := hw
    obtain rfl := Option.some.inj (hm.symm.trans hm')
    exact absurd hidle hconnected
  · rw [hstage]
    exact Stage.noConfusion
  · have hopen : s.hub.phase? m.dealer ≠ some .closed := by
      rw [hidle]
      simp
    obtain ⟨l', hy⟩ := Hub.Yields.connect hl m.dealer m.endpoint hopen
    obtain ⟨l'', hy'⟩ := hsteady.yields k l' hy.link
    exact ⟨l'', hy.trans hy'⟩

/-- To finish places the worker and takes nothing from the links. -/
theorem Placed.finish (hm : s.workers[w]? = some m) (hstage : m.stage = .running) :
    (s.finish w m).Placed ∧ s.Follows (s.finish w m) fun _ ↦ [] := by
  have hsteady := steady_finish (w := w) (m := m) hs.coherent
  have hphases : ∀ d, (s.finish w m).hub.phase? d = (s.hub.disconnect m.dealer).2.phase? d :=
    hsteady.phase
  have hspares := Done.spares (dealer_of_getElem? hm) (done_finish (c := m.security) hm)
  obtain ⟨k, hphase⟩ : ∃ k, s.hub.phase? m.dealer = some (.connected k) := by
    have hplaced := hp.members w m hm
    rwa [Member.Placed, hstage] at hplaced
  have hclosed : (s.finish w m).hub.phase? m.dealer = some .closed := by
    rw [hphases, Hub.phase?_disconnect hphase]
  obtain ⟨m', hm', hdealer, hstage'⟩ := exists_finish hs.coherent hm
  refine ⟨.of_spares hs hp hm hspares (fun e he ↦ ?_) (fun m'' hm'' ↦ ?_) (fun _ ↦ ?_)
    (kept_of_tickets (s.tickets_finish w m)), .of_spares hm ?_ hspares fun j l hl ↦ ?_⟩
  · rw [hphases, Hub.phase?_disconnect_of_ne he]
  · obtain rfl := Option.some.inj (hm'.symm.trans hm'')
    rw [hstage] at hstage'
    rw [Member.Placed, hdealer, hstage']
    exact .inr hclosed
  · refine ⟨m', hm', ?_⟩
    rw [hdealer, hclosed]
    simp
  · rw [hstage]
    exact Stage.noConfusion
  · obtain ⟨l', hy⟩ := Hub.Yields.disconnect hl hphase
    obtain ⟨l'', hy'⟩ := hsteady.yields j l' hy.link
    exact ⟨l'', hy.trans hy'⟩

end Moves

end Session

end QueryDispatch
