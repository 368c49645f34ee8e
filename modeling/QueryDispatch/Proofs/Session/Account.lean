import QueryDispatch.Proofs.Session.Place

/-!
# What the services of a session get

Whatever is done in a session, workers and dealers stay in step (`Placed`), and the account of every
service goes on (`Follows`): move by move, turn by turn and step by step. Only two steps take
replies for a service, and `handed` says which.

## Main results

* `Continues.advance`: a worker's move goes on with all accounts, and nothing is collected in it.
* `account_step`: a step goes on with all accounts, with what it hands out.
* `account_run`: and so does a list of steps.
* `placed_run`: in every session that can come about, workers are where their dealers are.
-/

namespace QueryDispatch.Session

/-- The frames handed out with an answer. -/
def Answer.frames : Answer → List Frames
  | .drained messages => messages
  | .collected found => found.message?.toList
  | _ => []

/-- The name of the service that a step takes replies of. -/
def Step.source? : Step → Option String
  | .drain name | .collect name => some name
  | _ => none

/-- The replies that a step takes of the service with this number. -/
def handed (s : Session) (k : Nat) (st : Step) : List Frames :=
  if (st.source?.bind s.services.get?) = some k then (s.act st).1.frames else []

/-- The replies that a list of steps takes of the service with this number. -/
def handedAll (s : Session) (k : Nat) : List Step → List Frames
  | [] => []
  | st :: rest => s.handed k st ++ (s.step st).handedAll k rest

/-- The session is sound, everyone is in place, and it follows `s` with nothing collected. -/
structure Continues (settings : Settings) (registry : Registry (Handler Binding))
    (s s' : Session) : Prop where
  sound : s'.Sound settings registry
  placed : s'.Placed
  follows : s.Follows s' fun _ ↦ []

variable {settings : Settings} {registry : Registry (Handler Binding)} {s s' s'' : Session}
  {w : Nat} {m : Member}

namespace Continues

theorem refl (hs : s.Sound settings registry) (hp : s.Placed) : Continues settings registry s s :=
  ⟨hs, hp, .refl s⟩

/-- What has everything where it was continues the account. -/
theorem steady (h : Continues settings registry s s') (hsteady : s'.Steady s'')
    (hkeeps : s'.Keeps s'') (hkept : s''.kept = s'.kept) : Continues settings registry s s'' :=
  ⟨h.sound.of_keeps hkeeps, h.placed.of_steady hsteady hkept, h.follows.extend hsteady.follows⟩

/-- Names and chances to answer may be lost. -/
theorem of_kept (h : Continues settings registry s s') (hsettings : s''.settings = s'.settings)
    (hregistry : s''.registry = s'.registry) (hhub : s''.hub = s'.hub)
    (hworkers : s''.workers = s'.workers) (hkept : ∀ t ∈ s''.kept, t ∈ s'.kept) :
    Continues settings registry s s'' := by
  have hstations : ∀ v, s''.station? v = s'.station? v := fun v ↦ by
    rw [station?, station?, hworkers]
  refine ⟨h.sound.of_eq hsettings hregistry hhub (congrArg (List.map Member.post) hworkers), ?_,
    h.follows.extend (steady_of_hub_eq hhub hstations).follows⟩
  exact h.placed.of_stations hstations (fun d ↦ by rw [hhub]) fun t ht ↦ .inl (hkept t ht)

/-- What touches a worker that has connected. -/
theorem touched {c : Security} (h : Continues settings registry s s') (hw : s'.HasConnected w)
    (ht : Touched w c s' s'') : Continues settings registry s s'' where
  sound := h.sound.of_keeps (Touched.keeps ht)
  placed := h.placed.touched h.sound.coherent hw ht
  follows := h.follows.extend (Touched.steady h.sound.coherent ht).follows

theorem heed (h : Continues settings registry s s') (stops : Bool) :
    Continues settings registry s (s'.heed stops) :=
  h.steady (s'.steady_heed stops) (s'.keeps_heed stops)
    (kept_of_tickets (s'.tickets_heed stops))

theorem requestStop (h : Continues settings registry s s') (w : Nat) :
    Continues settings registry s (s'.requestStop w) := by
  refine h.steady (s'.steady_update w ?_) (s'.keeps_requestStop w) rfl
  exact fun _ ↦ rfl

theorem join (h : Continues settings registry s s') (w : Nat) :
    Continues settings registry s (s'.join w).2 := by
  refine h.steady (s'.steady_update w ?_) (s'.keeps_join w) rfl
  exact fun _ ↦ rfl

/-- To dispatch continues the account. -/
theorem dispatch (h : Continues settings registry s s') (hw : s'.HasConnected w)
    (hm : s'.workers[w]? = some m) (received : Received) :
    Continues settings registry s (s'.dispatch w m received) := by
  set verdict := m.dispatcher.channel.judge received
  have habsorb := touched_absorb (c := m.security) hm verdict
  have hsteady := (Touched.steady h.sound.coherent habsorb).trans (steady_heed _ verdict.stops)
  have hasked := (h.touched hw habsorb).heed verdict.stops
  exact hasked.touched (hw.of_stations hsteady.stations hsteady.phase) (touched_complete _ _)

/-- **A worker's move goes on with every account.** -/
theorem advance (h : Continues settings registry s s') (w : Nat) :
    Continues settings registry s (s'.advance w) := by
  have hsound := h.sound.of_keeps (s'.keeps_advance w)
  have hmoves := s'.moves_advance w
  generalize s'.advance w = z at hmoves hsound ⊢
  cases hmoves with
  | rests => exact h
  | connects hm _ hstage =>
    obtain ⟨hplaced, hfollows⟩ := h.placed.connect h.sound hm hstage
    exact ⟨hsound, hplaced, h.follows.extend hfollows⟩
  | stops hm _ hstage =>
    obtain ⟨hplaced, hfollows⟩ := h.placed.finish h.sound hm hstage
    exact ⟨hsound, hplaced, h.follows.extend hfollows⟩
  | @fails m cause hm _ hstage =>
    have hpolled : Touched w m.security s' (s'.onHub (s'.hub.poll m.dealer).2) :=
      touched_onHub hm .poll
    have hside : (s'.onHub (s'.hub.poll m.dealer).2).side? w = some m.security :=
      side?_of_getElem? hm
    have hnoted := h.touched (h.placed.hasConnected hm hstage) (hpolled.trans (touched_note hside
      fun n (hn : n ∈ Worker.pollNotices m.security cause) ↦ Worker.security_pollNotices hn))
    obtain ⟨hplaced, hfollows⟩ := hnoted.placed.finish hnoted.sound hm hstage
    exact ⟨hsound, hplaced, hnoted.follows.extend hfollows⟩
  | @receives m frames hm _ hstage =>
    have hpolled : Touched w m.security s' (s'.onHub (s'.hub.poll m.dealer).2) :=
      touched_onHub hm .poll
    have htaken := h.touched (h.placed.hasConnected hm hstage)
      (hpolled.trans (touched_onHub (s := s'.onHub (s'.hub.poll m.dealer).2) hm .receive))
    exact htaken.dispatch (htaken.placed.hasConnected hm hstage) hm _

/-- Advances continue the account. -/
theorem advances (h : Continues settings registry s s') (w n : Nat) :
    Continues settings registry s (s'.advances w n) := by
  induction n generalizing s' with
  | zero => exact h
  | succ n ih => exact ih (h.advance w)

/-- A turn continues the account. -/
theorem turn (h : Continues settings registry s s') (w : Nat) :
    Continues settings registry s (s'.turn w) := (h.advance w).advances w _

/-- Turns continue the account. -/
theorem foldl_turn (h : Continues settings registry s s') (ws : List Nat) :
    Continues settings registry s (ws.foldl Session.turn s') := by
  induction ws generalizing s' with
  | nil => exact h
  | cons w rest ih => exact ih (h.turn w)

theorem turns (h : Continues settings registry s s') : Continues settings registry s s'.turns :=
  h.foldl_turn _

/-- To answer a ticket of a worker that has connected continues the account. -/
theorem decide (h : Continues settings registry s s') {t : OpenTicket}
    (ht : s'.HasConnected t.worker) (behaviour : Behaviour) :
    Continues settings registry s (s'.decide t behaviour) := by
  have hsteady := s'.steady_heed behaviour.stops
  exact (h.heed behaviour.stops).touched (ht.of_stations hsteady.stations hsteady.phase)
    (s'.touched_decide t behaviour)

/-- A flush continues the account. -/
theorem flush (h : Continues settings registry s s') : Continues settings registry s s'.flush := by
  have htickets : ∀ t ∈ s'.deferred, s'.HasConnected t.worker := fun t ht ↦
    h.placed.tickets t (List.mem_append_right _ ht)
  have hempty : Continues settings registry s { s' with deferred := [] } := by
    refine h.of_kept rfl rfl rfl rfl fun t ht ↦ List.mem_append_left _ ?_
    rwa [kept, List.append_nil] at ht
  have hfoldl : ∀ (tickets : List OpenTicket) {z : Session}, Continues settings registry s z →
      (∀ t ∈ tickets, z.HasConnected t.worker) →
        Continues settings registry s (tickets.foldl (fun s t ↦ s.decide t .echo) z) := by
    intro tickets
    induction tickets with
    | nil => exact fun h _ ↦ h
    | cons t rest ih =>
      intro z h hconnected
      have hsteady := steady_decide h.sound.coherent t .echo
      refine ih (h.decide (hconnected t List.mem_cons_self) .echo) fun t' ht' ↦ ?_
      exact (hconnected t' (List.mem_cons_of_mem t ht')).of_stations hsteady.stations hsteady.phase
  exact hfoldl s'.deferred hempty htickets

/-- To settle continues the account. -/
theorem settle (h : Continues settings registry s s') : Continues settings registry s s'.settle :=
  h.turns.turns.flush

/-- What is done on a worker by its name continues the account. -/
theorem attend (hs : s.Sound settings registry) (hp : s.Placed) (name : String)
    {f : Nat → Answer × Session} (hf : ∀ w, Continues settings registry s (f w).2) :
    Continues settings registry s (s.attend name f).2 := by
  rw [Session.attend]
  split
  · exact .refl hs hp
  · split
    · exact hf _
    · exact .refl hs hp

end Continues

/-! ### Steps -/

section Acts

variable (hs : s.Sound settings registry) (hp : s.Placed)

include hp

/-- What is done on the hub without any worker. -/
theorem account_of_hub {taken : Nat → List Frames} (hworkers : s'.workers = s.workers)
    (hkept : s'.kept = s.kept) (hphase : ∀ d, s'.hub.phase? d = s.hub.phase? d)
    (hyields : ∀ (k : Nat) (l : Link), s.hub.links[k]? = some l →
      ∃ l', Hub.Yields k s.hub l (taken k) s'.hub l') :
    s'.Placed ∧ s.Follows s' taken := by
  have hstations : ∀ v, s'.station? v = s.station? v := fun v ↦ by
    rw [station?, station?, hworkers]
  exact ⟨hp.of_stations hstations hphase fun _ ht ↦ .inl (hkept ▸ ht),
    .of_stations hstations hyields⟩

/-- To bind takes nothing from the links. -/
theorem account_bind (name : String) (security : Security) :
    (s.bind name security).2.Placed ∧ s.Follows (s.bind name security).2 fun _ ↦ [] := by
  rw [Session.bind]
  split
  · exact ⟨hp, .refl s⟩
  · exact ⟨hp, .refl s⟩
  · next j hub hbind =>
    have hphase : ∀ d, hub.phase? d = s.hub.phase? d := by
      obtain ⟨-, rfl⟩ := Hub.eq_of_bind hbind
      exact fun _ ↦ rfl
    -- the name may have stood for another service, which is dropped
    rcases s.services.get? name with - | old
    · exact account_of_hub hp rfl rfl hphase fun k l hl ↦ ⟨l, .bind hl hbind⟩
    · refine account_of_hub hp rfl rfl hphase fun k l hl ↦ ?_
      have hbound := Hub.Yields.bind hl hbind
      obtain ⟨l', hy⟩ := Hub.Yields.unbind hbound.link old
      exact ⟨l', hbound.trans hy⟩

/-- To unbind takes nothing from the links. -/
theorem account_unbind (name : String) :
    (s.unbind name).2.Placed ∧ s.Follows (s.unbind name).2 fun _ ↦ [] := by
  rw [Session.unbind]
  split
  · exact ⟨hp, .refl s⟩
  · next j _ =>
    exact account_of_hub hp rfl rfl (fun _ ↦ rfl) fun k l hl ↦ Hub.Yields.unbind hl j

/-- Replies are handed out of the link that the name stands for. -/
theorem account_withService (name : String) {f : Nat → Answer × Hub}
    (hphase : ∀ j d, (f j).2.phase? d = s.hub.phase? d)
    (hyields : ∀ (j k : Nat) (l : Link), s.hub.links[k]? = some l →
      ∃ l', Hub.Yields k s.hub l (if j = k then (f j).1.frames else []) (f j).2 l') :
    (s.withService name f).2.Placed ∧ s.Follows (s.withService name f).2 fun k ↦
      if s.services.get? name = some k then (s.withService name f).1.frames else [] := by
  rw [withService]
  rcases s.services.get? name with - | j
  · exact ⟨hp, .refl s⟩
  · refine account_of_hub hp rfl rfl (hphase j) fun k l hl ↦ ?_
    obtain ⟨l', hy⟩ := hyields j k l hl
    simp only [Option.some.injEq]
    exact ⟨l', hy⟩

include hs

/-- To start a worker takes nothing from the links. -/
theorem account_start (name : String) (security : Security) :
    (s.start name security).Placed ∧ s.Follows (s.start name security) fun _ ↦ [] := by
  set s' := s.start name security with hs'
  have hworker : ∀ {v : Nat} {m : Member}, s.workers[v]? = some m →
      s'.workers[v]? = some m ∧ s'.hub.phase? m.dealer = s.hub.phase? m.dealer := by
    intro v m hm
    have hlength := (hs.posted m.post (List.mem_map_of_mem (List.mem_of_getElem? hm))).1
    refine ⟨getElem?_append_of_eq_some hm _, ?_⟩
    exact congrArg (Option.map Dealer.phase) (List.getElem?_append_left hlength)
  refine ⟨⟨fun v m hm ↦ ?_, fun t ht ↦ ?_⟩, ⟨fun v m hm hstage ↦ ?_, fun k l hl ↦ ?_⟩⟩
  · rcases hv : s.workers[v]? with - | m'
    · -- the only worker that was not there is the new one, and it is idle
      have hlength := (List.getElem?_eq_some_iff.1 hm).1
      have hnew : v = s.workers.length := by
        have hge := List.getElem?_eq_none_iff.1 hv
        have hlt : v < (s.workers ++ [_]).length := hlength
        rw [List.length_append, List.length_singleton] at hlt
        omega
      subst hnew
      obtain rfl := Option.some.inj ((List.getElem?_concat_length.symm.trans hm))
      exact congrArg (Option.map Dealer.phase) List.getElem?_concat_length
    · obtain ⟨hm', hphase⟩ := hworker hv
      obtain rfl := Option.some.inj (hm.symm.trans hm')
      rw [Member.Placed, hphase]
      exact hp.members v m hv
  · obtain ⟨m, hm, hconnected⟩ := hp.tickets t ht
    obtain ⟨hm', hphase⟩ := hworker hm
    exact ⟨m, hm', hphase ▸ hconnected⟩
  · exact ⟨m, (hworker hm).1, hstage, rfl⟩
  · exact ⟨l, .newDealer hl⟩

end Acts

/-- To deliver leaves what the dealers are connected to. -/
theorem still_delivers (hub : Hub) (k : Nat) (messages : List Frames) :
    hub.Still (deliver hub k messages).2 := by
  induction messages generalizing hub with
  | nil => exact .refl hub
  | cons frames rest ih => exact (hub.still_deliver k frames).trans (ih _)

/-- To drain leaves the phase of every dealer. -/
theorem phase?_drain (hub : Hub) (j n d : Nat) : (drain hub j n).2.phase? d = hub.phase? d := by
  induction n generalizing hub with
  | zero => rfl
  | succ n ih =>
    rw [drain]
    split
    · next frames hub' hcollect =>
      have hfirst := hub.phase?_collect j d
      rw [hcollect] at hfirst
      exact (ih hub').trans hfirst
    · rfl

/-- To drain a link takes from it what it gives, and nothing from the others. -/
theorem yields_drain {hub : Hub} {k : Nat} {l : Link} (hl : hub.links[k]? = some l) (j n : Nat) :
    ∃ l', Hub.Yields k hub l (if j = k then (drain hub j n).1 else []) (drain hub j n).2 l' := by
  induction n generalizing hub l with
  | zero =>
    rw [drain, ite_self]
    exact ⟨l, .refl hl⟩
  | succ n ih =>
    obtain ⟨l', hy⟩ := Hub.Yields.collect hl j
    rw [drain]
    rcases hcollect : hub.collect j with ⟨frames | - | -, hub'⟩
    · rw [hcollect] at hy
      obtain ⟨l'', hy'⟩ := ih hy.link
      refine ⟨l'', ?_⟩
      have htrans := hy.trans hy'
      by_cases hjk : j = k
      · rw [if_pos hjk] at htrans ⊢
        rw [if_pos hjk] at htrans
        exact htrans
      · rw [if_neg hjk] at htrans ⊢
        rw [if_neg hjk] at htrans
        exact htrans
    all_goals
      rw [ite_self]
      exact ⟨l, .refl hl⟩

/-- To send takes nothing from the links. -/
theorem account_send (hp : s.Placed) (name : String) (messages : List Frames) :
    (s.act (.send name messages)).2.Placed ∧
      s.Follows (s.act (.send name messages)).2 fun _ ↦ [] := by
  rw [act, withService]
  split
  · exact ⟨hp, .refl s⟩
  · next j _ =>
    have hstill := still_delivers s.hub j messages
    exact account_of_hub hp rfl rfl hstill.phase fun k l hl ↦ Hub.Yields.of_still hl hstill

/-- To release a ticket continues the account. -/
theorem account_release (hs : s.Sound settings registry) (hp : s.Placed) (index : Nat)
    (behaviour : Behaviour) :
    Continues settings registry s (s.releaseAt index behaviour).2 := by
  rw [releaseAt]
  split
  · exact .refl hs hp
  · next t ht =>
    have htaken : Continues settings registry s { s with parked := s.parked.eraseIdx index } := by
      refine (Continues.refl hs hp).of_kept rfl rfl rfl rfl fun t' ht' ↦ ?_
      refine List.mem_append.2 ((List.mem_append.1 ht').imp_left ?_)
      exact List.mem_of_mem_eraseIdx
    have hconnected := hp.tickets t (List.mem_append_left _ (List.mem_of_getElem? ht))
    exact htaken.decide (hconnected.of_stations (fun _ ↦ rfl) fun _ ↦ rfl) behaviour

/-- **What is done from outside goes on with every account**, with what it hands out. -/
theorem account_act (hs : s.Sound settings registry) (hp : s.Placed) (st : Step) :
    (s.act st).2.Placed ∧ s.Follows (s.act st).2 fun k ↦ s.handed k st := by
  have hcontinues : ∀ {z : Session}, Continues settings registry s z →
      z.Placed ∧ s.Follows z fun _ ↦ [] := fun h ↦ ⟨h.placed, h.follows⟩
  have hrefl := Continues.refl hs hp
  cases st with
  | bind name security => exact account_bind hp name security
  | unbind name => exact account_unbind hp name
  | start name security => exact account_start hs hp name security
  | send name messages => exact account_send hp name messages
  | drain name =>
    exact account_withService hp name (fun j d ↦ phase?_drain s.hub j _ d)
      fun j k l hl ↦ yields_drain hl j _
  | collect name =>
    exact account_withService hp name (fun j d ↦ s.hub.phase?_collect j d)
      fun j k l hl ↦ Hub.Yields.collect hl j
  | stop name => exact hcontinues (.attend hs hp name fun w ↦ hrefl.requestStop w)
  | join name => exact hcontinues (.attend hs hp name fun w ↦ hrefl.join w)
  | shutdown name =>
    exact hcontinues (.attend hs hp name fun w ↦ ((hrefl.requestStop w).turn w).join w)
  | release index behaviour => exact hcontinues (account_release hs hp index behaviour)

/-- **A step goes on with every account**, with what it hands out. -/
theorem account_step (hs : s.Sound settings registry) (hp : s.Placed) (st : Step) :
    (s.step st).Placed ∧ s.Follows (s.step st) fun k ↦ s.handed k st := by
  obtain ⟨hplaced, hfollows⟩ := account_act hs hp st
  have hsettle := (Continues.refl (hs.act st) hplaced).settle
  exact ⟨hsettle.placed, hfollows.extend hsettle.follows⟩

/-- **And so does a list of steps.** -/
theorem account_run (hs : s.Sound settings registry) (hp : s.Placed) (steps : List Step) :
    (s.run steps).Placed ∧ s.Follows (s.run steps) fun k ↦ s.handedAll k steps := by
  induction steps generalizing s with
  | nil => exact ⟨hp, .refl s⟩
  | cons st rest ih =>
    obtain ⟨hplaced, hfollows⟩ := account_step hs hp st
    obtain ⟨hplaced', hfollows'⟩ := ih (hs.step st) hplaced
    exact ⟨hplaced', hfollows.trans hfollows'⟩

/-- **In every session, workers are where their dealers are.** -/
theorem placed_run (settings : Settings) (registry : Registry (Handler Binding))
    (steps : List Step) : ((fresh settings registry).run steps).Placed := by
  refine (account_run (sound_fresh settings registry) ⟨fun v m hm ↦ ?_, fun t ht ↦ ?_⟩ steps).1
  · cases hm
  · cases ht

end QueryDispatch.Session
