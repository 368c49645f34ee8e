import QueryDispatch.Proofs.Hub.Work
import QueryDispatch.Proofs.Session.Rest

/-!
# The two sides of a session

The services and workers of a session belong to one channel each, as a `Roster` of their names says.
The two sides share the hub, the registry and the turns, but not an address: who takes a link at the
endpoint of a channel is a worker of that channel (`Manned`).

What a worker does (`Does`) is on its own side: it changes the hub at the endpoint of its channel
only, its own state, and what is written down about its channel. So far as handlers ask nobody to
stop, this is all that comes of its turn (`done_turn`).
-/

namespace QueryDispatch

/-- The channel that each name is used for. -/
structure Roster where
  services : String → Security
  workers : String → Security

/-- Whether a name is used for services of a channel. -/
def Roster.serves (roster : Roster) (c : Security) (name : String) : Bool :=
  roster.services name == c

namespace Session

/-- Everybody is where they belong, and no handler asks anyone to stop. -/
structure Manned (roster : Roster) (s : Session) : Prop where
  sound : s.Sound s.settings s.registry
  distinct : s.settings.secureEndpoint ≠ s.settings.publicEndpoint
  lasting : s.registry.All fun handler ↦ handler.stops = false
  dealers : s.hub.dealers.length = s.workers.length
  /-- Workers and their dealers have the same numbers. -/
  dealer : ∀ {w : Nat} {m : Member}, s.workers[w]? = some m → m.dealer = w
  endpoint : ∀ {w : Nat} {m : Member}, s.workers[w]? = some m →
    m.endpoint = s.settings.endpoint m.security
  /-- A link is taken by a worker that goes to its address. -/
  taker : ∀ (k : Nat) (l : Link) (d : Nat), s.hub.links[k]? = some l → l.taker = some d →
    ∃ side, s.side? d = some side ∧ l.address = s.settings.endpoint side
  deferred : ∀ t ∈ s.deferred, s.side? t.worker = some t.ticket.security
  service : ∀ e ∈ s.services.entries, ∃ l, s.hub.links[e.2]? = some l ∧
    l.address = s.settings.endpoint (roster.services e.1)
  worker : ∀ {name : String} {w : Nat}, s.names.get? name = some w →
    s.side? w = some (roster.workers name)

/-- Everybody is where they belong, and worker `w` is of the channel. -/
structure Employs (roster : Roster) (w : Nat) (side : Security) (s : Session) : Prop where
  manned : s.Manned roster
  side : s.side? w = some side

variable {roster : Roster} {s s' : Session} {w d : Nat} {m : Member} {side : Security}

/-- The two endpoints differ. -/
theorem Manned.endpoint_inj (hs : s.Manned roster) {side side' : Security}
    (h : s.settings.endpoint side = s.settings.endpoint side') : side = side' := by
  cases side <;> cases side'
  · rfl
  · exact absurd h hs.distinct
  · exact absurd h.symm hs.distinct
  · rfl

/-- The endpoints of the two channels differ. -/
theorem Manned.endpoint_ne (hs : s.Manned roster) {side c : Security} (hne : side ≠ c) :
    (s.settings.endpoint side == s.settings.endpoint c) = false :=
  beq_eq_false_iff_ne.2 fun heq ↦ hne (hs.endpoint_inj heq)

/-- A worker goes to the endpoint of its channel. -/
theorem Employs.goesTo (h : s.Employs roster w side) :
    s.hub.GoesTo w (s.settings.endpoint side) := by
  refine h.manned.sound.coherent.goesTo fun k l hl htaker ↦ ?_
  obtain ⟨side', hside', haddress⟩ := h.manned.taker k l w hl htaker
  rw [haddress, Option.some.inj (h.side.symm.trans hside')]

/-- A worker that is employed is there, at the endpoint of its channel. -/
theorem Employs.exists_member (h : s.Employs roster w side) :
    ∃ m, s.workers[w]? = some m ∧ m.dealer = w ∧ m.endpoint = s.settings.endpoint side ∧
      m.security = side := by
  obtain ⟨m, hm, hside⟩ := exists_of_side? h.side
  exact ⟨m, hm, h.manned.dealer hm, hside ▸ h.manned.endpoint hm, hside⟩

/-! ### What touches keep -/

/-- The hub is touched at the endpoint of a channel, by one of its workers or a service. -/
theorem Manned.onHub (hs : s.Manned roster) {actor : Option Nat} {hub : Hub}
    (hactor : ∀ d, actor = some d → s.side? d = some side)
    (hworked : Hub.Worked actor (s.settings.endpoint side) s.hub hub)
    (hkeeps : s.hub.Keeps hub) : (s.onHub hub).Manned roster :=
  { hs with
    sound := hs.sound.of_keeps (s.keeps_onHub hkeeps)
    dealers := hkeeps.dealers.trans hs.dealers
    taker := hworked.takers (P := fun d address ↦ ∃ side, s.side? d = some side ∧
      address = s.settings.endpoint side) (fun d hd ↦ ⟨side, hactor d hd, rfl⟩) hs.taker
    service := by
      intro e he
      obtain ⟨l, hl, haddress⟩ := hs.service e he
      obtain ⟨l', hl', haddress'⟩ := hworked.link hl
      exact ⟨l', hl', haddress'.trans haddress⟩ }

/-- A worker changes, but not its place. -/
theorem Manned.update (hs : s.Manned roster) {f : Member → Member}
    (hf : ∀ m, (f m).place = m.place) : (s.update w f).Manned roster where
  sound := hs.sound.of_keeps (keeps_update hf)
  distinct := hs.distinct
  lasting := hs.lasting
  dealers := hs.dealers.trans (List.length_modify ..).symm
  dealer := by
    intro v m' hm'
    rw [getElem?_update] at hm'
    obtain ⟨m, hm, rfl⟩ := Option.map_eq_some_iff.1 hm'
    split
    · exact (congrArg (fun place ↦ place.1) (hf m)).trans (hs.dealer hm)
    · exact hs.dealer hm
  endpoint := by
    intro v m' hm'
    rw [getElem?_update] at hm'
    obtain ⟨m, hm, rfl⟩ := Option.map_eq_some_iff.1 hm'
    split
    · rw [Member.security_of_place (hf m)]
      exact (congrArg (fun place ↦ place.2.1) (hf m)).trans (hs.endpoint hm)
    · exact hs.endpoint hm
  taker := by
    simp only [side?_update hf]
    exact hs.taker
  deferred := by
    simp only [side?_update hf]
    exact hs.deferred
  service := hs.service
  worker := by
    simp only [side?_update hf]
    exact hs.worker

/-- What a worker does on the hub is done at the endpoint of its channel. -/
theorem Employs.worked (h : s.Employs roster w side) (hm : s.workers[w]? = some m) {hub : Hub}
    (hhub : s.hub.Acts m.dealer m.endpoint hub) :
    Hub.Worked (some w) (s.settings.endpoint side) s.hub hub := by
  have hside : m.security = side := Option.some.inj ((side?_of_getElem? hm).symm.trans h.side)
  rw [h.manned.dealer hm, h.manned.endpoint hm, hside] at hhub
  exact hhub.worked h.goesTo

/-- **What a worker does leaves everybody where they belong.** -/
theorem Employs.does (h : s.Employs roster w side) (hd : Does w side s s') :
    s'.Employs roster w side := by
  have hupdate : ∀ {f : Member → Member}, (∀ m, (f m).place = m.place) →
      (s.update w f).Employs roster w side := fun hplace ↦
    ⟨h.manned.update hplace, (side?_update hplace w).trans h.side⟩
  have honHub : ∀ {m : Member} {hub : Hub}, s.workers[w]? = some m →
      s.hub.Acts m.dealer m.endpoint hub → (s.onHub hub).Employs roster w side := fun hm hhub ↦
    ⟨h.manned.onHub (fun d hd ↦ Option.some.inj hd ▸ h.side) (h.worked hm hhub) hhub.keeps, h.side⟩
  have hsound : s.Sound s.settings s.registry := h.manned.sound
  cases hd with
  | touches ht =>
    cases ht with
    | update hplace => exact hupdate hplace
    | onHub hm hhub => exact honHub hm (.handles hhub)
    | record | park => exact ⟨{ h.manned with sound := hsound.of_eq rfl rfl rfl rfl }, h.side⟩
    | defer number r =>
      refine ⟨{ h.manned with sound := hsound.of_eq rfl rfl rfl rfl, deferred := ?_ }, h.side⟩
      intro t ht
      rcases List.mem_append.1 ht with ht | ht
      · exact h.manned.deferred t ht
      · obtain rfl := List.mem_singleton.1 ht
        exact h.side
  | onHub hm hhub => exact honHub hm hhub
  | update hplace => exact hupdate hplace

/-- What is done on a worker keeps it employed. -/
theorem Employs.done (h : s.Employs roster w side) (hd : Done w side s s') :
    s'.Employs roster w side := by
  induction hd with
  | refl => exact h
  | tail _ hlast ih => exact ih.does hlast

theorem Employs.touched (h : s.Employs roster w side) (ht : Touched w side s s') :
    s'.Employs roster w side := h.done (Touched.done ht)

/-! ### What a worker does in its turn -/

section Member

variable (h : s.Employs roster w side) (hm : s.workers[w]? = some m)

include h hm

/-- The worker is on the side that employs it. -/
theorem Employs.security_eq : m.security = side :=
  Option.some.inj ((side?_of_getElem? hm).symm.trans h.side)

/-- No verdict of the worker stops the service. -/
theorem Employs.stops_judge (received : Received) :
    (m.dispatcher.channel.judge received).stops = false := by
  refine Channel.stops_judge _ ?_ received
  rw [h.manned.sound.channel_eq hm]
  exact h.manned.lasting

end Member

variable (h : s.Employs roster w side)

include h

/-- **A move of a worker is all its own**, since no handler asks anyone else to stop. -/
theorem done_advance : Done w side s (s.advance w) := by
  obtain ⟨m, hm, -, -, rfl⟩ := h.exists_member
  cases moved_advance hm with
  | done hd => exact hd
  | asked hstops =>
    rw [h.stops_judge hm] at hstops
    cases hstops

omit h in

/-- Advances are done on the worker. -/
theorem done_advances (n : Nat) (h : s.Employs roster w side) :
    Done w side s (s.advances w n) := by
  induction n generalizing s with
  | zero => exact .refl
  | succ n ih => exact (done_advance h).trans (ih (h.done (done_advance h)))

/-- **Whatever a worker does in its turn is on its own side.** -/
theorem done_turn : Done w side s (s.turn w) :=
  (done_advance h).trans (done_advances _ (h.done (done_advance h)))

end Session

end QueryDispatch
