import QueryDispatch.Proofs.Session.Touch
import QueryDispatch.Session.Step

/-!
# What holds of every session

The workers of a session keep the posts they were started at: each has a dealer of its own, and
serves the channel that the settings ask for. All links are as long as the settings say, and links
and dealers agree about who is connected to whom. `Sound` is the conjunction, and `sound_run` says
that it holds of every session that can come about.

Most of what happens leaves posts and links where they are (`Keeps`), and only three steps do not:
services are bound and dropped, and workers are started.
-/

namespace QueryDispatch

/-- What a worker has for its whole life: its end of the transport, and the channel it serves. -/
def Member.post (m : Member) : Nat × Channel := (m.dealer, m.dispatcher.channel)

namespace Session

/-- The posts of all workers, in the order in which they were started. -/
def posts (s : Session) : List (Nat × Channel) := s.workers.map Member.post

/-- What a change of a worker leaves alone. -/
theorem map_workers_update {α : Type} (s : Session) (w : Nat) {f : Member → Member} {g : Member → α}
    (hf : ∀ m, g (f m) = g m) : (s.update w f).workers.map g = s.workers.map g := by
  refine List.ext_getElem? fun v ↦ ?_
  rw [List.getElem?_map, List.getElem?_map, getElem?_update, Option.map_map]
  congr 1
  funext m
  show g (if w = v then f m else m) = g m
  split
  · exact hf m
  · rfl

/-- An update that leaves the post of its worker leaves all posts. -/
theorem posts_update (s : Session) (w : Nat) {f : Member → Member}
    (hf : ∀ m, (f m).post = m.post) : (s.update w f).posts = s.posts := s.map_workers_update w hf

/-! ### What most of what happens leaves as it is -/

/-- Nothing was bound, dropped or started. -/
structure Keeps (s s' : Session) : Prop where
  settings : s'.settings = s.settings
  registry : s'.registry = s.registry
  services : s'.services = s.services
  hub : s.hub.Keeps s'.hub
  posts : s'.posts = s.posts

namespace Keeps

variable {s s' s'' : Session}

theorem refl (s : Session) : s.Keeps s := ⟨rfl, rfl, rfl, .refl s.hub, rfl⟩

theorem trans (h : s.Keeps s') (h' : s'.Keeps s'') : s.Keeps s'' :=
  ⟨h'.settings.trans h.settings, h'.registry.trans h.registry, h'.services.trans h.services,
    h.hub.trans h'.hub, h'.posts.trans h.posts⟩

/-- No worker is lost. -/
theorem length_workers (h : s.Keeps s') : s'.workers.length = s.workers.length := by
  have hposts := congrArg List.length h.posts
  rwa [Session.posts, Session.posts, List.length_map, List.length_map] at hposts

end Keeps

variable (s : Session) (w : Nat)

/-- A hub that keeps its links and dealers keeps those of the session. -/
theorem keeps_onHub {hub : Hub} (h : s.hub.Keeps hub) : s.Keeps (s.onHub hub) :=
  ⟨rfl, rfl, rfl, h, rfl⟩

theorem keeps_heed (stops : Bool) : s.Keeps (s.heed stops) := by
  rw [heed]
  split
  · exact ⟨rfl, rfl, rfl, .refl s.hub, List.map_map⟩
  · exact .refl s

section Done

variable {s w} {s' : Session} {c : Security} {m : Member}

/-- An update that leaves the place of its worker keeps the session. -/
theorem keeps_update {f : Member → Member} (hf : ∀ m, (f m).place = m.place) :
    s.Keeps (s.update w f) :=
  ⟨rfl, rfl, rfl, .refl s.hub,
    s.posts_update w fun m ↦ congrArg (fun place ↦ (place.1, place.2.2)) (hf m)⟩

/-- **Nothing that a worker does binds, drops or starts anything.** -/
theorem Does.keeps (h : Does w c s s') : s.Keeps s' := by
  cases h with
  | touches h =>
    cases h with
    | update hplace => exact keeps_update hplace
    | onHub hm hhub => exact s.keeps_onHub hhub.keeps
    | record | park | defer => exact ⟨rfl, rfl, rfl, .refl s.hub, rfl⟩
  | onHub hm hhub => exact s.keeps_onHub hhub.keeps
  | update hplace => exact keeps_update hplace

/-- What is done on one worker keeps the session. -/
theorem Done.keeps (h : Done w c s s') : s.Keeps s' := by
  induction h with
  | refl => exact .refl s
  | tail _ hlast ih => exact ih.trans hlast.keeps

theorem Touched.keeps (h : Touched w c s s') : s.Keeps s' := Done.keeps (Touched.done h)

/-- What moves one worker keeps the session. -/
theorem Moved.keeps (h : Moved w m s s') : s.Keeps s' := by
  cases h with
  | done h => exact Done.keeps h
  | asked _ hbefore hafter =>
    exact ((Touched.keeps hbefore).trans (keeps_heed _ true)).trans (Touched.keeps hafter)

end Done

theorem keeps_requestStop : s.Keeps (s.requestStop w) := keeps_update fun _ ↦ rfl

theorem keeps_join : s.Keeps (s.join w).2 := keeps_update fun _ ↦ rfl

/-- An advance keeps the session. -/
theorem keeps_advance : s.Keeps (s.advance w) := by
  rcases hm : s.workers[w]? with - | m
  · rw [advance, hm]
    exact .refl s
  · exact (moved_advance hm).keeps

/-- Advances keep the session. -/
theorem keeps_advances (n : Nat) : s.Keeps (s.advances w n) := by
  induction n generalizing s with
  | zero => exact .refl s
  | succ n ih => exact (s.keeps_advance w).trans (ih _)

theorem keeps_turn : s.Keeps (s.turn w) := (s.keeps_advance w).trans (keeps_advances _ w _)

/-- What keeps the session at each step keeps it over a list. -/
theorem keeps_foldl {α : Type} {f : Session → α → Session} (h : ∀ s a, Keeps s (f s a))
    (as : List α) : s.Keeps (as.foldl f s) := by
  induction as generalizing s with
  | nil => exact .refl s
  | cons a rest ih => exact (h s a).trans (ih _)

theorem keeps_turns : s.Keeps s.turns := s.keeps_foldl keeps_turn _

/-- To answer a ticket keeps the session. -/
theorem keeps_decide (t : OpenTicket) (behaviour : Behaviour) :
    s.Keeps (s.decide t behaviour) :=
  (s.keeps_heed _).trans (Touched.keeps (s.touched_decide t behaviour))

/-- To flush keeps the session. -/
theorem keeps_flush : s.Keeps s.flush := by
  have hnone : s.Keeps { s with deferred := [] } := ⟨rfl, rfl, rfl, .refl s.hub, rfl⟩
  exact hnone.trans (keeps_foldl _ (fun s t ↦ s.keeps_decide t .echo) s.deferred)

/-- To settle keeps the session. -/
theorem keeps_settle : s.Keeps s.settle :=
  (s.keeps_turns.trans (keeps_turns _)).trans (keeps_flush _)

/-! ### Soundness -/

/-- What holds of every session with these settings and handlers. -/
structure Sound (settings : Settings) (registry : Registry (Handler Binding)) (s : Session) :
    Prop where
  settings_eq : s.settings = settings
  registry_eq : s.registry = registry
  coherent : s.hub.Coherent
  capacity : ∀ c ∈ s.hub.links.map Link.capacity, c = Hub.capacity settings.highWaterMark
  posted : ∀ p ∈ s.posts, p.1 < s.hub.dealers.length ∧
    ∃ security, p.2 = .ofSettings settings security registry
  /-- No two workers share a dealer. -/
  distinct : (s.posts.map Prod.fst).Nodup

variable {s w} {m : Member} {settings : Settings} {registry : Registry (Handler Binding)}
  {s' : Session}

/-- A session that keeps its posts and links stays sound. -/
theorem Sound.of_keeps (hs : s.Sound settings registry) (h : s.Keeps s') :
    s'.Sound settings registry where
  settings_eq := h.settings.trans hs.settings_eq
  registry_eq := h.registry.trans hs.registry_eq
  coherent := h.hub.coherent hs.coherent
  capacity := h.hub.capacities ▸ hs.capacity
  posted := by
    rw [h.posts, h.hub.dealers]
    exact hs.posted
  distinct := h.posts ▸ hs.distinct

/-- The channel of a worker is the one the settings give its security. -/
theorem Sound.channel_eq (hs : s.Sound settings registry) (hm : s.workers[w]? = some m) :
    m.dispatcher.channel = .ofSettings settings m.security registry := by
  obtain ⟨-, security, h⟩ := hs.posted m.post
    (List.mem_map_of_mem (List.mem_of_getElem? hm))
  have hchannel : m.dispatcher.channel = .ofSettings settings security registry := h
  have hsecurity : m.security = security := congrArg Channel.security hchannel
  rw [hsecurity, hchannel]

/-- Two workers have different dealers. -/
theorem Sound.dealer_ne (hs : s.Sound settings registry) {v : Nat} {m' : Member} (hne : v ≠ w)
    (hm : s.workers[w]? = some m) (hm' : s.workers[v]? = some m') : m.dealer ≠ m'.dealer := by
  intro heq
  have hw : (s.posts.map Prod.fst)[w]? = some m.dealer := by
    rw [posts, List.map_map, List.getElem?_map, hm]
    rfl
  have hv : (s.posts.map Prod.fst)[v]? = some m.dealer := by
    rw [posts, List.map_map, List.getElem?_map, hm', heq]
    rfl
  have hlt : w < (s.posts.map Prod.fst).length := (List.getElem?_eq_some_iff.1 hw).1
  exact hne ((List.getElem?_inj hlt hs.distinct).1 (hw.trans hv.symm)).symm

/-- Every link has the capacity that the settings ask for. -/
theorem Sound.capacity_eq (hs : s.Sound settings registry) {k : Nat} {l : Link}
    (hl : s.hub.links[k]? = some l) : l.capacity = Hub.capacity settings.highWaterMark :=
  hs.capacity _ (List.mem_map_of_mem (List.mem_of_getElem? hl))

/-- A fresh session is sound. -/
theorem sound_fresh (settings : Settings) (registry : Registry (Handler Binding)) :
    (fresh settings registry).Sound settings registry where
  settings_eq := rfl
  registry_eq := rfl
  coherent := Hub.coherent_empty
  capacity _ h := by cases h
  posted _ h := by cases h
  distinct := .nil

/-- Names, and what handlers have kept, play no part in it. -/
theorem Sound.of_eq (hs : s.Sound settings registry) (hsettings : s'.settings = s.settings)
    (hregistry : s'.registry = s.registry) (hhub : s'.hub = s.hub) (hposts : s'.posts = s.posts) :
    s'.Sound settings registry where
  settings_eq := hsettings.trans hs.settings_eq
  registry_eq := hregistry.trans hs.registry_eq
  coherent := hhub ▸ hs.coherent
  capacity := hhub ▸ hs.capacity
  posted := by
    rw [hposts, hhub]
    exact hs.posted
  distinct := hposts ▸ hs.distinct

/-! ### Steps -/

/-- What a service does keeps the session. -/
theorem keeps_withService (s : Session) (name : String) {f : Nat → Answer × Hub}
    (hf : ∀ k, s.hub.Keeps (f k).2) : s.Keeps (s.withService name f).2 := by
  rw [withService]
  split
  · exact .refl s
  · next k _ => exact s.keeps_onHub (hf k)

/-- To deliver keeps links and dealers. -/
theorem keeps_deliver (hub : Hub) (k : Nat) (messages : List Frames) :
    hub.Keeps (deliver hub k messages).2 := by
  induction messages generalizing hub with
  | nil => exact .refl hub
  | cons frames rest ih => exact (hub.keeps_deliver k frames).trans (ih _)

/-- To drain keeps links and dealers. -/
theorem keeps_drain (hub : Hub) (k n : Nat) : hub.Keeps (drain hub k n).2 := by
  induction n generalizing hub with
  | zero => exact .refl hub
  | succ n ih =>
    rw [drain]
    split
    · next hub' hcollect =>
      have hfirst := hub.keeps_collect k
      rw [hcollect] at hfirst
      exact hfirst.trans (ih hub')
    · exact .refl hub

/-- What is done on a worker by its name keeps the session. -/
theorem keeps_attend (s : Session) (name : String) {f : Nat → Answer × Session}
    (hf : ∀ w, s.Keeps (f w).2) : s.Keeps (s.attend name f).2 := by
  rw [attend]
  split
  · exact .refl s
  · split
    · exact hf _
    · exact .refl s

/-- To release the ticket of an index keeps the session. -/
theorem keeps_releaseAt (s : Session) (index : Nat) (behaviour : Behaviour) :
    s.Keeps (s.releaseAt index behaviour).2 := by
  rw [releaseAt]
  split
  · exact .refl s
  · have htaken : s.Keeps { s with parked := s.parked.eraseIdx index } :=
      ⟨rfl, rfl, rfl, .refl s.hub, rfl⟩
    exact htaken.trans (keeps_decide _ _ behaviour)

/-- To bind keeps a session sound. -/
theorem Sound.bind (hs : s.Sound settings registry) (name : String) (security : Security) :
    (s.bind name security).2.Sound settings registry := by
  rw [Session.bind]
  split
  · exact hs
  · exact hs
  · next k hub hbind =>
    obtain ⟨-, hlinks⟩ := Hub.eq_of_bind hbind
    have hbound : (s.onHub hub).Sound settings registry := by
      refine ⟨hs.settings_eq, hs.registry_eq, hs.coherent.bind hbind, ?_, ?_, hs.distinct⟩
      · show ∀ c ∈ hub.links.map Link.capacity, _
        intro c hc
        rw [hlinks, List.map_append] at hc
        rcases List.mem_append.1 hc with hc | hc
        · exact hs.capacity c hc
        · rw [List.mem_singleton.1 hc, hs.settings_eq]
      · show ∀ p ∈ s.posts, p.1 < hub.dealers.length ∧ _
        rw [hlinks]
        exact hs.posted
    -- the name may have stood for another service, which is dropped
    rcases hold : s.services.get? name with - | old
    · exact hbound.of_eq rfl rfl rfl rfl
    · exact (hbound.of_keeps (keeps_onHub _ (hub.keeps_unbind old))).of_eq rfl rfl rfl rfl

/-- To unbind keeps a session sound. -/
theorem Sound.unbind (hs : s.Sound settings registry) (name : String) :
    (s.unbind name).2.Sound settings registry := by
  rw [Session.unbind]
  split
  · exact hs
  · next k _ =>
    exact (hs.of_keeps (s.keeps_onHub (s.hub.keeps_unbind k))).of_eq rfl rfl rfl rfl

/-- A worker that is started gets a new dealer, and the channel of the settings. -/
theorem Sound.start (hs : s.Sound settings registry) (name : String) (security : Security) :
    (s.start name security).Sound settings registry := by
  have hposts : (s.start name security).posts =
      s.posts ++ [(s.hub.dealers.length, .ofSettings s.settings security s.registry)] :=
    List.map_append
  have hdealers : (s.start name security).hub.dealers.length = s.hub.dealers.length + 1 :=
    List.length_append
  refine ⟨hs.settings_eq, hs.registry_eq, hs.coherent.newDealer, hs.capacity, ?_, ?_⟩
  · rw [hposts, hdealers]
    intro p hp
    rcases List.mem_append.1 hp with hp | hp
    · obtain ⟨hlt, hchannel⟩ := hs.posted p hp
      exact ⟨Nat.lt_succ_of_lt hlt, hchannel⟩
    · obtain rfl := List.mem_singleton.1 hp
      exact ⟨Nat.lt_succ_self _, security, by rw [hs.settings_eq, hs.registry_eq]⟩
  · rw [hposts, List.map_append]
    refine List.nodup_append.2 ⟨hs.distinct, List.pairwise_singleton .., fun d hd d' hd' ↦ ?_⟩
    obtain ⟨p, hp, rfl⟩ := List.mem_map.1 hd
    rw [List.mem_singleton.1 hd']
    exact Nat.ne_of_lt (hs.posted p hp).1

/-- What a step does keeps a session sound. -/
theorem Sound.act (hs : s.Sound settings registry) (st : Step) :
    (s.act st).2.Sound settings registry := by
  cases st with
  | bind name security => exact hs.bind name security
  | unbind name => exact hs.unbind name
  | start name security => exact hs.start name security
  | send name messages =>
    exact hs.of_keeps (s.keeps_withService name fun k ↦ keeps_deliver s.hub k messages)
  | drain name =>
    exact hs.of_keeps (s.keeps_withService name fun k ↦ keeps_drain s.hub k (queued s.hub k))
  | collect name => exact hs.of_keeps (s.keeps_withService name fun k ↦ s.hub.keeps_collect k)
  | stop name => exact hs.of_keeps (s.keeps_attend name fun w ↦ s.keeps_requestStop w)
  | join name => exact hs.of_keeps (s.keeps_attend name fun w ↦ s.keeps_join w)
  | shutdown name =>
    refine hs.of_keeps (s.keeps_attend name fun w ↦ ?_)
    exact ((s.keeps_requestStop w).trans (keeps_turn _ w)).trans (keeps_join _ w)
  | release index behaviour => exact hs.of_keeps (s.keeps_releaseAt index behaviour)

/-- A step keeps a session sound. -/
theorem Sound.step (hs : s.Sound settings registry) (st : Step) :
    (s.step st).Sound settings registry := (hs.act st).of_keeps (keeps_settle _)

/-- A run keeps a session sound. -/
theorem Sound.run (hs : s.Sound settings registry) (steps : List Step) :
    (s.run steps).Sound settings registry := by
  induction steps generalizing s with
  | nil => exact hs
  | cons st rest ih => exact ih (hs.step st)

/-- **Every session is sound.** -/
theorem sound_run (settings : Settings) (registry : Registry (Handler Binding))
    (steps : List Step) : ((fresh settings registry).run steps).Sound settings registry :=
  (sound_fresh settings registry).run steps

end Session

end QueryDispatch
