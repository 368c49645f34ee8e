import QueryDispatch.Proofs.Session.Part

/-!
# Steps on one side of a session

A step is addressed to the channel that the name it gives is used for (`Roster.channel?`). Taken in
the session, a step of a channel does to the part of that channel what it does in the part alone
(`act_part`), and a step of the other channel leaves the part as it is (`part_act_of_ne`). Only a
worker that is started changes the part of the other channel, since workers are counted together.
-/

namespace QueryDispatch

/-- The channel that a step is addressed to: the one its name is used for. A step is addressed to
none that binds or starts something of one channel under a name used for the other, or that decides
about a chance to answer by its place among those of both. -/
def Roster.channel? (roster : Roster) : Session.Step → Option Security
  | .bind name security => if roster.services name = security then some security else none
  | .start name security => if roster.workers name = security then some security else none
  | .unbind name | .send name _ | .drain name | .collect name => some (roster.services name)
  | .stop name | .join name | .shutdown name => some (roster.workers name)
  | .release .. => none

/-- Whether a step starts a worker. -/
def Session.Step.isStart : Session.Step → Bool
  | .start .. => true
  | _ => false

namespace Hub

/-! ### Several messages at once -/

variable {a : String} {mine : Nat → Bool} {h h' : Hub} {k : Nat} {l : Link}

/-- What is bound leaves the links there are where they are. -/
theorem link_of_bind {address : String} {mark : UInt64} {j : Nat}
    (hbind : h.bind address mark = .ok (k, h')) (hl : h.links[j]? = some l) :
    h'.links[j]? = some l := by
  rw [(eq_of_bind hbind).2]
  exact getElem?_append_of_eq_some hl _

/-- Nobody has taken a link that is new. -/
theorem link_of_bind_taken {address : String} {mark : UInt64} {j d : Nat}
    (hbind : h.bind address mark = .ok (k, h')) (hl : h'.links[j]? = some l)
    (htaker : l.taker = some d) : h.links[j]? = some l := by
  rw [(eq_of_bind hbind).2] at hl
  rcases Nat.lt_or_ge j h.links.length with hlt | hge
  · rwa [List.getElem?_append_left hlt] at hl
  · rw [List.getElem?_append_right hge] at hl
    obtain rfl := List.mem_singleton.1 (List.mem_of_getElem? hl)
    cases htaker

/-- Work on the links of one address keeps the hub parted. -/
theorem Parted.of_worked (hp : h.Parted a mine) {address : String}
    (hw : Worked none address h h') (hcoherent : h'.Coherent) : h'.Parted a mine where
  coherent := hcoherent
  takers := by
    intro k d l hl htaker
    exact hw.takers (P := fun d address ↦ (address == a) = mine d) (fun _ hd ↦ by cases hd)
      (fun _ _ _ hl htaker ↦ hp.takers hl htaker) k l d hl htaker

section Service

variable (hp : h.Parted a mine) (hl : h.links[k]? = some l)

include hl

/-- What is done next with the same link is done at the same address. -/
theorem Worked.andThen {h'' : Hub} (hfirst : Worked none l.address h h')
    (hrest : ∀ l', h'.links[k]? = some l' → Worked none l'.address h' h'') :
    Worked none l.address h h'' := by
  obtain ⟨l', hl', haddress⟩ := hfirst.link hl
  exact hfirst.trans (haddress ▸ hrest l' hl')

/-- To deliver works on the link it delivers to. -/
theorem worked_delivers (messages : List Frames) :
    Worked none l.address h (Session.deliver h k messages).2 := by
  induction messages generalizing h l with
  | nil => exact .refl
  | cons frames rest ih => exact (worked_deliver hl frames).andThen hl fun _ hl' ↦ ih hl'

/-- To drain works on the link it drains. -/
theorem worked_drain (n : Nat) : Worked none l.address h (Session.drain h k n).2 := by
  induction n generalizing h l with
  | zero => exact .refl
  | succ n ih =>
    have hfirst := worked_collect hl
    rw [Session.drain]
    rcases hcollect : h.collect k with ⟨frames | - | -, after⟩
    · rw [hcollect] at hfirst
      exact hfirst.andThen hl fun _ hl' ↦ ih hl'
    · exact .refl
    · exact .refl

include hp

/-- To deliver on a link of the channel is the same in the part. -/
theorem delivers_part (ha : isAt a l = true) (messages : List Frames) :
    Session.deliver (h.part a mine) (h.number a k) messages =
      ((Session.deliver h k messages).1, (Session.deliver h k messages).2.part a mine) := by
  induction messages generalizing h l with
  | nil => rfl
  | cons frames rest ih =>
    have hfirst := worked_deliver hl frames
    obtain ⟨l', hl', haddress⟩ := hfirst.link hl
    have hp' := hp.of_worked hfirst ((h.keeps_deliver k frames).coherent hp.coherent)
    have hrest := ih hp' hl' (by rw [isAt, haddress]; exact ha)
    rw [hfirst.number] at hrest
    rw [Session.deliver, deliver_part hp hl ha, Session.deliver]
    dsimp only
    rw [hrest]

/-- To drain a link of the channel is the same in the part. -/
theorem drain_part (ha : isAt a l = true) (n : Nat) :
    Session.drain (h.part a mine) (h.number a k) n =
      ((Session.drain h k n).1, (Session.drain h k n).2.part a mine) := by
  induction n generalizing h l with
  | zero => rfl
  | succ n ih =>
    have hfirst := worked_collect hl
    obtain ⟨l', hl', haddress⟩ := hfirst.link hl
    have hp' := hp.of_worked hfirst ((h.keeps_collect k).coherent hp.coherent)
    have hrest := ih hp' hl' (by rw [isAt, haddress]; exact ha)
    rw [hfirst.number] at hrest
    rw [Session.drain, collect_part hp hl ha, Session.drain]
    rcases hcollect : h.collect k with ⟨frames | - | -, after⟩
    · rw [hcollect] at hrest
      dsimp only
      rw [hrest]
    · rfl
    · rfl

end Service

end Hub

namespace Session

variable {roster : Roster} {s s' : Session} {w k : Nat} {m : Member} {side c : Security}
  {name : String} {hub : Hub} {e : Hub.BindError}

/-! ### Services -/

/-- Work on a service keeps every link at the endpoint of its channel. -/
theorem Manned.onHub_service (hs : s.Manned roster)
    (hworked : Hub.Worked none (s.settings.endpoint side) s.hub hub) (hkeeps : s.hub.Keeps hub) :
    (s.onHub hub).Manned roster :=
  hs.onHub (fun _ hd ↦ by cases hd) hworked hkeeps

/-- Work on a service of the other channel does not show in the part. -/
theorem part_onHub_service_of_ne (hs : s.Manned roster) (hne : side ≠ c)
    (hworked : Hub.Worked none (s.settings.endpoint side) s.hub hub) :
    (s.onHub hub).part roster c = s.part roster c :=
  part_onHub_of_ne hs hne (fun _ hd ↦ by cases hd) hworked

/-- A service has its link at the endpoint of its channel. -/
theorem Manned.exists_link (hs : s.Manned roster) (hk : s.services.get? name = some k) :
    ∃ l, s.hub.links[k]? = some l ∧ l.address = s.settings.endpoint (roster.services name) :=
  hs.service _ (Table.mem_of_get? hk)

/-- The link of a service of the channel is one of the channel's links. -/
theorem isAt_of_service (hs : s.Manned roster) (hname : roster.services name = c) {l : Link}
    (haddress : l.address = s.settings.endpoint (roster.services name)) :
    Hub.isAt (s.settings.endpoint c) l = true := by
  rw [isAt_endpoint hs haddress]
  exact beq_iff_eq.2 hname

/-- A service of the channel has in the part the number its link has there. -/
theorem get?_services_part (hname : roster.services name = c) :
    (s.part roster c).services.get? name =
      (s.services.get? name).map (s.hub.number (s.settings.endpoint c)) := by
  have hkeep : roster.serves c name = true := beq_iff_eq.2 hname
  exact Table.get?_part hkeep s.services

/-- What a service does, apart from being bound and dropped. -/
structure Serves (s : Session) (side : Security) (f : Nat → Answer × Hub) : Prop where
  worked : ∀ {k : Nat} {l : Link}, s.hub.links[k]? = some l →
    l.address = s.settings.endpoint side → Hub.Worked none (s.settings.endpoint side) s.hub (f k).2
  keeps : ∀ k, s.hub.Keeps (f k).2

/-- What a service does keeps the roster. -/
theorem Manned.withService (hs : s.Manned roster) {f : Nat → Answer × Hub}
    (hf : s.Serves (roster.services name) f) : (s.withService name f).2.Manned roster := by
  rw [Session.withService]
  rcases hk : s.services.get? name with - | k
  · exact hs
  · obtain ⟨l, hl, haddress⟩ := hs.exists_link hk
    exact hs.onHub_service (hf.worked hl haddress) (hf.keeps k)

/-- What a service of the other channel does is not seen in the part. -/
theorem part_withService_of_ne (hs : s.Manned roster) (hne : roster.services name ≠ c)
    {f : Nat → Answer × Hub} (hf : s.Serves (roster.services name) f) :
    (s.withService name f).2.part roster c = s.part roster c := by
  rw [Session.withService]
  rcases hk : s.services.get? name with - | k
  · rfl
  · obtain ⟨l, hl, haddress⟩ := hs.exists_link hk
    exact part_onHub_service_of_ne hs hne (hf.worked hl haddress)

/-- What a service of the channel does it does in the part as well, with the same answer. -/
theorem withService_part (hs : s.Manned roster) (hname : roster.services name = c)
    {f f' : Nat → Answer × Hub} (hf : s.Serves (roster.services name) f)
    (hpart : ∀ k l, s.hub.links[k]? = some l → Hub.isAt (s.settings.endpoint c) l = true →
      f' (s.hub.number (s.settings.endpoint c) k) =
        ((f k).1, (f k).2.part (s.settings.endpoint c) (s.mans c))) :
    (s.part roster c).withService name f' =
      ((s.withService name f).1, (s.withService name f).2.part roster c) := by
  rw [Session.withService, Session.withService, get?_services_part hname]
  rcases hk : s.services.get? name with - | k
  · rfl
  · obtain ⟨l, hl, haddress⟩ := hs.exists_link hk
    have hnumber := (hf.worked hl haddress).number (s.settings.endpoint c)
    dsimp only [Option.map_some]
    rw [hpart k l hl (isAt_of_service hs hname haddress), onHub_part hnumber]

/-- To send is work on a service. -/
theorem serves_send (messages : List Frames) :
    s.Serves side fun k ↦ (deliver s.hub k messages).map .delivered id where
  worked hl haddress := haddress ▸ Hub.worked_delivers hl messages
  keeps k := keeps_deliver s.hub k messages

/-- To drain is work on a service. -/
theorem serves_drain :
    s.Serves side fun k ↦ (drain s.hub k (queued s.hub k)).map .drained id where
  worked hl haddress := haddress ▸ Hub.worked_drain hl _
  keeps k := keeps_drain s.hub k _

/-- To collect is work on a service. -/
theorem serves_collect : s.Serves side fun k ↦ (s.hub.collect k).map .collected id where
  worked hl haddress := haddress ▸ Hub.worked_collect hl
  keeps k := s.hub.keeps_collect k

/-! ### Binding and dropping services -/

/-- Where a service is bound, one that had its name before is dropped. -/
theorem exists_bind (hs : s.Manned roster)
    (hbind : s.hub.bind (s.settings.endpoint (roster.services name)) s.settings.highWaterMark =
      .ok (k, hub)) :
    ∃ hub', Hub.Worked none (s.settings.endpoint (roster.services name)) hub hub' ∧
      hub.Keeps hub' ∧ s.bind name (roster.services name) =
        (.done, { s with hub := hub', services := s.services.insert name k }) := by
  rw [Session.bind, hbind]
  rcases hold : s.services.get? name with - | old
  · exact ⟨hub, .refl, .refl hub, rfl⟩
  · obtain ⟨l, hl, haddress⟩ := hs.exists_link hold
    have hl' := Hub.link_of_bind hbind hl
    exact ⟨hub.unbind old, haddress ▸ Hub.worked_unbind hl', hub.keeps_unbind old, rfl⟩

/-- A bind that is refused changes nothing. -/
theorem bind_of_error (hbind : s.hub.bind (s.settings.endpoint side) s.settings.highWaterMark =
    .error e) : (s.bind name side).2 = s := by
  rw [Session.bind, hbind]
  cases e <;> rfl

/-- To bind keeps the roster. -/
theorem Manned.bind (hs : s.Manned roster) (name : String) :
    (s.bind name (roster.services name)).2.Manned roster := by
  have hsound := hs.sound.bind name (roster.services name)
  rcases hbind : s.hub.bind (s.settings.endpoint (roster.services name)) s.settings.highWaterMark
    with e | ⟨k, hub⟩
  · rwa [bind_of_error hbind]
  · obtain ⟨hub', hworked, hkeeps, hbound⟩ := exists_bind hs hbind
    obtain ⟨rfl, hlinks⟩ := Hub.eq_of_bind hbind
    rw [hbound] at hsound ⊢
    refine { hs with sound := hsound, dealers := ?_, taker := ?_, service := ?_ }
    · rw [← hs.dealers, hkeeps.dealers, hlinks]
    · refine hworked.takers (P := fun d address ↦ ∃ side, s.side? d = some side ∧
        address = s.settings.endpoint side) (fun _ hd ↦ by cases hd) fun j l d hl htaker ↦ ?_
      exact hs.taker j l d (Hub.link_of_bind_taken hbind hl htaker) htaker
    · intro e he
      obtain ⟨l, hl, haddress⟩ : ∃ l, hub.links[e.2]? = some l ∧
          l.address = s.settings.endpoint (roster.services e.1) := by
        rcases List.mem_cons.1 he with rfl | he
        · rw [hlinks]
          exact ⟨_, List.getElem?_concat_length, rfl⟩
        · obtain ⟨l, hl, haddress⟩ := hs.service e (List.mem_filter.1 he).1
          exact ⟨l, Hub.link_of_bind hbind hl, haddress⟩
      obtain ⟨l', hl', haddress'⟩ := hworked.link hl
      exact ⟨l', hl', haddress'.trans haddress⟩

/-- A new link does not change the numbers of the links that services have. -/
theorem Manned.number_of_bind (hs : s.Manned roster) {address : String} {mark : UInt64}
    (hbind : s.hub.bind address mark = .ok (k, hub)) (a : String) :
    ∀ e ∈ s.services.entries, hub.number a e.2 = s.hub.number a e.2 := by
  obtain ⟨-, rfl⟩ := Hub.eq_of_bind hbind
  intro e he
  obtain ⟨l, hl, -⟩ := hs.service e he
  exact rank_append (Nat.le_of_lt (List.getElem?_eq_some_iff.1 hl).1)

/-- A bind on the other channel is not seen in the part. -/
theorem part_bind_of_ne (hs : s.Manned roster) (hne : roster.services name ≠ c) :
    (s.bind name (roster.services name)).2.part roster c = s.part roster c := by
  rcases hbind : s.hub.bind (s.settings.endpoint (roster.services name)) s.settings.highWaterMark
    with e | ⟨k, hub⟩
  · rw [bind_of_error hbind]
  · obtain ⟨hub', hworked, -, hbound⟩ := exists_bind hs hbind
    have haddress := hs.endpoint_ne hne
    have hhub : hub'.part (s.settings.endpoint c) (s.mans c) =
        s.hub.part (s.settings.endpoint c) (s.mans c) :=
      (hworked.part (fun _ hd ↦ by cases hd) haddress).trans
        (Hub.part_of_bind_of_ne (hs.parted c) hbind haddress)
    have hkeep : roster.serves c name = false := beq_eq_false_iff_ne.2 hne
    have hservices :
        (s.services.insert name k).part (roster.serves c) (hub'.number (s.settings.endpoint c)) =
          s.services.part (roster.serves c) (s.hub.number (s.settings.endpoint c)) := by
      rw [Table.part_insert_of_not hkeep, hworked.number]
      exact Table.part_congr (hs.number_of_bind hbind _)
    rw [hbound]
    exact congrArg₂ (fun hub services ↦ { s.part roster c with hub, services }) hhub hservices

/-- A bind on the channel is the same in the part. -/
theorem bind_part (hs : s.Manned roster) (hname : roster.services name = c) :
    (s.part roster c).bind name c =
      ((s.bind name c).1, (s.bind name c).2.part roster c) := by
  rw [Session.bind, Session.bind, get?_services_part hname]
  rcases hbind : s.hub.bind (s.settings.endpoint c) s.settings.highWaterMark with e | ⟨k, hub⟩
  · have hbind' : (s.part roster c).hub.bind ((s.part roster c).settings.endpoint c)
        (s.part roster c).settings.highWaterMark = .error e := Hub.bind_part_error hbind
    rw [hbind']
    cases e <;> rfl
  · have hbind' : (s.part roster c).hub.bind ((s.part roster c).settings.endpoint c)
        (s.part roster c).settings.highWaterMark = _ := Hub.bind_part (hs.parted c) hbind
    have hnumber := hs.number_of_bind hbind (s.settings.endpoint c)
    have hkeep : roster.serves c name = true := beq_iff_eq.2 hname
    have hservices :
        (s.services.insert name k).part (roster.serves c) (hub.number (s.settings.endpoint c)) =
          (s.part roster c).services.insert name (hub.number (s.settings.endpoint c) k) := by
      rw [Table.insert_part hkeep, Table.part_congr hnumber]
      rfl
    rw [hbind']
    dsimp only
    rcases hold : s.services.get? name with - | old
    · exact congrArg (fun services ↦ (Answer.done, { s.part roster c with
        hub := hub.part (s.settings.endpoint c) (s.mans c), services })) hservices.symm
    · -- the service that had the name is one of the channel
      obtain ⟨l, hl, haddress⟩ := hs.exists_link hold
      have hl' := Hub.link_of_bind hbind hl
      have hat := isAt_of_service hs hname haddress
      have hunbind : (hub.part (s.settings.endpoint c) (s.mans c)).unbind _ = _ :=
        Hub.unbind_part hl' hat
      rw [hnumber (name, old) (Table.mem_of_get? hold)] at hunbind
      have hsame := (Hub.worked_unbind hl').number (s.settings.endpoint c)
      show (Answer.done, { s.part roster c with
        hub := (hub.part (s.settings.endpoint c) (s.mans c)).unbind
          (s.hub.number (s.settings.endpoint c) old)
        services := (s.part roster c).services.insert name
          (hub.number (s.settings.endpoint c) k) }) = _
      rw [hunbind, ← hservices, ← hsame]
      rfl

/-- To unbind keeps the roster. -/
theorem Manned.unbind (hs : s.Manned roster) (name : String) :
    (s.unbind name).2.Manned roster := by
  have hsound := hs.sound.unbind name
  rw [Session.unbind] at hsound ⊢
  rcases hk : s.services.get? name with - | k
  · exact hs
  · rw [hk] at hsound
    obtain ⟨l, hl, haddress⟩ := hs.exists_link hk
    have hdropped := hs.onHub_service (haddress ▸ Hub.worked_unbind hl) (s.hub.keeps_unbind k)
    exact { hdropped with
      sound := hsound, service := fun e he ↦ hdropped.service e (List.mem_filter.1 he).1 }

/-- An unbind on the other channel is not seen in the part. -/
theorem part_unbind_of_ne (hs : s.Manned roster) (hne : roster.services name ≠ c) :
    (s.unbind name).2.part roster c = s.part roster c := by
  have hkeep : roster.serves c name = false := beq_eq_false_iff_ne.2 hne
  rw [Session.unbind]
  rcases hk : s.services.get? name with - | k
  · rfl
  · obtain ⟨l, hl, haddress⟩ := hs.exists_link hk
    rw [← part_onHub_service_of_ne hs hne (haddress ▸ Hub.worked_unbind hl)]
    exact congrArg (fun services ↦ { (s.onHub (s.hub.unbind k)).part roster c with services })
      (Table.part_erase_of_not hkeep s.services)

/-- An unbind on the channel is the same in the part. -/
theorem unbind_part (hs : s.Manned roster) (hname : roster.services name = c) :
    (s.part roster c).unbind name =
      ((s.unbind name).1, (s.unbind name).2.part roster c) := by
  rw [Session.unbind, Session.unbind, get?_services_part hname]
  rcases hk : s.services.get? name with - | k
  · rfl
  · obtain ⟨l, hl, haddress⟩ := hs.exists_link hk
    have hunbind : (s.hub.part (s.settings.endpoint c) (s.mans c)).unbind _ = _ :=
      Hub.unbind_part hl (isAt_of_service hs hname haddress)
    have hnumber := (Hub.worked_unbind hl).number (s.settings.endpoint c)
    have hservices : (s.services.erase name).part (roster.serves c)
        ((s.hub.unbind k).number (s.settings.endpoint c)) =
          (s.part roster c).services.erase name := by
      rw [hnumber, Table.erase_part]
      rfl
    show (Answer.existed true, { s.part roster c with
      hub := (s.hub.part (s.settings.endpoint c) (s.mans c)).unbind
        (s.hub.number (s.settings.endpoint c) k)
      services := (s.part roster c).services.erase name }) = _
    rw [hunbind, ← hservices]
    rfl

/-! ### Workers -/

/-- A start leaves the sides of the workers there are. -/
theorem side?_start (s : Session) (name : String) (security : Security) {w : Nat}
    (hw : s.side? w = some side) : (s.start name security).side? w = some side := by
  obtain ⟨m, hm, hside⟩ := exists_of_side? hw
  have hm' : (s.start name security).workers[w]? = some m :=
    getElem?_append_of_eq_some hm _
  rw [side?_of_getElem? hm', hside]

/-- A worker is one there was, or the one that was started. -/
theorem getElem?_start {security : Security}
    (hm : (s.start name security).workers[w]? = some m) :
    s.workers[w]? = some m ∨ w = s.workers.length ∧
      m = {
        dispatcher := { channel := .ofSettings s.settings security s.registry }
        endpoint := s.settings.endpoint security
        dealer := s.hub.dealers.length } := by
  have hm : (s.workers ++ [_])[w]? = some m := hm
  rcases Nat.lt_or_ge w s.workers.length with hlt | hge
  · rw [List.getElem?_append_left hlt] at hm
    exact .inl hm
  · rw [List.getElem?_append_right hge] at hm
    have hlt := (List.getElem?_eq_some_iff.1 hm).1
    rw [List.length_singleton] at hlt
    exact .inr ⟨by omega, List.mem_singleton.1 (List.mem_of_getElem? hm)⟩

/-- To start a worker keeps the roster. -/
theorem Manned.start (hs : s.Manned roster) (name : String) :
    (s.start name (roster.workers name)).Manned roster where
  sound := hs.sound.start name (roster.workers name)
  distinct := hs.distinct
  lasting := hs.lasting
  dealers := by
    show (s.hub.dealers ++ [_]).length = (s.workers ++ [_]).length
    rw [List.length_append, List.length_append, hs.dealers]
    rfl
  dealer := by
    intro w m hm
    rcases getElem?_start hm with hm | ⟨rfl, rfl⟩
    · exact hs.dealer hm
    · exact hs.dealers
  endpoint := by
    intro w m hm
    rcases getElem?_start hm with hm | ⟨-, rfl⟩
    · exact hs.endpoint hm
    · rfl
  taker := by
    intro k l d hl htaker
    obtain ⟨side, hside, haddress⟩ := hs.taker k l d hl htaker
    exact ⟨side, side?_start s name _ hside, haddress⟩
  deferred t ht := side?_start s name _ (hs.deferred t ht)
  service := hs.service
  worker := by
    intro other w hw
    have hw : (s.names.insert name s.workers.length).get? other = some w := hw
    rw [Table.get?_insert] at hw
    split at hw
    · next hother =>
      obtain rfl := Option.some.inj hw
      have hnew : (s.start name (roster.workers name)).workers[s.workers.length]? = some _ :=
        List.getElem?_concat_length
      rw [hother, side?_of_getElem? hnew]
      rfl
    · exact side?_start s name _ (hs.worker hw)

/-- To start a worker of the channel is the same in the part. -/
theorem start_part (hs : s.Manned roster) (name : String) :
    (s.part roster c).start name c = (s.start name c).part roster c := by
  -- the workers there were stay of the channels they are of
  have hmans : ∀ d < s.hub.dealers.length, (s.start name c).mans c d = s.mans c d := by
    intro d hd
    have hd' : (s.start name c).workers[d]? = s.workers[d]? :=
      List.getElem?_append_left (hs.dealers ▸ hd)
    rw [mans, mans, side?, side?, hd']
  have hdealer : (s.part roster c).hub.newDealer = _ := Hub.newDealer_part hmans
  have hlength : (s.part roster c).workers.length = s.workers.length := List.length_map ..
  have hworkers : ∀ m : Member, m.security = c →
      (s.workers ++ [m]).map (Member.masked c) = s.workers.map (Member.masked c) ++ [m] := by
    intro m hside
    rw [List.map_append, List.map_singleton, Member.masked, if_pos hside]
  rw [Session.start, hdealer, hlength]
  refine congrArg (fun workers ↦ { s.part roster c with
    hub := s.hub.newDealer.2.part (s.settings.endpoint c) ((s.start name c).mans c)
    names := s.names.insert name s.workers.length
    workers }) (hworkers _ ?_).symm
  rfl

/-- What someone does with a worker of the channel. -/
theorem attend_part (hs : s.Manned roster) (hname : roster.workers name = c)
    {f f' : Nat → Answer × Session}
    (hf : ∀ w, s.Employs roster w c → f' w = ((f w).1, (f w).2.part roster c)) :
    (s.part roster c).attend name f' =
      ((s.attend name f).1, (s.attend name f).2.part roster c) := by
  have hnames : (s.part roster c).names = s.names := rfl
  rw [attend, attend, hnames]
  rcases hw : s.names.get? name with - | w
  · rfl
  · have h : s.Employs roster w c := ⟨hs, hname ▸ hs.worker hw⟩
    obtain ⟨m, hm, hm', -, -⟩ := h.exists_member_part
    dsimp only
    rw [hm, hm']
    split
    · exact hf w h
    · rfl

/-- Someone does something with a worker, all of it on the worker's own side. -/
theorem done_attend (hs : s.Manned roster) {f : Nat → Answer × Session}
    (hf : ∀ w, s.Employs roster w (roster.workers name) →
      Done w (roster.workers name) s (f w).2) :
    (s.attend name f).2 = s ∨ ∃ w, s.Employs roster w (roster.workers name) ∧
      Done w (roster.workers name) s (s.attend name f).2 := by
  rw [attend]
  rcases hw : s.names.get? name with - | w
  · exact .inl rfl
  · have h : s.Employs roster w (roster.workers name) := ⟨hs, hs.worker hw⟩
    dsimp only
    split
    · exact .inr ⟨w, h, hf w h⟩
    · exact .inl rfl

theorem done_requestStop : Done w side s (s.requestStop w) := Touched.done touched_requestStop

theorem done_join : Done w side s (s.join w).2 := by
  refine Touched.done (touched_update ?_ ?_)
  · exact fun _ ↦ rfl
  · exact fun _ ↦ rfl

/-- To shut a worker down is work on that worker. -/
theorem done_shutdown (h : s.Employs roster w side) :
    Done w side s (((s.requestStop w).turn w).join w).2 :=
  (done_requestStop.trans (done_turn (h.done done_requestStop))).trans done_join

/-- To stop a worker in the part is to take the part of what comes of it. -/
theorem requestStop_part (h : s.Employs roster w c) :
    (s.requestStop w).part roster c = (s.part roster c).requestStop w := by
  refine update_part h.side ?_
  exact fun _ ↦ rfl

/-- To join a worker of the channel gives the same answer in the part. -/
theorem join_part (h : s.Employs roster w c) :
    (s.part roster c).join w = ((s.join w).1, (s.join w).2.part roster c) := by
  obtain ⟨m, hm, hm', -, -⟩ := h.exists_member_part
  rw [join, join, hm, hm', update_part h.side]
  exact fun _ ↦ rfl

/-- To shut a worker of the channel down gives the same answer in the part. -/
theorem shutdown_part (h : s.Employs roster w c) :
    (((s.part roster c).requestStop w).turn w).join w =
      ((((s.requestStop w).turn w).join w).1,
        (((s.requestStop w).turn w).join w).2.part roster c) := by
  have hasked := h.done done_requestStop
  rw [← requestStop_part h, ← turn_part hasked.manned,
    join_part (hasked.done (done_turn hasked))]

/-! ### Steps -/

/-- What is done on a worker by its name keeps the roster. -/
theorem Manned.attend (hs : s.Manned roster) {f : Nat → Answer × Session}
    (hf : ∀ w, s.Employs roster w (roster.workers name) →
      Done w (roster.workers name) s (f w).2) : (s.attend name f).2.Manned roster := by
  rcases done_attend hs hf with hsame | ⟨w, h, hdone⟩
  · rwa [hsame]
  · exact (h.done hdone).manned

/-- What is done on a worker of the other channel by its name is not seen in the part. -/
theorem part_attend_of_ne (hs : s.Manned roster) (hne : roster.workers name ≠ c)
    {f : Nat → Answer × Session}
    (hf : ∀ w, s.Employs roster w (roster.workers name) →
      Done w (roster.workers name) s (f w).2) :
    (s.attend name f).2.part roster c = s.part roster c := by
  rcases done_attend hs hf with hsame | ⟨w, h, hdone⟩
  · rw [hsame]
  · exact h.part_of_done hne hdone

variable {st : Step} {security : Security}

/-- A step that names a channel is addressed to it only under a name used for it. -/
theorem eq_of_guarded {used named : Security}
    (h : (if used = named then some named else none) = some side) : used = side ∧ named = side := by
  split at h
  · next hused => exact ⟨hused.trans (Option.some.inj h), Option.some.inj h⟩
  · cases h

/-- Every step on a channel keeps the roster. -/
theorem Manned.act (hs : s.Manned roster) (hst : roster.channel? st = some side) :
    (s.act st).2.Manned roster := by
  cases st with
  | bind name security =>
    obtain ⟨rfl, rfl⟩ := eq_of_guarded hst
    exact hs.bind name
  | unbind name => exact hs.unbind name
  | start name security =>
    obtain ⟨rfl, rfl⟩ := eq_of_guarded hst
    exact hs.start name
  | send name messages => exact hs.withService (serves_send messages)
  | drain name => exact hs.withService serves_drain
  | collect name => exact hs.withService serves_collect
  | stop name => exact hs.attend fun w _ ↦ done_requestStop
  | join name => exact hs.attend fun w _ ↦ done_join
  | shutdown name => exact hs.attend fun w h ↦ done_shutdown h
  | release index behaviour => cases hst

/-- **A step of the other channel does nothing to the part**, unless it starts a worker. -/
theorem part_act_of_ne (hs : s.Manned roster) (hst : roster.channel? st = some side)
    (hne : side ≠ c) (hstart : st.isStart = false) :
    (s.act st).2.part roster c = s.part roster c := by
  cases st with
  | bind name security =>
    obtain ⟨rfl, rfl⟩ := eq_of_guarded hst
    exact part_bind_of_ne hs hne
  | start name security => cases hstart
  | release index behaviour => cases hst
  | unbind name =>
    obtain rfl := Option.some.inj hst
    exact part_unbind_of_ne hs hne
  | send name messages =>
    obtain rfl := Option.some.inj hst
    exact part_withService_of_ne hs hne (serves_send messages)
  | drain name =>
    obtain rfl := Option.some.inj hst
    exact part_withService_of_ne hs hne serves_drain
  | collect name =>
    obtain rfl := Option.some.inj hst
    exact part_withService_of_ne hs hne serves_collect
  | stop name =>
    obtain rfl := Option.some.inj hst
    exact part_attend_of_ne hs hne fun w _ ↦ done_requestStop
  | join name =>
    obtain rfl := Option.some.inj hst
    exact part_attend_of_ne hs hne fun w _ ↦ done_join
  | shutdown name =>
    obtain rfl := Option.some.inj hst
    exact part_attend_of_ne hs hne fun w h ↦ done_shutdown h

/-- **A step of the channel does to the part what it does in the part.** -/
theorem act_part (hs : s.Manned roster) (hst : roster.channel? st = some c) :
    (s.part roster c).act st = ((s.act st).1, (s.act st).2.part roster c) := by
  cases st with
  | bind name security =>
    obtain ⟨hname, rfl⟩ := eq_of_guarded hst
    exact bind_part hs hname
  | start name security =>
    obtain ⟨-, rfl⟩ := eq_of_guarded hst
    exact congrArg (Prod.mk Answer.done) (start_part hs name)
  | release index behaviour => cases hst
  | unbind name => exact unbind_part hs (Option.some.inj hst)
  | send name messages =>
    refine withService_part hs (Option.some.inj hst) (serves_send messages) fun k l hl hat ↦ ?_
    show ((deliver (s.hub.part _ _) _ messages).map Answer.delivered id) = _
    rw [Hub.delivers_part (hs.parted c) hl hat]
    rfl
  | drain name =>
    refine withService_part hs (Option.some.inj hst) serves_drain fun k l hl hat ↦ ?_
    have hqueued : queued (s.part roster c).hub (s.hub.number (s.settings.endpoint c) k) =
        queued s.hub k := by
      have hl' : (s.part roster c).hub.links[_]? = some l := Hub.links_part hl hat
      rw [queued, queued, hl, hl']
    rw [hqueued]
    show ((drain (s.hub.part _ _) _ _).map Answer.drained id) = _
    rw [Hub.drain_part (hs.parted c) hl hat]
    rfl
  | collect name =>
    refine withService_part hs (Option.some.inj hst) serves_collect fun k l hl hat ↦ ?_
    show (((s.hub.part _ _).collect _).map Answer.collected id) = _
    rw [Hub.collect_part (hs.parted c) hl hat]
    rfl
  | stop name =>
    refine attend_part hs (Option.some.inj hst) fun w h ↦ ?_
    rw [requestStop_part h]
  | join name => exact attend_part hs (Option.some.inj hst) fun w h ↦ join_part h
  | shutdown name => exact attend_part hs (Option.some.inj hst) fun w h ↦ shutdown_part h

end Session

end QueryDispatch
