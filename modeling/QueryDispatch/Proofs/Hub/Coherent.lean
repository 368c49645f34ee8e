import QueryDispatch.Hub.Dealer
import QueryDispatch.Hub.Service
import QueryDispatch.Proofs.Lists

/-!
# Links and dealers agree

Which link a dealer is connected to is kept in two places, with the dealer and as the taker of the
link, and a third tells whether the dealer still receives. `Coherent` says that the three agree, and
every operation keeps it so.

All but four operations change links and dealers in ways that cannot upset this, since they leave
the taker of every link and the phase of every dealer alone. `Keeps` collects what such an operation
leaves as it is; it composes, so what a worker does in one move keeps it too. The four are `bind`
and `newDealer`, which add a link or a dealer, and `connect` and `disconnect`, which change the
phase.
-/

namespace QueryDispatch

namespace Hub

/-- The links and the dealers agree about who is connected to whom. -/
structure Coherent (h : Hub) : Prop where
  /-- A dealer receives only from the link that it is connected to. -/
  connected_of_inbound : ∀ {d k : Nat} {dealer : Dealer}, h.dealers[d]? = some dealer →
    dealer.inbound = some k → dealer.phase = .connected k
  /-- The link that a dealer is connected to has it as its taker. -/
  taker_of_connected : ∀ {d k : Nat} {dealer : Dealer}, h.dealers[d]? = some dealer →
    dealer.phase = .connected k → ∃ l, h.links[k]? = some l ∧ l.taker = some d
  /-- The taker of a link is connected to it, or was. -/
  connected_of_taker : ∀ {d k : Nat} {l : Link}, h.links[k]? = some l → l.taker = some d →
    ∃ dealer, h.dealers[d]? = some dealer ∧ (dealer.phase = .connected k ∨ dealer.phase = .closed)

theorem coherent_empty : ({} : Hub).Coherent where
  connected_of_inbound h := by cases h
  taker_of_connected h := by cases h
  connected_of_taker h := by cases h

section Update

variable {h : Hub} {k d j : Nat}

/-- A link after an update was there before it. -/
theorem exists_of_getElem?_updateLink {f : Link → Link} {l' : Link}
    (hl : (h.updateLink k f).links[j]? = some l') :
    ∃ l, h.links[j]? = some l ∧ l' = if k = j then f l else l := by
  rw [getElem?_updateLink] at hl
  obtain ⟨l, hget, rfl⟩ := Option.map_eq_some_iff.1 hl
  exact ⟨l, hget, rfl⟩

/-- A dealer after an update was there before it. -/
theorem exists_of_getElem?_updateDealer {f : Dealer → Dealer} {dealer' : Dealer}
    (hd : (h.updateDealer d f).dealers[j]? = some dealer') :
    ∃ dealer, h.dealers[j]? = some dealer ∧ dealer' = if d = j then f dealer else dealer := by
  rw [getElem?_updateDealer] at hd
  obtain ⟨dealer, hget, rfl⟩ := Option.map_eq_some_iff.1 hd
  exact ⟨dealer, hget, rfl⟩

/-- A change of a link that leaves its taker alone. -/
theorem Coherent.updateLink (hh : h.Coherent) {f : Link → Link}
    (htaker : ∀ l, (f l).taker = l.taker) : (h.updateLink k f).Coherent where
  connected_of_inbound := hh.connected_of_inbound
  taker_of_connected := by
    intro d j dealer hd hphase
    obtain ⟨l, hl, hlt⟩ := hh.taker_of_connected hd hphase
    refine ⟨if k = j then f l else l, ?_, ?_⟩
    · rw [getElem?_updateLink, hl]
      rfl
    · split
      · rw [htaker, hlt]
      · exact hlt
  connected_of_taker := by
    intro d j l' hl' hlt
    obtain ⟨l, hl, rfl⟩ := exists_of_getElem?_updateLink hl'
    refine hh.connected_of_taker hl ?_
    split at hlt
    · rw [← htaker, hlt]
    · exact hlt

/-- A change of a dealer that leaves its phase alone, and gives it nothing new to receive from. -/
theorem Coherent.updateDealer (hh : h.Coherent) {f : Dealer → Dealer}
    (hphase : ∀ dealer, (f dealer).phase = dealer.phase)
    (hinbound : ∀ dealer, (f dealer).inbound = dealer.inbound ∨ (f dealer).inbound = none) :
    (h.updateDealer d f).Coherent where
  connected_of_inbound := by
    intro j k dealer' hd' hin
    obtain ⟨dealer, hd, rfl⟩ := exists_of_getElem?_updateDealer hd'
    split at hin
    · next hj =>
      rw [if_pos hj, hphase]
      rcases hinbound dealer with heq | hnone
      · exact hh.connected_of_inbound hd (heq ▸ hin)
      · rw [hnone] at hin
        cases hin
    · next hj =>
      rw [if_neg hj]
      exact hh.connected_of_inbound hd hin
  taker_of_connected := by
    intro j k dealer' hd' hconnected
    obtain ⟨dealer, hd, rfl⟩ := exists_of_getElem?_updateDealer hd'
    refine hh.taker_of_connected hd ?_
    split at hconnected
    · rw [← hphase, hconnected]
    · exact hconnected
  connected_of_taker := by
    intro j k l hl hlt
    obtain ⟨dealer, hd, hor⟩ := hh.connected_of_taker hl hlt
    refine ⟨if d = j then f dealer else dealer, ?_, ?_⟩
    · rw [getElem?_updateDealer, hd]
      rfl
    · split
      · rw [hphase]
        exact hor
      · exact hor

/-- A dealer that is closed receives nothing, and its link goes on having it as its taker. -/
theorem Coherent.close (hh : h.Coherent) :
    (h.updateDealer d fun dealer ↦
      { dealer with phase := .closed, inbound := none, pending := none }).Coherent where
  connected_of_inbound := by
    intro j k dealer' hd' hin
    obtain ⟨dealer, hd, rfl⟩ := exists_of_getElem?_updateDealer hd'
    split at hin
    · cases hin
    · next hj =>
      rw [if_neg hj]
      exact hh.connected_of_inbound hd hin
  taker_of_connected := by
    intro j k dealer' hd' hconnected
    obtain ⟨dealer, hd, rfl⟩ := exists_of_getElem?_updateDealer hd'
    split at hconnected
    · cases hconnected
    · exact hh.taker_of_connected hd hconnected
  connected_of_taker := by
    intro j k l hl hlt
    obtain ⟨dealer, hd, hor⟩ := hh.connected_of_taker hl hlt
    refine ⟨_, by rw [getElem?_updateDealer, hd]; rfl, ?_⟩
    split
    · exact .inr rfl
    · exact hor

/-- A dealer that never connected, and a link that no dealer ever took. -/
theorem Coherent.join (hh : h.Coherent) {dealer : Dealer} {l : Link}
    (hd : h.dealers[d]? = some dealer) (hphase : dealer.phase = .unconnected)
    (hl : h.links[k]? = some l) (hlt : l.taker = none) :
    ((h.updateLink k fun l ↦ { l with taker := some d }).updateDealer d fun dealer ↦
      { dealer with phase := .connected k, inbound := some k }).Coherent where
  connected_of_inbound := by
    intro j k' dealer' hd' hin
    obtain ⟨dealer₀, hd₀, rfl⟩ := exists_of_getElem?_updateDealer hd'
    split at hin
    · next hj =>
      rw [if_pos hj]
      exact congrArg Phase.connected (Option.some.inj hin)
    · next hj =>
      rw [if_neg hj]
      exact hh.connected_of_inbound hd₀ hin
  taker_of_connected := by
    intro j k' dealer' hd' hconnected
    obtain ⟨dealer₀, hd₀, rfl⟩ := exists_of_getElem?_updateDealer hd'
    rw [links_updateDealer, getElem?_updateLink]
    split at hconnected
    · next hj =>
      obtain rfl : k = k' := Phase.connected.inj hconnected
      refine ⟨{ l with taker := some d }, ?_, congrArg some hj⟩
      rw [hl, Option.map_some, if_pos rfl]
    · -- the link of another dealer has that dealer as its taker, so it is not this one
      obtain ⟨l', hl', hlt'⟩ := hh.taker_of_connected hd₀ hconnected
      have hne : k ≠ k' := by
        rintro rfl
        rw [hl] at hl'
        obtain rfl := Option.some.inj hl'
        rw [hlt] at hlt'
        cases hlt'
      exact ⟨l', by rw [hl', Option.map_some, if_neg hne], hlt'⟩
  connected_of_taker := by
    intro j k' l' hl' hlt'
    rw [links_updateDealer] at hl'
    obtain ⟨l₀, hl₀, rfl⟩ := exists_of_getElem?_updateLink hl'
    rw [getElem?_updateDealer]
    split at hlt'
    · next hk =>
      obtain rfl : d = j := Option.some.inj hlt'
      refine ⟨{ dealer with phase := .connected k, inbound := some k }, ?_, .inl ?_⟩
      · show (h.dealers[d]?).map _ = _
        rw [hd, Option.map_some, if_pos rfl]
      · rw [hk]
    · -- a dealer that took a link before is not one that never connected
      obtain ⟨dealer₀, hd₀, hor⟩ := hh.connected_of_taker hl₀ hlt'
      have hne : d ≠ j := by
        rintro rfl
        rw [hd] at hd₀
        obtain rfl := Option.some.inj hd₀
        rw [hphase] at hor
        rcases hor with hor | hor <;> cases hor
      refine ⟨dealer₀, ?_, hor⟩
      show (h.dealers[j]?).map _ = _
      rw [hd₀, Option.map_some, if_neg hne]

end Update

/-! ### Operations that keep links and dealers -/

/-- What the passing of messages, and all that one dealer does, leaves as it is. -/
structure Keeps (h h' : Hub) : Prop where
  coherent : h.Coherent → h'.Coherent
  capacities : h'.links.map Link.capacity = h.links.map Link.capacity
  dealers : h'.dealers.length = h.dealers.length

namespace Keeps

variable {h h' h'' : Hub}

theorem refl (h : Hub) : h.Keeps h := ⟨id, rfl, rfl⟩

theorem trans (hk : h.Keeps h') (hk' : h'.Keeps h'') : h.Keeps h'' :=
  ⟨hk'.coherent ∘ hk.coherent, hk'.capacities.trans hk.capacities, hk'.dealers.trans hk.dealers⟩

end Keeps

theorem capacities_updateLink (h : Hub) (k : Nat) {f : Link → Link}
    (hcapacity : ∀ l, (f l).capacity = l.capacity) :
    (h.updateLink k f).links.map Link.capacity = h.links.map Link.capacity := by
  refine List.ext_getElem? fun j ↦ ?_
  rw [List.getElem?_map, List.getElem?_map, getElem?_updateLink, Option.map_map]
  congr 1
  funext l
  show (if k = j then f l else l).capacity = l.capacity
  split
  · exact hcapacity l
  · rfl

theorem length_updateDealer (h : Hub) (d : Nat) (f : Dealer → Dealer) :
    (h.updateDealer d f).dealers.length = h.dealers.length := List.length_modify ..

/-- An update that leaves taker and capacity keeps links and dealers. -/
theorem keeps_updateLink (h : Hub) (k : Nat) {f : Link → Link}
    (htaker : ∀ l, (f l).taker = l.taker) (hcapacity : ∀ l, (f l).capacity = l.capacity) :
    h.Keeps (h.updateLink k f) :=
  ⟨fun hh ↦ hh.updateLink htaker, h.capacities_updateLink k hcapacity, rfl⟩

/-- An update that leaves the phase, and opens no inbound side, keeps links and dealers. -/
theorem keeps_updateDealer (h : Hub) (d : Nat) {f : Dealer → Dealer}
    (hphase : ∀ dealer, (f dealer).phase = dealer.phase)
    (hinbound : ∀ dealer, (f dealer).inbound = dealer.inbound ∨ (f dealer).inbound = none) :
    h.Keeps (h.updateDealer d f) :=
  ⟨fun hh ↦ hh.updateDealer hphase hinbound, rfl, h.length_updateDealer d f⟩

theorem keeps_unbind (h : Hub) (k : Nat) : h.Keeps (h.unbind k) :=
  h.keeps_updateLink k (fun _ ↦ rfl) fun _ ↦ rfl

theorem keeps_deliver (h : Hub) (k : Nat) (frames : Frames) : h.Keeps (h.deliver k frames).2 := by
  rw [deliver]
  split
  · exact .refl h
  · split
    · exact .refl h
    · split
      · exact .refl h
      · exact h.keeps_updateLink k (fun _ ↦ rfl) fun _ ↦ rfl

theorem keeps_collect (h : Hub) (k : Nat) : h.Keeps (h.collect k).2 := by
  rw [collect]
  split
  · exact .refl h
  · split
    · exact h.keeps_updateLink k (fun _ ↦ rfl) fun _ ↦ rfl
    · exact .refl h

theorem keeps_abandonRequests (h : Hub) (dealer : Dealer) : h.Keeps (h.abandonRequests dealer) := by
  rw [abandonRequests]
  split
  · exact .refl h
  · exact h.keeps_updateLink _ (fun _ ↦ rfl) fun _ ↦ rfl

theorem keeps_dropDealer (h : Hub) (d : Nat) : h.Keeps (h.dropDealer d) := by
  rw [dropDealer]
  split
  · exact .refl h
  · next dealer _ =>
    exact (h.keeps_abandonRequests dealer).trans
      (keeps_updateDealer _ d (fun _ ↦ rfl) fun _ ↦ .inr rfl)

theorem keeps_connect (h : Hub) (d : Nat) (address : String) :
    h.Keeps (h.connect d address).2 := by
  rw [connect]
  split
  · exact .refl h
  · next dealer hd =>
    split
    · exact .refl h
    · next hphase =>
      split
      · exact .refl h
      · next k hk =>
        split
        · exact .refl h
        · next hlt =>
          -- the address is bound to a link, so the link is there
          obtain ⟨hlength, -, -⟩ := List.findIdx?_eq_some_iff_getElem.1 hk
          have hl : h.links[k]? = some h.links[k] := List.getElem?_eq_getElem hlength
          have hfree : h.links[k].taker = none := by
            rw [hl, Option.bind_some] at hlt
            exact Option.not_isSome_iff_eq_none.1 hlt
          refine ⟨fun hh ↦ hh.join hd (Decidable.of_not_not hphase) hl hfree, ?_, ?_⟩
          · exact h.capacities_updateLink k fun _ ↦ rfl
          · exact length_updateDealer _ d _

theorem keeps_poll (h : Hub) (d : Nat) : h.Keeps (h.poll d).2 := by
  rw [poll]
  split
  · exact .refl h
  · split
    · exact .refl h
    · split
      · exact .refl h
      · next k _ =>
        split
        · exact .refl h
        · split
          · next rest _ =>
            have hlink : h.Keeps (h.updateLink k fun l ↦ { l with requests := rest }) :=
              h.keeps_updateLink k (fun _ ↦ rfl) fun _ ↦ rfl
            exact hlink.trans (keeps_updateDealer _ d (fun _ ↦ rfl) fun _ ↦ .inl rfl)
          · exact .refl h

theorem keeps_receive (h : Hub) (d : Nat) : h.Keeps (h.receive d).2 := by
  rw [receive]
  split
  · exact .refl h
  · split
    · exact h.keeps_updateDealer d (fun _ ↦ rfl) fun _ ↦ .inl rfl
    · split
      · exact .refl h
      · split
        · exact .refl h
        · split
          · exact h.keeps_updateLink _ (fun _ ↦ rfl) fun _ ↦ rfl
          · exact .refl h

theorem keeps_disconnect (h : Hub) (d : Nat) : h.Keeps (h.disconnect d).2 := by
  rw [disconnect]
  split
  · exact .refl h
  · next dealer _ =>
    split
    · refine (h.keeps_abandonRequests dealer).trans ⟨fun hh ↦ hh.close, rfl, ?_⟩
      exact length_updateDealer _ d _
    · exact .refl h

theorem keeps_retain (h : Hub) (d : Nat) : h.Keeps (h.retain d) :=
  h.keeps_updateDealer d (fun _ ↦ rfl) fun _ ↦ .inl rfl

theorem keeps_release (h : Hub) (d : Nat) : h.Keeps (h.release d) :=
  h.keeps_updateDealer d (fun _ ↦ rfl) fun _ ↦ .inl rfl

theorem keeps_send (h : Hub) (d : Nat) (frames : Frames) : h.Keeps (h.send d frames).2 := by
  rw [send]
  split
  · exact .refl h
  · split
    · exact .refl h
    · exact .refl h
    · refine h.keeps_updateLink _ (fun l ↦ ?_) fun l ↦ ?_
      · split <;> rfl
      · split <;> rfl

/-- One thing that dealer `d` does where it is, wherever that is: it sends, looks for a message or
takes one, or its side of the link is held on to or given up. -/
inductive Handles (d : Nat) (h : Hub) : Hub → Prop where
  | send (frames : Frames) : Handles d h (h.send d frames).2
  | poll : Handles d h (h.poll d).2
  | receive : Handles d h (h.receive d).2
  | retain : Handles d h (h.retain d)
  | release : Handles d h (h.release d)
  | drop : Handles d h (h.dropDealer d)

/-- One thing that dealer `d` does: it handles messages or its side of the link, or it connects, to
no other address than this, or disconnects. -/
inductive Acts (d : Nat) (address : String) (h : Hub) : Hub → Prop where
  | handles {h' : Hub} (hh : h.Handles d h') : Acts d address h h'
  | connect : Acts d address h (h.connect d address).2
  | disconnect : Acts d address h (h.disconnect d).2

/-- What is done on a dealer keeps links and dealers. -/
theorem Handles.keeps {h h' : Hub} {d : Nat} (hh : h.Handles d h') : h.Keeps h' := by
  cases hh with
  | send frames => exact h.keeps_send d frames
  | poll => exact h.keeps_poll d
  | receive => exact h.keeps_receive d
  | retain => exact h.keeps_retain d
  | release => exact h.keeps_release d
  | drop => exact h.keeps_dropDealer d

/-- What a worker does on its dealer keeps links and dealers. -/
theorem Acts.keeps {h h' : Hub} {d : Nat} {address : String} (ha : h.Acts d address h') :
    h.Keeps h' := by
  cases ha with
  | handles hh => exact hh.keeps
  | connect => exact h.keeps_connect d address
  | disconnect => exact h.keeps_disconnect d

/-! ### Operations that add links and dealers -/

/-- A link more, as it is made by `bind`, or a dealer more, as it is made by `newDealer`. -/
theorem Coherent.append {h : Hub} (hh : h.Coherent) (links : List Link) (dealers : List Dealer)
    (hlinks : ∀ l ∈ links, l.taker = none)
    (hdealers : ∀ dealer ∈ dealers, dealer.phase = .unconnected ∧ dealer.inbound = none) :
    Coherent { links := h.links ++ links, dealers := h.dealers ++ dealers } where
  connected_of_inbound := by
    intro d k dealer hd hin
    rcases Nat.lt_or_ge d h.dealers.length with hlt | hge
    · rw [List.getElem?_append_left hlt] at hd
      exact hh.connected_of_inbound hd hin
    · rw [List.getElem?_append_right hge] at hd
      rw [(hdealers dealer (List.mem_of_getElem? hd)).2] at hin
      cases hin
  taker_of_connected := by
    intro d k dealer hd hphase
    rcases Nat.lt_or_ge d h.dealers.length with hlt | hge
    · rw [List.getElem?_append_left hlt] at hd
      obtain ⟨l, hl, hlt⟩ := hh.taker_of_connected hd hphase
      exact ⟨l, getElem?_append_of_eq_some hl links, hlt⟩
    · rw [List.getElem?_append_right hge] at hd
      rw [(hdealers dealer (List.mem_of_getElem? hd)).1] at hphase
      cases hphase
  connected_of_taker := by
    intro d k l hl hlt
    rcases Nat.lt_or_ge k h.links.length with hk | hge
    · rw [List.getElem?_append_left hk] at hl
      obtain ⟨dealer, hd, hor⟩ := hh.connected_of_taker hl hlt
      exact ⟨dealer, getElem?_append_of_eq_some hd dealers, hor⟩
    · rw [List.getElem?_append_right hge] at hl
      rw [hlinks l (List.mem_of_getElem? hl)] at hlt
      cases hlt

/-- A bind that succeeds adds a link to the others. -/
theorem eq_of_bind {h h' : Hub} {address : String} {mark : UInt64} {k : Nat}
    (hb : h.bind address mark = .ok (k, h')) :
    k = h.links.length ∧
      h' = { h with links := h.links ++ [{ address, capacity := capacity mark }] } := by
  rw [Hub.bind] at hb
  split at hb
  · cases hb
  · split at hb
    · cases hb
    · cases hb
      exact ⟨rfl, rfl⟩

/-- To bind keeps the hub coherent. -/
theorem Coherent.bind {h h' : Hub} {address : String} {mark : UInt64} {k : Nat} (hh : h.Coherent)
    (hb : h.bind address mark = .ok (k, h')) : h'.Coherent := by
  obtain ⟨-, rfl⟩ := eq_of_bind hb
  have happend := hh.append [{ address, capacity := capacity mark }] []
    (fun l hl ↦ List.mem_singleton.1 hl ▸ rfl) fun _ hd ↦ by cases hd
  rw [List.append_nil] at happend
  exact happend

/-- To create a dealer keeps the hub coherent. -/
theorem Coherent.newDealer {h : Hub} (hh : h.Coherent) : h.newDealer.2.Coherent := by
  have happend := hh.append [] [{}] (fun _ hl ↦ by cases hl)
    fun dealer hd ↦ List.mem_singleton.1 hd ▸ ⟨rfl, rfl⟩
  rw [List.append_nil] at happend
  exact happend

end Hub

end QueryDispatch
