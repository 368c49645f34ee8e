import Mathlib.Logic.Relation
import QueryDispatch.Proofs.Hub.Part

/-!
# What is touched at one address

A dealer touches two things of its hub, itself and the links of the address it goes to, and a
service touches its link (`Works`). Everything they do is a few such touches, one after the other
(`Worked`), so whatever a single touch keeps is kept by all of it: which links there are at which
address, who takes them, and the part of the hub that concerns another address (`Worked.part`).
-/

namespace QueryDispatch.Hub

/-- One touch at an address, by a dealer that goes there or, if there is none, by a service: it
changes a link there, which only the dealer may take, or the dealer. -/
inductive Works (actor : Option Nat) (address : String) (h : Hub) : Hub → Prop where
  | link {k : Nat} {l : Link} {f : Link → Link} (hl : h.links[k]? = some l)
      (haddress : l.address = address) (hf : ∀ l, (f l).address = l.address)
      (htaker : ∀ l e, (f l).taker = some e → l.taker = some e ∨ actor = some e) :
      Works actor address h (h.updateLink k f)
  | dealer {d : Nat} (hd : actor = some d) (f : Dealer → Dealer) :
      Works actor address h (h.updateDealer d f)

/-- Touches, one after the other. -/
abbrev Worked (actor : Option Nat) (address : String) : Hub → Hub → Prop :=
  Relation.ReflTransGen (Works actor address)

/-- The links that the dealer receives from and replies on are of the address. -/
def GoesTo (h : Hub) (d : Nat) (address : String) : Prop :=
  ∀ (k : Nat) (dealer : Dealer), h.dealers[d]? = some dealer →
    dealer.inbound = some k ∨ dealer.phase = .connected k →
      ∃ l, h.links[k]? = some l ∧ l.address = address

variable {h h' : Hub} {d k : Nat} {address a : String} {l : Link} {dealer : Dealer}
  {actor : Option Nat}

/-- A dealer goes where the links are that it takes. -/
theorem Coherent.goesTo (hh : h.Coherent)
    (htakers : ∀ (k : Nat) (l : Link), h.links[k]? = some l → l.taker = some d →
      l.address = address) : h.GoesTo d address := by
  intro k dealer hd hk
  have hphase : dealer.phase = .connected k := hk.elim (hh.connected_of_inbound hd) id
  obtain ⟨l, hl, htaker⟩ := hh.taker_of_connected hd hphase
  exact ⟨l, hl, htakers k l hl htaker⟩

/-! ### What a service does -/

section Service

variable (hl : h.links[k]? = some l)

include hl

/-- A change of a link that leaves its address and its taker alone. -/
theorem worked_updateLink (haddress : l.address = address) {f : Link → Link}
    (hf : ∀ l, (f l).address = l.address) (htaker : ∀ l, (f l).taker = l.taker) :
    Worked actor address h (h.updateLink k f) :=
  .single (.link hl haddress hf fun l _ he ↦ .inl ((htaker l).symm.trans he))

theorem worked_unbind : Worked none l.address h (h.unbind k) :=
  worked_updateLink hl rfl (fun _ ↦ rfl) fun _ ↦ rfl

theorem worked_deliver (frames : Frames) : Worked none l.address h (h.deliver k frames).2 := by
  rw [deliver, hl]
  dsimp only
  split
  · exact .refl
  · split
    · exact .refl
    · exact worked_updateLink hl rfl (fun _ ↦ rfl) fun _ ↦ rfl

theorem worked_collect : Worked none l.address h (h.collect k).2 := by
  rw [collect, hl]
  dsimp only
  split
  · exact worked_updateLink hl rfl (fun _ ↦ rfl) fun _ ↦ rfl
  · exact .refl

end Service

/-! ### What a dealer does -/

/-- An update of a dealer is work on that dealer. -/
theorem worked_updateDealer (f : Dealer → Dealer) :
    Worked (some d) address h (h.updateDealer d f) := .single (.dealer rfl f)

section Goes

variable (hg : h.GoesTo d address)

include hg

/-- To abandon the requests of a dealer is work on it and its link. -/
theorem worked_abandonRequests (hd : h.dealers[d]? = some dealer) :
    Worked (some d) address h (h.abandonRequests dealer) := by
  rw [abandonRequests]
  rcases hinbound : dealer.inbound with - | k
  · exact .refl
  · obtain ⟨l, hl, haddress⟩ := hg k dealer hd (.inl hinbound)
    exact worked_updateLink hl haddress (fun _ ↦ rfl) fun _ ↦ rfl

theorem worked_dropDealer : Worked (some d) address h (h.dropDealer d) := by
  rw [dropDealer]
  rcases hd : h.dealers[d]? with - | dealer
  · exact .refl
  · exact (worked_abandonRequests hg hd).trans (worked_updateDealer _)

theorem worked_poll : Worked (some d) address h (h.poll d).2 := by
  rw [poll]
  rcases hd : h.dealers[d]? with - | dealer
  · exact .refl
  · dsimp only
    split
    · exact .refl
    · rcases hinbound : dealer.inbound with - | k
      · exact .refl
      · obtain ⟨l, hl, haddress⟩ := hg k dealer hd (.inl hinbound)
        simp only [hl]
        rcases l.requests with - | ⟨frames, rest⟩
        · exact .refl
        · have hqueue : Worked (some d) address h
              (h.updateLink k fun l ↦ { l with requests := rest }) :=
            worked_updateLink hl haddress (fun _ ↦ rfl) fun _ ↦ rfl
          exact hqueue.trans (worked_updateDealer _)

theorem worked_receive : Worked (some d) address h (h.receive d).2 := by
  rw [receive]
  rcases hd : h.dealers[d]? with - | dealer
  · exact .refl
  · dsimp only
    rcases dealer.pending with - | frames
    · rcases hinbound : dealer.inbound with - | k
      · exact .refl
      · obtain ⟨l, hl, haddress⟩ := hg k dealer hd (.inl hinbound)
        simp only [hl]
        rcases l.requests with - | ⟨frames, rest⟩
        · exact .refl
        · exact worked_updateLink hl haddress (fun _ ↦ rfl) fun _ ↦ rfl
    · exact worked_updateDealer _

theorem worked_disconnect : Worked (some d) address h (h.disconnect d).2 := by
  rw [disconnect]
  rcases hd : h.dealers[d]? with - | dealer
  · exact .refl
  · dsimp only
    rcases dealer.phase with - | k | -
    · exact .refl
    · exact (worked_abandonRequests hg hd).trans (worked_updateDealer _)
    · exact .refl

theorem worked_send (frames : Frames) : Worked (some d) address h (h.send d frames).2 := by
  rw [send]
  rcases hd : h.dealers[d]? with - | dealer
  · exact .refl
  · dsimp only
    rcases hphase : dealer.phase with - | k | -
    · exact .refl
    · obtain ⟨l, hl, haddress⟩ := hg k dealer hd (.inr hphase)
      refine worked_updateLink hl haddress (fun l ↦ ?_) fun l ↦ ?_
      · split <;> rfl
      · split <;> rfl
    · exact .refl

end Goes

/-- To connect is work on the dealer and the links of its address. -/
theorem worked_connect : Worked (some d) address h (h.connect d address).2 := by
  rcases hbound : h.bound? address with - | k
  · rw [connect]
    split
    · exact .refl
    · split
      · exact .refl
      · simp only [hbound]
        exact .refl
  · obtain ⟨hlength, hmatch, -⟩ := List.findIdx?_eq_some_iff_getElem.1 hbound
    have hl : h.links[k]? = some h.links[k] := List.getElem?_eq_getElem hlength
    have haddress : h.links[k].address = address :=
      eq_of_beq (Bool.and_eq_true_iff.1 hmatch).2
    rw [connect]
    split
    · exact .refl
    · split
      · exact .refl
      · simp only [hbound]
        split
        · exact .refl
        · have htaken : Works (some d) address h
              (h.updateLink k fun l ↦ { l with taker := some d }) :=
            .link hl haddress (fun _ ↦ rfl) fun _ _ he ↦ .inr he
          exact .trans (.single htaken) (worked_updateDealer _)

/-- **What a dealer does is done at the address it goes to.** -/
theorem Acts.worked (hg : h.GoesTo d address) (ha : h.Acts d address h') :
    Worked (some d) address h h' := by
  cases ha with
  | handles hh =>
    cases hh with
    | send frames => exact worked_send hg frames
    | poll => exact worked_poll hg
    | receive => exact worked_receive hg
    | retain | release => exact worked_updateDealer _
    | drop => exact worked_dropDealer hg
  | connect => exact worked_connect
  | disconnect => exact worked_disconnect hg

/-! ### What touches keep -/

section Kept

variable (hw : Worked actor address h h')

include hw

/-- A link stays where it is. -/
theorem Worked.link (hl : h.links[k]? = some l) :
    ∃ l', h'.links[k]? = some l' ∧ l'.address = l.address := by
  induction hw with
  | refl => exact ⟨l, hl, rfl⟩
  | tail _ hlast ih =>
    obtain ⟨l', hl', haddress⟩ := ih
    cases hlast with
    | @link j _ f _ _ hf =>
      refine ⟨if j = k then f l' else l', by rw [getElem?_updateLink, hl']; rfl, ?_⟩
      split
      · exact (hf l').trans haddress
      · exact haddress
    | dealer => exact ⟨l', hl', haddress⟩

/-- Work adds no link to an address. -/
theorem Worked.number (a : String) : h'.number a = h.number a := by
  induction hw with
  | refl => rfl
  | tail _ hlast ih =>
    cases hlast with
    | link _ _ hf => exact (number_updateLink hf _).trans ih
    | dealer => exact ih

/-- Who takes a link goes to its address, if it is so of the dealer that is at work. -/
theorem Worked.takers {P : Nat → String → Prop} (hP : ∀ d, actor = some d → P d address)
    (htakers : ∀ (k : Nat) (l : Link) (e : Nat), h.links[k]? = some l → l.taker = some e →
      P e l.address) (k : Nat) (l : Link) (e : Nat) (hl : h'.links[k]? = some l)
    (htaker : l.taker = some e) : P e l.address := by
  induction hw generalizing k l e with
  | refl => exact htakers k l e hl htaker
  | tail _ hlast ih =>
    cases hlast with
    | @link j l₀ f hl₀ haddress hf htouch =>
      obtain ⟨l', hl', rfl⟩ := exists_of_getElem?_updateLink hl
      split at htaker
      · next hjk =>
        subst hjk
        obtain rfl := Option.some.inj (hl₀.symm.trans hl')
        rw [if_pos rfl, hf]
        rcases htouch l₀ e htaker with htaker | hactor
        · exact ih j l₀ e hl' htaker
        · exact haddress ▸ hP e hactor
      · next hjk =>
        rw [if_neg hjk]
        exact ih k l' e hl' htaker
    | dealer => exact ih k l e hl htaker

/-- **What is done at one address leaves the part of another as it is.** -/
theorem Worked.part {mine : Nat → Bool} (hd : ∀ d, actor = some d → mine d = false)
    (ha : (address == a) = false) : h'.part a mine = h.part a mine := by
  induction hw with
  | refl => rfl
  | tail _ hlast ih =>
    cases hlast with
    | link hl haddress hf =>
      exact (part_updateLink_of_ne hl (by rw [isAt, haddress, ha]) hf).trans ih
    | dealer hactor f => exact (part_updateDealer_of_not_mine (hd _ hactor) f).trans ih

end Kept

end QueryDispatch.Hub
