import QueryDispatch.Proofs.Hub.Replies
import QueryDispatch.Proofs.Hub.Requests

/-!
# No messages on other links

A service and the dealer that connects to it have their link to themselves. Links are numbered by
bindings and not by addresses, so it makes no difference to this that an address is bound again
while dealers, senders and messages of an earlier binding are still about.

## Main results

* `Separated.of_leadsTo`: along every history, no dealer connects to two services and no service to
  two dealers, a dealer receives only what its service sent, and a service collects only what was
  sent through its dealer.
-/

namespace QueryDispatch.Hub

/-- The reply that was sent through a dealer, or one of its senders. -/
def Moment.replied? (m : Moment) (d : Nat) : Option Frames :=
  match m.deed? with
  | some (.replied e frames) => if e = d then some frames else none
  | _ => none

/-- The replies that were sent through a dealer, or one of its senders. -/
def Past.replied (p : Past) (d : Nat) : List Frames := p.filterMap fun m ↦ m.replied? d

theorem Past.replied_snoc (p : Past) (m : Moment) (d : Nat) :
    replied (p ++ [m]) d = p.replied d ++ (m.replied? d).toList := filterMap_snoc p m _

/-- Services and dealers, as far as they were connected and messages passed between them. -/
structure Separate (p : Past) : Prop where
  /-- At most one dealer ever connects to a service. -/
  alone : ∀ k, (p.connected k).length ≤ 1
  /-- A dealer connects to one service at most. -/
  faithful : ∀ d j k, d ∈ p.connected j → d ∈ p.connected k → j = k
  /-- Whoever received something is connected to some service, or was. -/
  received : ∀ d, p.received d ≠ [] → ∃ k, d ∈ p.connected k
  /-- All that a dealer received is what the service it connected to sent, in that order. -/
  requests : ∀ d k, d ∈ p.connected k → p.received d <+: p.accepted k
  /-- If a service collected something, then some dealer connected to it. -/
  collected : ∀ k, p.collected k ≠ [] → ∃ d, d ∈ p.connected k
  /-- All that a service collected was sent through the dealer that connected to it, in that order.
  -/
  replies : ∀ d k, d ∈ p.connected k → (p.collected k).Sublist (p.replied d)

/-! ### What one operation does -/

namespace Moment

variable {m : Moment} {d j k bound : Nat} {frames : Frames}

/-- Who has connected to a link did so at an address bound to it. -/
theorem exists_of_connected? (hm : m.connected? k = some d) :
    ∃ address, m.deed? = some (.connected d address) ∧ m.hub.bound? address = some k := by
  rw [connected?] at hm
  split at hm
  · next e address hdeed =>
    split at hm
    · next hbound =>
      obtain rfl := Option.some.inj hm
      exact ⟨address, hdeed, hbound⟩
    · cases hm
  · cases hm

/-- A reply that fits was sent by a dealer connected to the link. -/
theorem exists_of_fitting? (hm : m.fitting? k bound = some frames) :
    ∃ d, m.deed? = some (.replied d frames) ∧ m.isConnected d k = true := by
  rw [fitting?] at hm
  split at hm
  · next e frames' hdeed =>
    split at hm
    · next hfits =>
      obtain rfl := Option.some.inj hm
      exact ⟨e, hdeed, hfits.1⟩
    · cases hm
  · cases hm

/-- Nobody connects to two services at once. -/
theorem eq_of_connected? (hj : m.connected? j = some d) (hk : m.connected? k = some d) : j = k := by
  obtain ⟨address, hdeed, hbound⟩ := exists_of_connected? hj
  obtain ⟨address', hdeed', hbound'⟩ := exists_of_connected? hk
  obtain ⟨-, rfl⟩ := Deed.connected.inj (Option.some.inj (hdeed.symm.trans hdeed'))
  exact Option.some.inj (hbound.symm.trans hbound')

end Moment

namespace Effect

variable {h h' : Hub} {o : Operation} {a : Answer} {d k : Nat} {frames : Frames}

/-- Whoever receives has taken some link. -/
theorem taker_of_received? (he : Effect h o a h') (hh : h.Coherent) (ht : h.Tidy)
    (hm : Moment.received? ⟨h, o, a⟩ d = some frames) :
    ∃ (k : Nat) (l : Link), h.links[k]? = some l ∧ l.taker = some d := by
  have htaker : ∀ {e j : Nat} {dealer : Dealer} {frames' : Frames},
      Moment.received? ⟨h, .receive e, .message frames'⟩ d = some frames →
      h.dealers[e]? = some dealer → dealer.inbound = some j →
      ∃ (k : Nat) (l : Link), h.links[k]? = some l ∧ l.taker = some d := by
    intro e j dealer frames' hm hd hinbound
    obtain ⟨l, hl, htaker⟩ := hh.taker_of_connected hd (hh.connected_of_inbound hd hinbound)
    have hed : e = d := Decidable.byContradiction fun hne ↦ by
      rw [received?_of_ne h hne] at hm
      cases hm
    exact ⟨j, l, hl, hed ▸ htaker⟩
  cases he with
  | fails ho =>
    rw [Moment.received?, Moment.deed?_of_fails ho] at hm
    cases hm
  | @receivesKept e dealer _ hd hpending =>
    rcases hinbound : dealer.inbound with - | j
    · rw [ht e dealer hd hinbound] at hpending
      cases hpending
    · exact htaker hm hd hinbound
  | receives hd _ hinbound => exact htaker hm hd hinbound
  | collects ho => rcases ho with rfl | rfl <;> cases hm
  | _ => cases hm

/-- A service that collects something lives. -/
theorem served_of_collected? (he : Effect h o a h')
    (hm : Moment.collected? ⟨h, o, a⟩ k = some frames) :
    ∃ l, h'.links[k]? = some l ∧ l.served = true := by
  cases he with
  | fails ho =>
    rw [Moment.collected?, Moment.deed?_of_fails ho] at hm
    cases hm
  | @collects _ j l frames' rest ho hl hserved =>
    have hjk : j = k := Decidable.byContradiction fun hne ↦ by
      have hnone : Moment.collected? ⟨h, o, .message frames'⟩ k = none := by
        rcases ho with rfl | rfl <;> exact if_neg hne
      rw [hnone] at hm
      cases hm
    subst hjk
    exact ⟨_, getElem?_updateLink_self hl _, hserved⟩
  | _ => cases hm

end Effect

/-! ### What a history does -/

/-- What is kept of messages and connections, so that every history is `Separate`. -/
structure Separated (p : Past) (h : Hub) : Prop where
  conserved : Conserved p h
  answered : Answered p h
  faithful : ∀ d j k, d ∈ p.connected j → d ∈ p.connected k → j = k
  received : ∀ d, p.received d ≠ [] → ∃ k, d ∈ p.connected k
  offered : ∀ k bound, p.fitting k bound = [] ∨
    ∃ d ∈ p.connected k, (p.fitting k bound).Sublist (p.replied d)
  ahead : ∀ k l, h.links[k]? = some l → p.collected k <+: p.fitting k l.capacity

theorem separated_empty : Separated [] {} where
  conserved := conserved_empty
  answered := answered_empty
  faithful _ _ _ hd := by cases hd
  received _ hd := absurd rfl hd
  offered _ _ := .inl rfl
  ahead _ _ hl := by cases hl

section Step

variable {p : Past} {h h' : Hub} {o : Operation} {a : Answer} {d k : Nat} {l : Link}

/-- The dealers that connected to a service are the takers of its link. -/
theorem Conserved.mem_connected_iff (hp : Conserved p h) :
    d ∈ p.connected k ↔ ∃ l : Link, h.links[k]? = some l ∧ l.taker = some d := by
  rcases hl : h.links[k]? with - | l
  · rw [(hp.absent k hl).2]
    simp
  · rw [hp.taker k l hl]
    simp

/-- Whoever connects now never did before. -/
theorem Conserved.not_mem_of_connected? (hp : Conserved p h) (he : Effect h o a h') {j : Nat}
    (hm : Moment.connected? ⟨h, o, a⟩ k = some d) : d ∉ p.connected j := by
  intro hd
  obtain ⟨l, hl, htaker⟩ := hp.mem_connected_iff.1 hd
  obtain ⟨dealer, hdealer, hphase⟩ := hp.coherent.connected_of_taker hl htaker
  rw [(he.unconnected_of_connected? hm).1 dealer hdealer] at hphase
  rcases hphase with hphase | hphase <;> cases hphase

/-- A link is connected to once at most. -/
theorem Conserved.eq_of_mem_connected (hp : Conserved p h) {e : Nat} (hd : d ∈ p.connected k)
    (he : e ∈ p.connected k) : d = e := by
  obtain ⟨l, hl, htaker⟩ := hp.mem_connected_iff.1 hd
  obtain ⟨l', hl', htaker'⟩ := hp.mem_connected_iff.1 he
  obtain rfl := Option.some.inj (hl.symm.trans hl')
  exact Option.some.inj (htaker.symm.trans htaker')

/-- One operation more keeps the replies of a link those of one dealer. -/
theorem Separated.offered_step (hp : Separated p h) (o : Operation) (a : Answer) (k bound : Nat) :
    Past.fitting (p ++ [⟨h, o, a⟩]) k bound = [] ∨ ∃ d ∈ Past.connected (p ++ [⟨h, o, a⟩]) k,
      (Past.fitting (p ++ [⟨h, o, a⟩]) k bound).Sublist (Past.replied (p ++ [⟨h, o, a⟩]) d) := by
  have hoffered := hp.offered k bound
  rw [Past.fitting_snoc, Past.connected_snoc]
  rcases hfitting : Moment.fitting? ⟨h, o, a⟩ k bound with - | frames
  · -- nothing is added to what was sent before
    rw [Option.toList_none, List.append_nil]
    refine hoffered.imp_right fun ⟨d, hd, hsub⟩ ↦ ⟨d, List.mem_append_left _ hd, ?_⟩
    rw [Past.replied_snoc]
    exact hsub.trans (List.sublist_append_left _ _)
  · -- whoever sends this is connected, and all that was sent before came the same way
    obtain ⟨d, hdeed, hconnected⟩ := Moment.exists_of_fitting? hfitting
    obtain ⟨dealer, hdealer, hphase⟩ := (Option.any_eq_true ..).1 hconnected
    have hd : d ∈ p.connected k := hp.conserved.mem_connected_iff.2
      (hp.conserved.coherent.taker_of_connected hdealer (eq_of_beq hphase))
    have hreplied : Moment.replied? ⟨h, o, a⟩ d = some frames := by
      rw [Moment.replied?, hdeed]
      exact if_pos rfl
    refine .inr ⟨d, List.mem_append_left _ hd, ?_⟩
    rw [Past.replied_snoc, hreplied]
    rcases hoffered with hnil | ⟨e, hmem, hsub⟩
    · rw [hnil]
      exact List.sublist_append_right _ _
    · rw [hp.conserved.eq_of_mem_connected hd hmem]
      exact hsub.append (.refl _)

/-- One operation more keeps what was collected at the front of what fits. -/
theorem Separated.ahead_step (he : Effect h o a h') (hp : Separated p h) {l' : Link}
    (hl' : h'.links[k]? = some l') :
    Past.collected (p ++ [⟨h, o, a⟩]) k <+: Past.fitting (p ++ [⟨h, o, a⟩]) k l'.capacity := by
  rcases hserved : l'.served with - | -
  · -- a service that is gone collects nothing more
    have hcollected : Moment.collected? ⟨h, o, a⟩ k = none := by
      refine Option.eq_none_iff_forall_ne_some.2 fun frames hm ↦ ?_
      obtain ⟨l'', hl'', hlives⟩ := he.served_of_collected? hm
      obtain rfl := Option.some.inj (hl'.symm.trans hl'')
      rw [hserved] at hlives
      cases hlives
    rw [Past.collected_snoc, Past.fitting_snoc, hcollected, Option.toList_none, List.append_nil]
    rcases hl : h.links[k]? with - | l
    · rw [(hp.answered.absent k 0 hl).1]
      exact List.nil_prefix
    · obtain ⟨l'', hl'', -, hcapacity⟩ := he.link hl
      obtain rfl := Option.some.inj (hl'.symm.trans hl'')
      rw [hcapacity]
      exact (hp.ahead k l hl).trans (List.prefix_append _ _)
  · rw [← (hp.answered.step he).account k l' hl' hserved]
    exact List.prefix_append _ _

/-- One operation more keeps the links separate. -/
theorem Separated.step (he : Effect h o a h') (hp : Separated p h) :
    Separated (p ++ [⟨h, o, a⟩]) h' where
  conserved := hp.conserved.step he
  answered := hp.answered.step he
  faithful d j k hj hk := by
    rw [Past.connected_snoc, List.mem_append, Option.mem_toList] at hj hk
    rcases hj with hj | hj
    · rcases hk with hk | hk
      · exact hp.faithful d j k hj hk
      · exact absurd hj (hp.conserved.not_mem_of_connected? he hk)
    · rcases hk with hk | hk
      · exact absurd hk (hp.conserved.not_mem_of_connected? he hj)
      · exact Moment.eq_of_connected? hj hk
  received d hd := by
    suffices hbefore : ∃ k, d ∈ p.connected k by
      obtain ⟨k, hk⟩ := hbefore
      refine ⟨k, ?_⟩
      rw [Past.connected_snoc]
      exact List.mem_append_left _ hk
    rcases hreceived : Moment.received? ⟨h, o, a⟩ d with - | frames
    · rw [Past.received_snoc, hreceived, Option.toList_none, List.append_nil] at hd
      exact hp.received d hd
    · obtain ⟨k, hk⟩ := he.taker_of_received? hp.conserved.coherent hp.conserved.tidy hreceived
      exact ⟨k, hp.conserved.mem_connected_iff.2 hk⟩
  offered := hp.offered_step o a
  ahead _ _ hl' := hp.ahead_step he hl'

end Step

/-- **No history crosses messages.** -/
theorem Separated.of_leadsTo {p : Past} {h : Hub} (hph : p.LeadsTo h) : Separated p h :=
  hph.induction separated_empty fun he hp ↦ hp.step he

/-- The links of a history are separate. -/
theorem Separated.separate {p : Past} {h : Hub} (hp : Separated p h) : Separate p where
  alone k := by
    rcases hl : h.links[k]? with - | l
    · rw [(hp.conserved.absent k hl).2]
      exact Nat.zero_le _
    · rw [hp.conserved.taker k l hl]
      exact Option.length_toList_le
  faithful := hp.faithful
  received := hp.received
  requests d k hd := by
    obtain ⟨l, hl, htaker⟩ := hp.conserved.mem_connected_iff.1 hd
    have hahead := hp.conserved.ahead k l hl
    rw [Past.taken, hp.conserved.taker k l hl, htaker, Option.toList_some, List.flatMap_cons,
      List.flatMap_nil, List.append_nil] at hahead
    exact hahead
  collected k hk := by
    rcases hl : h.links[k]? with - | l
    · exact absurd (hp.answered.absent k 0 hl).1 hk
    · rcases hp.offered k l.capacity with hnil | ⟨d, hd, -⟩
      · exact absurd (List.prefix_nil.1 (hnil ▸ hp.ahead k l hl)) hk
      · exact ⟨d, hd⟩
  replies d k hd := by
    obtain ⟨l, hl, -⟩ := hp.conserved.mem_connected_iff.1 hd
    refine (hp.ahead k l hl).sublist.trans ?_
    rcases hp.offered k l.capacity with hnil | ⟨e, hmem, hsub⟩
    · rw [hnil]
      exact List.nil_sublist _
    · rw [hp.conserved.eq_of_mem_connected hd hmem]
      exact hsub

end QueryDispatch.Hub
