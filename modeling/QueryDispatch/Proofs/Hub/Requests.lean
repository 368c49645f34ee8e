import QueryDispatch.Proofs.Hub.Past

/-!
# Requests arrive in order

What a service sends passes through two places before its dealer has it: the queue of the link, and
the message that the dealer keeps aside when it is asked whether there is one. Together they hold
what is `owed` to the dealer.

## Main results

* `Effect.passage`: each operation changes what is owed by just what is sent and received.
* `Conserved.of_leadsTo`: so along every history, what was sent is what was received and is owed.
* `requests_in_order`: the same seen from outside, with what a service is told and what a poll
  promises.
-/

namespace QueryDispatch

/-- What a dealer's receiving depends on. -/
def Dealer.reception (dealer : Dealer) : Option Nat × Option Frames :=
  (dealer.inbound, dealer.pending)

namespace Hub

/-- The message that the taker of a link keeps aside. -/
def aside (h : Hub) (l : Link) : Option Frames :=
  l.taker.bind fun d ↦ h.dealers[d]?.bind Dealer.pending

/-- What was sent on a link and has yet to be received: the message kept aside, then the queue. -/
def owed (h : Hub) (l : Link) : List Frames := (h.aside l).toList ++ l.requests

section Views

variable {h h' : Hub} {d j k : Nat} {dealer : Dealer} {l l' : Link}

/-- A change of a dealer is no change of the taker of a link that another took. -/
theorem getElem?_updateDealer_of_taker_ne (htaker : l.taker ≠ some d) (f : Dealer → Dealer)
    {e : Nat} (he : l.taker = some e) : (h.updateDealer d f).dealers[e]? = h.dealers[e]? := by
  have hne : d ≠ e := fun heq ↦ htaker (heq ▸ he)
  rw [getElem?_updateDealer]
  simp only [if_neg hne, Option.map_id']

theorem hasReceiver_of_taker (htaker : l.taker = some d) (hd : h.dealers[d]? = some dealer) :
    h.hasReceiver k l = (dealer.inbound == some k) := by
  simp only [hasReceiver, htaker, hd, Option.any_some]

theorem aside_of_taker (htaker : l.taker = some d) (hd : h.dealers[d]? = some dealer) :
    h.aside l = dealer.pending := by
  rw [aside, htaker, Option.bind_some, hd, Option.bind_some]

/-- Of the dealers, only the taker of a link makes a difference to its receiver. -/
theorem hasReceiver_congr (htaker : l'.taker = l.taker) (hserved : l'.served = l.served)
    (hdealers : ∀ e, l.taker = some e →
      h'.dealers[e]?.map Dealer.reception = h.dealers[e]?.map Dealer.reception) :
    h'.hasReceiver k l' = h.hasReceiver k l := by
  rw [hasReceiver, hasReceiver, htaker]
  rcases hl : l.taker with - | e
  · exact hserved
  · have hany : ∀ h : Hub, h.dealers[e]?.any (fun dealer ↦ dealer.inbound == some k) =
        (h.dealers[e]?.map Dealer.reception).any fun r ↦ r.1 == some k := fun h ↦ by
      rw [Option.any_map]
      rfl
    dsimp only
    rw [hany, hany, hdealers e hl]

/-- What is set aside for a link depends on its taker's receiving side only. -/
theorem aside_congr (htaker : l'.taker = l.taker) (hdealers : ∀ e, l.taker = some e →
      h'.dealers[e]?.map Dealer.reception = h.dealers[e]?.map Dealer.reception) :
    h'.aside l' = h.aside l := by
  rw [aside, aside, htaker]
  rcases hl : l.taker with - | e
  · rfl
  · have hbind : ∀ h : Hub, h.dealers[e]?.bind Dealer.pending =
        (h.dealers[e]?.map Dealer.reception).bind Prod.snd := fun h ↦ by
      rw [Option.bind_map]
      rfl
    rw [Option.bind_some, Option.bind_some, hbind, hbind, hdealers e hl]

/-- The taker of a link is the dealer that is connected to it. -/
theorem Coherent.taker_eq (hh : h.Coherent) (hd : h.dealers[d]? = some dealer)
    (hphase : dealer.phase = .connected k) (hl : h.links[k]? = some l) : l.taker = some d := by
  obtain ⟨l', hl', htaker⟩ := hh.taker_of_connected hd hphase
  obtain rfl := Option.some.inj (hl.symm.trans hl')
  exact htaker

/-- A dealer that is not closed is the taker of no other link than the one it is connected to. -/
theorem Coherent.taker_ne (hh : h.Coherent) (hd : h.dealers[d]? = some dealer)
    (hclosed : dealer.phase ≠ .closed) (hphase : dealer.phase ≠ .connected k)
    (hl : h.links[k]? = some l) : l.taker ≠ some d := by
  intro htaker
  obtain ⟨dealer', hd', hor⟩ := hh.connected_of_taker hl htaker
  obtain rfl := Option.some.inj (hd.symm.trans hd')
  exact hor.elim hphase hclosed

/-- A dealer that can receive does so from the link that it took. -/
theorem Coherent.receiver_of_inbound (hh : h.Coherent) (hd : h.dealers[d]? = some dealer)
    (hinbound : dealer.inbound = some k) (hl : h.links[k]? = some l) :
    l.taker = some d ∧ h.hasReceiver k l = true := by
  have htaker := hh.taker_eq hd (hh.connected_of_inbound hd hinbound) hl
  refine ⟨htaker, ?_⟩
  rw [hasReceiver_of_taker htaker hd, hinbound]
  exact beq_self_eq_true _

/-- A link has not been taken by a dealer that receives from another. -/
theorem Coherent.taker_ne_of_inbound (hh : h.Coherent) (hd : h.dealers[d]? = some dealer)
    (hinbound : dealer.inbound = some j) (hjk : j ≠ k) (hl : h.links[k]? = some l) :
    l.taker ≠ some d := by
  refine hh.taker_ne hd ?_ ?_ hl <;> rw [hh.connected_of_inbound hd hinbound]
  · exact Phase.noConfusion
  · exact fun heq ↦ hjk (Phase.connected.inj heq)

end Views

/-! ### What one operation does -/

/-- The request that the taker of a link received. -/
def Moment.taken? (m : Moment) (l : Link) : Option Frames := l.taker.bind m.received?

/-- Nothing is taken from a link whose taker receives nothing. -/
theorem Moment.taken?_eq_none {m : Moment} {l : Link}
    (h : ∀ e, l.taker = some e → m.received? e = none) : m.taken? l = none := by
  rw [taken?]
  rcases hl : l.taker with - | e
  · rfl
  · exact h e hl

theorem Moment.taken?_of_taker {m : Moment} {l : Link} {d : Nat} (h : l.taker = some d) :
    m.taken? l = m.received? d := by
  rw [taken?, h, Option.bind_some]

/-- What an operation may do to the requests of a link: someone takes it, or messages are sent and
received, and what is owed changes by just these. Nothing is received as the receiver goes. -/
structure Passage (h : Hub) (k : Nat) (l : Link) (m : Moment) (h' : Hub) (l' : Link) : Prop where
  link : h'.links[k]? = some l'
  taker : l'.taker.toList = l.taker.toList ++ (m.connected? k).toList
  account : h'.hasReceiver k l' = true → h.hasReceiver k l = true ∧
    h.owed l ++ (m.accepted? k).toList = (m.taken? l).toList ++ h'.owed l'
  silent : h'.hasReceiver k l' = false → m.taken? l = none

section Passages

variable {h h' : Hub} {d j k : Nat} {dealer : Dealer} {l l' : Link} {frames : Frames}
  {rest : List Frames} {m : Moment}

/-- Nothing happens on the link. -/
theorem passage_of_same (hl' : h'.links[k]? = some l') (htaker : l'.taker = l.taker)
    (hserved : l'.served = l.served) (hrequests : l'.requests = l.requests)
    (hdealers : ∀ e, l.taker = some e →
      h'.dealers[e]?.map Dealer.reception = h.dealers[e]?.map Dealer.reception)
    (haccepted : m.accepted? k = none) (hconnected : m.connected? k = none)
    (hreceived : ∀ e, l.taker = some e → m.received? e = none) : Passage h k l m h' l' where
  link := hl'
  taker := by rw [htaker, hconnected, Option.toList_none, List.append_nil]
  account hr := by
    rw [haccepted, Moment.taken?_eq_none hreceived, owed, owed, aside_congr htaker hdealers,
      hrequests]
    exact ⟨hasReceiver_congr htaker hserved hdealers ▸ hr, List.append_nil _⟩
  silent _ := Moment.taken?_eq_none hreceived

/-- A change of a link that concerns neither its taker nor its requests. -/
theorem passage_updateLink (hl : h.links[k]? = some l) {f : Link → Link}
    (htaker : ∀ l, (f l).taker = l.taker) (hserved : ∀ l, (f l).served = l.served)
    (hrequests : ∀ l, (f l).requests = l.requests) (haccepted : m.accepted? k = none)
    (hconnected : m.connected? k = none) (hreceived : ∀ e, m.received? e = none) :
    ∃ l', Passage h k l m (h.updateLink j f) l' := by
  by_cases hjk : j = k
  · exact ⟨f l, passage_of_same (hjk ▸ getElem?_updateLink_self (hjk ▸ hl) f) (htaker l) (hserved l)
      (hrequests l) (fun _ _ ↦ rfl) haccepted hconnected fun e _ ↦ hreceived e⟩
  · exact ⟨l, passage_of_same (getElem?_updateLink_of_ne hl hjk f) rfl rfl rfl (fun _ _ ↦ rfl)
      haccepted hconnected fun e _ ↦ hreceived e⟩

/-- A change of a dealer that does not concern its receiving. -/
theorem passage_updateDealer (hl : h.links[k]? = some l) {f : Dealer → Dealer}
    (hf : ∀ dealer, (f dealer).reception = dealer.reception) (haccepted : m.accepted? k = none)
    (hconnected : m.connected? k = none) (hreceived : ∀ e, m.received? e = none) :
    Passage h k l m (h.updateDealer d f) l := by
  refine passage_of_same hl rfl rfl rfl (fun e _ ↦ ?_) haccepted hconnected fun e _ ↦ hreceived e
  rw [getElem?_updateDealer, Option.map_map]
  congr 1
  funext dealer
  show (if d = e then f dealer else dealer).reception = dealer.reception
  split
  · exact hf dealer
  · rfl

/-- An unbind passes every link on. -/
theorem passage_unbind (hl : h.links[k]? = some l) :
    ∃ l', Passage h k l ⟨h, .unbind j, .done⟩ (h.unbind j) l' := by
  have hnone : Moment.taken? ⟨h, .unbind j, .done⟩ l = none := Moment.taken?_eq_none fun _ _ ↦ rfl
  by_cases hjk : j = k
  · subst hjk
    have hl' := getElem?_updateLink_self hl fun l ↦ { l with
      served := false
      replies := []
      requests := if l.taker.isNone then [] else l.requests }
    rcases htaker : l.taker with - | d
    · -- no one will come to receive
      refine ⟨_, hl', (List.append_nil _).symm, fun hr ↦ ?_, fun _ ↦ hnone⟩
      simp only [hasReceiver, htaker] at hr
      cases hr
    · -- whoever took the link goes on receiving
      refine ⟨_, hl', (List.append_nil _).symm, fun hr ↦ ⟨?_, ?_⟩, fun _ ↦ hnone⟩
      · simp only [hasReceiver, htaker] at hr ⊢
        exact hr
      · rw [hnone]
        simp only [owed, aside, htaker, Option.isNone_some, Bool.false_eq_true, if_false]
        exact List.append_nil _
  · exact ⟨l, passage_of_same (getElem?_updateLink_of_ne hl hjk _) rfl rfl rfl (fun _ _ ↦ rfl) rfl
      rfl fun _ _ ↦ rfl⟩

/-- A delivery passes every link on, and its own with one request more. -/
theorem passage_deliver (hl : h.links[k]? = some l)
    (hreceiver : ∀ l, h.links[j]? = some l → h.hasReceiver j l = true) :
    ∃ l', Passage h k l ⟨h, .deliver j frames, .done⟩
      (h.updateLink j fun l ↦ { l with requests := l.requests ++ [frames] }) l' := by
  by_cases hjk : j = k
  · subst hjk
    have haccepted : Moment.accepted? ⟨h, .deliver j frames, .done⟩ j = some frames := if_pos rfl
    have hnone : Moment.taken? ⟨h, .deliver j frames, .done⟩ l = none :=
      Moment.taken?_eq_none fun _ _ ↦ rfl
    refine ⟨_, getElem?_updateLink_self hl _, (List.append_nil _).symm,
      fun _ ↦ ⟨hreceiver l hl, ?_⟩, fun _ ↦ hnone⟩
    rw [haccepted, hnone]
    exact List.append_assoc ..
  · exact ⟨l, passage_of_same (getElem?_updateLink_of_ne hl hjk _) rfl rfl rfl (fun _ _ ↦ rfl)
      (if_neg hjk) rfl fun _ _ ↦ rfl⟩

/-- A dealer stops receiving, and lets go of what it has yet to receive. -/
theorem passage_shut (hh : h.Coherent) (hl : h.links[k]? = some l)
    (hd : h.dealers[d]? = some dealer) {f : Dealer → Dealer} (hf : (f dealer).inbound = none)
    (haccepted : m.accepted? k = none) (hconnected : m.connected? k = none)
    (hreceived : ∀ e, m.received? e = none) :
    ∃ l', Passage h k l m ((h.abandonRequests dealer).updateDealer d f) l' := by
  have hdealers := h.dealers_abandonRequests dealer
  have hlinks := h.getElem?_abandonRequests dealer k
  by_cases htaker : l.taker = some d
  · have hd' : ((h.abandonRequests dealer).updateDealer d f).dealers[d]? = some (f dealer) :=
      getElem?_updateDealer_self (hdealers.symm ▸ hd) f
    obtain ⟨requests, hl'⟩ := exists_of_abandonRequests hl dealer
    refine ⟨{ l with requests }, hl', ?_, fun hr ↦ ?_,
      fun _ ↦ Moment.taken?_eq_none fun e _ ↦ hreceived e⟩
    · rw [hconnected]
      exact (List.append_nil _).symm
    · rw [hasReceiver_of_taker (l := { l with requests }) htaker hd', hf] at hr
      cases hr
  · have hinbound : dealer.inbound ≠ some k := fun hk ↦
      htaker (hh.receiver_of_inbound hd hk hl).1
    rw [hl, Option.map_some, if_neg hinbound] at hlinks
    refine ⟨l, passage_of_same hlinks rfl rfl rfl (fun e he ↦ ?_) haccepted hconnected
      fun e _ ↦ hreceived e⟩
    rw [getElem?_updateDealer_of_taker_ne htaker _ he, hdealers]

/-- A connection passes every link on. -/
theorem passage_connect (hh : h.Coherent) (ht : h.Tidy) (hl : h.links[k]? = some l)
    {address : String} (hd : h.dealers[d]? = some dealer) (hphase : dealer.phase = .unconnected)
    (hbound : h.bound? address = some j) (hfree : ∀ l, h.links[j]? = some l → l.taker = none) :
    ∃ l', Passage h k l ⟨h, .connect d address, .done⟩
      ((h.updateLink j fun l ↦ { l with taker := some d }).updateDealer d fun dealer ↦
        { dealer with phase := .connected j, inbound := some j }) l' := by
  by_cases hjk : j = k
  · subst hjk
    have htaker : l.taker = none := hfree l hl
    have hconnected : Moment.connected? ⟨h, .connect d address, .done⟩ j = some d := if_pos hbound
    have hnone : Moment.taken? ⟨h, .connect d address, .done⟩ l = none :=
      Moment.taken?_eq_none fun _ _ ↦ rfl
    refine ⟨_, getElem?_updateLink_self hl _, by rw [hconnected, htaker]; rfl, fun _ ↦ ⟨?_, ?_⟩,
      fun _ ↦ hnone⟩
    · rw [hasReceiver, htaker]
      exact served_of_bound? hbound hl
    · -- the dealer keeps nothing aside, since it never connected before
      have hinbound : dealer.inbound = none := by
        refine Option.eq_none_iff_forall_ne_some.2 fun i hi ↦ ?_
        rw [hh.connected_of_inbound hd hi] at hphase
        cases hphase
      have hd' : (h.updateLink j fun l ↦ { l with taker := some d }).dealers[d]? = some dealer := hd
      rw [hnone, owed, owed, aside_of_taker (l := { l with taker := some d }) rfl
        (getElem?_updateDealer_self hd' _), ht d dealer hd hinbound, aside, htaker]
      exact List.append_nil _
  · have hne : h.bound? address ≠ some k := fun heq ↦ hjk (Option.some.inj (hbound.symm.trans heq))
    have htaker : l.taker ≠ some d := by
      refine hh.taker_ne hd ?_ ?_ hl <;> rw [hphase] <;> exact Phase.noConfusion
    refine ⟨l, passage_of_same (getElem?_updateLink_of_ne hl hjk _) rfl rfl rfl (fun e he ↦ ?_) rfl
      (if_neg hne) fun _ _ ↦ rfl⟩
    rw [getElem?_updateDealer_of_taker_ne htaker _ he]
    rfl

/-- A message that is kept aside is still owed. -/
theorem passage_keepAside (hh : h.Coherent) (hl : h.links[k]? = some l)
    (hd : h.dealers[d]? = some dealer) (hpending : dealer.pending = none)
    (hinbound : dealer.inbound = some j)
    (hrequests : ∀ l, h.links[j]? = some l → l.requests = frames :: rest) :
    ∃ l', Passage h k l ⟨h, .poll d, .done⟩
      ((h.updateLink j fun l ↦ { l with requests := rest }).updateDealer d fun dealer ↦
        { dealer with pending := some frames }) l' := by
  by_cases hjk : j = k
  · subst hjk
    obtain ⟨htaker, hr⟩ := hh.receiver_of_inbound hd hinbound hl
    have hnone : Moment.taken? ⟨h, .poll d, .done⟩ l = none := Moment.taken?_eq_none fun _ _ ↦ rfl
    have hd' : (h.updateLink j fun l ↦ { l with requests := rest }).dealers[d]? = some dealer := hd
    refine ⟨{ l with requests := rest }, getElem?_updateLink_self hl _, (List.append_nil _).symm,
      fun _ ↦ ⟨hr, ?_⟩, fun _ ↦ hnone⟩
    rw [hnone, owed, owed, aside_of_taker htaker hd, hpending, hrequests l hl,
      aside_of_taker (l := { l with requests := rest }) htaker (getElem?_updateDealer_self hd' _)]
    exact List.append_nil _
  · have htaker : l.taker ≠ some d := hh.taker_ne_of_inbound hd hinbound hjk hl
    refine ⟨l, passage_of_same (getElem?_updateLink_of_ne hl hjk _) rfl rfl rfl (fun e he ↦ ?_) rfl
      rfl fun _ _ ↦ rfl⟩
    rw [getElem?_updateDealer_of_taker_ne htaker _ he]
    rfl

theorem received?_of_ne {e : Nat} (h : Hub) (hne : d ≠ e) :
    Moment.received? ⟨h, .receive d, .message frames⟩ e = none := if_neg hne

/-- A request that was set aside is taken from the link it came from. -/
theorem passage_receiveKept (hh : h.Coherent) (hl : h.links[k]? = some l)
    (hd : h.dealers[d]? = some dealer) (hpending : dealer.pending = some frames)
    (hinbound : dealer.inbound = some j) :
    Passage h k l ⟨h, .receive d, .message frames⟩
      (h.updateDealer d fun dealer ↦ { dealer with pending := none }) l := by
  by_cases hjk : j = k
  · subst hjk
    obtain ⟨htaker, hr⟩ := hh.receiver_of_inbound hd hinbound hl
    have htaken : Moment.taken? ⟨h, .receive d, .message frames⟩ l = some frames :=
      (Moment.taken?_of_taker htaker).trans (if_pos rfl)
    have hd' := getElem?_updateDealer_self hd fun dealer ↦ { dealer with pending := none }
    refine ⟨hl, (List.append_nil _).symm, fun _ ↦ ⟨hr, ?_⟩, fun hr ↦ ?_⟩
    · rw [htaken, owed, owed, aside_of_taker htaker hd, hpending, aside_of_taker htaker hd']
      exact List.append_nil _
    · rw [hasReceiver_of_taker htaker hd', hinbound, beq_self_eq_true] at hr
      cases hr
  · have htaker : l.taker ≠ some d := hh.taker_ne_of_inbound hd hinbound hjk hl
    refine passage_of_same hl rfl rfl rfl (fun e he ↦ ?_) rfl rfl
      fun e he ↦ received?_of_ne h fun heq ↦ htaker (heq ▸ he)
    rw [getElem?_updateDealer_of_taker_ne htaker _ he]

/-- A request is taken from the head of the link of its dealer. -/
theorem passage_receive (hh : h.Coherent) (hl : h.links[k]? = some l)
    (hd : h.dealers[d]? = some dealer) (hpending : dealer.pending = none)
    (hinbound : dealer.inbound = some j)
    (hrequests : ∀ l, h.links[j]? = some l → l.requests = frames :: rest) :
    ∃ l', Passage h k l ⟨h, .receive d, .message frames⟩
      (h.updateLink j fun l ↦ { l with requests := rest }) l' := by
  by_cases hjk : j = k
  · subst hjk
    obtain ⟨htaker, hr⟩ := hh.receiver_of_inbound hd hinbound hl
    have htaken : Moment.taken? ⟨h, .receive d, .message frames⟩ l = some frames :=
      (Moment.taken?_of_taker htaker).trans (if_pos rfl)
    refine ⟨{ l with requests := rest }, getElem?_updateLink_self hl _, (List.append_nil _).symm,
      fun _ ↦ ⟨hr, ?_⟩, fun hr' ↦ ?_⟩
    · have hd' : (h.updateLink j fun l ↦ { l with requests := rest }).dealers[d]? =
          some dealer := hd
      rw [htaken, owed, owed, aside_of_taker htaker hd, hpending, hrequests l hl,
        aside_of_taker (l := { l with requests := rest }) htaker hd', hpending]
      exact List.append_nil _
    · exact absurd (hr.symm.trans hr') Bool.noConfusion
  · have htaker : l.taker ≠ some d := hh.taker_ne_of_inbound hd hinbound hjk hl
    exact ⟨l, passage_of_same (getElem?_updateLink_of_ne hl hjk _) rfl rfl rfl (fun _ _ ↦ rfl) rfl
      rfl fun e he ↦ received?_of_ne h fun heq ↦ htaker (heq ▸ he)⟩

end Passages

/-- **Every operation is a passage, for every link.** -/
theorem Effect.passage {h h' : Hub} {o : Operation} {a : Answer} (he : Effect h o a h')
    (hh : h.Coherent) (ht : h.Tidy) {k : Nat} {l : Link} (hl : h.links[k]? = some l) :
    ∃ l', Passage h k l ⟨h, o, a⟩ h' l' := by
  cases he with
  | fails ho =>
    have hdeed : Moment.deed? ⟨h, o, a⟩ = none := Moment.deed?_of_fails ho
    refine ⟨l, passage_of_same hl rfl rfl rfl (fun _ _ ↦ rfl) ?_ ?_ fun _ _ ↦ ?_⟩
    · rw [Moment.accepted?, hdeed]
    · rw [Moment.connected?, hdeed]
    · rw [Moment.received?, hdeed]
  | finds =>
    exact ⟨l, passage_of_same hl rfl rfl rfl (fun _ _ ↦ rfl) rfl rfl fun _ _ ↦ rfl⟩
  | binds =>
    have hlength := (List.getElem?_eq_some_iff.1 hl).1
    exact ⟨l, passage_of_same ((List.getElem?_append_left hlength).trans hl) rfl rfl rfl
      (fun _ _ ↦ rfl) rfl rfl fun _ _ ↦ rfl⟩
  | unbinds => exact passage_unbind hl
  | delivers hj _ hreceiver =>
    refine passage_deliver hl fun l' hl' ↦ ?_
    obtain rfl := Option.some.inj (hj.symm.trans hl')
    exact hreceiver
  | collects ho =>
    rcases ho with rfl | rfl
    · exact passage_updateLink hl (fun _ ↦ rfl) (fun _ ↦ rfl) (fun _ ↦ rfl) rfl rfl fun _ ↦ rfl
    · exact passage_updateLink hl (fun _ ↦ rfl) (fun _ ↦ rfl) (fun _ ↦ rfl) rfl rfl fun _ ↦ rfl
  | creates =>
    refine ⟨l, passage_of_same hl rfl rfl rfl (fun e he ↦ ?_) rfl rfl fun _ _ ↦ rfl⟩
    obtain ⟨dealer, hd, -⟩ := hh.connected_of_taker hl he
    exact congrArg _ (List.getElem?_append_left (List.getElem?_eq_some_iff.1 hd).1)
  | drops hd => exact passage_shut hh hl hd rfl rfl rfl fun _ ↦ rfl
  | connects hd _ hphase hbound hj htaker =>
    refine passage_connect hh ht hl hd hphase hbound fun l' hl' ↦ ?_
    obtain rfl := Option.some.inj (hj.symm.trans hl')
    exact htaker
  | keepsAside hd hpending hinbound hj hrequests =>
    refine passage_keepAside hh hl hd hpending hinbound fun l' hl' ↦ ?_
    obtain rfl := Option.some.inj (hj.symm.trans hl')
    exact hrequests
  | @receivesKept d dealer frames hd hpending _ =>
    rcases hinbound : dealer.inbound with - | j
    · rw [ht _ _ hd hinbound] at hpending
      cases hpending
    · exact ⟨l, passage_receiveKept hh hl hd hpending hinbound⟩
  | receives hd hpending hinbound hj hrequests =>
    refine passage_receive hh hl hd hpending hinbound fun l' hl' ↦ ?_
    obtain rfl := Option.some.inj (hj.symm.trans hl')
    exact hrequests
  | disconnects hd => exact passage_shut hh hl hd rfl rfl rfl fun _ ↦ rfl
  | retains | releases =>
    exact ⟨l, passage_updateDealer hl (fun _ ↦ rfl) rfl rfl fun _ ↦ rfl⟩
  | sends =>
    refine passage_updateLink hl (fun _ ↦ ?_) (fun _ ↦ ?_) (fun _ ↦ ?_) rfl rfl fun _ ↦ rfl
    all_goals split <;> rfl

/-! ### What a history does -/

/-- What was sent on a link is what was received from it and what is owed, as long as someone
receives. -/
structure Conserved (p : Past) (h : Hub) : Prop where
  coherent : h.Coherent
  tidy : h.Tidy
  absent : ∀ k, h.links[k]? = none → p.accepted k = [] ∧ p.connected k = []
  fresh : ∀ d, h.Unconnected d → p.received d = []
  taker : ∀ k l, h.links[k]? = some l → p.connected k = l.taker.toList
  account : ∀ k l, h.links[k]? = some l → h.hasReceiver k l = true →
    p.accepted k = p.taken k ++ h.owed l
  ahead : ∀ k l, h.links[k]? = some l → p.taken k <+: p.accepted k

theorem conserved_empty : Conserved [] {} where
  coherent := coherent_empty
  tidy _ _ hd := by cases hd
  absent _ _ := ⟨rfl, rfl⟩
  fresh _ _ := rfl
  taker _ _ hl := by cases hl
  account _ _ hl := by cases hl
  ahead _ _ hl := by cases hl

section Step

variable {p : Past} {h h' : Hub} {o : Operation} {a : Answer} {k : Nat} {l l' : Link}

/-- A link's taker has received on it what it has received at all. -/
theorem Conserved.taken_snoc (hp : Conserved p h) (he : Effect h o a h')
    (hl : h.links[k]? = some l) (hpass : Passage h k l ⟨h, o, a⟩ h' l') :
    Past.taken (p ++ [⟨h, o, a⟩]) k = p.taken k ++ (Moment.taken? ⟨h, o, a⟩ l).toList := by
  rw [Past.taken, Past.taken, Past.connected_snoc, hp.taker k l hl]
  rcases hconnected : Moment.connected? ⟨h, o, a⟩ k with - | d
  · rcases htaker : l.taker with - | d
    · rw [Moment.taken?, htaker]
      rfl
    · rw [Moment.taken?_of_taker htaker]
      simp only [Option.toList_some, Option.toList_none, List.append_nil, List.flatMap_cons,
        List.flatMap_nil, Past.received_snoc]
  · -- the dealer that connects now is the first, and has received nothing before
    obtain ⟨hu, hnone⟩ := he.unconnected_of_connected? hconnected
    have hlength := congrArg List.length hpass.taker
    rw [hconnected] at hlength
    rcases htaker : l.taker with - | e
    · rw [Moment.taken?, htaker]
      simp only [Option.toList_some, Option.toList_none, List.nil_append, List.flatMap_cons,
        List.flatMap_nil, Past.received_snoc, hp.fresh d hu, hnone, Option.bind_none]
    · rw [htaker] at hlength
      rcases htaker' : l'.taker with - | e' <;> rw [htaker'] at hlength <;> cases hlength

/-- One operation more keeps the account of the requests. -/
theorem Conserved.step (he : Effect h o a h') (hp : Conserved p h) :
    Conserved (p ++ [⟨h, o, a⟩]) h' where
  coherent := he.coherent hp.coherent
  tidy := he.tidy hp.tidy
  absent k hk := by
    have hk' := he.getElem?_eq_none hk
    obtain ⟨haccepted, hconnected, -⟩ := he.deed_of_absent hp.coherent hk' 0
    rw [Past.accepted_snoc, Past.connected_snoc, haccepted, hconnected, (hp.absent k hk').1,
      (hp.absent k hk').2]
    exact ⟨rfl, rfl⟩
  fresh d hu := by
    obtain ⟨hu', hreceived⟩ := he.unconnected hp.coherent hp.tidy hu
    rw [Past.received_snoc, hreceived, hp.fresh d hu']
    rfl
  taker k l' hl' := by
    rcases hl : h.links[k]? with - | l
    · obtain ⟨-, hconnected, -⟩ := he.deed_of_absent hp.coherent hl 0
      rw [Past.connected_snoc, hconnected, (hp.absent k hl).2, (he.newborn hl hl').1]
      rfl
    · obtain ⟨l'', hpass⟩ := he.passage hp.coherent hp.tidy hl
      obtain rfl := Option.some.inj (hl'.symm.trans hpass.link)
      rw [Past.connected_snoc, hp.taker k l hl, hpass.taker]
  account k l' hl' hr := by
    rcases hl : h.links[k]? with - | l
    · obtain ⟨htaker, hrequests, -⟩ := he.newborn hl hl'
      obtain ⟨haccepted, hconnected, -⟩ := he.deed_of_absent hp.coherent hl 0
      rw [Past.accepted_snoc, Past.taken, Past.connected_snoc, haccepted, hconnected,
        (hp.absent k hl).1, (hp.absent k hl).2, owed, aside, htaker, hrequests]
      rfl
    · obtain ⟨l'', hpass⟩ := he.passage hp.coherent hp.tidy hl
      obtain rfl := Option.some.inj (hl'.symm.trans hpass.link)
      obtain ⟨hr', haccount⟩ := hpass.account hr
      rw [Past.accepted_snoc, hp.taken_snoc he hl hpass, hp.account k l hl hr', List.append_assoc,
        List.append_assoc, haccount]
  ahead k l' hl' := by
    rcases hl : h.links[k]? with - | l
    · obtain ⟨-, hconnected, -⟩ := he.deed_of_absent hp.coherent hl 0
      rw [Past.taken, Past.connected_snoc, hconnected, (hp.absent k hl).2]
      exact List.nil_prefix
    · obtain ⟨l'', hpass⟩ := he.passage hp.coherent hp.tidy hl
      rw [Past.accepted_snoc, hp.taken_snoc he hl hpass]
      rcases hr : h'.hasReceiver k l'' with - | -
      · rw [hpass.silent hr, Option.toList_none, List.append_nil]
        exact (hp.ahead k l hl).trans (List.prefix_append _ _)
      · obtain ⟨hr', haccount⟩ := hpass.account hr
        rw [hp.account k l hl hr', List.append_assoc, haccount, ← List.append_assoc]
        exact List.prefix_append _ _

end Step

/-- The requests of every link are accounted for in every state that can be reached. -/
theorem Conserved.of_leadsTo {p : Past} {h : Hub} (hph : p.LeadsTo h) : Conserved p h :=
  hph.induction conserved_empty fun he hp ↦ hp.step he

/-! ### Sending -/

/-- A service that lives sends if someone receives and there is room, waits if there is no room, and
is told if there is no one. -/
theorem apply_deliver {h : Hub} {k : Nat} {l : Link} (hl : h.links[k]? = some l)
    (hserved : l.served = true) (frames : Frames) :
    h.apply (.deliver k frames) =
      if h.hasReceiver k l = true then
        if l.requests.length < l.capacity then
          (.done, h.updateLink k fun l ↦ { l with requests := l.requests ++ [frames] })
        else (.waiting, h)
      else (.refused .serviceStopped, h) := by
  have hallowed : h.isServed k = true := by
    rw [isServed, hl]
    exact hserved
  simp only [apply, guarded, hallowed, if_true, deliver, hl, Bool.not_eq_true']
  by_cases hr : h.hasReceiver k l = true
  · rw [if_neg (ne_false_of_eq_true hr), if_pos hr]
    by_cases hroom : l.requests.length < l.capacity
    · rw [if_neg (Nat.not_le_of_lt hroom), if_pos hroom]
      rfl
    · rw [if_pos (Nat.le_of_not_lt hroom), if_neg hroom]
      rfl
  · rw [if_pos (Bool.eq_false_iff.2 hr), if_neg hr]
    rfl

/-! ### What a poll promises -/

/-- The dealer exists, and has this message kept aside. -/
def KeptFor (h : Hub) (d : Nat) (frames : Frames) : Prop :=
  ∃ dealer, h.dealers[d]? = some dealer ∧ dealer.alive = true ∧ dealer.pending = some frames

section Promise

variable {h h' : Hub} {o : Operation} {a : Answer} {d : Nat} {frames : Frames}

/-- A poll that says that a request is there has one ready. -/
theorem keptFor_of_poll (hpoll : (h.apply (.poll d)).1 = .done) :
    ∃ frames, (h.apply (.poll d)).2.KeptFor d frames := by
  have he := h.effect_apply (.poll d)
  rw [hpoll] at he
  generalize (h.apply (.poll d)).2 = h' at he
  cases he with
  | fails ho => cases ho
  | finds hd hpending halive => exact ⟨_, _, hd, halive, hpending⟩
  | keepsAside hd _ _ _ _ halive =>
    exact ⟨_, _, getElem?_updateDealer_self hd _, halive, rfl⟩

/-- What is kept for a dealer is what it receives next. -/
theorem receive_of_keptFor (hk : h.KeptFor d frames) :
    (h.apply (.receive d)).1 = .message frames := by
  obtain ⟨dealer, hd, halive, hpending⟩ := hk
  have hallowed : h.isAlive d = true := by
    rw [isAlive, hd]
    exact halive
  simp only [apply, guarded, hallowed, if_true, receive_of_pending hd hpending]
  rfl

theorem KeptFor.updateDealer (hk : h.KeptFor d frames) {e : Nat} {f : Dealer → Dealer}
    (hf : ∀ dealer, h.dealers[d]? = some dealer → e = d → dealer.alive = true →
      dealer.pending = some frames → (f dealer).alive = true ∧ (f dealer).pending = some frames) :
    (h.updateDealer e f).KeptFor d frames := by
  obtain ⟨dealer, hd, halive, hpending⟩ := hk
  refine ⟨_, by rw [getElem?_updateDealer, hd]; rfl, ?_⟩
  split
  · next hed => exact hf dealer hd hed halive hpending
  · exact ⟨halive, hpending⟩

/-- A message stays aside until its dealer receives it, disconnects or is dropped. -/
theorem KeptFor.step (he : Effect h o a h') (hk : h.KeptFor d frames)
    (ho : o ≠ .receive d ∧ o ≠ .disconnect d ∧ o ≠ .drop d) : h'.KeptFor d frames := by
  obtain ⟨hreceive, hdisconnect, hdrop⟩ := ho
  cases he with
  | fails | finds | binds | unbinds | delivers | collects | receives | sends => exact hk
  | creates =>
    obtain ⟨dealer, hd, hkept⟩ := hk
    exact ⟨dealer, getElem?_append_of_eq_some hd _, hkept⟩
  | @drops e dealer hd halive =>
    refine KeptFor.updateDealer ?_ fun _ _ hed ↦ absurd (congrArg Operation.drop hed) hdrop
    obtain ⟨dealer', hd', hkept⟩ := hk
    exact ⟨dealer', by rw [dealers_abandonRequests]; exact hd', hkept⟩
  | @disconnects e k dealer hd hphase halive =>
    refine KeptFor.updateDealer ?_ fun _ _ hed ↦
      absurd (congrArg Operation.disconnect hed) hdisconnect
    obtain ⟨dealer', hd', hkept⟩ := hk
    exact ⟨dealer', by rw [dealers_abandonRequests]; exact hd', hkept⟩
  | connects => exact KeptFor.updateDealer hk fun _ _ _ halive hpending ↦ ⟨halive, hpending⟩
  | keepsAside hd hnone =>
    refine KeptFor.updateDealer hk fun dealer' hd' hed _ hpending ↦ ?_
    subst hed
    obtain rfl := Option.some.inj (hd.symm.trans hd')
    rw [hnone] at hpending
    cases hpending
  | receivesKept =>
    exact hk.updateDealer fun _ _ hed ↦ absurd (congrArg Operation.receive hed) hreceive
  | retains | releases => exact hk.updateDealer fun _ _ _ halive hpending ↦ ⟨halive, hpending⟩

/-- What is kept for a dealer is so until it receives, disconnects or goes. -/
theorem KeptFor.run (hk : h.KeptFor d frames) {operations : List Operation}
    (ho : ∀ o ∈ operations, o ≠ .receive d ∧ o ≠ .disconnect d ∧ o ≠ .drop d) :
    (h.run operations).KeptFor d frames := by
  induction operations generalizing h with
  | nil => exact hk
  | cons o rest ih =>
    exact ih (hk.step (h.effect_apply o) (ho o List.mem_cons_self))
      fun o' ho' ↦ ho o' (List.mem_cons_of_mem o ho')

/-- What a dealer keeps aside is the first that is owed on the link that it took. -/
theorem KeptFor.owed_eq {k : Nat} {l : Link} (hk : h.KeptFor d frames) (hh : h.Coherent)
    (ht : h.Tidy) (hl : h.links[k]? = some l) (htaker : l.taker = some d) :
    h.hasReceiver k l = true ∧ h.owed l = frames :: l.requests := by
  obtain ⟨dealer, hd, -, hpending⟩ := hk
  rcases hinbound : dealer.inbound with - | j
  · rw [ht d dealer hd hinbound] at hpending
    cases hpending
  · have hjk : j = k := Decidable.byContradiction fun hne ↦
      hh.taker_ne_of_inbound hd hinbound hne hl htaker
    rw [hasReceiver_of_taker htaker hd, owed, aside_of_taker htaker hd, hpending, hinbound, hjk]
    exact ⟨beq_self_eq_true _, rfl⟩

end Promise

/-! ### Requests in order -/

/-- **Requests are neither lost, duplicated nor reordered on the way in.** At any point of any
history, and for every binding there ever was: while someone receives, a dealer or the address in
wait for one, what the service sent is what its dealer received, then what the dealer keeps aside,
then the queue; and later what was received is still the beginning of what was sent. A service is
told that it sent if there was room, that it would wait if the queue was full, and that the session
is over if no one receives. Whatever happens after a poll found something, short of ending the
session, the dealer receives next the first message it has not received yet. -/
theorem requests_in_order {p : Past} {h : Hub} (hph : p.LeadsTo h) {m : Moment} (hm : m ∈ p)
    {address : String} {mark : UInt64} {k : Nat} (hbind : m.operation = .bind address mark)
    (hbound : m.answer = .bound k address) :
    ∃ l, h.links[k]? = some l ∧ (p.connected k).length ≤ 1 ∧
      (h.hasReceiver k l = true →
        p.accepted k = p.taken k ++ (h.aside l).toList ++ l.requests ∧
          l.requests.length ≤ max mark.toNat 1) ∧
      p.taken k <+: p.accepted k ∧
      (l.served = true → ∀ frames,
        ((h.apply (.deliver k frames)).1 = .done ↔
          h.hasReceiver k l = true ∧ l.requests.length < max mark.toNat 1) ∧
        (h.apply (.deliver k frames) = (.waiting, h) ↔
          h.hasReceiver k l = true ∧ l.requests.length = max mark.toNat 1) ∧
        (h.apply (.deliver k frames) = (.refused .serviceStopped, h) ↔
          h.hasReceiver k l = false)) ∧
      ∀ d ∈ p.connected k, (h.apply (.poll d)).1 = .done →
        ∃ frames rest, p.accepted k = p.taken k ++ frames :: rest ∧
          ∀ later : List Operation,
            (∀ o ∈ later, o ≠ .receive d ∧ o ≠ .disconnect d ∧ o ≠ .drop d) →
            (((h.apply (.poll d)).2.run later).apply (.receive d)).1 = .message frames := by
  obtain ⟨l, hl, -, hcapacity⟩ := Bindings.of_leadsTo hph m hm address mark k hbind hbound
  have hp : Conserved p h := .of_leadsTo hph
  have hconnected := hp.taker k l hl
  have hfits : l.requests.length ≤ max mark.toNat 1 := by
    have hle := (Bounded.of_leadsTo hph k l hl).1
    rw [hcapacity] at hle
    exact hle
  refine ⟨l, hl, ?_, fun hr ↦ ⟨?_, hfits⟩, hp.ahead k l hl, fun hserved frames ↦ ?_,
    fun d hd hpoll ↦ ?_⟩
  · rw [hconnected]
    exact Option.length_toList_le
  · rw [List.append_assoc]
    exact hp.account k l hl hr
  · have hcap : l.capacity = max mark.toNat 1 := hcapacity
    rw [apply_deliver hl hserved frames, hcap]
    rcases hr : h.hasReceiver k l with - | -
    · simp
    · by_cases hroom : l.requests.length < max mark.toNat 1
      · simp [hroom, Nat.ne_of_lt hroom]
      · simp [Nat.le_antisymm hfits (Nat.le_of_not_lt hroom)]
  · -- the poll changes neither what was sent nor what was received
    obtain ⟨frames, hk⟩ := keptFor_of_poll hpoll
    have he := h.effect_apply (.poll d)
    have hp' := hp.step he
    obtain ⟨l', hpass⟩ := he.passage hp.coherent hp.tidy hl
    have htaker : l'.taker = some d := by
      rw [hconnected] at hd
      rw [← Option.mem_toList, hpass.taker]
      exact List.mem_append_left _ hd
    obtain ⟨hr, howed⟩ := hk.owed_eq hp'.coherent hp'.tidy hpass.link htaker
    refine ⟨frames, l'.requests, ?_, fun later hlater ↦ receive_of_keptFor (hk.run hlater)⟩
    have haccount := hp'.account k l' hpass.link hr
    rw [Past.accepted_snoc, hp.taken_snoc he hl hpass, howed,
      Moment.taken?_eq_none fun _ _ ↦ rfl] at haccount
    rw [← List.append_nil (p.accepted k), ← List.append_nil (p.taken k)]
    exact haccount

/-- A service sends one message before a dealer connects and one after it polled, and is gone: the
first message is kept aside and the second is queued. -/
def exchange : List Operation :=
  [.bind "a" 1, .deliver 0 [[1]], .create, .connect 0 "a", .poll 0, .deliver 0 [[2]], .unbind 0]

theorem requests_in_order_exchange :
    let p := ({} : Hub).past exchange
    let h := ({} : Hub).run exchange
    ∃ l, h.links[0]? = some l ∧ l.served = false ∧ h.hasReceiver 0 l = true ∧
      p.accepted 0 = [[[1]], [[2]]] ∧ p.taken 0 = [] ∧ h.aside l = some [[1]] ∧
      l.requests = [[[2]]] ∧ p.accepted 0 = p.taken 0 ++ (h.aside l).toList ++ l.requests ∧
      (((h.apply (.poll 0)).2.run []).apply (.receive 0)).1 = .message [[1]] := by
  intro p h
  obtain ⟨l, hl, -, hreceiver, -, -, hpoll⟩ :=
    requests_in_order (p := p) (h := h) ⟨exchange, rfl, rfl⟩
      (m := ⟨{}, .bind "a" 1, .bound 0 "a"⟩) List.mem_cons_self rfl rfl
  obtain rfl : l = ⟨"a", 1, false, some 0, [[[2]]], []⟩ := Option.some.inj (hl.symm.trans rfl)
  obtain ⟨frames, rest, haccepted, hreceive⟩ := hpoll 0 List.mem_cons_self rfl
  obtain rfl : frames = [[1]] := (List.cons.inj haccepted).1.symm
  exact ⟨_, hl, rfl, rfl, rfl, rfl, rfl, rfl, (hreceiver rfl).1,
    hreceive [] fun _ ho ↦ absurd ho List.not_mem_nil⟩

end Hub

end QueryDispatch
