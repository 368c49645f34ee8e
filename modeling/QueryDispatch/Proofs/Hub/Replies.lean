import QueryDispatch.Proofs.Hub.Past

/-!
# Replies in order, as many as fit

A sender is never told that its reply did not fit, so what became of a reply shows only at the
service. There the account is exact: what was collected and what is still queued are the replies
that were sent while there was room.

## Main results

* `Effect.outflow`: each operation changes the queue by just what fits and what is collected.
* `Answered.of_leadsTo`: so the account is right along every history.
* `replies_in_order`: the same seen from outside, with what a service that looks for a reply is
  told.
-/

namespace QueryDispatch.Hub

/-! ### What one operation does -/

/-- What an operation may do to the replies of a link. No service comes back, and while one lives,
replies are only added at the end and collected from the front. -/
structure Outflow (k : Nat) (l : Link) (m : Moment) (h' : Hub) (l' : Link) : Prop where
  link : h'.links[k]? = some l'
  account : l'.served = true → l.served = true ∧
    l.replies ++ (m.fitting? k l.capacity).toList = (m.collected? k).toList ++ l'.replies

section Outflows

variable {h h' : Hub} {d j k : Nat} {dealer : Dealer} {l l' : Link} {frames : Frames}
  {rest : List Frames} {m : Moment}

/-- Nothing happens to the replies of the link. -/
theorem outflow_of_same (hl' : h'.links[k]? = some l') (hserved : l'.served = l.served)
    (hreplies : l'.replies = l.replies) (hfitting : m.fitting? k l.capacity = none)
    (hcollected : m.collected? k = none) : Outflow k l m h' l' where
  link := hl'
  account hs := by
    rw [hfitting, hcollected, hreplies]
    exact ⟨hserved ▸ hs, List.append_nil _⟩

/-- A change of a link that concerns neither its service nor its replies. -/
theorem outflow_updateLink (hl : h.links[k]? = some l) {f : Link → Link}
    (hlinks : h'.links = (h.updateLink j f).links) (hserved : ∀ l, (f l).served = l.served)
    (hreplies : ∀ l, (f l).replies = l.replies) (hfitting : m.fitting? k l.capacity = none)
    (hcollected : m.collected? k = none) : ∃ l', Outflow k l m h' l' := by
  by_cases hjk : j = k
  · subst hjk
    exact ⟨f l, outflow_of_same (hlinks ▸ getElem?_updateLink_self hl f) (hserved l) (hreplies l)
      hfitting hcollected⟩
  · exact ⟨l, outflow_of_same (hlinks ▸ getElem?_updateLink_of_ne hl hjk f) rfl rfl hfitting
      hcollected⟩

/-- An unbind lets nothing flow out. -/
theorem outflow_unbind (hl : h.links[k]? = some l) :
    ∃ l', Outflow k l ⟨h, .unbind j, .done⟩ (h.unbind j) l' := by
  by_cases hjk : j = k
  · subst hjk
    exact ⟨_, getElem?_updateLink_self hl _, fun hs ↦ nomatch hs⟩
  · exact ⟨l, outflow_of_same (getElem?_updateLink_of_ne hl hjk _) rfl rfl rfl rfl⟩

/-- What is collected flows out of its own link, from the head. -/
theorem outflow_collect {o : Operation} (ho : o = .collect j ∨ o = .tryCollect j)
    (hl : h.links[k]? = some l) (hserved : ∀ l, h.links[j]? = some l → l.served = true)
    (hreplies : ∀ l, h.links[j]? = some l → l.replies = frames :: rest) :
    ∃ l', Outflow k l ⟨h, o, .message frames⟩
      (h.updateLink j fun l ↦ { l with replies := rest }) l' := by
  have hcollected : Moment.collected? ⟨h, o, .message frames⟩ k =
      if j = k then some frames else none := by
    rcases ho with rfl | rfl <;> rfl
  have hfitting : Moment.fitting? ⟨h, o, .message frames⟩ k l.capacity = none := by
    rcases ho with rfl | rfl <;> rfl
  by_cases hjk : j = k
  · subst hjk
    refine ⟨_, getElem?_updateLink_self hl _, fun _ ↦ ⟨hserved l hl, ?_⟩⟩
    rw [hfitting, hcollected, if_pos rfl, hreplies l hl]
    exact List.append_nil _
  · rw [if_neg hjk] at hcollected
    exact ⟨l, outflow_of_same (getElem?_updateLink_of_ne hl hjk _) rfl rfl hfitting hcollected⟩

/-- To abandon requests lets no reply flow out. -/
theorem outflow_abandonRequests (hl : h.links[k]? = some l) (f : Dealer → Dealer)
    (hfitting : m.fitting? k l.capacity = none) (hcollected : m.collected? k = none) :
    ∃ l', Outflow k l m ((h.abandonRequests dealer).updateDealer d f) l' := by
  obtain ⟨requests, hl'⟩ := exists_of_abandonRequests hl dealer
  exact ⟨_, outflow_of_same hl' rfl rfl hfitting hcollected⟩

/-- A reply is queued exactly if it fits. -/
theorem outflow_send (hl : h.links[k]? = some l) (hd : h.dealers[d]? = some dealer)
    (hphase : dealer.phase = .connected j) :
    ∃ l', Outflow k l ⟨h, .send d frames, .done⟩
      (h.updateLink j fun l ↦ if l.hasRoom then { l with replies := l.replies ++ [frames] } else l)
      l' := by
  have hfitting : Moment.fitting? ⟨h, .send d frames, .done⟩ k l.capacity =
      if j = k ∧ l.replies.length < l.capacity then some frames else none := by
    have hconnected : Moment.isConnected ⟨h, .send d frames, .done⟩ d k = true ↔ j = k := by
      rw [Moment.isConnected, hd, Option.any_some, hphase, beq_iff_eq, Phase.connected.injEq]
    have hqueued : Moment.queued ⟨h, .send d frames, .done⟩ k = l.replies.length := by
      rw [Moment.queued, hl]
      rfl
    simp only [Moment.fitting?, Moment.deed?, hconnected, hqueued]
  by_cases hjk : j = k
  · subst hjk
    refine ⟨_, getElem?_updateLink_self hl _, fun hs ↦ ?_⟩
    have hserved : l.served = true := by
      split at hs <;> exact hs
    refine ⟨hserved, ?_⟩
    rw [hfitting, Link.hasRoom, hserved, Bool.true_and]
    by_cases hroom : l.replies.length < l.capacity
    · rw [if_pos ⟨rfl, hroom⟩, if_pos (decide_eq_true hroom)]
      rfl
    · rw [if_neg fun hfits ↦ hroom hfits.2, if_neg (by rwa [decide_eq_true_eq])]
      exact List.append_nil _
  · rw [if_neg fun hfits ↦ hjk hfits.1] at hfitting
    exact ⟨l, outflow_of_same (getElem?_updateLink_of_ne hl hjk _) rfl rfl hfitting rfl⟩

end Outflows

/-- **Every operation is an outflow, for every link.** -/
theorem Effect.outflow {h h' : Hub} {o : Operation} {a : Answer} (he : Effect h o a h') {k : Nat}
    {l : Link} (hl : h.links[k]? = some l) : ∃ l', Outflow k l ⟨h, o, a⟩ h' l' := by
  cases he with
  | fails ho =>
    have hdeed : Moment.deed? ⟨h, o, a⟩ = none := Moment.deed?_of_fails ho
    refine ⟨l, outflow_of_same hl rfl rfl ?_ ?_⟩
    · rw [Moment.fitting?, hdeed]
    · rw [Moment.collected?, hdeed]
  | finds | creates | receivesKept | retains | releases =>
    exact ⟨l, outflow_of_same hl rfl rfl rfl rfl⟩
  | binds =>
    have hlength := (List.getElem?_eq_some_iff.1 hl).1
    exact ⟨l, outflow_of_same ((List.getElem?_append_left hlength).trans hl) rfl rfl rfl rfl⟩
  | unbinds => exact outflow_unbind hl
  | delivers | connects | keepsAside | receives =>
    exact outflow_updateLink hl rfl (fun _ ↦ rfl) (fun _ ↦ rfl) rfl rfl
  | collects ho hj hserved hreplies =>
    refine outflow_collect ho hl (fun l' hl' ↦ ?_) (fun l' hl' ↦ ?_)
    all_goals obtain rfl := Option.some.inj (hj.symm.trans hl')
    · exact hserved
    · exact hreplies
  | drops | disconnects => exact outflow_abandonRequests hl _ rfl rfl
  | sends hd hphase => exact outflow_send hl hd hphase

/-- Nothing that is queued for the service goes with its dealer or with a sender. -/
theorem Effect.replies_of_departure {h h' : Hub} {o : Operation} {a : Answer}
    (he : Effect h o a h') {d : Nat} (ho : o = .disconnect d ∨ o = .drop d ∨ o = .release d)
    {k : Nat} {l : Link} (hl : h.links[k]? = some l) :
    ∃ l', h'.links[k]? = some l' ∧ l'.replies = l.replies := by
  cases he with
  | fails | releases => exact ⟨l, hl, rfl⟩
  | @drops _ dealer | @disconnects _ _ dealer =>
    obtain ⟨requests, hl'⟩ := exists_of_abandonRequests hl dealer
    exact ⟨_, hl', rfl⟩
  | collects hcollect => rcases hcollect with rfl | rfl <;> simp at ho
  | _ => simp at ho

/-! ### What a history does -/

/-- While a service lives, what it collected and what is queued for it are the replies that fit. -/
structure Answered (p : Past) (h : Hub) : Prop where
  coherent : h.Coherent
  absent : ∀ k bound, h.links[k]? = none → p.collected k = [] ∧ p.fitting k bound = []
  account : ∀ k l, h.links[k]? = some l → l.served = true →
    p.collected k ++ l.replies = p.fitting k l.capacity

theorem answered_empty : Answered [] {} where
  coherent := coherent_empty
  absent _ _ _ := ⟨rfl, rfl⟩
  account _ _ hl := by cases hl

/-- One operation more keeps the account of the replies. -/
theorem Answered.step {p : Past} {h h' : Hub} {o : Operation} {a : Answer} (he : Effect h o a h')
    (hp : Answered p h) : Answered (p ++ [⟨h, o, a⟩]) h' where
  coherent := he.coherent hp.coherent
  absent k bound hk := by
    have hk' := he.getElem?_eq_none hk
    obtain ⟨-, -, hcollected, hfitting⟩ := he.deed_of_absent hp.coherent hk' bound
    obtain ⟨hpc, hpf⟩ := hp.absent k bound hk'
    rw [Past.collected_snoc, Past.fitting_snoc, hcollected, hfitting, hpc, hpf]
    exact ⟨rfl, rfl⟩
  account k l' hl' hs := by
    rcases hl : h.links[k]? with - | l
    · obtain ⟨-, -, hreplies⟩ := he.newborn hl hl'
      obtain ⟨-, -, hcollected, hfitting⟩ := he.deed_of_absent hp.coherent hl l'.capacity
      obtain ⟨hpc, hpf⟩ := hp.absent k l'.capacity hl
      rw [Past.collected_snoc, Past.fitting_snoc, hcollected, hfitting, hpc, hpf, hreplies]
      rfl
    · obtain ⟨l₀, hl₀, -, hcapacity⟩ := he.link hl
      obtain ⟨l₁, hout⟩ := he.outflow hl
      obtain rfl := Option.some.inj (hl'.symm.trans hl₀)
      obtain rfl := Option.some.inj (hl'.symm.trans hout.link)
      obtain ⟨hserved, haccount⟩ := hout.account hs
      rw [Past.collected_snoc, Past.fitting_snoc, hcapacity, ← hp.account k l hl hserved,
        List.append_assoc, List.append_assoc, haccount]

/-- The replies of every link are accounted for in every state that can be reached. -/
theorem Answered.of_leadsTo {p : Past} {h : Hub} (hph : p.LeadsTo h) : Answered p h :=
  hph.induction answered_empty fun he hp ↦ hp.step he

/-! ### Sending and collecting -/

section Answers

variable {h : Hub} {d k : Nat} {dealer : Dealer} {l : Link}

/-- Whoever sends on a connected link is told that it was sent. -/
theorem apply_send (hd : h.dealers[d]? = some dealer) (hphase : dealer.phase = .connected k)
    (hthere : dealer.alive = true ∨ 0 < dealer.senders) (frames : Frames) :
    h.apply (.send d frames) = (.done, h.updateLink k fun l ↦
      if l.hasRoom then { l with replies := l.replies ++ [frames] } else l) := by
  have hallowed : (h.isAlive d || h.isRetained d) = true := by
    rw [Bool.or_eq_true, isAlive, isRetained, hd]
    exact hthere.imp id decide_eq_true
  simp only [apply, guarded, hallowed, if_true, send, hd, hphase]
  rfl

theorem updateLink_eq_self (hl : h.links[k]? = some l) {f : Link → Link} (hf : f l = l) :
    h.updateLink k f = h := by
  have hlinks : h.links.modify k f = h.links := List.ext_getElem? fun j ↦ by
    rw [List.getElem?_modify]
    by_cases hkj : k = j
    · subst hkj
      rw [hl, Option.map_eq_map, Option.map_some, if_pos rfl, hf]
    · simp only [if_neg hkj, Option.map_eq_map, Option.map_id']
  rw [updateLink, hlinks]

/-- A service that lives gets the first reply there is. Without one, it waits if there is still
someone who could send, and is told otherwise. -/
theorem apply_collect (hl : h.links[k]? = some l) (hserved : l.served = true) :
    (h.apply (.collect k)).1 =
      match l.replies with
      | frames :: _ => .message frames
      | [] => if h.hasSender k l then .waiting else .closed := by
  have hallowed : h.isServed k = true := by
    rw [isServed, hl]
    exact hserved
  simp only [apply, guarded, hallowed, if_true, collect, hl]
  rcases l.replies with - | ⟨frames, rest⟩
  · dsimp only
    split <;> rfl
  · rfl

/-- The sending half of a link that lives is at its address, or with the taker and its senders. -/
theorem hasSender_eq_true_iff (hserved : l.served = true) :
    h.hasSender k l = true ↔ l.taker = none ∨ ∃ d dealer, l.taker = some d ∧
      h.dealers[d]? = some dealer ∧ dealer.phase = .connected k ∧
      (dealer.alive = true ∨ 0 < dealer.senders) := by
  rw [hasSender]
  rcases htaker : l.taker with - | d
  · simp [hserved]
  · simp [Option.any_eq_true]

/-- It is gone once the taker disconnected, or the taker and its senders are dropped. -/
theorem hasSender_eq_false_iff (hh : h.Coherent) (hl : h.links[k]? = some l)
    (hserved : l.served = true) :
    h.hasSender k l = false ↔ ∃ d dealer, l.taker = some d ∧ h.dealers[d]? = some dealer ∧
      (dealer.phase = .closed ∨ dealer.alive = false ∧ dealer.senders = 0) := by
  rcases htaker : l.taker with - | d
  · simp [hasSender, htaker, hserved]
  · obtain ⟨dealer, hd, hphase⟩ := hh.connected_of_taker hl htaker
    rcases hphase with hphase | hphase
    · simp [hasSender, htaker, hd, hphase]
    · simp [hasSender, htaker, hd, hphase]

end Answers

/-! ### Replies in order -/

/-- **Replies are bounded, in order, and dropped only if they do not fit or their service is gone.**
At any point of any history, and for every binding there ever was: whoever sends on the link is told
that it was sent, and a reply to a service that is gone changes nothing. No more replies are queued
than the high water mark allows. While the service lives, what it collected and what is queued for
it are the replies that were sent when there was room, in their order. That its dealer disconnects
or is dropped, or that a sender is, takes no reply away. The service collects the first reply, waits
if there is none and the sending half is at the address, with the dealer or with one of its senders,
and is told that the link is closed if there is none and the sending half is gone. -/
theorem replies_in_order {p : Past} {h : Hub} (hph : p.LeadsTo h) {m : Moment} (hm : m ∈ p)
    {address : String} {mark : UInt64} {k : Nat} (hbind : m.operation = .bind address mark)
    (hbound : m.answer = .bound k address) :
    ∃ l, h.links[k]? = some l ∧
      (∀ d dealer frames, h.dealers[d]? = some dealer → dealer.phase = .connected k →
        (dealer.alive = true ∨ 0 < dealer.senders) →
        (h.apply (.send d frames)).1 = .done ∧
          (l.served = false → (h.apply (.send d frames)).2 = h)) ∧
      l.replies.length ≤ max mark.toNat 1 ∧
      (l.served = true → p.collected k ++ l.replies = p.fitting k (max mark.toNat 1)) ∧
      (∀ d o, o = .disconnect d ∨ o = .drop d ∨ o = .release d →
        ∃ l', (h.apply o).2.links[k]? = some l' ∧ l'.replies = l.replies) ∧
      (l.served = true →
        (∀ frames, (h.apply (.collect k)).1 = .message frames ↔ l.replies.head? = some frames) ∧
        ((h.apply (.collect k)).1 = .waiting ↔
          l.replies = [] ∧ (l.taker = none ∨ ∃ d dealer, l.taker = some d ∧
            h.dealers[d]? = some dealer ∧ dealer.phase = .connected k ∧
            (dealer.alive = true ∨ 0 < dealer.senders))) ∧
        ((h.apply (.collect k)).1 = .closed ↔
          l.replies = [] ∧ ∃ d dealer, l.taker = some d ∧ h.dealers[d]? = some dealer ∧
            (dealer.phase = .closed ∨ dealer.alive = false ∧ dealer.senders = 0))) := by
  obtain ⟨l, hl, -, hcapacity⟩ := Bindings.of_leadsTo hph m hm address mark k hbind hbound
  have hp : Answered p h := .of_leadsTo hph
  refine ⟨l, hl, fun d dealer frames hd hphase hthere ↦ ?_, ?_, fun hserved ↦ ?_,
    fun d o ho ↦ ?_, fun hserved ↦ ?_⟩
  · rw [apply_send hd hphase hthere]
    refine ⟨rfl, fun hgone ↦ updateLink_eq_self hl ?_⟩
    rw [Link.hasRoom, hgone]
    rfl
  · have hle := (Bounded.of_leadsTo hph k l hl).2
    rw [hcapacity] at hle
    exact hle
  · have haccount := hp.account k l hl hserved
    rw [hcapacity] at haccount
    exact haccount
  · exact (h.effect_apply o).replies_of_departure ho hl
  · rw [apply_collect hl hserved, ← hasSender_eq_true_iff hserved,
      ← hasSender_eq_false_iff hp.coherent hl hserved]
    rcases l.replies with - | ⟨frames, rest⟩
    · rcases h.hasSender k l with - | - <;> simp
    · simp

/-- Three replies are sent where two fit; the service collects one and then the dealer leaves. -/
def overload : List Operation :=
  [.bind "a" 2, .create, .connect 0 "a", .send 0 [[1]], .send 0 [[2]], .send 0 [[3]], .collect 0,
    .send 0 [[4]], .disconnect 0]

theorem replies_in_order_overload :
    let p := ({} : Hub).past overload
    let h := ({} : Hub).run overload
    ∃ l, h.links[0]? = some l ∧ l.served = true ∧ p.collected 0 = [[[1]]] ∧
      l.replies = [[[2]], [[4]]] ∧ p.collected 0 ++ l.replies = p.fitting 0 2 ∧
      (h.apply (.collect 0)).1 = .message [[2]] := by
  intro p h
  obtain ⟨l, hl, -, -, haccount, -, hcollect⟩ :=
    replies_in_order (p := p) (h := h) ⟨overload, rfl, rfl⟩
      (m := ⟨{}, .bind "a" 2, .bound 0 "a"⟩) List.mem_cons_self rfl rfl
  obtain rfl : l = ⟨"a", 2, true, some 0, [], [[[2]], [[4]]]⟩ := Option.some.inj (hl.symm.trans rfl)
  exact ⟨_, hl, rfl, rfl, rfl, haccount rfl, ((hcollect rfl).1 _).2 rfl⟩

end QueryDispatch.Hub
