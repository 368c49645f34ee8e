import Mathlib.Data.List.Forall2
import QueryDispatch.Proofs.Hub.Replies
import QueryDispatch.Proofs.Hub.Standing

/-!
# A higher mark loses no reply

A longer queue has room for more, and for that very reason it has more in it: what it queued beyond
the shorter one is still there to be collected. So it is not clear of a reply that fits under the
lower mark that it fits under the higher one. It does because the longer queue never has less room
left, in absolute terms, than the shorter one (`Roomier`), whatever is sent and collected.

## Main results

* `Serving.apply_exchange`: what sending and collecting does, as a change of the queue alone.
* `Roomier.exchange`: two queues that go through the same keep the difference of what they hold
  between nothing and the difference of their capacities.
* `higher_mark_loses_nothing`: so the same history under a higher mark queues all that it queues
  under the lower one.
-/

namespace QueryDispatch.Hub

/-- What may be done with the replies to a service. -/
inductive Exchange where
  /-- A reply is sent, through the dealer or one of its senders. -/
  | send (frames : Frames)
  | collect
  | tryCollect

namespace Exchange

/-- What it is to service `k` and the dealer `d` that is connected to it. -/
def operation (d k : Nat) : Exchange → Operation
  | .send frames => .send d frames
  | .collect => .collect k
  | .tryCollect => .tryCollect k

/-- The reply that a queue takes in. -/
def queued? (l : Link) : Exchange → Option Frames
  | .send frames => if l.replies.length < l.capacity then some frames else none
  | .collect | .tryCollect => none

/-- The reply that is collected from a queue. -/
def taken? (l : Link) : Exchange → Option Frames
  | .send _ => none
  | .collect | .tryCollect => l.replies.head?

/-- The queue after it. -/
def replies (l : Link) : Exchange → List Frames
  | .send frames => if l.replies.length < l.capacity then l.replies ++ [frames] else l.replies
  | .collect | .tryCollect => l.replies.tail

/-- What was in the queue or came into it is collected or stays. -/
theorem append_queued? (l : Link) (e : Exchange) :
    l.replies ++ (e.queued? l).toList = (e.taken? l).toList ++ e.replies l := by
  cases e with
  | send frames =>
    simp only [queued?, taken?, replies, Option.toList_none, List.nil_append]
    split
    · rfl
    · exact List.append_nil _
  | collect | tryCollect =>
    simp only [queued?, taken?, replies, Option.toList_none, List.append_nil]
    rcases l.replies with - | ⟨frames, rest⟩ <;> rfl

/-- A reply is put on the link behind the others, if there is room. -/
theorem replies_send (l : Link) (frames : Frames) :
    (send frames).replies l = l.replies ++ ((send frames).queued? l).toList :=
  ((send frames).append_queued? l).symm

end Exchange

/-! ### One queue -/

/-- Service `k` lives, and dealer `d` lives and is connected to it. -/
structure Serving (h : Hub) (d k : Nat) (l : Link) : Prop where
  link : h.links[k]? = some l
  served : l.served = true
  dealer : ∃ dealer, h.dealers[d]? = some dealer ∧ dealer.phase = .connected k ∧
    dealer.alive = true

/-- The replies that are queued for a service. -/
def queuedReplies (h : Hub) (k : Nat) : List Frames := (h.links[k]?.map Link.replies).getD []

/-- A reply was sent, and is queued for the service since. -/
def Moment.Enqueues (m : Moment) (k : Nat) : Prop :=
  ∃ d frames, m.operation = .send d frames ∧
    (m.hub.apply m.operation).2.queuedReplies k = m.hub.queuedReplies k ++ [frames]

/-- A reply was sent, and nothing is queued for the service that was not before. -/
def Moment.Loses (m : Moment) (k : Nat) : Prop :=
  ∃ d frames, m.operation = .send d frames ∧
    (m.hub.apply m.operation).2.queuedReplies k = m.hub.queuedReplies k

section OneQueue

variable {h : Hub} {d k : Nat} {l : Link}

theorem Serving.queuedReplies_eq (hs : h.Serving d k l) : h.queuedReplies k = l.replies := by
  rw [queuedReplies, hs.link]
  rfl

/-- A link keeps serving its dealer while only its replies change. -/
theorem Serving.updateLink (hs : h.Serving d k l) {f : Link → Link} {replies : List Frames}
    (hf : f l = { l with replies }) : (h.updateLink k f).Serving d k { l with replies } :=
  ⟨hf ▸ getElem?_updateLink_self hs.link f, hs.served, hs.dealer⟩

/-- Looking for a reply takes the first one off the queue, if there is one. -/
theorem Serving.collect (hs : h.Serving d k l) :
    (h.collect k).2.Serving d k { l with replies := l.replies.tail } ∧
      ((∃ frames, l.replies.head? = some frames ∧ (h.collect k).1 = .message frames) ∨
        (l.replies.head? = none ∧ ((h.collect k).1 = .waiting ∨ (h.collect k).1 = .closed))) := by
  rcases hreplies : l.replies with - | ⟨frames, rest⟩
  · simp only [Hub.collect, hs.link, hreplies]
    refine ⟨?_, .inr ⟨rfl, ?_⟩⟩
    · rw [List.tail_nil, ← hreplies]
      exact hs
    · split
      · exact .inl rfl
      · exact .inr rfl
  · simp only [Hub.collect, hs.link, hreplies]
    exact ⟨hs.updateLink rfl, .inl ⟨frames, rfl, rfl⟩⟩

/-- **What is sent and collected changes the queue, and nothing else.** -/
theorem Serving.apply_exchange (hs : h.Serving d k l) (e : Exchange) :
    (h.apply (e.operation d k)).2.Serving d k { l with replies := e.replies l } ∧
      Moment.collected? ⟨h, e.operation d k, (h.apply (e.operation d k)).1⟩ k = e.taken? l := by
  have hisServed : h.isServed k = true := by
    rw [isServed, hs.link]
    exact hs.served
  cases e with
  | send frames =>
    obtain ⟨dealer, hd, hphase, halive⟩ := hs.dealer
    have hroom : l.hasRoom = decide (l.replies.length < l.capacity) := by
      rw [Link.hasRoom, hs.served, Bool.true_and]
    rw [Exchange.operation, apply_send hd hphase (.inl halive)]
    refine ⟨hs.updateLink ?_, rfl⟩
    simp only [hroom, Exchange.replies, decide_eq_true_eq]
    split <;> rfl
  | collect | tryCollect =>
    rw [Exchange.operation, apply, guarded, if_pos hisServed]
    obtain ⟨hafter, ⟨frames, hhead, hfound⟩ | ⟨hhead, hnone⟩⟩ := hs.collect
    · refine ⟨hafter, ?_⟩
      rw [Exchange.taken?, hhead, Prod.map_fst, hfound]
      exact if_pos rfl
    · refine ⟨hafter, ?_⟩
      rw [Exchange.taken?, hhead, Prod.map_fst]
      rcases hnone with hnone | hnone <;> rw [hnone] <;> rfl

/-- **Of replies that nobody collects, the first ones are queued**, as many as there is room for. -/
theorem Serving.run_send (hs : h.Serving d k l) (replies : List Frames) :
    (h.run (replies.map (.send d))).queuedReplies k =
      l.replies ++ replies.take (l.capacity - l.replies.length) := by
  induction replies generalizing h l with
  | nil => rw [List.map_nil, run_nil, hs.queuedReplies_eq, List.take_nil, List.append_nil]
  | cons frames rest ih =>
    have hafter := (hs.apply_exchange (.send frames)).1
    rw [List.map_cons, run_cons]
    refine (ih hafter).trans ?_
    simp only [Exchange.replies]
    split
    · next hroom =>
      have hless : l.capacity - l.replies.length =
          l.capacity - (l.replies ++ [frames]).length + 1 := by
        rw [List.length_append, List.length_singleton]
        omega
      rw [hless, List.take_succ_cons, List.append_assoc]
      rfl
    · next hfull =>
      rw [Nat.sub_eq_zero_of_le (Nat.le_of_not_lt hfull), List.take_zero, List.take_zero]

/-- A reply is queued if the queue takes it in. -/
theorem Serving.enqueues_iff (hs : h.Serving d k l) (e : Exchange) (a : Answer) :
    Moment.Enqueues ⟨h, e.operation d k, a⟩ k ↔ ∃ frames, e.queued? l = some frames := by
  have hafter := (hs.apply_exchange e).1.queuedReplies_eq
  constructor
  · rintro ⟨_, frames, ho, hqueued⟩
    cases e with
    | send frames' =>
      obtain ⟨-, rfl⟩ := Operation.send.inj ho
      rw [Exchange.replies_send] at hafter
      rw [hafter, hs.queuedReplies_eq] at hqueued
      exact ⟨_, Option.toList_eq_singleton_iff.1 (List.append_cancel_left hqueued)⟩
    | collect | tryCollect => cases ho
  · rintro ⟨frames, hqueued⟩
    cases e with
    | send frames' =>
      rw [Exchange.replies_send, hqueued, ← hs.queuedReplies_eq] at hafter
      have hsame : frames' = frames := by
        rw [Exchange.queued?] at hqueued
        split at hqueued
        · exact Option.some.inj hqueued
        · cases hqueued
      exact ⟨d, frames', rfl, hsame ▸ hafter⟩
    | collect | tryCollect => cases hqueued

/-- A reply is lost if the queue does not take it in. -/
theorem Serving.loses_iff (hs : h.Serving d k l) (e : Exchange) (a : Answer) :
    Moment.Loses ⟨h, e.operation d k, a⟩ k ↔
      (∃ frames, e = .send frames) ∧ e.queued? l = none := by
  have hafter := (hs.apply_exchange e).1.queuedReplies_eq
  constructor
  · rintro ⟨_, frames, ho, hlost⟩
    cases e with
    | send frames' =>
      rw [Exchange.replies_send] at hafter
      rw [hafter, hs.queuedReplies_eq] at hlost
      exact ⟨⟨_, rfl⟩, Option.toList_eq_nil_iff.1 (List.append_right_eq_self.1 hlost)⟩
    | collect | tryCollect => cases ho
  · rintro ⟨⟨frames, rfl⟩, hlost⟩
    rw [Exchange.replies_send, hlost, ← hs.queuedReplies_eq] at hafter
    exact ⟨d, frames, rfl, hafter.trans (List.append_nil _)⟩

end OneQueue

/-! ### Two queues -/

/-- The second queue holds at least as much as the first, and has at least as much room left. -/
structure Roomier (l l' : Link) : Prop where
  held : l.replies.length ≤ l'.replies.length
  room : l'.replies.length + l.capacity ≤ l.replies.length + l'.capacity

namespace Roomier

variable {l l' : Link}

/-- Whatever the first queue takes in, the second does. -/
theorem queued? (hr : Roomier l l') (e : Exchange) {frames : Frames}
    (he : e.queued? l = some frames) : e.queued? l' = some frames := by
  cases e with
  | send frames' =>
    rw [Exchange.queued?] at he ⊢
    split at he
    · next hlt =>
      have hlt' : l'.replies.length < l'.capacity := by
        have hroom := hr.room
        omega
      rwa [if_pos hlt']
    · cases he
  | collect | tryCollect => cases he

/-- **The difference of what they hold stays between nothing and that of their capacities.** -/
theorem exchange (hr : Roomier l l') (e : Exchange) :
    Roomier { l with replies := e.replies l } { l' with replies := e.replies l' } := by
  obtain ⟨hheld, hroom⟩ := hr
  cases e with
  | send frames =>
    have hlength : ∀ l : Link, (Exchange.replies l (.send frames)).length =
        l.replies.length + if l.replies.length < l.capacity then 1 else 0 := fun l ↦ by
      rw [Exchange.replies]
      split
      · exact List.length_append
      · rfl
    refine ⟨?_, ?_⟩ <;> simp only [hlength]
    -- once the first is full, the second has taken in more than it
    all_goals split <;> split <;> omega
  | collect | tryCollect =>
    refine ⟨?_, ?_⟩ <;> simp only [Exchange.replies, List.length_tail] <;> omega

end Roomier

/-- Of the same thing done to two hubs: what the first one queues for the service the second one
queues, and so the second one loses only what the first one loses. -/
structure Moment.Eased (k : Nat) (m m' : Moment) : Prop where
  operation : m'.operation = m.operation
  enqueues : m.Enqueues k → m'.Enqueues k
  loses : m'.Loses k → m.Loses k

theorem Past.collected_cons (m : Moment) (p : Past) (k : Nat) :
    collected (m :: p) k = (m.collected? k).toList ++ p.collected k := by
  rw [collected, List.filterMap_cons]
  rcases m.collected? k with - | frames <;> rfl

section TwoQueues

variable {h h' : Hub} {d k : Nat} {l l' : Link}

/-- Where there is more room a moment is no worse off. -/
theorem Roomier.eased (hr : Roomier l l') (hs : h.Serving d k l) (hs' : h'.Serving d k l')
    (e : Exchange) : Moment.Eased k ⟨h, e.operation d k, (h.apply (e.operation d k)).1⟩
      ⟨h', e.operation d k, (h'.apply (e.operation d k)).1⟩ where
  operation := rfl
  enqueues := by
    rw [hs.enqueues_iff, hs'.enqueues_iff]
    rintro ⟨frames, hqueued⟩
    exact ⟨frames, hr.queued? e hqueued⟩
  loses := by
    rw [hs.loses_iff, hs'.loses_iff]
    rintro ⟨hsend, hlost⟩
    refine ⟨hsend, Option.eq_none_iff_forall_ne_some.2 fun frames hqueued ↦ ?_⟩
    cases hlost.symm.trans (hr.queued? e hqueued)

/-- **Two queues go through the same.** What was in them before counts as collected, so that it can
be said of any two queues and not only of empty ones. -/
theorem Roomier.run (hr : Roomier l l') (hs : h.Serving d k l) (hs' : h'.Serving d k l')
    {xs xs' : List Frames} (hsub : (xs ++ l.replies).Sublist (xs' ++ l'.replies))
    (steps : List Exchange) :
    List.Forall₂ (Moment.Eased k) (h.past (steps.map (Exchange.operation d k)))
        (h'.past (steps.map (Exchange.operation d k))) ∧
      (xs ++ ((h.past (steps.map (Exchange.operation d k))).collected k ++
          (h.run (steps.map (Exchange.operation d k))).queuedReplies k)).Sublist
        (xs' ++ ((h'.past (steps.map (Exchange.operation d k))).collected k ++
          (h'.run (steps.map (Exchange.operation d k))).queuedReplies k)) := by
  induction steps generalizing h h' l l' xs xs' with
  | nil =>
    refine ⟨.nil, ?_⟩
    rw [← hs.queuedReplies_eq, ← hs'.queuedReplies_eq] at hsub
    exact hsub
  | cons e rest ih =>
    obtain ⟨hafter, htaken⟩ := hs.apply_exchange e
    obtain ⟨hafter', htaken'⟩ := hs'.apply_exchange e
    have hqueued : (e.queued? l).toList.Sublist (e.queued? l').toList := by
      rcases hq : e.queued? l with - | frames
      · exact List.nil_sublist _
      · rw [hr.queued? e hq]
    have hsub' : ((xs ++ (e.taken? l).toList) ++ e.replies l).Sublist
        ((xs' ++ (e.taken? l').toList) ++ e.replies l') := by
      rw [List.append_assoc, List.append_assoc, ← e.append_queued? l, ← e.append_queued? l',
        ← List.append_assoc, ← List.append_assoc]
      exact hsub.append hqueued
    obtain ⟨heased, hlater⟩ := ih (hr.exchange e) hafter hafter' hsub'
    refine ⟨.cons (hr.eased hs hs' e) heased, ?_⟩
    rw [List.map_cons, past, past, Past.collected_cons, Past.collected_cons, htaken, htaken']
    simp only [List.append_assoc] at hlater ⊢
    exact hlater

end TwoQueues

/-! ### Binding and connecting -/

section Opening

variable {h : Hub} {d k : Nat} {dealer : Dealer} {l : Link} {address : String} {mark : UInt64}

/-- To bind a free address with a mark that fits adds a link. -/
theorem bind_of_free (hfree : h.bound? address = none) (hfits : capacity mark ≤ longestQueue) :
    h.bind address mark = .ok (h.links.length,
      { h with links := h.links ++ [{ address, capacity := capacity mark }] }) := by
  rw [bind, isBound_eq_false_iff.2 hfree, if_neg Bool.false_ne_true,
    if_neg (Nat.not_lt_of_le hfits)]

/-- Where nothing was bound, it is the new link that is. -/
theorem bound?_append_self (hfree : h.bound? address = none) (hserved : l.served = true)
    (haddress : l.address = address) :
    Hub.bound? { h with links := h.links ++ [l] } address = some h.links.length := by
  rw [bound?] at hfree ⊢
  rw [List.findIdx?_append, hfree, Option.none_or, List.findIdx?_cons, hserved, haddress,
    beq_self_eq_true]
  exact congrArg some (Nat.zero_add _)

/-- A dealer that has not connected takes a link that is free. -/
theorem connect_of_free (hd : h.dealers[d]? = some dealer) (hphase : dealer.phase = .unconnected)
    (hbound : h.bound? address = some k) (hl : h.links[k]? = some l) (htaker : l.taker = none) :
    h.connect d address =
      (none, (h.updateLink k fun l ↦ { l with taker := some d }).updateDealer d fun dealer ↦
        { dealer with phase := .connected k, inbound := some k }) := by
  simp only [connect, hd, hphase, ne_eq, not_true_eq_false, if_false, hbound, hl, Option.bind_some,
    htaker, Option.isSome_none, Bool.false_eq_true]

/-- A service is bound where none was, and a dealer that never connected connects to it. -/
def opening (d : Nat) (address : String) (mark : UInt64) : List Operation :=
  [.bind address mark, .connect d address]

/-- From a free address, an opening makes a link that serves the dealer and holds nothing. -/
theorem serving_opening (hd : h.dealers[d]? = some dealer) (halive : dealer.alive = true)
    (hphase : dealer.phase = .unconnected) (hfree : h.bound? address = none)
    (hfits : capacity mark ≤ longestQueue) :
    h.answers (opening d address mark) = [.bound h.links.length address, .done] ∧
      (h.run (opening d address mark)).Serving d h.links.length
        { address, capacity := capacity mark, taker := some d } := by
  set bound : Hub := { h with links := h.links ++ [{ address, capacity := capacity mark }] }
    with hbound
  have hd' : bound.dealers[d]? = some dealer := hd
  have hl : bound.links[h.links.length]? = some { address, capacity := capacity mark } :=
    List.getElem?_concat_length
  have hbind : h.apply (.bind address mark) = (.bound h.links.length address, bound) := by
    rw [apply, bind_of_free hfree hfits]
  have hconnect : bound.apply (.connect d address) =
      (.done, (bound.updateLink h.links.length fun l ↦ { l with taker := some d }).updateDealer d
        fun dealer ↦
          { dealer with phase := .connected h.links.length, inbound := some h.links.length }) := by
    have halive' : bound.isAlive d = true := by rwa [isAlive, hd']
    rw [apply, guarded, if_pos halive',
      connect_of_free hd' hphase (bound?_append_self hfree rfl rfl) hl rfl]
    rfl
  rw [opening, answers, answers, answers, run_cons, run_cons, run_nil, hbind, hconnect]
  exact ⟨rfl, getElem?_updateLink_self hl _, rfl, _, getElem?_updateDealer_self hd' _, rfl, halive⟩

/-- A higher mark makes the queues no shorter. -/
theorem capacity_mono {mark' : UInt64} (hle : mark ≤ mark') : capacity mark ≤ capacity mark' := by
  have htoNat := UInt64.le_iff_toNat_le.1 hle
  rw [capacity, capacity]
  omega

end Opening

/-- **A higher mark loses no reply.** A service is bound, under one mark or a higher one, and a
dealer connects to it; then replies are sent through the dealer and its senders, and the service
looks for replies, in any order. Whatever is queued under the lower mark is queued under the higher
one, so that only what is lost under the lower mark is lost under the higher one; and what was
collected and what is queued under the lower mark is part of what was collected and what is queued
under the higher one, in the same order. The marks zero and one make no difference at all. -/
theorem higher_mark_loses_nothing {h : Hub} {d : Nat} {dealer : Dealer} {address : String}
    {mark mark' : UInt64} (hd : h.dealers[d]? = some dealer) (halive : dealer.alive = true)
    (hphase : dealer.phase = .unconnected) (hfree : h.bound? address = none) (hle : mark ≤ mark')
    (hfits : capacity mark' ≤ longestQueue) (steps : List Exchange) :
    let k := h.links.length
    let lower := h.run (opening d address mark)
    let higher := h.run (opening d address mark')
    let operations := steps.map (Exchange.operation d k)
    h.answers (opening d address mark) = [.bound k address, .done] ∧
      h.answers (opening d address mark') = [.bound k address, .done] ∧
      List.Forall₂ (Moment.Eased k) (lower.past operations) (higher.past operations) ∧
      ((lower.past operations).collected k ++ (lower.run operations).queuedReplies k).Sublist
        ((higher.past operations).collected k ++ (higher.run operations).queuedReplies k) ∧
      h.apply (.bind address 0) = h.apply (.bind address 1) := by
  intro k lower higher operations
  have hcapacity := capacity_mono hle
  obtain ⟨hanswers, hs⟩ :=
    serving_opening hd halive hphase hfree (Nat.le_trans hcapacity hfits)
  obtain ⟨hanswers', hs'⟩ := serving_opening hd halive hphase hfree hfits
  have hr : Roomier { address, capacity := capacity mark, taker := some d }
      { address, capacity := capacity mark', taker := some d } :=
    ⟨Nat.le_refl _, Nat.add_le_add_left hcapacity _⟩
  have hempty : (([] : List Frames) ++ []).Sublist ([] ++ []) := .refl []
  obtain ⟨heased, hsub⟩ := hr.run hs hs' hempty steps
  exact ⟨hanswers, hanswers', heased, hsub, rfl⟩

/-- Of three replies the shorter queue loses the second. -/
theorem higher_mark_loses_nothing_second :
    let h := ({} : Hub).run [.create]
    let operations :=
      [Exchange.send [[1]], .send [[2]], .collect, .send [[3]]].map (Exchange.operation 0 0)
    let lower := h.run (opening 0 "service" 1)
    let higher := h.run (opening 0 "service" 2)
    ((lower.past operations).collected 0, (lower.run operations).queuedReplies 0) =
        ([[[1]]], [[[3]]]) ∧
      ((higher.past operations).collected 0, (higher.run operations).queuedReplies 0) =
        ([[[1]]], [[[2]], [[3]]]) ∧
      List.Forall₂ (Moment.Eased 0) (lower.past operations) (higher.past operations) :=
  ⟨by decide +kernel, by decide +kernel,
    (higher_mark_loses_nothing (h := ({} : Hub).run [.create]) (d := 0) rfl rfl rfl
      (by decide +kernel) (by decide) (by decide)
      [.send [[1]], .send [[2]], .collect, .send [[3]]]).2.2.1⟩

end QueryDispatch.Hub
