import Mathlib.Tactic.Set
import QueryDispatch.Proofs.Hub.Coherent

/-!
# Dealers that wait

A dealer waits if it receives from a live service and nothing is queued for it (`Waits`); a poll
then says so (`poll_eq_waiting_iff`). If instead there is something, the next message is received,
and the dealer has one fewer to receive (`receive_of_poll_eq_ready`).

What other dealers do, and any sending of replies, leaves a dealer waiting.
-/

namespace QueryDispatch.Hub

variable {h : Hub} {d e k : Nat} {dealer : Dealer} {l : Link} {frames : Frames}
  {rest : List Frames}

/-- The dealer receives from a live service, and there is nothing for it. -/
def Waits (h : Hub) (d : Nat) : Prop :=
  ∃ dealer k l, h.dealers[d]? = some dealer ∧ dealer.pending = none ∧ dealer.inbound = some k ∧
    h.links[k]? = some l ∧ l.requests = [] ∧ l.served = true

/-! ### Polling and receiving -/

/-- With a request set aside, a poll says that it is there. -/
theorem poll_of_pending (hd : h.dealers[d]? = some dealer) (hp : dealer.pending = some frames) :
    h.poll d = (.ready, h) := by
  simp only [poll, hd, hp, Option.isSome_some, if_true]

/-- With a request set aside, that request is received. -/
theorem receive_of_pending (hd : h.dealers[d]? = some dealer) (hp : dealer.pending = some frames) :
    h.receive d =
      (.message frames, h.updateDealer d fun dealer ↦ { dealer with pending := none }) := by
  simp only [receive, hd, hp]

/-- A poll takes the first message off the queue. -/
theorem poll_of_requests (hd : h.dealers[d]? = some dealer) (hp : dealer.pending = none)
    (hk : dealer.inbound = some k) (hl : h.links[k]? = some l) (hr : l.requests = frames :: rest) :
    h.poll d = (.ready, (h.updateLink k fun l ↦ { l with requests := rest }).updateDealer d
      fun dealer ↦ { dealer with pending := some frames }) := by
  simp only [poll, hd, hp, hk, hl, hr, Option.isSome_none, Bool.false_eq_true, if_false]

/-- With nothing to receive, a poll waits for the service, or says that it has stopped. -/
theorem poll_of_nil (hd : h.dealers[d]? = some dealer) (hp : dealer.pending = none)
    (hk : dealer.inbound = some k) (hl : h.links[k]? = some l) (hr : l.requests = []) :
    h.poll d = (if l.served then .waiting else .failed .serviceStopped, h) := by
  simp only [poll, hd, hp, hk, hl, hr, Option.isSome_none, Bool.false_eq_true, if_false]

/-- **A dealer is told to wait exactly if it waits.** -/
theorem poll_eq_waiting_iff : (h.poll d).1 = .waiting ↔ h.Waits d := by
  constructor
  · intro hpoll
    rw [poll] at hpoll
    split at hpoll
    · cases hpoll
    · next dealer hd =>
      split at hpoll
      · cases hpoll
      · next hp =>
        split at hpoll
        · cases hpoll
        · next k hk =>
          split at hpoll
          · cases hpoll
          · next l hl =>
            split at hpoll
            · cases hpoll
            · next hr =>
              refine ⟨dealer, k, l, hd, Option.not_isSome_iff_eq_none.1 hp, hk, hl, hr, ?_⟩
              rcases hserved : l.served with - | -
              · rw [hserved] at hpoll
                cases hpoll
              · rfl
  · rintro ⟨dealer, k, l, hd, hp, hk, hl, hr, hserved⟩
    rw [poll_of_nil hd hp hk hl hr, hserved]
    rfl

/-- **A poll and a receive take the first message off the queue.** -/
theorem receive_poll_of_requests (hd : h.dealers[d]? = some dealer) (hp : dealer.pending = none)
    (hk : dealer.inbound = some k) (hl : h.links[k]? = some l) (hr : l.requests = frames :: rest) :
    (h.poll d).2.receive d =
      (.message frames, h.updateLink k fun l ↦ { l with requests := rest }) := by
  rw [poll_of_requests hd hp hk hl hr]
  set taken := h.updateLink k fun l ↦ { l with requests := rest } with htaken
  set kept := taken.updateDealer d fun dealer ↦ { dealer with pending := some frames } with hkeeps
  have hkept : kept.dealers[d]? = some { dealer with pending := some frames } := by
    rw [hkeeps, getElem?_updateDealer, htaken, dealers_updateLink, hd, Option.map_some, if_pos rfl]
  rw [receive_of_pending hkept rfl]
  -- the message was kept aside and let go, and the dealer is as it was
  have hback : (taken.dealers.modify d fun dealer ↦ { dealer with pending := some frames }).modify d
      (fun dealer ↦ { dealer with pending := none }) = taken.dealers := by
    refine List.ext_getElem? fun j ↦ ?_
    rw [List.getElem?_modify, List.getElem?_modify]
    by_cases hj : d = j
    · subst hj
      have hsame : taken.dealers[d]? = some dealer := hd
      rw [hsame, ← hp]
      simp
    · simp [hj]
  exact congrArg (Prod.mk _) (congrArg (Hub.mk taken.links) hback)

/-! ### How much there is to receive -/

/-- How many requests are queued where a dealer receives from. -/
def unread (h : Hub) (dealer : Dealer) : Nat :=
  ((dealer.inbound.bind (h.links[·]?)).map fun l ↦ l.requests.length).getD 0

/-- What is unread is what the link of the dealer holds. -/
theorem unread_of_inbound (hk : dealer.inbound = some k) (hl : h.links[k]? = some l) :
    h.unread dealer = l.requests.length := by
  rw [unread, hk, Option.bind_some, hl]
  rfl

theorem unread_updateLink {f : Link → Link} (hf : ∀ l, (f l).requests = l.requests)
    (dealer : Dealer) : (h.updateLink k f).unread dealer = h.unread dealer := by
  rw [unread, unread]
  rcases dealer.inbound with - | j
  · rfl
  · rw [Option.bind_some, Option.bind_some, getElem?_updateLink, Option.map_map]
    congr 2
    funext l
    show (if k = j then f l else l).requests.length = l.requests.length
    split
    · rw [hf]
    · rfl

theorem backlog_of_getElem?_eq_none (hd : h.dealers[d]? = none) : h.backlog d = 0 := by
  rw [backlog, hd]

/-- The backlog is what is unread, and what is set aside. -/
theorem backlog_of_getElem? (hd : h.dealers[d]? = some dealer) :
    h.backlog d = (if dealer.pending.isSome then 1 else 0) + h.unread dealer := by
  rw [backlog, hd]
  dsimp only
  rw [unread]
  rcases dealer.inbound.bind (h.links[·]?) with - | l <;> rfl

theorem backlog_of_inbound (hd : h.dealers[d]? = some dealer) (hp : dealer.pending = none)
    (hk : dealer.inbound = some k) (hl : h.links[k]? = some l) :
    h.backlog d = l.requests.length := by
  rw [backlog_of_getElem? hd, hp, unread_of_inbound hk hl]
  exact Nat.zero_add _

/-- An update that leaves the requests leaves every backlog. -/
theorem backlog_updateLink {f : Link → Link} (hf : ∀ l, (f l).requests = l.requests) :
    (h.updateLink k f).backlog d = h.backlog d := by
  rcases hd : h.dealers[d]? with - | dealer
  · rw [backlog_of_getElem?_eq_none hd]
    exact backlog_of_getElem?_eq_none hd
  · rw [backlog_of_getElem? hd, ← unread_updateLink hf dealer]
    exact backlog_of_getElem? hd

/-- An update that leaves the receiving side leaves every backlog. -/
theorem backlog_updateDealer {f : Dealer → Dealer}
    (hpending : ∀ dealer, (f dealer).pending = dealer.pending)
    (hinbound : ∀ dealer, (f dealer).inbound = dealer.inbound) :
    (h.updateDealer e f).backlog d = h.backlog d := by
  have hd' := h.getElem?_updateDealer e f d
  rcases hd : h.dealers[d]? with - | dealer
  · rw [hd, Option.map_none] at hd'
    rw [backlog_of_getElem?_eq_none hd, backlog_of_getElem?_eq_none hd']
  · rw [hd, Option.map_some] at hd'
    rw [backlog_of_getElem? hd, backlog_of_getElem? hd', unread, unread]
    split
    · rw [hpending, hinbound]
      rfl
    · rfl

/-- To send leaves every backlog. -/
theorem backlog_send (h : Hub) (e : Nat) (frames : Frames) (d : Nat) :
    (h.send e frames).2.backlog d = h.backlog d := by
  rw [send]
  split
  · rfl
  · split
    · rfl
    · rfl
    · refine backlog_updateLink fun l ↦ ?_
      split <;> rfl

theorem backlog_retain (h : Hub) (e d : Nat) : (h.retain e).backlog d = h.backlog d :=
  backlog_updateDealer (fun _ ↦ rfl) fun _ ↦ rfl

/-- **What a poll promises**: a message is received, and there is one fewer to receive. -/
theorem receive_of_poll_eq_ready (hpoll : (h.poll d).1 = .ready) :
    ∃ frames, ((h.poll d).2.receive d).1 = .message frames ∧
      ((h.poll d).2.receive d).2.backlog d < h.backlog d := by
  rcases hd : h.dealers[d]? with - | dealer
  · simp only [poll, hd] at hpoll
    cases hpoll
  rcases hp : dealer.pending with - | frames
  · rcases hk : dealer.inbound with - | k
    · simp only [poll, hd, hp, hk, Option.isSome_none, Bool.false_eq_true, if_false] at hpoll
      cases hpoll
    rcases hl : h.links[k]? with - | l
    · simp only [poll, hd, hp, hk, hl, Option.isSome_none, Bool.false_eq_true, if_false] at hpoll
      cases hpoll
    rcases hr : l.requests with - | ⟨frames, rest⟩
    · rw [poll_of_nil hd hp hk hl hr] at hpoll
      rcases hserved : l.served with - | -
      · rw [hserved] at hpoll
        cases hpoll
      · rw [hserved] at hpoll
        cases hpoll
    · -- the message comes off the queue
      rw [receive_poll_of_requests hd hp hk hl hr]
      refine ⟨frames, rfl, ?_⟩
      have htaken : (h.updateLink k fun l ↦ { l with requests := rest }).links[k]? =
          some { l with requests := rest } := by
        rw [getElem?_updateLink, hl, Option.map_some, if_pos rfl]
      have hleft : (h.updateLink k fun l ↦ { l with requests := rest }).backlog d = rest.length :=
        backlog_of_inbound ((congrArg (·[d]?) (dealers_updateLink ..)).trans hd) hp hk htaken
      rw [hleft, backlog_of_inbound hd hp hk hl, hr]
      exact Nat.lt_succ_self _
  · -- the message was kept aside before
    rw [poll_of_pending hd hp, receive_of_pending hd hp]
    refine ⟨frames, rfl, ?_⟩
    have hlet : (h.updateDealer d fun dealer ↦ { dealer with pending := none }).dealers[d]? =
        some { dealer with pending := none } := by
      rw [getElem?_updateDealer, hd, Option.map_some, if_pos rfl]
    rw [backlog_of_getElem? hlet, backlog_of_getElem? hd, hp]
    exact Nat.add_lt_add_right Nat.zero_lt_one _

/-! ### What leaves a dealer waiting -/

/-- A change of a link that queues nothing on it, and does not end it. -/
theorem Waits.updateLink (hw : h.Waits d) {f : Link → Link}
    (hrequests : ∀ l, h.links[k]? = some l → l.requests = [] → (f l).requests = [])
    (hserved : ∀ l, (f l).served = l.served) : (h.updateLink k f).Waits d := by
  obtain ⟨dealer, j, l, hd, hp, hj, hl, hr, hs⟩ := hw
  refine ⟨dealer, j, if k = j then f l else l, hd, hp, hj, ?_, ?_, ?_⟩
  · rw [getElem?_updateLink, hl]
    rfl
  · split
    · next hkj => exact hrequests l (hkj ▸ hl) hr
    · exact hr
  · split
    · rw [hserved, hs]
    · exact hs

/-- A change of another dealer. -/
theorem Waits.updateDealer (hw : h.Waits d) {f : Dealer → Dealer} (hne : e ≠ d) :
    (h.updateDealer e f).Waits d := by
  obtain ⟨dealer, k, l, hd, h⟩ := hw
  refine ⟨dealer, k, l, ?_, h⟩
  rw [getElem?_updateDealer, hd, Option.map_some, if_neg hne]

/-- A change of any dealer, to what does not concern its receiving. -/
theorem Waits.updateSenders (hw : h.Waits d) {f : Dealer → Dealer}
    (hpending : ∀ dealer, (f dealer).pending = dealer.pending)
    (hinbound : ∀ dealer, (f dealer).inbound = dealer.inbound) : (h.updateDealer e f).Waits d := by
  obtain ⟨dealer, k, l, hd, hp, hk, h⟩ := hw
  refine ⟨if e = d then f dealer else dealer, k, l, ?_, ?_, ?_, h⟩
  · rw [getElem?_updateDealer, hd]
    rfl
  · split
    · rw [hpending, hp]
    · exact hp
  · split
    · rw [hinbound, hk]
    · exact hk

theorem Waits.retain (hw : h.Waits d) (e : Nat) : (h.retain e).Waits d :=
  hw.updateSenders (fun _ ↦ rfl) fun _ ↦ rfl

theorem Waits.release (hw : h.Waits d) (e : Nat) : (h.release e).Waits d :=
  hw.updateSenders (fun _ ↦ rfl) fun _ ↦ rfl

/-- A dealer that waits does so while others send. -/
theorem Waits.send (hw : h.Waits d) (e : Nat) (frames : Frames) : (h.send e frames).2.Waits d := by
  rw [Hub.send]
  split
  · exact hw
  · split
    · exact hw
    · exact hw
    · refine hw.updateLink (fun l _ hr ↦ ?_) fun l ↦ ?_
      · split <;> exact hr
      · split <;> rfl

section Other

variable (hw : h.Waits d) (hne : e ≠ d)

include hw

/-- A dealer that waits does so while the requests of others are abandoned. -/
theorem Waits.abandonRequests (dealer : Dealer) : (h.abandonRequests dealer).Waits d := by
  rw [Hub.abandonRequests]
  split
  · exact hw
  · exact hw.updateLink (fun _ _ _ ↦ rfl) fun _ ↦ rfl

include hne

theorem Waits.dropDealer : (h.dropDealer e).Waits d := by
  rw [Hub.dropDealer]
  split
  · exact hw
  · exact (hw.abandonRequests _).updateDealer hne

/-- A dealer that waits does so while others disconnect. -/
theorem Waits.disconnect : (h.disconnect e).2.Waits d := by
  rw [Hub.disconnect]
  split
  · exact hw
  · split
    · exact (hw.abandonRequests _).updateDealer hne
    · exact hw

/-- A dealer that waits does so while others connect. -/
theorem Waits.connect (address : String) : (h.connect e address).2.Waits d := by
  rw [Hub.connect]
  split
  · exact hw
  · split
    · exact hw
    · split
      · exact hw
      · split
        · exact hw
        · next k _ _ =>
          have hlink : (h.updateLink k fun l ↦ { l with taker := some e }).Waits d :=
            hw.updateLink (fun _ _ hr ↦ hr) fun _ ↦ rfl
          exact hlink.updateDealer hne

/-- A dealer that waits does so while others poll. -/
theorem Waits.poll : (h.poll e).2.Waits d := by
  rw [Hub.poll]
  split
  · exact hw
  · split
    · exact hw
    · split
      · exact hw
      · next k _ =>
        split
        · exact hw
        · next l hl =>
          split
          · next rest hr =>
            -- a link with something queued is not the one at which the dealer waits
            have hlink : (h.updateLink k fun l ↦ { l with requests := rest }).Waits d := by
              refine hw.updateLink (fun l' hl' hnil ↦ ?_) fun _ ↦ rfl
              rw [hl] at hl'
              obtain rfl := Option.some.inj hl'
              rw [hnil] at hr
              cases hr
            exact hlink.updateDealer hne
          · exact hw

/-- A dealer that waits does so while others receive. -/
theorem Waits.receive : (h.receive e).2.Waits d := by
  rw [Hub.receive]
  split
  · exact hw
  · split
    · exact hw.updateDealer hne
    · split
      · exact hw
      · next k _ =>
        split
        · exact hw
        · next l hl =>
          split
          · next rest hr =>
            refine hw.updateLink (fun l' hl' hnil ↦ ?_) fun _ ↦ rfl
            rw [hl] at hl'
            obtain rfl := Option.some.inj hl'
            rw [hnil] at hr
            cases hr
          · exact hw

/-- **What one dealer does leaves the others waiting.** -/
theorem Waits.acts {h' : Hub} {address : String} (ha : h.Acts e address h') : h'.Waits d := by
  cases ha with
  | handles hh =>
    cases hh with
    | send frames => exact hw.send e frames
    | poll => exact hw.poll hne
    | receive => exact hw.receive hne
    | retain => exact hw.retain e
    | release => exact hw.release e
    | drop => exact hw.dropDealer hne
  | connect => exact hw.connect hne address
  | disconnect => exact hw.disconnect hne

end Other

end QueryDispatch.Hub
