import QueryDispatch.Proofs.Hub.Addresses

/-!
# An operation that fails leaves no trace

`Hub.Fails` lists the ways in which an operation on the transport can fail, each with the state of
things that makes it fail and the answer it gives. The list is complete (`Hub.fails_iff`): who is
told anything else has either succeeded or named something that is not there.

That a failure changes nothing is clear for the links and dealers, since `Effect` has one case for
all failures. For the address table it is so because binding looks for an entry before it makes the
link, and connecting looks at the dealer's phase before it takes anything from the table.

## Main results

* `Hub.fails_iff`: an operation fails exactly for one of the reasons listed.
* `Context.failures_leave_no_trace`: after any history, who leaves a failure out of it gets the same
  answers from then on; and a dealer that could not connect can still do so.
-/

namespace QueryDispatch

namespace Hub

/-- Why an operation fails, and what it is told. -/
inductive Fails (h : Hub) : Operation → Answer → Prop where
  /-- A live service is bound at the address. -/
  | inUse {address : String} {mark : UInt64} (hbound : h.isBound address = true) :
      Fails h (.bind address mark) (.refused (.endpointInUse address))
  | oversized {address : String} {mark : UInt64} (hfree : h.isBound address = false)
      (hlong : longestQueue < capacity mark) : Fails h (.bind address mark) .oversized
  /-- The dealer has connected before. -/
  | alreadyConnected {d : Nat} {dealer : Dealer} {address : String}
      (hd : h.dealers[d]? = some dealer) (halive : dealer.alive = true)
      (hphase : dealer.phase ≠ .unconnected) :
      Fails h (.connect d address) (.refused .alreadyConnected)
  | notFound {d : Nat} {dealer : Dealer} {address : String}
      (hd : h.dealers[d]? = some dealer) (halive : dealer.alive = true)
      (hphase : dealer.phase = .unconnected) (hfree : h.bound? address = none) :
      Fails h (.connect d address) (.refused (.endpointNotFound address))
  /-- The service bound at the address has its dealer. -/
  | taken {d k : Nat} {dealer : Dealer} {address : String}
      (hd : h.dealers[d]? = some dealer) (halive : dealer.alive = true)
      (hphase : dealer.phase = .unconnected) (hbound : h.bound? address = some k)
      (htaker : (h.links[k]?.bind Link.taker).isSome = true) :
      Fails h (.connect d address) (.refused (.endpointInUse address))
  | full {k : Nat} {l : Link} {frames : Frames} (hl : h.links[k]? = some l)
      (hserved : l.served = true) (hreceiver : h.hasReceiver k l = true)
      (hfull : l.capacity ≤ l.requests.length) : Fails h (.deliver k frames) .waiting
  /-- No one can receive it any more. -/
  | deserted {k : Nat} {l : Link} {frames : Frames} (hl : h.links[k]? = some l)
      (hserved : l.served = true) (hreceiver : h.hasReceiver k l = false) :
      Fails h (.deliver k frames) (.refused .serviceStopped)
  /-- There is nothing to receive yet. -/
  | idle {d : Nat} (halive : h.isAlive d = true) (hwaits : h.Waits d) :
      Fails h (.poll d) .waiting
  | wouldBlock {d : Nat} (halive : h.isAlive d = true) (hwaits : h.Waits d) :
      Fails h (.receive d) (.refused .wouldBlock)
  /-- The dealer receives from no link. -/
  | unlinked {o : Operation} {d : Nat} {dealer : Dealer} (ho : o = .poll d ∨ o = .receive d)
      (hd : h.dealers[d]? = some dealer) (halive : dealer.alive = true)
      (hpending : dealer.pending = none) (hinbound : dealer.inbound = none) :
      Fails h o (.refused .notConnected)
  /-- The service is gone, and everything it sent is received. -/
  | stopped {o : Operation} {d k : Nat} {dealer : Dealer} (ho : o = .poll d ∨ o = .receive d)
      (hd : h.dealers[d]? = some dealer) (halive : dealer.alive = true)
      (hinbound : dealer.inbound = some k) (hserved : h.isServed k = false)
      (hbacklog : h.backlog d = 0) : Fails h o (.refused .serviceStopped)
  | early {d : Nat} {dealer : Dealer} {frames : Frames} (hd : h.dealers[d]? = some dealer)
      (hthere : dealer.alive = true ∨ 0 < dealer.senders) (hphase : dealer.phase = .unconnected) :
      Fails h (.send d frames) (.refused .notConnected)
  | late {d : Nat} {dealer : Dealer} {frames : Frames} (hd : h.dealers[d]? = some dealer)
      (hthere : dealer.alive = true ∨ 0 < dealer.senders) (hphase : dealer.phase = .closed) :
      Fails h (.send d frames) (.refused .serviceStopped)
  | notConnected {d : Nat} {dealer : Dealer} (hd : h.dealers[d]? = some dealer)
      (halive : dealer.alive = true) (hphase : ∀ k, dealer.phase ≠ .connected k) :
      Fails h (.disconnect d) (.refused .notConnected)
  | noReply {k : Nat} {l : Link} (hl : h.links[k]? = some l) (hserved : l.served = true)
      (hreplies : l.replies = []) (hsender : h.hasSender k l = true) :
      Fails h (.collect k) .waiting
  /-- No one can send one any more. -/
  | noMoreReplies {k : Nat} {l : Link} (hl : h.links[k]? = some l) (hserved : l.served = true)
      (hreplies : l.replies = []) (hsender : h.hasSender k l = false) :
      Fails h (.collect k) .closed
  | noReplyNow {k : Nat} {l : Link} (hl : h.links[k]? = some l) (hserved : l.served = true)
      (hreplies : l.replies = []) : Fails h (.tryCollect k) .nothing

section Complete

variable {h : Hub} {o : Operation} {a : Answer}

/-! ### Who has a reason to fail fails -/

theorem guarded_of_isServed {k : Nat} {l : Link} (hl : h.links[k]? = some l)
    (hserved : l.served = true) (result : Answer × Hub) :
    guarded (h.isServed k) h result = result :=
  if_pos (by rwa [isServed, hl])

theorem guarded_of_isAlive {d : Nat} {dealer : Dealer} (hd : h.dealers[d]? = some dealer)
    (halive : dealer.alive = true) (result : Answer × Hub) :
    guarded (h.isAlive d) h result = result :=
  if_pos (by rwa [isAlive, hd])

/-- A failure is answered as the list says. -/
theorem Fails.answer_eq (hf : h.Fails o a) : (h.apply o).1 = a := by
  cases hf with
  | inUse hbound => rw [apply, bind, if_pos hbound]
  | oversized hfree hlong => rw [apply, bind, hfree, if_neg Bool.false_ne_true, if_pos hlong]
  | alreadyConnected hd halive hphase =>
    rw [apply, guarded_of_isAlive hd halive, connect, hd]
    simp only [hphase, ne_eq, not_false_eq_true, if_true, Prod.map_fst, Answer.ofRefusal]
  | notFound hd halive hphase hfree =>
    rw [apply, guarded_of_isAlive hd halive, connect, hd]
    simp only [hphase, ne_eq, not_true_eq_false, if_false, hfree, Prod.map_fst, Answer.ofRefusal]
  | taken hd halive hphase hbound htaker =>
    rw [apply, guarded_of_isAlive hd halive, connect, hd]
    simp only [hphase, ne_eq, not_true_eq_false, if_false, hbound, htaker, if_true, Prod.map_fst,
      Answer.ofRefusal]
  | full hl hserved hreceiver hfull =>
    rw [apply, guarded_of_isServed hl hserved, deliver, hl]
    simp only [hreceiver, Bool.not_true, Bool.false_eq_true, if_false, hfull, if_true,
      Prod.map_fst, Answer.ofDelivery]
  | deserted hl hserved hreceiver =>
    rw [apply, guarded_of_isServed hl hserved, deliver, hl]
    simp only [hreceiver, Bool.not_false, if_true, Prod.map_fst, Answer.ofDelivery]
  | idle halive hwaits =>
    rw [apply, guarded, if_pos halive]
    exact congrArg Answer.ofPoll (poll_eq_waiting_iff.2 hwaits)
  | wouldBlock halive hwaits =>
    obtain ⟨dealer, k, l, hd, hpending, hinbound, hl, hrequests, hserved⟩ := hwaits
    rw [apply, guarded, if_pos halive]
    simp only [receive, hd, hpending, hinbound, hl, hrequests, hserved, if_true, Prod.map_fst,
      Answer.ofReceived]
  | unlinked ho hd halive hpending hinbound =>
    rcases ho with rfl | rfl
    · rw [apply, guarded_of_isAlive hd halive]
      simp only [poll, hd, hpending, hinbound, Option.isSome_none, Bool.false_eq_true, if_false,
        Prod.map_fst, Answer.ofPoll]
    · rw [apply, guarded_of_isAlive hd halive]
      simp only [receive, hd, hpending, hinbound, Prod.map_fst, Answer.ofReceived]
  | @stopped _ d k dealer ho hd halive hinbound hserved hbacklog =>
    have hpending : dealer.pending = none := by
      rw [backlog_of_getElem? hd] at hbacklog
      rcases hp : dealer.pending with - | frames
      · rfl
      · rw [hp] at hbacklog
        simp at hbacklog
    rcases hl : h.links[k]? with - | l
    · rcases ho with rfl | rfl
      · rw [apply, guarded_of_isAlive hd halive]
        simp only [poll, hd, hpending, hinbound, hl, Option.isSome_none, Bool.false_eq_true,
          if_false, Prod.map_fst, Answer.ofPoll]
      · rw [apply, guarded_of_isAlive hd halive]
        simp only [receive, hd, hpending, hinbound, hl, Prod.map_fst, Answer.ofReceived]
    · have hrequests : l.requests = [] := by
        rw [backlog_of_inbound hd hpending hinbound hl] at hbacklog
        exact List.eq_nil_of_length_eq_zero hbacklog
      rw [isServed, hl, Option.any_some] at hserved
      rcases ho with rfl | rfl
      · rw [apply, guarded_of_isAlive hd halive, poll_of_nil hd hpending hinbound hl hrequests,
          hserved]
        rfl
      · rw [apply, guarded_of_isAlive hd halive]
        simp only [receive, hd, hpending, hinbound, hl, hrequests, hserved, Bool.false_eq_true,
          if_false, Prod.map_fst, Answer.ofReceived]
  | early hd hthere hphase | late hd hthere hphase =>
    rw [apply, guarded, if_pos (by simpa [isAlive, isRetained, hd] using hthere)]
    simp only [send, hd, hphase, Prod.map_fst, Answer.ofRefusal]
  | @notConnected _ dealer hd halive hphase =>
    rw [apply, guarded_of_isAlive hd halive, disconnect, hd]
    rcases hp : dealer.phase with - | k | -
    · simp only [hp, Prod.map_fst, Answer.ofRefusal]
    · exact absurd hp (hphase k)
    · simp only [hp, Prod.map_fst, Answer.ofRefusal]
  | noReply hl hserved hreplies hsender =>
    rw [apply, guarded_of_isServed hl hserved]
    simp only [collect, hl, hreplies, hsender, if_true, Prod.map_fst, Answer.ofCollected]
  | noMoreReplies hl hserved hreplies hsender =>
    rw [apply, guarded_of_isServed hl hserved]
    simp only [collect, hl, hreplies, hsender, Bool.false_eq_true, if_false, Prod.map_fst,
      Answer.ofCollected]
  | noReplyNow hl hserved hreplies =>
    rw [apply, guarded_of_isServed hl hserved]
    simp only [collect, hl, hreplies, Prod.map_fst]
    split <;> rfl

/-- An operation that fails does so with the answer it gives. -/
theorem Fails.answered (hf : h.Fails o a) : h.Fails o (h.apply o).1 := hf.answer_eq.symm ▸ hf

/-- What is listed are failures, of operations on something that is there. -/
theorem Fails.not_succeeded (hf : h.Fails o a) : o.succeeded a = false ∧ a ≠ .absent := by
  cases hf with
  | unlinked ho | stopped ho => rcases ho with rfl | rfl <;> exact ⟨rfl, nofun⟩
  | _ => exact ⟨rfl, nofun⟩

/-! ### Who fails has a reason to -/

/-- What is not absent was allowed. -/
theorem allowed_of_guarded {allowed : Bool} {result : Answer × Hub}
    (ha : (guarded allowed h result).1 ≠ .absent) : allowed = true := by
  rw [guarded] at ha
  split at ha
  · assumption
  · exact absurd rfl ha

/-- An operation on a dealer that is answered at all is one on a dealer that is there. -/
theorem exists_of_guarded_isAlive {d : Nat} {result : Answer × Hub}
    (ha : (guarded (h.isAlive d) h result).1 ≠ .absent) :
    ∃ dealer, h.dealers[d]? = some dealer ∧ dealer.alive = true :=
  (Option.any_eq_true ..).1 (allowed_of_guarded ha)

/-- An operation on a service that is answered at all is one on a service that lives. -/
theorem exists_of_guarded_isServed {k : Nat} {result : Answer × Hub}
    (ha : (guarded (h.isServed k) h result).1 ≠ .absent) :
    ∃ l, h.links[k]? = some l ∧ l.served = true :=
  (Option.any_eq_true ..).1 (allowed_of_guarded ha)

/-- A bind without success failed. -/
theorem fails_bind {address : String} {mark : UInt64}
    (hs : (Operation.bind address mark).succeeded (h.apply (.bind address mark)).1 = false) :
    h.Fails (.bind address mark) (h.apply (.bind address mark)).1 := by
  rw [apply, bind] at hs ⊢
  by_cases hbound : h.isBound address = true
  · rw [if_pos hbound]
    exact .inUse hbound
  · rw [if_neg hbound] at hs ⊢
    by_cases hlong : longestQueue < capacity mark
    · rw [if_pos hlong]
      exact .oversized (Bool.eq_false_iff.2 hbound) hlong
    · rw [if_neg hlong] at hs
      cases hs

/-- A delivery without success failed. -/
theorem fails_deliver {k : Nat} {frames : Frames}
    (hs : (Operation.deliver k frames).succeeded (h.apply (.deliver k frames)).1 = false)
    (ha : (h.apply (.deliver k frames)).1 ≠ .absent) :
    h.Fails (.deliver k frames) (h.apply (.deliver k frames)).1 := by
  rw [apply] at hs ha ⊢
  obtain ⟨l, hl, hserved⟩ := exists_of_guarded_isServed ha
  rw [guarded_of_isServed hl hserved, deliver, hl] at hs ⊢
  dsimp only at hs ⊢
  rcases hreceiver : h.hasReceiver k l with - | -
  · exact .deserted hl hserved hreceiver
  · rw [hreceiver] at hs
    by_cases hfull : l.capacity ≤ l.requests.length
    · simp only [Bool.not_true, Bool.false_eq_true, if_false, if_pos hfull]
      exact .full hl hserved hreceiver hfull
    · simp only [Bool.not_true, Bool.false_eq_true, if_false, if_neg hfull] at hs
      cases hs

/-- A connection without success failed. -/
theorem fails_connect {d : Nat} {address : String}
    (hs : (Operation.connect d address).succeeded (h.apply (.connect d address)).1 = false)
    (ha : (h.apply (.connect d address)).1 ≠ .absent) :
    h.Fails (.connect d address) (h.apply (.connect d address)).1 := by
  rw [apply] at hs ha ⊢
  obtain ⟨dealer, hd, halive⟩ := exists_of_guarded_isAlive ha
  rw [guarded_of_isAlive hd halive, connect, hd] at hs ⊢
  dsimp only at hs ⊢
  by_cases hphase : dealer.phase = .unconnected
  · rw [if_neg (not_not_intro hphase)] at hs ⊢
    rcases hbound : h.bound? address with - | k
    · exact .notFound hd halive hphase hbound
    · rw [hbound] at hs
      by_cases htaker : (h.links[k]?.bind Link.taker).isSome = true
      · simp only [if_pos htaker]
        exact .taken hd halive hphase hbound htaker
      · simp only [if_neg htaker] at hs
        cases hs
  · rw [if_pos hphase]
    exact .alreadyConnected hd halive hphase

/-- A dealer that looks for a message and finds none finds out why there is none. -/
theorem fails_poll_or_receive {d : Nat} (ho : o = .poll d ∨ o = .receive d)
    (hs : o.succeeded (h.apply o).1 = false) (ha : (h.apply o).1 ≠ .absent) :
    h.Fails o (h.apply o).1 := by
  have halive : h.isAlive d = true := by
    rcases ho with rfl | rfl <;> exact allowed_of_guarded ha
  obtain ⟨dealer, hd, hlives⟩ := (Option.any_eq_true ..).1 halive
  have hpending : dealer.pending = none := by
    rcases hp : dealer.pending with - | frames
    · rfl
    · rcases ho with rfl | rfl
      · rw [apply, guarded_of_isAlive hd hlives, poll_of_pending hd hp] at hs
        cases hs
      · rw [apply, guarded_of_isAlive hd hlives, receive_of_pending hd hp] at hs
        cases hs
  rcases hinbound : dealer.inbound with - | k
  · exact (Fails.unlinked ho hd hlives hpending hinbound).answered
  · -- the queue is empty, or else the operation succeeds
    have hrequests : ∀ l, h.links[k]? = some l → l.requests = [] := by
      intro l hl
      rcases hr : l.requests with - | ⟨frames, rest⟩
      · rfl
      · rcases ho with rfl | rfl
        · rw [apply, guarded_of_isAlive hd hlives,
            poll_of_requests hd hpending hinbound hl hr] at hs
          cases hs
        · rw [apply, guarded_of_isAlive hd hlives] at hs
          simp only [receive, hd, hpending, hinbound, hl, hr] at hs
          cases hs
    rcases hserved : h.isServed k with - | -
    · have hbacklog : h.backlog d = 0 := by
        rcases hl : h.links[k]? with - | l
        · rw [backlog, hd]
          simp only [hpending, hinbound, Option.bind_some, hl]
          rfl
        · rw [backlog_of_inbound hd hpending hinbound hl, hrequests l hl]
          rfl
      exact (Fails.stopped ho hd hlives hinbound hserved hbacklog).answered
    · obtain ⟨l, hl, hserved⟩ := (Option.any_eq_true ..).1 hserved
      have hwaits : h.Waits d := ⟨dealer, k, l, hd, hpending, hinbound, hl, hrequests l hl, hserved⟩
      rcases ho with rfl | rfl
      · exact (Fails.idle halive hwaits).answered
      · exact (Fails.wouldBlock halive hwaits).answered

/-- A reply without success failed. -/
theorem fails_send {d : Nat} {frames : Frames}
    (hs : (Operation.send d frames).succeeded (h.apply (.send d frames)).1 = false)
    (ha : (h.apply (.send d frames)).1 ≠ .absent) :
    h.Fails (.send d frames) (h.apply (.send d frames)).1 := by
  have hallowed := allowed_of_guarded ha
  rcases hd : h.dealers[d]? with - | dealer
  · rw [isAlive, isRetained, hd] at hallowed
    cases hallowed
  · have hthere : dealer.alive = true ∨ 0 < dealer.senders := by
      simpa [isAlive, isRetained, hd] using hallowed
    rcases hphase : dealer.phase with - | k | -
    · exact (Fails.early hd hthere hphase).answered
    · rw [apply, guarded, if_pos hallowed] at hs
      simp only [send, hd, hphase] at hs
      cases hs
    · exact (Fails.late hd hthere hphase).answered

/-- A disconnection without success failed. -/
theorem fails_disconnect {d : Nat}
    (hs : (Operation.disconnect d).succeeded (h.apply (.disconnect d)).1 = false)
    (ha : (h.apply (.disconnect d)).1 ≠ .absent) :
    h.Fails (.disconnect d) (h.apply (.disconnect d)).1 := by
  obtain ⟨dealer, hd, halive⟩ := exists_of_guarded_isAlive ha
  have hphase : ∀ k, dealer.phase ≠ .connected k := fun k hp ↦ by
    rw [apply, guarded_of_isAlive hd halive] at hs
    simp only [disconnect, hd, hp] at hs
    cases hs
  exact (Fails.notConnected hd halive hphase).answered

/-- A service that looks for a reply and finds none has none queued. -/
theorem replies_eq_nil_of_not_succeeded {k : Nat} {l : Link}
    (ho : o = .collect k ∨ o = .tryCollect k) (hl : h.links[k]? = some l)
    (hserved : l.served = true) (hs : o.succeeded (h.apply o).1 = false) : l.replies = [] := by
  rcases hr : l.replies with - | ⟨frames, rest⟩
  · rfl
  · rcases ho with rfl | rfl <;>
      · rw [apply, guarded_of_isServed hl hserved] at hs
        simp only [collect, hl, hr] at hs
        cases hs

/-- **Who fails has one of the reasons listed**, or asks for something that is not there. -/
theorem fails_of_not_succeeded (hs : o.succeeded (h.apply o).1 = false)
    (ha : (h.apply o).1 ≠ .absent) : h.Fails o (h.apply o).1 := by
  cases o with
  | bind address mark => exact fails_bind hs
  | deliver k frames => exact fails_deliver hs ha
  | collect k =>
    obtain ⟨l, hl, hserved⟩ := exists_of_guarded_isServed ha
    have hreplies := replies_eq_nil_of_not_succeeded (.inl rfl) hl hserved hs
    rcases hsender : h.hasSender k l with - | -
    · exact (Fails.noMoreReplies hl hserved hreplies hsender).answered
    · exact (Fails.noReply hl hserved hreplies hsender).answered
  | tryCollect k =>
    obtain ⟨l, hl, hserved⟩ := exists_of_guarded_isServed ha
    have hreplies := replies_eq_nil_of_not_succeeded (.inr rfl) hl hserved hs
    exact (Fails.noReplyNow hl hserved hreplies).answered
  | connect d address => exact fails_connect hs ha
  | poll d => exact fails_poll_or_receive (.inl rfl) hs ha
  | receive d => exact fails_poll_or_receive (.inr rfl) hs ha
  | disconnect d => exact fails_disconnect hs ha
  | send d frames => exact fails_send hs ha
  | create => cases hs
  | unbind | drop | retain | release =>
    -- these are done whenever they are allowed
    rw [apply, guarded, if_pos (allowed_of_guarded ha)] at hs
    cases hs

/-- An operation fails with the answer it gives, if that is no success and it is not absent. -/
theorem fails_iff :
    h.Fails o a ↔ (h.apply o).1 = a ∧ o.succeeded a = false ∧ a ≠ .absent := by
  constructor
  · exact fun hf ↦ ⟨hf.answer_eq, hf.not_succeeded⟩
  · rintro ⟨rfl, hs, ha⟩
    exact fails_of_not_succeeded hs ha

/-- An operation without success leaves the hub as it was. -/
theorem apply_eq_of_not_succeeded (hs : o.succeeded (h.apply o).1 = false) : (h.apply o).2 = h := by
  have he := h.effect_apply o
  generalize (h.apply o).1 = a at hs he
  generalize (h.apply o).2 = h' at he
  cases he with
  | fails => rfl
  | collects ho => rcases ho with rfl | rfl <;> cases hs
  | _ => cases hs

end Complete

namespace Context

section Failing

variable {c : Context} {o : Operation}

/-! ### A failure leaves the context as it was -/

/-- An operation without success leaves the context as it was. -/
theorem eq_of_not_succeeded (hs : o.succeeded (c.apply o).1 = false) : (c.apply o).2 = c := by
  cases o with
  | bind address mark =>
    rw [apply, bind] at hs ⊢
    by_cases hbound : c.isBound address = true
    · rw [if_pos hbound]
    · rw [if_neg hbound] at hs ⊢
      by_cases hlong : longestQueue < capacity mark
      · rw [if_pos hlong]
      · rw [if_neg hlong] at hs
        cases hs
  | unbind k =>
    rw [apply] at hs ⊢
    split at hs
    · cases hs
    · next hgone => rw [if_neg hgone]
  | connect d address =>
    rw [apply] at hs ⊢
    split at hs
    · next halive =>
      rw [if_pos halive]
      rw [connect] at hs ⊢
      rcases hd : c.hub.dealers[d]? with - | dealer
      · rfl
      · rw [hd] at hs
        dsimp only at hs ⊢
        by_cases hphase : dealer.phase ≠ .unconnected
        · rw [if_pos hphase]
          rfl
        · rw [if_neg hphase] at hs ⊢
          rcases htake : c.take address with cause | ⟨k, taken⟩
          · rfl
          · rw [htake] at hs
            cases hs
    · next hgone => rw [if_neg hgone]
  | _ => exact congrArg (fun hub ↦ { c with hub }) (apply_eq_of_not_succeeded hs)

/-! ### Histories with a failure in them -/

theorem run_append (c : Context) (xs ys : List Operation) :
    c.run (xs ++ ys) = (c.run xs).run ys :=
  List.foldl_append

theorem answers_append (c : Context) (xs ys : List Operation) :
    c.answers (xs ++ ys) = c.answers xs ++ (c.run xs).answers ys := by
  induction xs generalizing c with
  | nil => rfl
  | cons o rest ih =>
    rw [List.cons_append, answers, ih, answers, List.cons_append]
    rfl

theorem length_answers (c : Context) (xs : List Operation) : (c.answers xs).length = xs.length := by
  induction xs generalizing c with
  | nil => rfl
  | cons o rest ih => rw [answers, List.length_cons, ih, List.length_cons]

/-- **Who leaves a failure out of a history ends as before, and gets the same answers.** -/
theorem run_erase (earlier later : List Operation)
    (hs : o.succeeded ((c.run earlier).apply o).1 = false) :
    c.run (earlier ++ o :: later) = c.run (earlier ++ later) ∧
      (c.answers (earlier ++ o :: later)).eraseIdx earlier.length =
        c.answers (earlier ++ later) := by
  have hsame := eq_of_not_succeeded hs
  refine ⟨?_, ?_⟩
  · rw [run_append, run_append]
    exact congrArg (run · later) hsame
  · rw [answers_append, answers_append, answers, hsame,
      List.eraseIdx_append_of_length_le (Nat.le_of_eq (length_answers c earlier)), length_answers,
      Nat.sub_self]
    rfl

end Failing

/-! ### Connecting later -/

section Later

variable {c : Context} {d : Nat} {dealer : Dealer} {address : String} {mark : UInt64}

/-- Where nothing is bound, one can bind, and then a dealer that never connected can connect. -/
theorem answers_bind_connect (hd : c.hub.dealers[d]? = some dealer) (halive : dealer.alive = true)
    (hphase : dealer.phase = .unconnected) (hfree : c.table.get? address = none)
    (hfits : capacity mark ≤ longestQueue) :
    c.answers [.bind address mark, .connect d address] =
      [.bound c.hub.links.length address, .done] := by
  obtain ⟨c', hbind, hd', hslot⟩ : ∃ c', c.apply (.bind address mark) =
      (.bound c.hub.links.length address, c') ∧ c'.hub.dealers[d]? = some dealer ∧
        c'.table.get? address = some (some c.hub.links.length) := by
    rw [apply, bind, isBound_eq_false_iff.2 hfree, if_neg Bool.false_ne_true,
      if_neg (Nat.not_lt_of_le hfits)]
    exact ⟨_, rfl, hd, (Table.get?_insert ..).trans (if_pos rfl)⟩
  rw [answers, answers, answers, hbind, apply_connect hd' halive hphase, hslot]

/-- Where a live service is bound, one can connect once it is dropped and the address bound
again. -/
theorem answers_unbind_bind_connect {k : Nat} (hk : c.hub.Serves k address)
    (hd : c.hub.dealers[d]? = some dealer) (halive : dealer.alive = true)
    (hphase : dealer.phase = .unconnected) (hfits : capacity mark ≤ longestQueue) :
    c.answers [.unbind k, .bind address mark, .connect d address] =
      [.done, .bound c.hub.links.length address, .done] := by
  obtain ⟨l, hl, hserved, rfl⟩ := hk
  obtain ⟨c', hunbind, hd', hfree, hlength⟩ : ∃ c', c.apply (.unbind k) = (.done, c') ∧
      c'.hub.dealers[d]? = some dealer ∧ c'.table.get? l.address = none ∧
        c'.hub.links.length = c.hub.links.length := by
    rw [apply, if_pos (by rwa [isServed, hl]), Context.unbind, hl]
    exact ⟨_, rfl, hd, (Table.get?_erase ..).trans (if_pos rfl), List.length_modify ..⟩
  rw [answers, hunbind, answers_bind_connect hd' halive hphase hfree hfits, hlength]

/-- Who is refused a connection has not used it up: whoever could connect before still can, and the
dealer itself can as soon as its address is bound again. -/
theorem connects_later (hlists : c.Lists) {cause : TransportError}
    (hcause : (c.apply (.connect d address)).1 = .refused cause) :
    (∀ e dealer other k, c.hub.dealers[e]? = some dealer → dealer.alive = true →
      dealer.phase = .unconnected → c.table.get? other = some (some k) →
      ((c.apply (.connect d address)).2.apply (.connect e other)).1 = .done) ∧
    (cause = .endpointNotFound address → ∀ mark, capacity mark ≤ longestQueue →
      (c.apply (.connect d address)).2.answers [.bind address mark, .connect d address] =
        [.bound c.hub.links.length address, .done]) ∧
    (cause = .endpointInUse address → ∃ k, c.hub.Serves k address ∧
      ∀ mark, capacity mark ≤ longestQueue →
        (c.apply (.connect d address)).2.answers
          [.unbind k, .bind address mark, .connect d address] =
          [.done, .bound c.hub.links.length address, .done]) := by
  have hs : (Operation.connect d address).succeeded (c.apply (.connect d address)).1 = false := by
    rw [hcause]
    rfl
  have hfails : c.hub.Fails (.connect d address) (.refused cause) := by
    have hanswer := (hlists.step (.connect d address)).answer
    rw [hcause] at hs hanswer
    exact fails_iff.2 ⟨hanswer.symm, hs, nofun⟩
  rw [eq_of_not_succeeded hs]
  refine ⟨fun e dealer other k hd halive hphase hslot ↦ ?_, ?_, ?_⟩
  · rw [apply_connect hd halive hphase, hslot]
  · rintro rfl mark hfits
    cases hfails with
    | notFound hd halive hphase hfree =>
      have hnone := hlists.get?_eq_none_iff.2 (bound?_eq_none_iff.1 hfree)
      exact answers_bind_connect hd halive hphase hnone hfits
  · rintro rfl
    cases hfails with
    | @taken _ k _ _ hd halive hphase hbound =>
      have hk := Serves.of_bound? hbound
      exact ⟨k, hk, fun mark hfits ↦ answers_unbind_bind_connect hk hd halive hphase hfits⟩

end Later

/-- **A failure leaves no trace.** After any history, an operation fails exactly for one of the
reasons listed, or because what it names is not there. It leaves the whole context as it was, so
that whatever is done afterwards ends in the same state and gets the same answers as if the failed
operation had not been made. In particular no address is used up by a dealer that is refused:
whoever could connect before still can, and a dealer that found nothing, or found the address in
use, connects once it is bound again. -/
theorem failures_leave_no_trace (earlier : List Operation) :
    let c := run {} earlier
    (∀ o a, c.hub.Fails o a ↔
      (c.apply o).1 = a ∧ o.succeeded a = false ∧ a ≠ .absent) ∧
    (∀ o, o.succeeded (c.apply o).1 = false → (c.apply o).2 = c ∧ ∀ later,
      run {} (earlier ++ o :: later) = run {} (earlier ++ later) ∧
        (answers {} (earlier ++ o :: later)).eraseIdx earlier.length =
          answers {} (earlier ++ later)) ∧
    ∀ d address cause, (c.apply (.connect d address)).1 = .refused cause →
      let c' := (c.apply (.connect d address)).2
      (∀ e dealer other k, c.hub.dealers[e]? = some dealer → dealer.alive = true →
        dealer.phase = .unconnected → c.table.get? other = some (some k) →
        (c'.apply (.connect e other)).1 = .done) ∧
      (cause = .endpointNotFound address → ∀ mark, capacity mark ≤ longestQueue →
        answers c' [.bind address mark, .connect d address] =
          [.bound c.hub.links.length address, .done]) ∧
      (cause = .endpointInUse address → ∃ k, c.hub.Serves k address ∧
        ∀ mark, capacity mark ≤ longestQueue →
          answers c' [.unbind k, .bind address mark, .connect d address] =
            [.done, .bound c.hub.links.length address, .done]) := by
  intro c
  have hlists : c.Lists := (lists_empty.run earlier).2.2
  refine ⟨fun o a ↦ ?_, fun o hs ↦ ⟨eq_of_not_succeeded hs, fun later ↦ run_erase earlier later hs⟩,
    fun d address cause hcause ↦ connects_later hlists hcause⟩
  rw [(hlists.step o).answer, fails_iff]

/-- A second dealer comes to an address and is refused; the service is dropped, and the dealer comes
again. -/
theorem failures_leave_no_trace_second :
    let earlier : List Operation := [.create, .create, .bind "a" 1, .connect 0 "a"]
    let later : List Operation := [.poll 0, .unbind 0, .bind "a" 1, .connect 1 "a"]
    let c := run {} earlier
    let c' := (c.apply (.connect 1 "a")).2
    c.hub.Fails (.connect 1 "a") (.refused (.endpointInUse "a")) ∧
      (answers {} (earlier ++ .connect 1 "a" :: later)).eraseIdx 4 =
        [.created 0, .created 1, .bound 0 "a", .done, .waiting, .done, .bound 1 "a", .done] ∧
      answers c' [.unbind 0, .bind "a" 1, .connect 1 "a"] = [.done, .bound 1 "a", .done] ∧
      answers (c.apply (.connect 1 "b")).2 [.bind "b" 1, .connect 1 "b"] =
        [.bound 1 "b", .done] := by
  intro earlier later c c'
  obtain ⟨hwhy, hsame, hlater⟩ := failures_leave_no_trace earlier
  obtain ⟨-, hthen⟩ := hsame (.connect 1 "a") (by decide)
  obtain ⟨-, -, htaken⟩ := hlater 1 "a" (.endpointInUse "a") (by decide)
  obtain ⟨-, hfree, -⟩ := hlater 1 "b" (.endpointNotFound "b") (by decide)
  obtain ⟨k, ⟨l, hl, -⟩, hrebound⟩ := htaken rfl
  -- there is but one service, so it is the one that serves the address
  obtain rfl : k = 0 := Nat.lt_one_iff.1 (List.getElem?_eq_some_iff.1 hl).1
  exact ⟨(hwhy _ _).2 (by decide), (hthen later).2.trans (by decide), hrebound 1 (by decide),
    hfree rfl 1 (by decide)⟩

end Context

end Hub

end QueryDispatch
