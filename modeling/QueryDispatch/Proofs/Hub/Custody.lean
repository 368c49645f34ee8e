import QueryDispatch.Proofs.Hub.Separate
import QueryDispatch.Proofs.Hub.Standing
import QueryDispatch.Proofs.Hub.Yield

/-!
# What is left of a dealer, and what it is told

A dealer is dropped apart from its senders, and senders are taken and dropped one by one. What is
left of a dealer is its `custody`: whether it is there itself, and how many senders are.

A dealer that is used as it is meant to be hears of nothing but the services it deals with: it
connects before anything else, and receives only what it was told is there. `Uneventful` sets down
what it may then be told. What makes polling safe is that a dealer which is there and connected
still receives (`Listening`).

## Main results

* `Effect.custody`: what an operation does to the custody of a dealer can be told from its answer.
* `connect_refusal`, `poll_found`, `send_refusal`: what a dealer is told.
-/

namespace QueryDispatch

/-- Whether the dealer itself is there, and how many of its senders are. -/
def Dealer.custody (dealer : Dealer) : Bool × Nat := (dealer.alive, dealer.senders)

namespace Hub

/-- The dealer that an operation is done by, itself or one of its senders. -/
def Operation.dealer? : Operation → Option Nat
  | .drop d | .connect d _ | .poll d | .receive d | .disconnect d | .retain d | .release d
  | .send d _ => some d
  | .bind .. | .unbind _ | .deliver .. | .collect _ | .tryCollect _ | .create => none

/-- What is left of a dealer, if it ever was. -/
def custody? (h : Hub) (d : Nat) : Option (Bool × Nat) := h.dealers[d]?.map Dealer.custody

namespace Moment

/-- What becomes of the custody of a dealer. -/
def custody (m : Moment) (d : Nat) (c : Bool × Nat) : Bool × Nat :=
  match m.operation, m.answer with
  | .drop e, .done => if e = d then (false, c.2) else c
  | .retain e, .done => if e = d then (c.1, c.2 + 1) else c
  | .release e, .done => if e = d then (c.1, c.2 - 1) else c
  | _, _ => c

/-- There is nothing in the answer but what a service may bring about at any time. -/
def Uneventful (m : Moment) : Prop :=
  match m.operation with
  | .connect _ address => m.answer = .done ∨ m.answer = .refused (.endpointNotFound address) ∨
      m.answer = .refused (.endpointInUse address)
  | .poll _ => m.answer = .done ∨ m.answer = .waiting ∨ m.answer = .refused .serviceStopped
  | .receive _ => ∃ frames, m.answer = .message frames
  | .send .. => m.answer = .done ∨ m.answer = .refused .serviceStopped
  | .drop _ | .disconnect _ | .retain _ | .release _ => m.answer = .done
  | .bind .. | .unbind _ | .deliver .. | .collect _ | .tryCollect _ | .create => m.answer ≠ .absent

variable {h : Hub} {o : Operation} {a : Answer} {d : Nat} {c : Bool × Nat}

/-- An operation that fails leaves every dealer in the hands it was in. -/
theorem custody_of_fails (ho : o.succeeded a = false) : custody ⟨h, o, a⟩ d c = c := by
  cases o with
  | drop | retain | release =>
    cases a with
    | done => cases ho
    | _ => rfl
  | _ => rfl

/-! ### Whoever does nothing -/

variable (hne : o.dealer? ≠ some d)

include hne

/-- An operation on another dealer leaves this one in the hands it was in. -/
theorem custody_of_ne : custody ⟨h, o, a⟩ d c = c := by
  cases o with
  | drop e | retain e | release e =>
    cases a with
    | done => exact if_neg fun heq ↦ hne (congrArg some heq)
    | _ => rfl
  | _ => rfl

/-- An operation on another dealer receives nothing for this one. -/
theorem received?_of_dealer?_ne : received? ⟨h, o, a⟩ d = none := by
  cases o with
  | receive e =>
    cases a with
    | message frames => exact if_neg fun heq ↦ hne (congrArg some heq)
    | _ => rfl
  | _ => cases a <;> rfl

/-- An operation on another dealer sends nothing for this one. -/
theorem replied?_of_dealer?_ne : replied? ⟨h, o, a⟩ d = none := by
  cases o with
  | send e frames =>
    cases a with
    | done => exact if_neg fun heq ↦ hne (congrArg some heq)
    | _ => rfl
  | _ => cases a <;> rfl

omit hne in

/-- An operation on a dealer collects nothing. -/
theorem collected?_of_dealer? {k : Nat} (ho : o.dealer? ≠ none) :
    collected? ⟨h, o, a⟩ k = none := by
  cases o with
  | bind | unbind | deliver | collect | tryCollect | create => exact absurd rfl ho
  | _ => cases a <;> rfl

omit hne in
/-- What a service collects is the message that it finds. -/
theorem collected?_ofCollected (k j : Nat) (found : Collected) :
    collected? ⟨h, .collect k, .ofCollected found⟩ j = if k = j then found.message? else none := by
  cases found with
  | message frames => rfl
  | waiting | closed => exact (ite_self none).symm

end Moment

/-! ### Custody -/

section Custody

variable {h h' : Hub} {o : Operation} {a : Answer} {d e n : Nat} {alive : Bool} {c : Bool × Nat}

theorem exists_of_custody? (hd : h.custody? d = some (alive, n)) :
    ∃ dealer, h.dealers[d]? = some dealer ∧ dealer.alive = alive ∧ dealer.senders = n := by
  obtain ⟨dealer, hdealer, hcustody⟩ := Option.map_eq_some_iff.1 hd
  exact ⟨dealer, hdealer, congrArg Prod.fst hcustody, congrArg Prod.snd hcustody⟩

theorem isAlive_of_custody? (hd : h.custody? d = some (true, n)) : h.isAlive d = true := by
  obtain ⟨dealer, hdealer, halive, -⟩ := exists_of_custody? hd
  rw [isAlive, hdealer]
  exact halive

theorem isRetained_of_custody? (hd : h.custody? d = some (alive, n)) (hn : 0 < n) :
    h.isRetained d = true := by
  obtain ⟨dealer, hdealer, -, hsenders⟩ := exists_of_custody? hd
  rw [isRetained, hdealer]
  exact decide_eq_true (hsenders ▸ hn)

theorem lt_length_of_custody? (hd : h.custody? d = some c) : d < h.dealers.length := by
  obtain ⟨dealer, hdealer, -⟩ := Option.map_eq_some_iff.1 hd
  exact (List.getElem?_eq_some_iff.1 hdealer).1

/-- An update changes the custody of its own dealer only. -/
theorem custody?_updateDealer (hd : h.custody? d = some c) {f : Dealer → Dealer}
    {g : Bool × Nat → Bool × Nat} (hf : ∀ dealer, (f dealer).custody = g dealer.custody) :
    (h.updateDealer e f).custody? d = some (if e = d then g c else c) := by
  obtain ⟨dealer, hdealer, rfl⟩ := Option.map_eq_some_iff.1 hd
  rw [custody?, getElem?_updateDealer, hdealer, Option.map_some, Option.map_some]
  split
  · rw [hf]
  · rfl

/-- A change of a dealer that drops nothing and takes no sender. -/
theorem custody?_updateDealer_of_same (hd : h.custody? d = some c) {f : Dealer → Dealer}
    (hf : ∀ dealer, (f dealer).custody = dealer.custody) :
    (h.updateDealer e f).custody? d = some c := by
  rw [custody?_updateDealer hd (g := id) hf]
  exact congrArg some (ite_self c)

theorem custody?_abandonRequests (h : Hub) (dealer : Dealer) (d : Nat) :
    (h.abandonRequests dealer).custody? d = h.custody? d := by
  rw [custody?, custody?, dealers_abandonRequests]

/-- **What an operation does to the custody of a dealer shows in its answer.** -/
theorem Effect.custody (he : Effect h o a h') (hd : h.custody? d = some c) :
    h'.custody? d = some (Moment.custody ⟨h, o, a⟩ d c) := by
  cases he with
  | fails ho => rw [Moment.custody_of_fails ho, hd]
  | collects ho => rcases ho with rfl | rfl <;> exact hd
  | binds | unbinds | delivers | finds | receives | sends => exact hd
  | creates =>
    have hlength := lt_length_of_custody? hd
    exact (congrArg (Option.map Dealer.custody) (List.getElem?_append_left hlength)).trans hd
  | drops =>
    rw [← h.custody?_abandonRequests] at hd
    exact custody?_updateDealer hd (g := fun c ↦ (false, c.2)) fun _ ↦ rfl
  | retains => exact custody?_updateDealer hd (g := fun c ↦ (c.1, c.2 + 1)) fun _ ↦ rfl
  | releases => exact custody?_updateDealer hd (g := fun c ↦ (c.1, c.2 - 1)) fun _ ↦ rfl
  | disconnects =>
    rw [← h.custody?_abandonRequests] at hd
    exact custody?_updateDealer_of_same hd fun _ ↦ rfl
  | connects | keepsAside | receivesKept => exact custody?_updateDealer_of_same hd fun _ ↦ rfl

end Custody

/-! ### What a dealer is told -/

section Answers

variable {h : Hub} {d k : Nat}

/-- A dealer that never connected hears of nothing but the address. -/
theorem connect_refusal (hphase : h.phase? d = some .unconnected) (address : String) :
    (h.connect d address).1 = none ∨ (h.connect d address).1 = some (.endpointNotFound address) ∨
      (h.connect d address).1 = some (.endpointInUse address) := by
  obtain ⟨dealer, hd, hunconnected⟩ := exists_of_phase? hphase
  rw [connect, hd]
  dsimp only
  rw [if_neg (not_not_intro hunconnected)]
  split
  · exact .inr (.inl rfl)
  · split
    · exact .inr (.inr rfl)
    · exact .inl rfl

/-- A dealer that is there and connected hears of nothing but the end of its service. -/
theorem poll_found (hh : h.Coherent) (hlistening : h.Listening) (halive : h.isAlive d = true)
    (hphase : h.phase? d = some (.connected k)) :
    (h.poll d).1 = .ready ∨ (h.poll d).1 = .waiting ∨ (h.poll d).1 = .failed .serviceStopped := by
  obtain ⟨dealer, hd, hconnected⟩ := exists_of_phase? hphase
  rw [isAlive, hd] at halive
  obtain ⟨l, hl, -⟩ := hh.taker_of_connected hd hconnected
  have hinbound := hlistening d k dealer hd halive hconnected
  rcases hpending : dealer.pending with - | frames
  · rcases hrequests : l.requests with - | ⟨frames, rest⟩
    · rw [poll_of_nil hd hpending hinbound hl hrequests]
      rcases l.served with - | -
      · exact .inr (.inr rfl)
      · exact .inr (.inl rfl)
    · rw [poll_of_requests hd hpending hinbound hl hrequests]
      exact .inl rfl
  · rw [poll_of_pending hd hpending]
    exact .inl rfl

/-- Whoever sends through a dealer that connected once hears of nothing but its end. -/
theorem send_refusal {phase : Phase} (hphase : h.phase? d = some phase)
    (hconnected : phase ≠ .unconnected) (frames : Frames) :
    (h.send d frames).1 = none ∨ (h.send d frames).1 = some .serviceStopped := by
  obtain ⟨dealer, hd, rfl⟩ := exists_of_phase? hphase
  rw [send, hd]
  dsimp only
  split
  · next hunconnected => exact absurd hunconnected hconnected
  · exact .inr rfl
  · exact .inl rfl

/-- A dealer that has to wait has nothing kept aside. -/
theorem poll_of_waiting (hpoll : (h.poll d).1 = .waiting) : (h.poll d).2 = h := by
  obtain ⟨dealer, k, l, hd, hpending, hinbound, hl, hrequests, -⟩ := poll_eq_waiting_iff.1 hpoll
  rw [poll_of_nil hd hpending hinbound hl hrequests]

/-- To take a sender and drop it again is to do nothing. -/
theorem release_retain (h : Hub) (d : Nat) : (h.retain d).release d = h := by
  rw [release, retain, updateDealer, updateDealer, List.modify_modify_eq]
  show { h with dealers := h.dealers.modify d id } = h
  rw [List.modify_id]

/-- A service that lives goes on living, unless it is dropped. -/
theorem isServed_apply {o : Operation} (hk : h.isServed k = true) (ho : o ≠ .unbind k) :
    (h.apply o).2.isServed k = true := by
  obtain ⟨l, hl, hserved⟩ := (Option.any_eq_true ..).1 hk
  rcases (h.effect_apply o).turnover.serves_after ⟨l, hl, hserved, rfl⟩ with hserves | hdrops
  · obtain ⟨l', hl', hserved', -⟩ := hserves
    rw [isServed, hl']
    exact hserved'
  · exact absurd hdrops.1 ho

end Answers

/-! ### What is allowed -/

section Allowed

variable {h : Hub} {d : Nat}

section Alive

variable (halive : h.isAlive d = true)

include halive

theorem apply_drop : h.apply (.drop d) = (.done, h.dropDealer d) := if_pos halive

theorem apply_connect (address : String) : h.apply (.connect d address) =
    (.ofRefusal (h.connect d address).1, (h.connect d address).2) := if_pos halive

theorem apply_poll : h.apply (.poll d) = (.ofPoll (h.poll d).1, (h.poll d).2) := if_pos halive

theorem apply_receive : h.apply (.receive d) = (.ofReceived (h.receive d).1, (h.receive d).2) :=
  if_pos halive

theorem apply_disconnect : h.apply (.disconnect d) =
    (.ofRefusal (h.disconnect d).1, (h.disconnect d).2) := if_pos halive

theorem apply_retain : h.apply (.retain d) = (.done, h.retain d) := if_pos halive

end Alive

section Served

variable {k : Nat} (hserved : h.isServed k = true)

include hserved

theorem apply_unbind_of_isServed : h.apply (.unbind k) = (.done, h.unbind k) := if_pos hserved

theorem apply_deliver_of_isServed (frames : Frames) : h.apply (.deliver k frames) =
    (.ofDelivery (h.deliver k frames).1, (h.deliver k frames).2) := if_pos hserved

theorem apply_collect_of_isServed :
    h.apply (.collect k) = (.ofCollected (h.collect k).1, (h.collect k).2) := if_pos hserved

end Served

theorem apply_release (hretained : h.isRetained d = true) :
    h.apply (.release d) = (.done, h.release d) := if_pos hretained

theorem apply_reply (hthere : h.isAlive d = true ∨ h.isRetained d = true) (frames : Frames) :
    h.apply (.send d frames) = (.ofRefusal (h.send d frames).1, (h.send d frames).2) :=
  if_pos (Bool.or_eq_true_iff.2 hthere)

end Allowed

end Hub

end QueryDispatch
