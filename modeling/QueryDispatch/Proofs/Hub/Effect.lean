import QueryDispatch.Hub.Operation
import QueryDispatch.Proofs.Hub.Coherent
import QueryDispatch.Proofs.Hub.Waiting

/-!
# What an operation can do to the transport

`Effect` lists, once for all, what can become of an operation: it fails and changes nothing, or it
does one of a few things, each with the conditions under which it is done and the answer it then
gives. `effect_apply` says that the list is complete, so whatever is to be shown of every operation
is shown case by case over `Effect`, and nobody else opens `apply`.

From it come the facts that later modules build on: a binding keeps its number, its address and its
capacity for good (`Effect.link`), links and dealers stay `Coherent`, a dealer that is there and
connected listens to its link (`Listening`), and no queue is ever longer than its capacity
(`Bounded`).
-/

namespace QueryDispatch

/-- Neither queue of the link is longer than it may be. -/
def Link.Bounded (l : Link) : Prop :=
  l.requests.length ≤ l.capacity ∧ l.replies.length ≤ l.capacity

namespace Hub

/-- Whether an operation did what it is for, by what it answered. -/
def Operation.succeeded : Operation → Answer → Bool
  | .bind .., .bound .. | .create, .created _ => true
  | .collect _, .message _ | .tryCollect _, .message _ | .receive _, .message _ => true
  | .unbind _, .done | .deliver .., .done | .drop _, .done | .connect .., .done | .poll _, .done
  | .disconnect _, .done | .retain _, .done | .release _, .done | .send .., .done => true
  | _, _ => false

/-- What an operation answers and leaves. -/
inductive Effect (h : Hub) : Operation → Answer → Hub → Prop where
  | fails {o : Operation} {a : Answer} (ho : o.succeeded a = false) : Effect h o a h
  | binds {address : String} {mark : UInt64} (hfree : h.isBound address = false)
      (hfits : capacity mark ≤ longestQueue) :
      Effect h (.bind address mark) (.bound h.links.length address)
        { h with links := h.links ++ [{ address, capacity := capacity mark }] }
  | unbinds {k : Nat} {l : Link} (hl : h.links[k]? = some l) (hserved : l.served = true) :
      Effect h (.unbind k) .done (h.unbind k)
  | delivers {k : Nat} {l : Link} {frames : Frames} (hl : h.links[k]? = some l)
      (hserved : l.served = true) (hreceiver : h.hasReceiver k l = true)
      (hroom : l.requests.length < l.capacity) :
      Effect h (.deliver k frames) .done
        (h.updateLink k fun l ↦ { l with requests := l.requests ++ [frames] })
  | collects {o : Operation} {k : Nat} {l : Link} {frames : Frames} {rest : List Frames}
      (ho : o = .collect k ∨ o = .tryCollect k) (hl : h.links[k]? = some l)
      (hserved : l.served = true) (hreplies : l.replies = frames :: rest) :
      Effect h o (.message frames) (h.updateLink k fun l ↦ { l with replies := rest })
  | creates : Effect h .create (.created h.dealers.length) h.newDealer.2
  | drops {d : Nat} {dealer : Dealer} (hd : h.dealers[d]? = some dealer)
      (halive : dealer.alive = true) :
      Effect h (.drop d) .done
        ((h.abandonRequests dealer).updateDealer d fun dealer ↦
          { dealer with alive := false, inbound := none, pending := none })
  | connects {d k : Nat} {address : String} {dealer : Dealer} {l : Link}
      (hd : h.dealers[d]? = some dealer) (halive : dealer.alive = true)
      (hphase : dealer.phase = .unconnected) (hbound : h.bound? address = some k)
      (hl : h.links[k]? = some l) (htaker : l.taker = none) :
      Effect h (.connect d address) .done
        ((h.updateLink k fun l ↦ { l with taker := some d }).updateDealer d fun dealer ↦
          { dealer with phase := .connected k, inbound := some k })
  | finds {d : Nat} {dealer : Dealer} {frames : Frames} (hd : h.dealers[d]? = some dealer)
      (hpending : dealer.pending = some frames) (halive : dealer.alive = true) :
      Effect h (.poll d) .done h
  | keepsAside {d k : Nat} {dealer : Dealer} {l : Link} {frames : Frames} {rest : List Frames}
      (hd : h.dealers[d]? = some dealer) (hpending : dealer.pending = none)
      (hinbound : dealer.inbound = some k) (hl : h.links[k]? = some l)
      (hrequests : l.requests = frames :: rest) (halive : dealer.alive = true) :
      Effect h (.poll d) .done
        ((h.updateLink k fun l ↦ { l with requests := rest }).updateDealer d fun dealer ↦
          { dealer with pending := some frames })
  | receivesKept {d : Nat} {dealer : Dealer} {frames : Frames} (hd : h.dealers[d]? = some dealer)
      (hpending : dealer.pending = some frames) (halive : dealer.alive = true) :
      Effect h (.receive d) (.message frames)
        (h.updateDealer d fun dealer ↦ { dealer with pending := none })
  | receives {d k : Nat} {dealer : Dealer} {l : Link} {frames : Frames} {rest : List Frames}
      (hd : h.dealers[d]? = some dealer) (hpending : dealer.pending = none)
      (hinbound : dealer.inbound = some k) (hl : h.links[k]? = some l)
      (hrequests : l.requests = frames :: rest) (halive : dealer.alive = true) :
      Effect h (.receive d) (.message frames)
        (h.updateLink k fun l ↦ { l with requests := rest })
  | disconnects {d k : Nat} {dealer : Dealer} (hd : h.dealers[d]? = some dealer)
      (hphase : dealer.phase = .connected k) (halive : dealer.alive = true) :
      Effect h (.disconnect d) .done
        ((h.abandonRequests dealer).updateDealer d fun dealer ↦
          { dealer with phase := .closed, inbound := none, pending := none })
  | retains {d : Nat} {dealer : Dealer} (hd : h.dealers[d]? = some dealer)
      (halive : dealer.alive = true) : Effect h (.retain d) .done (h.retain d)
  | releases {d : Nat} {dealer : Dealer} (hd : h.dealers[d]? = some dealer)
      (hsenders : 0 < dealer.senders) : Effect h (.release d) .done (h.release d)
  | sends {d k : Nat} {dealer : Dealer} {frames : Frames} (hd : h.dealers[d]? = some dealer)
      (hphase : dealer.phase = .connected k) (hthere : dealer.alive = true ∨ 0 < dealer.senders) :
      Effect h (.send d frames) .done
        (h.updateLink k fun l ↦
          if l.hasRoom then { l with replies := l.replies ++ [frames] } else l)

/-! ### Every operation has one of these effects -/

section Complete

variable (h : Hub)

/-- What is not allowed is answered with `absent`, and that is a failure. -/
theorem effect_guarded {o : Operation} {allowed : Bool} {result : Answer × Hub}
    (hresult : allowed = true → Effect h o result.1 result.2) :
    Effect h o (guarded allowed h result).1 (guarded allowed h result).2 := by
  rw [guarded]
  split
  · next hallowed => exact hresult hallowed
  · exact .fails (by cases o <;> rfl)

/-- The effect of a bind. -/
theorem effect_bind (address : String) (mark : UInt64) :
    Effect h (.bind address mark) (h.apply (.bind address mark)).1
      (h.apply (.bind address mark)).2 := by
  rw [apply, Hub.bind]
  by_cases hbound : h.isBound address = true
  · rw [if_pos hbound]
    exact .fails rfl
  · rw [if_neg hbound]
    by_cases hlong : longestQueue < capacity mark
    · rw [if_pos hlong]
      exact .fails rfl
    · rw [if_neg hlong]
      exact .binds (Bool.eq_false_iff.2 hbound) (Nat.le_of_not_lt hlong)

/-- The effect of an unbind. -/
theorem effect_unbind (k : Nat) :
    Effect h (.unbind k) (h.apply (.unbind k)).1 (h.apply (.unbind k)).2 := by
  refine h.effect_guarded fun hk ↦ ?_
  obtain ⟨l, hl, hserved⟩ := (Option.any_eq_true ..).1 hk
  exact .unbinds hl hserved

/-- The effect of a delivery. -/
theorem effect_deliver (k : Nat) (frames : Frames) :
    Effect h (.deliver k frames) (h.apply (.deliver k frames)).1
      (h.apply (.deliver k frames)).2 := by
  refine h.effect_guarded fun hk ↦ ?_
  obtain ⟨l, hl, hserved⟩ := (Option.any_eq_true ..).1 hk
  show Effect h (.deliver k frames) (.ofDelivery (h.deliver k frames).1) (h.deliver k frames).2
  simp only [deliver, hl, Bool.not_eq_true']
  by_cases hreceiver : h.hasReceiver k l = true
  · rw [if_neg (ne_false_of_eq_true hreceiver)]
    by_cases hfull : l.capacity ≤ l.requests.length
    · rw [if_pos hfull]
      exact .fails rfl
    · rw [if_neg hfull]
      exact .delivers hl hserved hreceiver (Nat.lt_of_not_le hfull)
  · rw [if_pos (Bool.eq_false_iff.2 hreceiver)]
    exact .fails rfl

/-- Both ways to look for a reply take one off the queue if there is one. -/
theorem effect_collected {o : Operation} {k : Nat} (answer : Collected → Answer)
    (ho : o = .collect k ∨ o = .tryCollect k)
    (hmessage : ∀ frames, answer (.message frames) = .message frames)
    (hwaiting : o.succeeded (answer .waiting) = false)
    (hclosed : o.succeeded (answer .closed) = false) (hk : h.isServed k = true) :
    Effect h o (answer (h.collect k).1) (h.collect k).2 := by
  obtain ⟨l, hl, hserved⟩ := (Option.any_eq_true ..).1 hk
  rcases hreplies : l.replies with - | ⟨frames, rest⟩
  · simp only [collect, hl, hreplies]
    refine .fails ?_
    split
    · exact hwaiting
    · exact hclosed
  · simp only [collect, hl, hreplies, hmessage]
    exact .collects ho hl hserved hreplies

/-- The effect of a drop. -/
theorem effect_drop (d : Nat) :
    Effect h (.drop d) (h.apply (.drop d)).1 (h.apply (.drop d)).2 := by
  refine h.effect_guarded fun halive ↦ ?_
  obtain ⟨dealer, hd, halive⟩ := (Option.any_eq_true ..).1 halive
  rw [dropDealer, hd]
  exact .drops hd halive

/-- The effect of a connection. -/
theorem effect_connect (d : Nat) (address : String) :
    Effect h (.connect d address) (h.apply (.connect d address)).1
      (h.apply (.connect d address)).2 := by
  refine h.effect_guarded fun halive ↦ ?_
  obtain ⟨dealer, hd, halive⟩ := (Option.any_eq_true ..).1 halive
  show Effect h (.connect d address) (.ofRefusal (h.connect d address).1) (h.connect d address).2
  simp only [connect, hd]
  by_cases hphase : dealer.phase = .unconnected
  · rw [if_neg (not_not_intro hphase)]
    rcases hbound : h.bound? address with - | k
    · exact .fails rfl
    · -- the address is bound to a link, so the link is there
      obtain ⟨hlength, -, -⟩ := List.findIdx?_eq_some_iff_getElem.1 hbound
      have hl : h.links[k]? = some h.links[k] := List.getElem?_eq_getElem hlength
      simp only [hl, Option.bind_some]
      rcases htaker : h.links[k].taker with - | e
      · exact .connects hd halive hphase hbound hl htaker
      · exact .fails rfl
  · rw [if_pos hphase]
    exact .fails rfl

/-- The effect of a poll. -/
theorem effect_poll (d : Nat) :
    Effect h (.poll d) (h.apply (.poll d)).1 (h.apply (.poll d)).2 := by
  refine h.effect_guarded fun halive ↦ ?_
  obtain ⟨dealer, hd, halive⟩ := (Option.any_eq_true ..).1 halive
  show Effect h (.poll d) (.ofPoll (h.poll d).1) (h.poll d).2
  rcases hpending : dealer.pending with - | frames
  · rcases hinbound : dealer.inbound with - | k
    · simp only [poll, hd, hpending, hinbound, Option.isSome_none, Bool.false_eq_true, if_false]
      exact .fails rfl
    · rcases hl : h.links[k]? with - | l
      · simp only [poll, hd, hpending, hinbound, hl, Option.isSome_none, Bool.false_eq_true,
          if_false]
        exact .fails rfl
      · rcases hrequests : l.requests with - | ⟨frames, rest⟩
        · rw [poll_of_nil hd hpending hinbound hl hrequests]
          rcases l.served with - | - <;> exact .fails rfl
        · rw [poll_of_requests hd hpending hinbound hl hrequests]
          exact .keepsAside hd hpending hinbound hl hrequests halive
  · rw [poll_of_pending hd hpending]
    exact .finds hd hpending halive

/-- The effect of a receive. -/
theorem effect_receive (d : Nat) :
    Effect h (.receive d) (h.apply (.receive d)).1 (h.apply (.receive d)).2 := by
  refine h.effect_guarded fun halive ↦ ?_
  obtain ⟨dealer, hd, halive⟩ := (Option.any_eq_true ..).1 halive
  show Effect h (.receive d) (.ofReceived (h.receive d).1) (h.receive d).2
  rcases hpending : dealer.pending with - | frames
  · rcases hinbound : dealer.inbound with - | k
    · simp only [receive, hd, hpending, hinbound]
      exact .fails rfl
    · rcases hl : h.links[k]? with - | l
      · simp only [receive, hd, hpending, hinbound, hl]
        exact .fails rfl
      · rcases hrequests : l.requests with - | ⟨frames, rest⟩
        · simp only [receive, hd, hpending, hinbound, hl, hrequests]
          exact .fails rfl
        · simp only [receive, hd, hpending, hinbound, hl, hrequests]
          exact .receives hd hpending hinbound hl hrequests halive
  · rw [receive_of_pending hd hpending]
    exact .receivesKept hd hpending halive

/-- The effect of a disconnection. -/
theorem effect_disconnect (d : Nat) :
    Effect h (.disconnect d) (h.apply (.disconnect d)).1 (h.apply (.disconnect d)).2 := by
  refine h.effect_guarded fun halive ↦ ?_
  obtain ⟨dealer, hd, halive⟩ := (Option.any_eq_true ..).1 halive
  show Effect h (.disconnect d) (.ofRefusal (h.disconnect d).1) (h.disconnect d).2
  simp only [disconnect, hd]
  rcases hphase : dealer.phase with - | k | -
  · exact .fails rfl
  · exact .disconnects hd hphase halive
  · exact .fails rfl

/-- The effect of a reply. -/
theorem effect_send (d : Nat) (frames : Frames) :
    Effect h (.send d frames) (h.apply (.send d frames)).1 (h.apply (.send d frames)).2 := by
  refine h.effect_guarded fun hthere ↦ ?_
  show Effect h (.send d frames) (.ofRefusal (h.send d frames).1) (h.send d frames).2
  rw [Bool.or_eq_true] at hthere
  rcases hd : h.dealers[d]? with - | dealer
  · simp only [send, hd]
    exact .fails rfl
  · simp only [isAlive, isRetained, hd, Option.any_some, decide_eq_true_eq] at hthere
    simp only [send, hd]
    rcases hphase : dealer.phase with - | k | -
    · exact .fails rfl
    · exact .sends hd hphase hthere
    · exact .fails rfl

/-- **The list of effects is complete.** -/
theorem effect_apply (o : Operation) : Effect h o (h.apply o).1 (h.apply o).2 := by
  cases o with
  | bind address mark => exact h.effect_bind address mark
  | unbind k => exact h.effect_unbind k
  | deliver k frames => exact h.effect_deliver k frames
  | collect k =>
    exact h.effect_guarded (h.effect_collected .ofCollected (.inl rfl) (fun _ ↦ rfl) rfl rfl)
  | tryCollect k =>
    exact h.effect_guarded (h.effect_collected .ofCollectedNow (.inr rfl) (fun _ ↦ rfl) rfl rfl)
  | create => exact .creates
  | drop d => exact h.effect_drop d
  | connect d address => exact h.effect_connect d address
  | poll d => exact h.effect_poll d
  | receive d => exact h.effect_receive d
  | disconnect d => exact h.effect_disconnect d
  | retain d =>
    refine h.effect_guarded fun halive ↦ ?_
    obtain ⟨dealer, hd, halive⟩ := (Option.any_eq_true ..).1 halive
    exact .retains hd halive
  | release d =>
    refine h.effect_guarded fun hretained ↦ ?_
    obtain ⟨dealer, hd, hsenders⟩ := (Option.any_eq_true ..).1 hretained
    exact .releases hd (of_decide_eq_true hsenders)
  | send d frames => exact h.effect_send d frames

end Complete

/-! ### What every operation keeps -/

theorem dealers_abandonRequests (h : Hub) (dealer : Dealer) :
    (h.abandonRequests dealer).dealers = h.dealers := by
  rw [abandonRequests]
  split <;> rfl

/-- What is abandoned goes from the link of the dealer, and from no other. -/
theorem getElem?_abandonRequests (h : Hub) (dealer : Dealer) (j : Nat) :
    (h.abandonRequests dealer).links[j]? =
      h.links[j]?.map fun l ↦ if dealer.inbound = some j then { l with requests := [] } else l := by
  rw [abandonRequests]
  rcases hinbound : dealer.inbound with - | k
  · simp
  · simp only [getElem?_updateLink, Option.some.injEq]

/-- Of a link, only the requests can be let go of. -/
theorem exists_of_abandonRequests {h : Hub} {k : Nat} {l : Link} (hl : h.links[k]? = some l)
    (dealer : Dealer) :
    ∃ requests, (h.abandonRequests dealer).links[k]? = some { l with requests } := by
  rw [getElem?_abandonRequests, hl, Option.map_some]
  split
  · exact ⟨[], rfl⟩
  · exact ⟨l.requests, rfl⟩

/-- A dealer that keeps a message aside can still receive. -/
def Tidy (h : Hub) : Prop :=
  ∀ (d : Nat) (dealer : Dealer), h.dealers[d]? = some dealer → dealer.inbound = none →
    dealer.pending = none

/-- An update of a dealer keeps the hub tidy if it sets nothing aside for one without inbound side.
-/
theorem Tidy.updateDealer {h : Hub} (ht : h.Tidy) {d : Nat} {f : Dealer → Dealer}
    (hf : ∀ dealer, h.dealers[d]? = some dealer → (f dealer).inbound = none →
      (f dealer).pending = none) : (h.updateDealer d f).Tidy := by
  intro j dealer' hd' hinbound
  obtain ⟨dealer, hd, rfl⟩ := exists_of_getElem?_updateDealer hd'
  split at hinbound
  · next hj =>
    rw [if_pos hj]
    exact hf dealer (hj ▸ hd) hinbound
  · next hj =>
    rw [if_neg hj]
    exact ht j dealer hd hinbound

/-- A dealer that is there and connected listens to its link. -/
def Listening (h : Hub) : Prop :=
  ∀ (d k : Nat) (dealer : Dealer), h.dealers[d]? = some dealer → dealer.alive = true →
    dealer.phase = .connected k → dealer.inbound = some k

/-- An update of a dealer keeps the hub listening if the dealer, while connected, keeps its inbound
side. -/
theorem Listening.updateDealer {h : Hub} (hh : h.Listening) {d : Nat} {f : Dealer → Dealer}
    (hf : ∀ (k : Nat) (dealer : Dealer), h.dealers[d]? = some dealer → (f dealer).alive = true →
      (f dealer).phase = .connected k → (f dealer).inbound = some k) :
    (h.updateDealer d f).Listening := by
  intro j k dealer' hd' halive hphase
  obtain ⟨dealer, hd, rfl⟩ := exists_of_getElem?_updateDealer hd'
  split at halive
  · next hj =>
    subst hj
    rw [if_pos rfl] at hphase ⊢
    exact hf k dealer hd halive hphase
  · next hj =>
    rw [if_neg hj] at hphase ⊢
    exact hh j k dealer hd halive hphase

/-- No queue is longer than it may be. -/
def Bounded (h : Hub) : Prop := ∀ (k : Nat) (l : Link), h.links[k]? = some l → l.Bounded

/-- An update of a link keeps every queue within its bound if it does so for that link. -/
theorem Bounded.updateLink {h : Hub} (hb : h.Bounded) {k : Nat} {f : Link → Link}
    (hf : ∀ l, h.links[k]? = some l → l.Bounded → (f l).Bounded) : (h.updateLink k f).Bounded := by
  intro j l' hl'
  obtain ⟨l, hl, rfl⟩ := exists_of_getElem?_updateLink hl'
  split
  · next hj => exact hf l (hj ▸ hl) (hb j l hl)
  · exact hb j l hl

theorem Bounded.abandonRequests {h : Hub} (hb : h.Bounded) (dealer : Dealer) :
    (h.abandonRequests dealer).Bounded := by
  rw [Hub.abandonRequests]
  split
  · exact hb
  · exact hb.updateLink fun l _ hl ↦ ⟨Nat.zero_le _, hl.2⟩

section Views

variable {h : Hub} {d j k : Nat} {dealer : Dealer} {l : Link}

theorem getElem?_updateLink_self (hl : h.links[k]? = some l) (f : Link → Link) :
    (h.updateLink k f).links[k]? = some (f l) := by
  rw [getElem?_updateLink, hl, Option.map_some, if_pos rfl]

theorem getElem?_updateLink_of_ne (hl : h.links[k]? = some l) (hne : j ≠ k) (f : Link → Link) :
    (h.updateLink j f).links[k]? = some l := by
  rw [getElem?_updateLink, hl, Option.map_some, if_neg hne]

theorem getElem?_updateDealer_self (hd : h.dealers[d]? = some dealer) (f : Dealer → Dealer) :
    (h.updateDealer d f).dealers[d]? = some (f dealer) := by
  rw [getElem?_updateDealer, hd, Option.map_some, if_pos rfl]

/-- A link that is bound is served. -/
theorem served_of_bound? {address : String} (hbound : h.bound? address = some k)
    (hl : h.links[k]? = some l) : l.served = true := by
  obtain ⟨hlength, hmatch, -⟩ := List.findIdx?_eq_some_iff_getElem.1 hbound
  rw [List.getElem?_eq_getElem hlength] at hl
  obtain rfl := Option.some.inj hl
  exact (Bool.and_eq_true_iff.1 hmatch).1

end Views

namespace Effect

variable {h h' : Hub} {o : Operation} {a : Answer}

/-- A binding keeps its number, its address and its capacity. -/
theorem link (he : Effect h o a h') {k : Nat} {l : Link} (hl : h.links[k]? = some l) :
    ∃ l', h'.links[k]? = some l' ∧ l'.address = l.address ∧ l'.capacity = l.capacity := by
  have hupdate : ∀ (j : Nat) (f : Link → Link),
      (∀ l, (f l).address = l.address ∧ (f l).capacity = l.capacity) →
      ∃ l', (h.updateLink j f).links[k]? = some l' ∧ l'.address = l.address ∧
        l'.capacity = l.capacity := fun j f hf ↦ by
    by_cases hjk : j = k
    · exact ⟨f l, hjk ▸ getElem?_updateLink_self (hjk ▸ hl) f, hf l⟩
    · exact ⟨l, getElem?_updateLink_of_ne hl hjk f, rfl, rfl⟩
  cases he with
  | fails | finds | creates | receivesKept | retains | releases => exact ⟨l, hl, rfl, rfl⟩
  | binds =>
    exact ⟨l, getElem?_append_of_eq_some hl _, rfl, rfl⟩
  | unbinds | delivers | collects | connects | keepsAside | receives =>
    exact hupdate _ _ fun _ ↦ ⟨rfl, rfl⟩
  | @drops _ dealer | @disconnects _ _ dealer =>
    obtain ⟨requests, hl'⟩ := exists_of_abandonRequests hl dealer
    exact ⟨_, hl', rfl, rfl⟩
  | sends =>
    refine hupdate _ _ fun _ ↦ ?_
    split <;> exact ⟨rfl, rfl⟩

/-- No link goes away. -/
theorem getElem?_eq_none (he : Effect h o a h') {k : Nat} (hk : h'.links[k]? = none) :
    h.links[k]? = none := by
  refine Option.eq_none_iff_forall_ne_some.2 fun l hl ↦ ?_
  obtain ⟨l', hl', -⟩ := he.link hl
  rw [hk] at hl'
  cases hl'

/-- A link that was not there before is as `bind` makes it. -/
theorem newborn (he : Effect h o a h') {k : Nat} {l : Link} (hk : h.links[k]? = none)
    (hl : h'.links[k]? = some l) : l.taker = none ∧ l.requests = [] ∧ l.replies = [] := by
  have hupdate : ∀ {j : Nat} {f : Link → Link}, (h.updateLink j f).links[k]? ≠ some l := by
    intro j f hl
    rw [getElem?_updateLink, hk] at hl
    cases hl
  cases he with
  | fails | finds | creates | receivesKept | retains | releases =>
    rw [show h.links[k]? = some l from hl] at hk
    cases hk
  | @binds address mark =>
    rw [List.getElem?_append_right (List.getElem?_eq_none_iff.1 hk)] at hl
    rw [List.mem_singleton.1 (List.mem_of_getElem? hl)]
    exact ⟨rfl, rfl, rfl⟩
  | unbinds | delivers | collects | connects | keepsAside | receives | sends =>
    exact absurd hl hupdate
  | drops | disconnects =>
    rw [links_updateDealer, getElem?_abandonRequests, hk] at hl
    cases hl

/-- An effect keeps the hub coherent. -/
theorem coherent (he : Effect h o a h') (hh : h.Coherent) : h'.Coherent := by
  cases he with
  | fails | finds => exact hh
  | @binds address mark =>
    have happend := hh.append [{ address, capacity := capacity mark }] []
      (fun l hl ↦ List.mem_singleton.1 hl ▸ rfl) fun _ hd ↦ by cases hd
    rw [List.append_nil] at happend
    exact happend
  | unbinds => exact (h.keeps_unbind _).coherent hh
  | delivers | collects | receives => exact hh.updateLink fun _ ↦ rfl
  | creates => exact hh.newDealer
  | drops =>
    exact Coherent.updateDealer ((h.keeps_abandonRequests _).coherent hh) (fun _ ↦ by rfl)
      fun _ ↦ .inr (by rfl)
  | connects hd _ hphase _ hl htaker => exact hh.join hd hphase hl htaker
  | keepsAside =>
    exact Coherent.updateDealer (hh.updateLink fun _ ↦ by rfl) (fun _ ↦ by rfl)
      fun _ ↦ .inl (by rfl)
  | receivesKept => exact hh.updateDealer (fun _ ↦ rfl) fun _ ↦ .inl rfl
  | disconnects => exact ((h.keeps_abandonRequests _).coherent hh).close
  | retains => exact (h.keeps_retain _).coherent hh
  | releases => exact (h.keeps_release _).coherent hh
  | sends => exact hh.updateLink fun _ ↦ by split <;> rfl

/-- An effect keeps the hub tidy. -/
theorem tidy (he : Effect h o a h') (ht : h.Tidy) : h'.Tidy := by
  cases he with
  | fails | finds | binds | unbinds | delivers | collects | receives | sends => exact ht
  | creates =>
    intro d dealer hd hinbound
    rcases List.mem_append.1 (List.mem_of_getElem? hd) with hmem | hmem
    · obtain ⟨j, hj⟩ := List.getElem?_of_mem hmem
      exact ht j dealer hj hinbound
    · rw [List.mem_singleton.1 hmem]
  | drops | disconnects =>
    refine Tidy.updateDealer (fun d dealer hd ↦ ?_) fun _ _ _ ↦ rfl
    rw [dealers_abandonRequests] at hd
    exact ht d dealer hd
  | connects => exact Tidy.updateDealer ht fun _ _ hinbound ↦ by cases hinbound
  | keepsAside hd hpending hinbound =>
    refine Tidy.updateDealer ht fun dealer' hd' hnone ↦ ?_
    obtain rfl := Option.some.inj (hd.symm.trans hd')
    rw [hinbound] at hnone
    cases hnone
  | receivesKept => exact ht.updateDealer fun _ _ _ ↦ rfl
  | retains | releases => exact ht.updateDealer fun dealer hd hinbound ↦ ht _ dealer hd hinbound

/-- An effect keeps every connected dealer listening. -/
theorem listening (he : Effect h o a h') (hh : h.Listening) : h'.Listening := by
  have habandoned : ∀ dealer, (h.abandonRequests dealer).Listening := fun dealer j k dealer' hd ↦ by
    rw [dealers_abandonRequests] at hd
    exact hh j k dealer' hd
  cases he with
  | fails | binds | unbinds | delivers | collects | finds | receives | sends => exact hh
  | creates =>
    intro d k dealer hd
    rcases List.mem_append.1 (List.mem_of_getElem? hd) with hmem | hmem
    · obtain ⟨j, hj⟩ := List.getElem?_of_mem hmem
      exact hh j k dealer hj
    · rw [List.mem_singleton.1 hmem]
      exact fun _ hphase ↦ nomatch hphase
  | drops => exact (habandoned _).updateDealer fun _ _ _ halive ↦ nomatch halive
  | disconnects => exact (habandoned _).updateDealer fun _ _ _ _ hphase ↦ nomatch hphase
  | connects =>
    refine Listening.updateDealer hh fun _ _ _ _ hphase ↦ ?_
    exact congrArg some (Phase.connected.inj hphase)
  | keepsAside | receivesKept | retains | releases =>
    refine Listening.updateDealer hh fun k dealer hd halive hphase ↦ ?_
    exact hh _ k dealer hd halive hphase

/-- An effect keeps every queue within its bound. -/
theorem bounded (he : Effect h o a h') (hb : h.Bounded) : h'.Bounded := by
  cases he with
  | fails | finds | creates | receivesKept | retains | releases => exact hb
  | @binds address mark =>
    intro k l hl
    rcases List.mem_append.1 (List.mem_of_getElem? hl) with hmem | hmem
    · obtain ⟨j, hj⟩ := List.getElem?_of_mem hmem
      exact hb j l hj
    · rw [List.mem_singleton.1 hmem]
      exact ⟨Nat.zero_le _, Nat.zero_le _⟩
  | unbinds =>
    refine hb.updateLink fun l _ hbl ↦ ⟨?_, Nat.zero_le _⟩
    show (if l.taker.isNone then [] else l.requests).length ≤ l.capacity
    split
    · exact Nat.zero_le _
    · exact hbl.1
  | delivers hl _ _ hroom =>
    refine hb.updateLink fun l' hl' hbl ↦ ⟨?_, hbl.2⟩
    rw [hl] at hl'
    obtain rfl := Option.some.inj hl'
    rw [List.length_append]
    exact hroom
  | collects _ hl _ hreplies =>
    refine hb.updateLink fun l' hl' hbl ↦ ⟨hbl.1, ?_⟩
    rw [hl] at hl'
    obtain rfl := Option.some.inj hl'
    have hlength := hbl.2
    rw [hreplies] at hlength
    exact Nat.le_of_succ_le hlength
  | drops | disconnects => exact hb.abandonRequests _
  | connects => exact hb.updateLink fun _ _ hbl ↦ hbl
  | keepsAside _ _ _ hl hrequests | receives _ _ _ hl hrequests =>
    refine hb.updateLink fun l' hl' hbl ↦ ⟨?_, hbl.2⟩
    rw [hl] at hl'
    obtain rfl := Option.some.inj hl'
    have hlength := hbl.1
    rw [hrequests] at hlength
    exact Nat.le_of_succ_le hlength
  | sends =>
    refine hb.updateLink fun l' _ hbl ↦ ?_
    split
    · next hroom =>
      refine ⟨hbl.1, ?_⟩
      rw [Link.hasRoom, Bool.and_eq_true, decide_eq_true_eq] at hroom
      rw [List.length_append]
      exact hroom.2
    · exact hbl

end Effect

end Hub

end QueryDispatch
