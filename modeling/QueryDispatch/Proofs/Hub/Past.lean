import QueryDispatch.Proofs.Hub.Effect

/-!
# The past of a transport

A hub does not remember what was done with it. Statements about whole histories are about the hub
together with its past: the moments that led to it, each with the hub as it was, the operation and
the answer. A past is read link by link and dealer by dealer: what a service sent, what a dealer
received, which dealer connected, and so on. Each reading is of one moment first and then of the
list of them, so a past that is longer by one moment is read by reading that moment.

`LeadsTo.induction` is the one induction over histories: what every `Effect` keeps holds of every
history.
-/

namespace QueryDispatch.Hub

/-- Something that was done. -/
structure Moment where
  /-- The hub before it. -/
  hub : Hub
  operation : Operation
  answer : Answer

/-- What was achieved by something that was done, as far as messages and connections go. -/
inductive Deed where
  /-- A service was told that its request has been sent. -/
  | accepted (service : Nat) (frames : Frames)
  | received (dealer : Nat) (frames : Frames)
  | connected (dealer : Nat) (address : String)
  | collected (service : Nat) (frames : Frames)
  /-- A sender was told that its reply has been sent. -/
  | replied (dealer : Nat) (frames : Frames)

namespace Moment

variable (m : Moment)

/-- What came of the moment, if it achieved anything. -/
def deed? : Option Deed :=
  match m.operation, m.answer with
  | .deliver k frames, .done => some (.accepted k frames)
  | .receive d, .message frames => some (.received d frames)
  | .connect d address, .done => some (.connected d address)
  | .collect k, .message frames | .tryCollect k, .message frames => some (.collected k frames)
  | .send d frames, .done => some (.replied d frames)
  | _, _ => none

/-- A failed operation achieves nothing. -/
theorem deed?_of_fails {m : Moment} (hm : m.operation.succeeded m.answer = false) :
    m.deed? = none := by
  obtain ⟨h, o, a⟩ := m
  cases o <;> cases a <;> first | rfl | cases hm

/-- The request that a service sent. -/
def accepted? (k : Nat) : Option Frames :=
  match m.deed? with
  | some (.accepted j frames) => if j = k then some frames else none
  | _ => none

/-- The request that a dealer received. -/
def received? (d : Nat) : Option Frames :=
  match m.deed? with
  | some (.received e frames) => if e = d then some frames else none
  | _ => none

/-- The dealer that connected to the service with this number. -/
def connected? (k : Nat) : Option Nat :=
  match m.deed? with
  | some (.connected d address) => if m.hub.bound? address = some k then some d else none
  | _ => none

/-- The reply that a service collected. -/
def collected? (k : Nat) : Option Frames :=
  match m.deed? with
  | some (.collected j frames) => if j = k then some frames else none
  | _ => none

/-- How many replies were queued for a service. -/
def queued (k : Nat) : Nat := (m.hub.links[k]?.map fun l ↦ l.replies.length).getD 0

/-- Whether a dealer was connected to the service with this number. -/
def isConnected (d k : Nat) : Bool :=
  m.hub.dealers[d]?.any fun dealer ↦ dealer.phase == .connected k

/-- The reply that was sent to a service when fewer than `bound` were queued. -/
def fitting? (k bound : Nat) : Option Frames :=
  match m.deed? with
  | some (.replied d frames) =>
    if m.isConnected d k ∧ m.queued k < bound then some frames else none
  | _ => none

end Moment

/-- What was done, in order. -/
abbrev Past := List Moment

/-- What a list of operations leaves behind, beside the hub. -/
def past (h : Hub) : List Operation → Past
  | [] => []
  | o :: rest => ⟨h, o, (h.apply o).1⟩ :: (h.apply o).2.past rest

/-- The hub is what a list of operations makes of an empty one, and the past is what was done. -/
def Past.LeadsTo (p : Past) (h : Hub) : Prop :=
  ∃ operations, p = ({} : Hub).past operations ∧ h = ({} : Hub).run operations

/-- **What every effect keeps, every history keeps.** -/
theorem Past.LeadsTo.induction {P : Past → Hub → Prop} (hempty : P [] {})
    (hstep : ∀ {p : Past} {h : Hub} {o : Operation} {a : Answer} {h' : Hub}, Effect h o a h' →
      P p h → P (p ++ [⟨h, o, a⟩]) h')
    {p : Past} {h : Hub} (hph : p.LeadsTo h) : P p h := by
  obtain ⟨operations, rfl, rfl⟩ := hph
  -- from any point at which it holds, since what is done next is added at the end of the past
  have hfrom : ∀ {p : Past} {h : Hub}, P p h → P (p ++ h.past operations) (h.run operations) := by
    intro p h hP
    induction operations generalizing p h with
    | nil =>
      rw [past, List.append_nil]
      exact hP
    | cons o rest ih =>
      have hrest := ih (hstep (h.effect_apply o) hP)
      rw [List.append_assoc] at hrest
      exact hrest
  exact hfrom hempty

namespace Past

variable (p : Past)

/-- The requests that a service was told have been sent. -/
def accepted (k : Nat) : List Frames := p.filterMap fun m ↦ m.accepted? k

/-- The requests that a dealer received. -/
def received (d : Nat) : List Frames := p.filterMap fun m ↦ m.received? d

/-- The dealers that connected to a service. -/
def connected (k : Nat) : List Nat := p.filterMap fun m ↦ m.connected? k

/-- The requests that the dealers that connected to a service received. -/
def taken (k : Nat) : List Frames := (p.connected k).flatMap p.received

/-- The replies that a service collected. -/
def collected (k : Nat) : List Frames := p.filterMap fun m ↦ m.collected? k

/-- The replies that were sent to a service when fewer than `bound` were queued. -/
def fitting (k bound : Nat) : List Frames := p.filterMap fun m ↦ m.fitting? k bound

variable (m : Moment)

theorem filterMap_snoc {β : Type} (f : Moment → Option β) :
    List.filterMap f (p ++ [m]) = p.filterMap f ++ (f m).toList := by
  rw [List.filterMap_append]
  cases hf : f m <;> simp [hf]

theorem accepted_snoc (k : Nat) :
    accepted (p ++ [m]) k = p.accepted k ++ (m.accepted? k).toList := filterMap_snoc p m _

theorem received_snoc (d : Nat) :
    received (p ++ [m]) d = p.received d ++ (m.received? d).toList := filterMap_snoc p m _

theorem connected_snoc (k : Nat) :
    connected (p ++ [m]) k = p.connected k ++ (m.connected? k).toList := filterMap_snoc p m _

theorem collected_snoc (k : Nat) :
    collected (p ++ [m]) k = p.collected k ++ (m.collected? k).toList := filterMap_snoc p m _

theorem fitting_snoc (k bound : Nat) :
    fitting (p ++ [m]) k bound = p.fitting k bound ++ (m.fitting? k bound).toList :=
  filterMap_snoc p m _

end Past

/-! ### Links that are not there yet, and dealers that never connected -/

namespace Effect

variable {h h' : Hub} {o : Operation} {a : Answer}

/-- Nothing is sent, taken or collected on a link that is not there. -/
theorem deed_of_absent (he : Effect h o a h') (hh : h.Coherent) {k : Nat}
    (hk : h.links[k]? = none) (bound : Nat) :
    Moment.accepted? ⟨h, o, a⟩ k = none ∧ Moment.connected? ⟨h, o, a⟩ k = none ∧
      Moment.collected? ⟨h, o, a⟩ k = none ∧ Moment.fitting? ⟨h, o, a⟩ k bound = none := by
  have hne : ∀ {j : Nat} {l : Link}, h.links[j]? = some l → j ≠ k := by
    rintro j l hl rfl
    rw [hk] at hl
    cases hl
  cases he with
  | fails ho =>
    have hdeed : Moment.deed? ⟨h, o, a⟩ = none := Moment.deed?_of_fails ho
    simp only [Moment.accepted?, Moment.connected?, Moment.collected?, Moment.fitting?, hdeed,
      and_self]
  | delivers hl => exact ⟨if_neg (hne hl), rfl, rfl, rfl⟩
  | collects ho hl => rcases ho with rfl | rfl <;> exact ⟨rfl, rfl, if_neg (hne hl), rfl⟩
  | connects _ _ _ hbound hl =>
    exact ⟨rfl, if_neg fun heq ↦ hne hl (Option.some.inj (hbound.symm.trans heq)), rfl, rfl⟩
  | @sends d j dealer frames hd hphase =>
    refine ⟨rfl, rfl, rfl, if_neg fun hfits ↦ ?_⟩
    obtain ⟨dealer', hd', hconnected⟩ := (Option.any_eq_true ..).1 hfits.1
    obtain ⟨l, hl, -⟩ := hh.taker_of_connected hd' (eq_of_beq hconnected)
    exact hne hl rfl
  | _ => exact ⟨rfl, rfl, rfl, rfl⟩

end Effect

/-- The dealer never connected, or is not there yet. -/
def Unconnected (h : Hub) (d : Nat) : Prop :=
  ∀ dealer, h.dealers[d]? = some dealer → dealer.phase = .unconnected

/-- Who has not connected after an update had not before, if the update connects nobody. -/
theorem Unconnected.of_updateDealer {h : Hub} {d e : Nat} {f : Dealer → Dealer}
    (hu : (h.updateDealer e f).Unconnected d)
    (hf : ∀ dealer, (f dealer).phase = .unconnected → dealer.phase = .unconnected) :
    h.Unconnected d := by
  intro dealer hd
  have hphase := hu _ (by rw [getElem?_updateDealer, hd]; rfl)
  split at hphase
  · exact hf dealer hphase
  · exact hphase

namespace Effect

variable {h h' : Hub} {o : Operation} {a : Answer}

/-- A dealer that is not connected was not connected before, and has received nothing. -/
theorem unconnected (he : Effect h o a h') (hh : h.Coherent) (ht : h.Tidy) {d : Nat}
    (hu : h'.Unconnected d) : h.Unconnected d ∧ Moment.received? ⟨h, o, a⟩ d = none := by
  -- whoever receives is connected, and stays so
  have hreceived : ∀ {e j : Nat} {dealer : Dealer} {frames : Frames}, h.Unconnected d →
      h.dealers[e]? = some dealer → dealer.inbound = some j →
      Moment.received? ⟨h, .receive e, .message frames⟩ d = none := by
    intro e j dealer frames hu' hd hj
    refine if_neg ?_
    rintro rfl
    have hphase := hu' dealer hd
    rw [hh.connected_of_inbound hd hj] at hphase
    cases hphase
  cases he with
  | fails ho =>
    have hdeed : Moment.deed? ⟨h, o, a⟩ = none := Moment.deed?_of_fails ho
    exact ⟨hu, by rw [Moment.received?, hdeed]⟩
  | finds | binds | unbinds | delivers | sends => exact ⟨hu, rfl⟩
  | collects ho => rcases ho with rfl | rfl <;> exact ⟨hu, rfl⟩
  | creates =>
    refine ⟨fun dealer hd ↦ hu dealer ?_, rfl⟩
    exact getElem?_append_of_eq_some hd _
  | drops =>
    have hu' := Unconnected.of_updateDealer hu fun _ hphase ↦ hphase
    exact ⟨fun dealer hd ↦ hu' dealer (by rw [dealers_abandonRequests]; exact hd), rfl⟩
  | disconnects =>
    have hu' := Unconnected.of_updateDealer hu fun _ hphase ↦ by cases hphase
    exact ⟨fun dealer hd ↦ hu' dealer (by rw [dealers_abandonRequests]; exact hd), rfl⟩
  | connects =>
    have hu' := Unconnected.of_updateDealer hu fun _ hphase ↦ by cases hphase
    exact ⟨hu', rfl⟩
  | keepsAside | retains | releases =>
    exact ⟨Unconnected.of_updateDealer hu fun _ hphase ↦ hphase, rfl⟩
  | receives hd _ hinbound => exact ⟨hu, hreceived hu hd hinbound⟩
  | @receivesKept e dealer frames hd hpending =>
    have hu' := Unconnected.of_updateDealer hu fun _ hphase ↦ hphase
    refine ⟨hu', ?_⟩
    rcases hinbound : dealer.inbound with - | j
    · rw [ht _ _ hd hinbound] at hpending
      cases hpending
    · exact hreceived hu' hd hinbound

/-- Only a dealer that never did connects. -/
theorem unconnected_of_connected? (he : Effect h o a h') {d k : Nat}
    (hconnected : Moment.connected? ⟨h, o, a⟩ k = some d) :
    h.Unconnected d ∧ ∀ e, Moment.received? ⟨h, o, a⟩ e = none := by
  cases he with
  | fails ho =>
    rw [Moment.connected?, Moment.deed?_of_fails ho] at hconnected
    cases hconnected
  | @connects e j address dealer l hd _ hphase _ _ _ =>
    have hde : e = d := by
      have hsome : (if h.bound? address = some k then some e else none) = some d := hconnected
      split at hsome
      · exact Option.some.inj hsome
      · cases hsome
    subst hde
    refine ⟨fun dealer' hd' ↦ ?_, fun _ ↦ rfl⟩
    obtain rfl := Option.some.inj (hd.symm.trans hd')
    exact hphase
  | collects ho => rcases ho with rfl | rfl <;> cases hconnected
  | _ => cases hconnected

end Effect

/-! ### Bindings -/

/-- Every service that was ever bound has its link, with the address and the capacity that were
asked for. -/
def Bindings (p : Past) (h : Hub) : Prop :=
  ∀ m ∈ p, ∀ address mark k, m.operation = .bind address mark → m.answer = .bound k address →
    ∃ l, h.links[k]? = some l ∧ l.address = address ∧ l.capacity = capacity mark

/-- One operation more keeps the bindings those of the history. -/
theorem Bindings.step {p : Past} {h h' : Hub} {o : Operation} {a : Answer} (he : Effect h o a h')
    (hp : Bindings p h) : Bindings (p ++ [⟨h, o, a⟩]) h' := by
  intro m hm address mark k hoperation hanswer
  rcases List.mem_append.1 hm with hm | hm
  · obtain ⟨l, hl, haddress, hcapacity⟩ := hp m hm address mark k hoperation hanswer
    obtain ⟨l', hl', haddress', hcapacity'⟩ := he.link hl
    exact ⟨l', hl', haddress'.trans haddress, hcapacity'.trans hcapacity⟩
  · obtain rfl := List.mem_singleton.1 hm
    dsimp only at hoperation hanswer
    subst hoperation hanswer
    cases he with
    | fails ho => cases ho
    | binds =>
      exact ⟨{ address, capacity := capacity mark }, List.getElem?_concat_length, rfl, rfl⟩

/-- The links are those that were bound, in every state that can be reached. -/
theorem Bindings.of_leadsTo {p : Past} {h : Hub} (hph : p.LeadsTo h) : Bindings p h :=
  hph.induction (P := Bindings) (fun m hm ↦ by cases hm) fun he hp ↦ hp.step he

/-- Every connected dealer listens, in every state that can be reached. -/
theorem Listening.of_leadsTo {p : Past} {h : Hub} (hph : p.LeadsTo h) : h.Listening :=
  hph.induction (P := fun _ h ↦ h.Listening) (fun _ _ _ hd ↦ by cases hd)
    fun he hh ↦ he.listening hh

/-- Every queue is within its bound, in every state that can be reached. -/
theorem Bounded.of_leadsTo {p : Past} {h : Hub} (hph : p.LeadsTo h) : h.Bounded :=
  hph.induction (P := fun _ h ↦ h.Bounded) (fun _ _ hl ↦ by cases hl) fun he hb ↦ he.bounded hb

end QueryDispatch.Hub
