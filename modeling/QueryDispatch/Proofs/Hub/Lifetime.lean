import Mathlib.Data.List.Chain
import Mathlib.Logic.Relation
import QueryDispatch.Proofs.Hub.Atomic

/-!
# The life of a dealer

A dealer serves one session. Its senders know nothing but its phase, whereas the dealer itself goes
by the link it receives from and the message it keeps aside, and these three are changed one at a
time. That they stay in step rests on `connect` and `disconnect` being the only operations that
change the phase, and on nothing but the end of the session, or of the dealer, taking away the link
it receives from.

## Main results

* `Effect.stride`: an operation leaves the phase of a dealer alone, or connects or disconnects it.
* `Lived.of_leadsTo`: so a dealer goes through the phases in order, and has connected and
  disconnected as often as its phase says.
* `single_use_session`: the same seen from outside, with the answers to the dealer and its senders.
-/

namespace QueryDispatch

/-- The only ways on from a phase: none leads back, and none leads on from a closed dealer. -/
inductive Phase.Next : Phase → Phase → Prop where
  | connects (k : Nat) : Next .unconnected (.connected k)
  | disconnects (k : Nat) : Next (.connected k) .closed

/-- What is closed stays closed. -/
theorem Phase.eq_closed_of_reflTransGen {phase : Phase}
    (h : Relation.ReflTransGen Next .closed phase) : phase = .closed := by
  rcases h.cases_head with rfl | ⟨_, hnext, -⟩
  · rfl
  · cases hnext

namespace Hub

/-! ### What is seen of one dealer -/

namespace Moment

variable (m : Moment)

/-- The dealer connected. -/
def connects (d : Nat) : Bool :=
  match m.operation, m.answer with
  | .connect e _, .done => e == d
  | _, _ => false

/-- The dealer disconnected. -/
def disconnects (d : Nat) : Bool :=
  match m.operation, m.answer with
  | .disconnect e, .done => e == d
  | _, _ => false

/-- What fails neither connects nor disconnects. -/
theorem not_connects_of_fails {m : Moment} (hm : m.operation.succeeded m.answer = false)
    (d : Nat) : m.connects d = false ∧ m.disconnects d = false := by
  obtain ⟨h, o, a⟩ := m
  cases o <;> cases a <;> first | exact ⟨rfl, rfl⟩ | cases hm

end Moment

namespace Past

variable (p : Past)

/-- The phases in which what was done found the dealer. -/
def phases (d : Nat) : List Phase := p.filterMap fun m ↦ m.hub.dealers[d]?.map Dealer.phase

/-- How often the dealer connected. -/
def connections (d : Nat) : Nat := p.countP fun m ↦ m.connects d

/-- How often the dealer disconnected. -/
def disconnections (d : Nat) : Nat := p.countP fun m ↦ m.disconnects d

variable (m : Moment)

theorem phases_snoc (d : Nat) :
    phases (p ++ [m]) d = p.phases d ++ (m.hub.dealers[d]?.map Dealer.phase).toList :=
  filterMap_snoc p m _

theorem connections_snoc (d : Nat) :
    connections (p ++ [m]) d = p.connections d + if m.connects d then 1 else 0 := by
  rw [connections, List.countP_append, List.countP_singleton]
  rfl

theorem disconnections_snoc (d : Nat) :
    disconnections (p ++ [m]) d = p.disconnections d + if m.disconnects d then 1 else 0 := by
  rw [disconnections, List.countP_append, List.countP_singleton]
  rfl

end Past

/-! ### What one operation does to a dealer -/

/-- What an operation may do to the phase of a dealer. -/
inductive Stride (d : Nat) (m : Moment) (phase phase' : Phase) : Prop where
  | stays (hphase : phase' = phase) (hm : m.connects d = false ∧ m.disconnects d = false)
  | connects {k : Nat} (hphase : phase = .unconnected) (hphase' : phase' = .connected k)
      (hm : m.connects d = true ∧ m.disconnects d = false)
  | disconnects {k : Nat} (hphase : phase = .connected k) (hphase' : phase' = .closed)
      (hm : m.connects d = false ∧ m.disconnects d = true)

/-- A stride goes no further than to the next phase. -/
theorem Stride.next {d : Nat} {m : Moment} {phase phase' : Phase} (hs : Stride d m phase phase') :
    Relation.ReflGen Phase.Next phase phase' := by
  cases hs with
  | stays hphase => exact hphase ▸ .refl
  | connects hphase hphase' => exact .single (hphase ▸ hphase' ▸ .connects _)
  | disconnects hphase hphase' => exact .single (hphase ▸ hphase' ▸ .disconnects _)

section Strides

variable {h : Hub} {d e : Nat} {dealer : Dealer} {m : Moment}

/-- A change of a dealer that does not concern its phase. -/
theorem exists_stride_updateDealer (hd : h.dealers[d]? = some dealer) {f : Dealer → Dealer}
    (hf : ∀ dealer, (f dealer).phase = dealer.phase)
    (hm : m.connects d = false ∧ m.disconnects d = false) :
    ∃ dealer', (h.updateDealer e f).dealers[d]? = some dealer' ∧
      Stride d m dealer.phase dealer'.phase := by
  refine ⟨if e = d then f dealer else dealer, ?_, .stays ?_ hm⟩
  · rw [getElem?_updateDealer, hd, Option.map_some]
  · split
    · exact hf dealer
    · rfl

/-- A change of the phase of a dealer, as what was done says. -/
theorem exists_stride_of_change (hd : h.dealers[d]? = some dealer) {f : Dealer → Dealer}
    (hself : e = d → Stride d m dealer.phase (f dealer).phase)
    (hother : e ≠ d → m.connects d = false ∧ m.disconnects d = false) :
    ∃ dealer', (h.updateDealer e f).dealers[d]? = some dealer' ∧
      Stride d m dealer.phase dealer'.phase := by
  by_cases hed : e = d
  · exact ⟨f dealer, hed ▸ getElem?_updateDealer_self (hed ▸ hd) f, hself hed⟩
  · refine ⟨dealer, ?_, .stays rfl (hother hed)⟩
    rw [getElem?_updateDealer, hd, Option.map_some, if_neg hed]

end Strides

namespace Effect

variable {h h' : Hub} {o : Operation} {a : Answer} {d : Nat} {dealer : Dealer}

/-- **Every operation is a stride, for every dealer.** -/
theorem stride (he : Effect h o a h') (hd : h.dealers[d]? = some dealer) :
    ∃ dealer', h'.dealers[d]? = some dealer' ∧ Stride d ⟨h, o, a⟩ dealer.phase dealer'.phase := by
  cases he with
  | fails ho => exact ⟨dealer, hd, .stays rfl (Moment.not_connects_of_fails (m := ⟨h, o, a⟩) ho d)⟩
  | finds | binds | unbinds | delivers | receives | sends =>
    exact ⟨dealer, hd, .stays rfl ⟨rfl, rfl⟩⟩
  | collects ho => rcases ho with rfl | rfl <;> exact ⟨dealer, hd, .stays rfl ⟨rfl, rfl⟩⟩
  | creates =>
    refine ⟨dealer, ?_, .stays rfl ⟨rfl, rfl⟩⟩
    exact getElem?_append_of_eq_some hd _
  | drops =>
    refine exists_stride_updateDealer ?_ (fun _ ↦ rfl) ⟨rfl, rfl⟩
    rwa [dealers_abandonRequests]
  | keepsAside =>
    exact exists_stride_updateDealer (h := h.updateLink _ _) hd (fun _ ↦ rfl) ⟨rfl, rfl⟩
  | receivesKept | retains | releases =>
    exact exists_stride_updateDealer hd (fun _ ↦ rfl) ⟨rfl, rfl⟩
  | @connects e _ _ dealer₀ _ hd₀ _ hphase =>
    refine exists_stride_of_change (h := h.updateLink _ _) hd (fun hed ↦ ?_)
      fun hed ↦ ⟨beq_false_of_ne hed, rfl⟩
    obtain rfl := Option.some.inj (hd₀.symm.trans (hed ▸ hd))
    exact .connects hphase rfl ⟨beq_iff_eq.2 hed, rfl⟩
  | @disconnects e _ dealer₀ hd₀ hphase =>
    refine exists_stride_of_change (h := h.abandonRequests dealer₀) ?_ (fun hed ↦ ?_)
      fun hed ↦ ⟨rfl, beq_false_of_ne hed⟩
    · rwa [dealers_abandonRequests]
    · obtain rfl := Option.some.inj (hd₀.symm.trans (hed ▸ hd))
      exact .disconnects hphase rfl ⟨rfl, beq_iff_eq.2 hed⟩

/-- Nothing happens to a dealer that is not there, and a new one is unconnected. -/
theorem unborn (he : Effect h o a h') (hd : h.dealers[d]? = none) :
    (Moment.connects ⟨h, o, a⟩ d = false ∧ Moment.disconnects ⟨h, o, a⟩ d = false) ∧
      ∀ dealer, h'.dealers[d]? = some dealer → dealer.phase = .unconnected := by
  have hne : ∀ {e : Nat} {dealer₀ : Dealer}, h.dealers[e]? = some dealer₀ → e ≠ d := by
    rintro e dealer₀ hd₀ rfl
    cases hd.symm.trans hd₀
  have hsame : ∀ {h₁ : Hub}, h₁.dealers[d]? = none → ∀ dealer, h₁.dealers[d]? = some dealer →
      dealer.phase = .unconnected := fun hnone dealer hd' ↦ by cases hnone.symm.trans hd'
  have hupdate : ∀ {e : Nat} {h₁ : Hub} {f : Dealer → Dealer}, h₁.dealers = h.dealers →
      (h₁.updateDealer e f).dealers[d]? = none := fun hdealers ↦ by
    rw [getElem?_updateDealer, hdealers, hd, Option.map_none]
  cases he with
  | fails ho => exact ⟨Moment.not_connects_of_fails (m := ⟨h, o, a⟩) ho d, hsame hd⟩
  | finds | binds | unbinds | delivers | receives | sends => exact ⟨⟨rfl, rfl⟩, hsame hd⟩
  | collects ho => rcases ho with rfl | rfl <;> exact ⟨⟨rfl, rfl⟩, hsame hd⟩
  | creates =>
    refine ⟨⟨rfl, rfl⟩, fun dealer hd' ↦ ?_⟩
    have hmem := List.getElem?_append_right (List.getElem?_eq_none_iff.1 hd) ▸ hd'
    rw [List.mem_singleton.1 (List.mem_of_getElem? hmem)]
  | drops => exact ⟨⟨rfl, rfl⟩, hsame (hupdate (dealers_abandonRequests ..))⟩
  | keepsAside | receivesKept | retains | releases => exact ⟨⟨rfl, rfl⟩, hsame (hupdate rfl)⟩
  | connects hd₀ => exact ⟨⟨beq_false_of_ne (hne hd₀), rfl⟩, hsame (hupdate rfl)⟩
  | disconnects hd₀ =>
    exact ⟨⟨rfl, beq_false_of_ne (hne hd₀)⟩, hsame (hupdate (dealers_abandonRequests ..))⟩

end Effect

/-! ### The link a dealer receives from -/

/-- What a dealer that lives holds is told by its phase. -/
structure InStep (h : Hub) : Prop where
  coherent : h.Coherent
  tidy : h.Tidy
  listening : h.Listening

/-- In every state that can be reached the dealers are in step with their phases. -/
theorem InStep.of_leadsTo {p : Past} {h : Hub} (hph : p.LeadsTo h) : h.InStep :=
  hph.induction (P := fun _ h ↦ h.InStep)
    ⟨coherent_empty, fun _ _ hd ↦ (nomatch hd), fun _ _ _ hd ↦ (nomatch hd)⟩
    fun he hh ↦ ⟨he.coherent hh.coherent, he.tidy hh.tidy, he.listening hh.listening⟩

/-- A dealer receives from a link exactly while it is connected to it. -/
theorem InStep.inbound_eq_some_iff {h : Hub} (hh : h.InStep) {d k : Nat} {dealer : Dealer}
    (hd : h.dealers[d]? = some dealer) (halive : dealer.alive = true) :
    dealer.inbound = some k ↔ dealer.phase = .connected k :=
  ⟨hh.coherent.connected_of_inbound hd, hh.listening d k dealer hd halive⟩

/-! ### A whole life -/

/-- What a history says of a dealer: nothing before it is there, and from then on its phases are in
order and tell how often it connected and disconnected. -/
structure Lived (p : Past) (h : Hub) (d : Nat) : Prop where
  unborn : h.dealers[d]? = none →
    p.phases d = [] ∧ p.connections d = 0 ∧ p.disconnections d = 0
  phases : ∀ dealer, h.dealers[d]? = some dealer →
    (p.phases d ++ [dealer.phase]).head? = some .unconnected ∧
      (p.phases d ++ [dealer.phase]).IsChain (Relation.ReflGen Phase.Next)
  connections : ∀ dealer, h.dealers[d]? = some dealer →
    p.connections d = if dealer.phase = .unconnected then 0 else 1
  disconnections : ∀ dealer, h.dealers[d]? = some dealer →
    p.disconnections d = if dealer.phase = .closed then 1 else 0

theorem lived_empty (d : Nat) : Lived [] {} d :=
  ⟨fun _ ↦ ⟨rfl, rfl, rfl⟩, fun _ hd ↦ (nomatch hd), fun _ hd ↦ (nomatch hd),
    fun _ hd ↦ (nomatch hd)⟩

section Step

variable {p : Past} {h h' : Hub} {o : Operation} {a : Answer} {d : Nat}

/-- The first moment of a life. -/
theorem Lived.begins (he : Effect h o a h') (hp : Lived p h d) (hd : h.dealers[d]? = none) :
    Lived (p ++ [⟨h, o, a⟩]) h' d := by
  obtain ⟨hphases, hconnections, hdisconnections⟩ := hp.unborn hd
  obtain ⟨⟨hconnects, hdisconnects⟩, hnew⟩ := he.unborn hd
  have hphases' : Past.phases (p ++ [⟨h, o, a⟩]) d = [] := by
    rw [Past.phases_snoc, hphases, hd]
    rfl
  have hconnections' : Past.connections (p ++ [⟨h, o, a⟩]) d = 0 := by
    rw [Past.connections_snoc, hconnections, hconnects]
    rfl
  have hdisconnections' : Past.disconnections (p ++ [⟨h, o, a⟩]) d = 0 := by
    rw [Past.disconnections_snoc, hdisconnections, hdisconnects]
    rfl
  refine ⟨fun _ ↦ ⟨hphases', hconnections', hdisconnections'⟩, fun dealer hd' ↦ ?_,
    fun dealer hd' ↦ ?_, fun dealer hd' ↦ ?_⟩
  · rw [hphases', hnew dealer hd']
    exact ⟨rfl, .singleton _⟩
  · rw [hconnections', hnew dealer hd', if_pos rfl]
  · rw [hdisconnections', hnew dealer hd', if_neg Phase.noConfusion]

/-- Any moment after that. -/
theorem Lived.goesOn (he : Effect h o a h') (hp : Lived p h d) {dealer : Dealer}
    (hd : h.dealers[d]? = some dealer) : Lived (p ++ [⟨h, o, a⟩]) h' d := by
  obtain ⟨dealer', hd', hstride⟩ := he.stride hd
  obtain ⟨hhead, hchain⟩ := hp.phases dealer hd
  have hconnections := hp.connections dealer hd
  have hdisconnections := hp.disconnections dealer hd
  have hphases : Past.phases (p ++ [⟨h, o, a⟩]) d = p.phases d ++ [dealer.phase] := by
    rw [Past.phases_snoc, hd]
    rfl
  refine ⟨fun hnone ↦ (nomatch hnone.symm.trans hd'), fun dealer'' hd'' ↦ ?_,
    fun dealer'' hd'' ↦ ?_, fun dealer'' hd'' ↦ ?_⟩
  all_goals obtain rfl := Option.some.inj (hd'.symm.trans hd'')
  · rw [hphases, List.append_assoc]
    refine ⟨?_, List.isChain_append_cons_cons.2 ⟨hchain, hstride.next, .singleton _⟩⟩
    rw [← hhead, ← List.append_assoc, List.head?_append_of_ne_nil]
    exact List.append_ne_nil_of_right_ne_nil _ (List.cons_ne_nil _ _)
  · rw [Past.connections_snoc, hconnections]
    cases hstride with
    | stays hphase hm => rw [hphase, hm.1]; rfl
    | connects hphase hphase' hm => rw [hphase, hphase', hm.1]; rfl
    | disconnects hphase hphase' hm => rw [hphase, hphase', hm.1]; rfl
  · rw [Past.disconnections_snoc, hdisconnections]
    cases hstride with
    | stays hphase hm => rw [hphase, hm.2]; rfl
    | connects hphase hphase' hm => rw [hphase, hphase', hm.2]; rfl
    | disconnects hphase hphase' hm => rw [hphase, hphase', hm.2]; rfl

/-- One operation more goes on with the life of every dealer. -/
theorem Lived.step (he : Effect h o a h') (hp : Lived p h d) : Lived (p ++ [⟨h, o, a⟩]) h' d := by
  rcases hd : h.dealers[d]? with - | dealer
  · exact hp.begins he hd
  · exact hp.goesOn he hd

end Step

/-- Every dealer of a history has lived as its phases say. -/
theorem Lived.of_leadsTo {p : Past} {h : Hub} (hph : p.LeadsTo h) (d : Nat) : Lived p h d :=
  hph.induction (P := fun p h ↦ Lived p h d) (lived_empty d) fun he hp ↦ hp.step he

/-- Whatever is done later, the dealer goes on from where it is. -/
theorem exists_phase_run {h : Hub} {d : Nat} {dealer : Dealer} (hd : h.dealers[d]? = some dealer)
    (later : List Operation) : ∃ dealer', (h.run later).dealers[d]? = some dealer' ∧
      Relation.ReflTransGen Phase.Next dealer.phase dealer'.phase := by
  induction later generalizing h dealer with
  | nil => exact ⟨dealer, hd, .refl⟩
  | cons o rest ih =>
    obtain ⟨dealer₁, hd₁, hstride⟩ := (h.effect_apply o).stride hd
    obtain ⟨dealer', hd', hrest⟩ := ih hd₁
    exact ⟨dealer', hd', hstride.next.to_reflTransGen.trans hrest⟩

/-! ### What a dealer and its senders are told -/

section Answers

variable {h : Hub} {d : Nat} {dealer : Dealer}

/-- Who fails is told why, and nothing has changed. -/
theorem Fails.apply_eq {o : Operation} {a : Answer} (hf : h.Fails o a) : h.apply o = (a, h) := by
  have hs := hf.not_succeeded.1
  rw [← hf.answer_eq] at hs
  exact Prod.ext hf.answer_eq (apply_eq_of_not_succeeded hs)

/-- Only a dealer that never did may connect. -/
theorem connect_eq_alreadyConnected_iff (hd : h.dealers[d]? = some dealer)
    (halive : dealer.alive = true) (address : String) :
    (h.apply (.connect d address)).1 = .refused .alreadyConnected ↔
      dealer.phase ≠ .unconnected := by
  constructor
  · intro hanswer
    have hfails : h.Fails (.connect d address) (.refused .alreadyConnected) :=
      fails_iff.2 ⟨hanswer, rfl, nofun⟩
    cases hfails with
    | alreadyConnected hd' _ hphase =>
      obtain rfl := Option.some.inj (hd.symm.trans hd')
      exact hphase
  · exact fun hphase ↦ (Fails.alreadyConnected hd halive hphase).answer_eq

/-- Only a dealer that is connected may receive. -/
theorem InStep.eq_notConnected_iff (hh : h.InStep) (hd : h.dealers[d]? = some dealer)
    (halive : dealer.alive = true) {o : Operation} (ho : o = .poll d ∨ o = .receive d) :
    (h.apply o).1 = .refused .notConnected ↔ ∀ k, dealer.phase ≠ .connected k := by
  have hinbound : dealer.inbound = none ↔ ∀ k, dealer.phase ≠ .connected k := by
    rw [Option.eq_none_iff_forall_ne_some]
    exact forall_congr' fun k ↦ not_congr (hh.inbound_eq_some_iff hd halive)
  rw [← hinbound]
  constructor
  · intro hanswer
    have hfails : h.Fails o (.refused .notConnected) := by
      refine fails_iff.2 ⟨hanswer, ?_, nofun⟩
      rcases ho with rfl | rfl <;> rfl
    cases hfails with
    | unlinked ho' hd' _ _ hnone =>
      obtain rfl : d = _ := by rcases ho with rfl | rfl <;> simpa using ho'
      obtain rfl := Option.some.inj (hd.symm.trans hd')
      exact hnone
    | early | notConnected => simp at ho
  · intro hnone
    exact (Fails.unlinked ho hd halive (hh.tidy d dealer hd hnone) hnone).answer_eq

end Answers

/-! ### A session of single use -/

/-- **A dealer serves one session, and tells all its senders the same.** After any history, the
phases in which it was found began with `unconnected`, and each was the one before or the next;
whatever is done later, it goes on from the phase it is in. If it lives, it receives from a link
exactly when it is connected to that, and keeps a message aside only if it receives from some link.
Whoever sends through it or one of its senders, whenever that was taken, is told that it is not
connected, that all is well, or that the session is over, by its phase alone; nothing is sent before
the session or after it; and once it is over it stays so. The dealer connected once at most, and is
refused as connected already in every phase but the first; it disconnected once at most; and if it
lives, it is told that it is not connected, when it looks for a message or takes one, exactly when
it is not. -/
theorem single_use_session {p : Past} {h : Hub} (hph : p.LeadsTo h) {d : Nat} {dealer : Dealer}
    (hd : h.dealers[d]? = some dealer) :
    ((p.phases d ++ [dealer.phase]).head? = some .unconnected ∧
      (p.phases d ++ [dealer.phase]).IsChain (Relation.ReflGen Phase.Next)) ∧
    (∀ later, ∃ dealer', (h.run later).dealers[d]? = some dealer' ∧
      Relation.ReflTransGen Phase.Next dealer.phase dealer'.phase) ∧
    (dealer.alive = true →
      (∀ k, dealer.inbound = some k ↔ dealer.phase = .connected k) ∧
      (dealer.pending.isSome = true → dealer.inbound.isSome = true)) ∧
    (dealer.alive = true ∨ 0 < dealer.senders → ∀ frames,
      (dealer.phase = .unconnected →
        h.apply (.send d frames) = (.refused .notConnected, h)) ∧
      (∀ k, dealer.phase = .connected k → (h.apply (.send d frames)).1 = .done) ∧
      (dealer.phase = .closed → h.apply (.send d frames) = (.refused .serviceStopped, h))) ∧
    (dealer.phase = .closed → ∀ later dealer', (h.run later).dealers[d]? = some dealer' →
      (dealer'.alive = true ∨ 0 < dealer'.senders) → ∀ frames,
        (h.run later).apply (.send d frames) = (.refused .serviceStopped, h.run later)) ∧
    (p.connections d ≤ 1 ∧ p.disconnections d ≤ 1) ∧
    (dealer.alive = true → ∀ address,
      (h.apply (.connect d address)).1 = .refused .alreadyConnected ↔
        dealer.phase ≠ .unconnected) ∧
    (dealer.alive = true → ∀ o, o = .poll d ∨ o = .receive d →
      ((h.apply o).1 = .refused .notConnected ↔ ∀ k, dealer.phase ≠ .connected k)) := by
  have hp : Lived p h d := .of_leadsTo hph d
  have hh : h.InStep := .of_leadsTo hph
  refine ⟨hp.phases dealer hd, exists_phase_run hd, fun halive ↦ ⟨?_, ?_⟩,
    fun hthere frames ↦ ⟨?_, ?_, ?_⟩, ?_, ⟨?_, ?_⟩,
    fun halive ↦ connect_eq_alreadyConnected_iff hd halive,
    fun halive o ho ↦ hh.eq_notConnected_iff hd halive ho⟩
  · exact fun k ↦ hh.inbound_eq_some_iff hd halive
  · intro hpending
    rcases hinbound : dealer.inbound with - | k
    · rw [hh.tidy d dealer hd hinbound] at hpending
      exact hpending
    · rfl
  · exact fun hphase ↦ (Fails.early hd hthere hphase).apply_eq
  · intro k hphase
    rw [apply_send hd hphase hthere]
  · exact fun hphase ↦ (Fails.late hd hthere hphase).apply_eq
  · intro hclosed later dealer' hd' hthere frames
    obtain ⟨dealer'', hd'', hnext⟩ := exists_phase_run hd later
    obtain rfl := Option.some.inj (hd'.symm.trans hd'')
    rw [hclosed] at hnext
    exact (Fails.late hd' hthere (Phase.eq_closed_of_reflTransGen hnext)).apply_eq
  · rw [hp.connections dealer hd]
    split <;> decide
  · rw [hp.disconnections dealer hd]
    split <;> decide

/-- Senders are taken before and after the dealer connects, and it disconnects with a message kept
aside. -/
def spent : List Operation :=
  [.bind "a" 2, .create, .retain 0, .connect 0 "a", .deliver 0 [[1]], .poll 0, .retain 0,
    .disconnect 0]

theorem single_use_session_spent :
    let p := ({} : Hub).past spent
    let h := ({} : Hub).run spent
    ∃ dealer, h.dealers[0]? = some dealer ∧ dealer.phase = .closed ∧ dealer.senders = 2 ∧
      (p.phases 0 ++ [dealer.phase]).IsChain (Relation.ReflGen Phase.Next) ∧
      dealer.inbound ≠ some 0 ∧ p.connections 0 ≤ 1 ∧
      h.apply (.send 0 [[2]]) = (.refused .serviceStopped, h) ∧
      (h.run [.drop 0]).apply (.send 0 [[2]]) = (.refused .serviceStopped, h.run [.drop 0]) ∧
      (h.apply (.connect 0 "a")).1 = .refused .alreadyConnected ∧
      (h.apply (.receive 0)).1 = .refused .notConnected := by
  intro p h
  have hd : h.dealers[0]? = some ⟨.closed, none, none, true, 2⟩ := rfl
  obtain ⟨⟨-, hchain⟩, -, hholds, hsend, hlater, ⟨hconnections, -⟩, hconnect, hreceive⟩ :=
    single_use_session (p := p) ⟨spent, rfl, rfl⟩ hd
  refine ⟨_, rfl, rfl, rfl, hchain, fun hinbound ↦ ?_, hconnections,
    (hsend (.inl rfl) [[2]]).2.2 rfl, hlater rfl [.drop 0] _ rfl (.inr (by decide)) [[2]],
    (hconnect rfl "a").2 nofun, (hreceive rfl _ (.inr rfl)).2 nofun⟩
  cases ((hholds rfl).1 0).1 hinbound

end Hub

end QueryDispatch
