import QueryDispatch.Proofs.Hub.Separate
import QueryDispatch.Proofs.Hub.Yield

/-!
# What becomes of a reply

A sender that is told its reply was sent knows nothing of what became of it. There are four ways: it
was queued and then collected, or is still queued; it was queued and its service went before it was
collected, so that it is `stranded`; there was no room for it, so that it `overflowed`; or its
service had gone already, so that it was `orphaned`. No reply is in two of these, and none in none.

What `Answered` says of a service that lives is said here of every service, living or gone.

## Main results

* `Effect.fated`: every operation keeps the account of all replies.
* `Fated.of_leadsTo`: so along every history, all that was sent through a dealer is accounted for.
-/

namespace QueryDispatch.Hub

/-! ### Reading the past -/

namespace Moment

variable (m : Moment) (d k : Nat)

/-- The link that a dealer was connected to. -/
def line? : Option Link :=
  match m.hub.phase? d with
  | some (.connected k) => m.hub.links[k]?
  | _ => none

/-- The reply that was sent through a dealer, if the link was like this. -/
def repliedIf? (like : Link → Bool) : Option Frames :=
  if (m.line? d).any like then m.replied? d else none

/-- The replies that were queued for a service as it was dropped. -/
def stranded : List Frames :=
  match m.operation, m.answer with
  | .unbind j, .done => if j = k then (m.hub.links[k]?.map Link.replies).getD [] else []
  | _, _ => []

end Moment

namespace Past

variable (p : Past) (d k : Nat)

/-- The replies that were sent through a dealer when the link was like this. -/
def repliedIf (like : Link → Bool) : List Frames := p.filterMap fun m ↦ m.repliedIf? d like

/-- The replies through a dealer that were queued. -/
def queued : List Frames := p.repliedIf d Link.hasRoom

/-- The replies through a dealer for which there was no room. -/
def overflowed : List Frames := p.repliedIf d fun l ↦ l.served && !l.hasRoom

/-- The replies through a dealer whose service had gone. -/
def orphaned : List Frames := p.repliedIf d fun l ↦ !l.served

/-- The replies that were still queued for a service as it was dropped. -/
def stranded : List Frames := p.flatMap fun m ↦ m.stranded k

variable (m : Moment)

theorem repliedIf_snoc (like : Link → Bool) :
    repliedIf (p ++ [m]) d like = p.repliedIf d like ++ (m.repliedIf? d like).toList :=
  filterMap_snoc p m _

theorem queued_snoc :
    queued (p ++ [m]) d = p.queued d ++ (m.repliedIf? d Link.hasRoom).toList :=
  repliedIf_snoc p d m _

theorem stranded_snoc : stranded (p ++ [m]) k = p.stranded k ++ m.stranded k := by
  rw [stranded, List.flatMap_append, List.flatMap_singleton]
  rfl

end Past

/-! ### The account -/

/-- The account of a link: what its dealer queued was collected, or stranded, or is queued. -/
structure Tallied (p : Past) (k : Nat) (l : Link) : Prop where
  vacant : l.taker = none → p.collected k = [] ∧ p.stranded k = [] ∧ l.replies = []
  served : l.served = true → p.stranded k = []
  gone : l.served = false → l.replies = []
  account : ∀ d, l.taker = some d → p.queued d = p.collected k ++ (p.stranded k ++ l.replies)

/-- Everything that was sent through a dealer is accounted for. -/
structure Fated (p : Past) (h : Hub) : Prop where
  coherent : h.Coherent
  tidy : h.Tidy
  absent : ∀ k, h.links[k]? = none → p.collected k = [] ∧ p.stranded k = []
  tallied : ∀ k l, h.links[k]? = some l → Tallied p k l
  /-- Nothing was sent through a dealer that never connected. -/
  silent : ∀ d, h.Unconnected d → p.replied d = []
  count : ∀ d, (p.replied d).length =
    (p.queued d).length + ((p.overflowed d).length + (p.orphaned d).length)

theorem fated_empty : Fated [] {} where
  coherent := coherent_empty
  tidy _ _ hd := by cases hd
  absent _ _ := ⟨rfl, rfl⟩
  tallied _ _ hl := by cases hl
  silent _ _ := rfl
  count _ := rfl

section Steps

variable {p : Past} {m : Moment} {h h' : Hub} {o : Operation} {a : Answer} {d k : Nat}
  {l l' : Link}

/-- What is said of a link holds of one that shows the same. -/
theorem Tallied.of_face (ht : Tallied p k l) (hface : l'.face = l.face) : Tallied p k l' := by
  obtain ⟨hserved, htaker, hreplies⟩ :
      l'.served = l.served ∧ l'.taker = l.taker ∧ l'.replies = l.replies := by
    simpa [Link.face] using hface
  constructor
  · rw [htaker, hreplies]
    exact ht.vacant
  · rw [hserved]
    exact ht.served
  · rw [hserved, hreplies]
    exact ht.gone
  · rw [htaker, hreplies]
    exact ht.account

/-- Where no reply is sent, none is queued or lost. -/
theorem repliedIf?_eq_none (hm : m.replied? d = none) (like : Link → Bool) :
    m.repliedIf? d like = none := by
  rw [Moment.repliedIf?, hm, ite_self]

theorem repliedIf_of_silent (hm : m.replied? d = none) (like : Link → Bool) :
    Past.repliedIf (p ++ [m]) d like = p.repliedIf d like := by
  rw [Past.repliedIf_snoc, repliedIf?_eq_none hm, Option.toList_none, List.append_nil]

theorem replied_of_silent (hm : m.replied? d = none) :
    Past.replied (p ++ [m]) d = p.replied d := by
  rw [Past.replied_snoc, hm, Option.toList_none, List.append_nil]

/-- The sums go on as they are if nothing is sent. -/
theorem Fated.count_of_silent (hp : Fated p h) (hm : m.replied? d = none) :
    (Past.replied (p ++ [m]) d).length = (Past.queued (p ++ [m]) d).length +
      ((Past.overflowed (p ++ [m]) d).length + (Past.orphaned (p ++ [m]) d).length) := by
  rw [replied_of_silent hm, Past.queued, Past.overflowed, Past.orphaned, repliedIf_of_silent hm,
    repliedIf_of_silent hm, repliedIf_of_silent hm]
  exact hp.count d

/-- A moment in which nothing happens to replies. -/
structure Moment.Quiet (m : Moment) : Prop where
  replied : ∀ d, m.replied? d = none
  collected : ∀ k, m.collected? k = none
  stranded : ∀ k, m.stranded k = []

/-- What is read of the past has not changed for this link. -/
theorem Tallied.of_readings {p' : Past} (ht : Tallied p k l)
    (hcollected : p'.collected k = p.collected k) (hstranded : p'.stranded k = p.stranded k)
    (hqueued : ∀ d, l.taker = some d → p'.queued d = p.queued d) : Tallied p' k l where
  vacant hvacant := by
    rw [hcollected, hstranded]
    exact ht.vacant hvacant
  served hserved := hstranded.trans (ht.served hserved)
  gone := ht.gone
  account d hd := by
    rw [hqueued d hd, hcollected, hstranded]
    exact ht.account d hd

theorem collected_of_none (hm : m.collected? k = none) :
    Past.collected (p ++ [m]) k = p.collected k := by
  rw [Past.collected_snoc, hm, Option.toList_none, List.append_nil]

theorem stranded_of_nil (hm : m.stranded k = []) : Past.stranded (p ++ [m]) k = p.stranded k := by
  rw [Past.stranded_snoc, hm, List.append_nil]

/-- A quiet moment leaves the account of a link. -/
theorem Moment.Quiet.tallied (hm : m.Quiet) (ht : Tallied p k l) : Tallied (p ++ [m]) k l :=
  ht.of_readings (collected_of_none (hm.collected k)) (stranded_of_nil (hm.stranded k))
    fun d _ ↦ repliedIf_of_silent (hm.replied d) _

/-- Nothing is sent, and whatever happens to replies shows on the links. -/
theorem Fated.of_silent (hp : Fated p h) (he : Effect h o a h')
    (hsilent : ∀ d, Moment.replied? ⟨h, o, a⟩ d = none)
    (habsent : ∀ k, h.links[k]? = none →
      Moment.collected? ⟨h, o, a⟩ k = none ∧ Moment.stranded ⟨h, o, a⟩ k = [])
    (htallied : ∀ k l, h'.links[k]? = some l → Tallied (p ++ [⟨h, o, a⟩]) k l) :
    Fated (p ++ [⟨h, o, a⟩]) h' where
  coherent := he.coherent hp.coherent
  tidy := he.tidy hp.tidy
  absent k hk := by
    have hk' := he.getElem?_eq_none hk
    rw [collected_of_none (habsent k hk').1, stranded_of_nil (habsent k hk').2]
    exact hp.absent k hk'
  tallied := htallied
  silent d hd := by
    rw [replied_of_silent (hsilent d)]
    exact hp.silent d (he.unconnected hp.coherent hp.tidy hd).1
  count d := hp.count_of_silent (hsilent d)

/-- Nothing happens to replies, and no service could notice a change of its link. -/
theorem Fated.of_quiet (hp : Fated p h) (he : Effect h o a h') (hm : Moment.Quiet ⟨h, o, a⟩)
    (hface : ∀ k l, h.links[k]? = some l → h'.face? k = some l.face) :
    Fated (p ++ [⟨h, o, a⟩]) h' := by
  refine hp.of_silent he hm.replied (fun k _ ↦ ⟨hm.collected k, hm.stranded k⟩) fun k l' hl' ↦ ?_
  rcases hl : h.links[k]? with - | l
  · -- the link is new, and nobody has taken it
    obtain ⟨htaker, -, hreplies⟩ := he.newborn hl hl'
    obtain ⟨hcollected, hstranded⟩ := hp.absent k hl
    refine hm.tallied ⟨fun _ ↦ ⟨hcollected, hstranded, hreplies⟩, fun _ ↦ hstranded,
      fun _ ↦ hreplies, fun d hd ↦ ?_⟩
    rw [htaker] at hd
    cases hd
  · have hsame := hface k l hl
    rw [face?, hl'] at hsame
    exact (hm.tallied (hp.tallied k l hl)).of_face (Option.some.inj hsame)

/-! ### Operations that bear on replies -/

/-- A dealer that has not connected has queued nothing. -/
theorem Fated.queued_eq_nil (hp : Fated p h) (hd : h.Unconnected d) : p.queued d = [] := by
  have hcount := hp.count d
  rw [hp.silent d hd, List.length_nil] at hcount
  exact List.eq_nil_of_length_eq_zero (Nat.eq_zero_of_add_eq_zero_right hcount.symm)

/-- What fails is quiet. -/
theorem quiet_of_fails (ho : o.succeeded a = false) : Moment.Quiet ⟨h, o, a⟩ where
  replied d := by rw [Moment.replied?, Moment.deed?_of_fails ho]
  collected k := by rw [Moment.collected?, Moment.deed?_of_fails ho]
  stranded k := by
    cases o with
    | unbind j =>
      cases a with
      | done => cases ho
      | _ => rfl
    | _ => rfl

end Steps

section Special

variable {p p' : Past} {h : Hub} {d j : Nat} {l₀ : Link} {frames : Frames} {rest : List Frames}

/-- A change of one link, of which the others take no note. -/
theorem tallied_updateLink {f : Link → Link} (hl₀ : h.links[j]? = some l₀)
    (hself : Tallied p' j (f l₀))
    (hothers : ∀ k l, k ≠ j → h.links[k]? = some l → Tallied p' k l) (k : Nat) (l' : Link)
    (hl' : (h.updateLink j f).links[k]? = some l') : Tallied p' k l' := by
  obtain ⟨l, hl, rfl⟩ := exists_of_getElem?_updateLink hl'
  by_cases hjk : j = k
  · subst hjk
    obtain rfl := Option.some.inj (hl₀.symm.trans hl)
    rw [if_pos rfl]
    exact hself
  · rw [if_neg hjk]
    exact hothers k l (Ne.symm hjk) hl

/-- A link that is there is not one that is missing. -/
theorem ne_of_absent {k : Nat} (hl₀ : h.links[j]? = some l₀) (hk : h.links[k]? = none) : j ≠ k := by
  rintro rfl
  rw [hl₀] at hk
  cases hk

/-- A service that is dropped strands what is queued for it. -/
theorem Fated.unbind (hp : Fated p h) (hl₀ : h.links[j]? = some l₀) (hserved : l₀.served = true) :
    Fated (p ++ [⟨h, .unbind j, .done⟩]) (h.unbind j) := by
  have he : Effect h (.unbind j) .done (h.unbind j) := .unbinds hl₀ hserved
  have hqueued : ∀ d, Past.queued (p ++ [⟨h, .unbind j, .done⟩]) d = p.queued d := fun d ↦
    repliedIf_of_silent rfl _
  have hcollected : ∀ k, Past.collected (p ++ [⟨h, .unbind j, .done⟩]) k = p.collected k :=
    fun k ↦ collected_of_none rfl
  have hothers : ∀ k, k ≠ j →
      Past.stranded (p ++ [⟨h, .unbind j, .done⟩]) k = p.stranded k :=
    fun k hk ↦ stranded_of_nil (if_neg (Ne.symm hk))
  have ht := hp.tallied j l₀ hl₀
  have hself : Past.stranded (p ++ [⟨h, .unbind j, .done⟩]) j = l₀.replies := by
    rw [Past.stranded_snoc, ht.served hserved, Moment.stranded]
    dsimp only
    rw [if_pos rfl, hl₀]
    rfl
  refine hp.of_silent he (fun _ ↦ rfl) (fun k hk ↦ ⟨rfl, if_neg (ne_of_absent hl₀ hk)⟩)
    (tallied_updateLink hl₀ ⟨fun hvacant ↦ ?_, nofun, fun _ ↦ rfl, fun d hd ↦ ?_⟩ fun k l hk hl ↦
      (hp.tallied k l hl).of_readings (hcollected k) (hothers k hk) fun d _ ↦ hqueued d)
  · obtain ⟨hnone, -, hreplies⟩ := ht.vacant hvacant
    rw [hcollected, hself]
    exact ⟨hnone, hreplies, rfl⟩
  · have haccount := ht.account d hd
    rw [ht.served hserved, List.nil_append] at haccount
    rw [hqueued, hcollected, hself, haccount]
    exact congrArg _ (List.append_nil _).symm

/-- What a service collects is the first of what is queued for it. -/
theorem Fated.collect (hp : Fated p h) {o : Operation} (ho : o = .collect j ∨ o = .tryCollect j)
    (hl₀ : h.links[j]? = some l₀) (hserved : l₀.served = true)
    (hreplies : l₀.replies = frames :: rest) :
    Fated (p ++ [⟨h, o, .message frames⟩]) (h.updateLink j fun l ↦ { l with replies := rest }) := by
  have he := Effect.collects ho hl₀ hserved hreplies
  have hsilent : ∀ d, Moment.replied? ⟨h, o, .message frames⟩ d = none := by
    rcases ho with rfl | rfl <;> exact fun _ ↦ rfl
  have hqueued : ∀ d, Past.queued (p ++ [⟨h, o, .message frames⟩]) d = p.queued d := fun d ↦
    repliedIf_of_silent (hsilent d) _
  have hstranded : ∀ k, Past.stranded (p ++ [⟨h, o, .message frames⟩]) k = p.stranded k := by
    rcases ho with rfl | rfl <;> exact fun _ ↦ stranded_of_nil rfl
  have hcollected? : ∀ k, Moment.collected? ⟨h, o, .message frames⟩ k =
      if j = k then some frames else none := by
    rcases ho with rfl | rfl <;> exact fun _ ↦ rfl
  have hothers : ∀ k, k ≠ j → Past.collected (p ++ [⟨h, o, .message frames⟩]) k = p.collected k :=
    fun k hk ↦ collected_of_none ((hcollected? k).trans (if_neg (Ne.symm hk)))
  have hself : Past.collected (p ++ [⟨h, o, .message frames⟩]) j = p.collected j ++ [frames] := by
    rw [Past.collected_snoc, hcollected?, if_pos rfl]
    rfl
  have ht := hp.tallied j l₀ hl₀
  refine hp.of_silent he hsilent (fun k hk ↦ ⟨?_, ?_⟩)
    (tallied_updateLink hl₀ ⟨fun hvacant ↦ ?_, fun _ ↦ (hstranded j).trans (ht.served hserved),
      fun hgone ↦ ?_, fun d hd ↦ ?_⟩ fun k l hk hl ↦
        (hp.tallied k l hl).of_readings (hothers k hk) (hstranded k) fun d _ ↦ hqueued d)
  · exact (hcollected? k).trans (if_neg (ne_of_absent hl₀ hk))
  · rcases ho with rfl | rfl <;> rfl
  · obtain ⟨-, -, hnone⟩ := ht.vacant hvacant
    rw [hreplies] at hnone
    cases hnone
  · rw [show l₀.served = false from hgone] at hserved
    cases hserved
  · have haccount := ht.account d hd
    rw [ht.served hserved, hreplies] at haccount
    rw [hqueued, hself, hstranded, ht.served hserved, haccount, List.append_assoc]
    rfl

/-- A dealer that connects has sent nothing before. -/
theorem Fated.connect (hp : Fated p h) {address : String} {dealer : Dealer}
    (hd : h.dealers[d]? = some dealer) (halive : dealer.alive = true)
    (hphase : dealer.phase = .unconnected) (hbound : h.bound? address = some j)
    (hl₀ : h.links[j]? = some l₀) (htaker : l₀.taker = none) :
    Fated (p ++ [⟨h, .connect d address, .done⟩])
      ((h.updateLink j fun l ↦ { l with taker := some d }).updateDealer d fun dealer ↦
        { dealer with phase := .connected j, inbound := some j }) := by
  have he := Effect.connects hd halive hphase hbound hl₀ htaker
  have hquiet : Moment.Quiet ⟨h, .connect d address, .done⟩ :=
    ⟨fun _ ↦ rfl, fun _ ↦ rfl, fun _ ↦ rfl⟩
  have hunconnected : h.Unconnected d := fun dealer' hd' ↦ by
    obtain rfl := Option.some.inj (hd.symm.trans hd')
    exact hphase
  have ht := hp.tallied j l₀ hl₀
  obtain ⟨hcollected, hstranded, hreplies⟩ := ht.vacant htaker
  refine hp.of_silent he hquiet.replied (fun _ _ ↦ ⟨rfl, rfl⟩)
    (tallied_updateLink hl₀ (hquiet.tallied ⟨nofun, ht.served, ht.gone, fun e he ↦ ?_⟩)
      fun k l _ hl ↦ hquiet.tallied (hp.tallied k l hl))
  obtain rfl := Option.some.inj he
  rw [hp.queued_eq_nil hunconnected, hcollected, hstranded, hreplies]
  rfl

/-- A reply is queued, or there is no room for it, or its service has gone. -/
theorem Fated.send (hp : Fated p h) {dealer : Dealer} (hd : h.dealers[d]? = some dealer)
    (hphase : dealer.phase = .connected j) (hthere : dealer.alive = true ∨ 0 < dealer.senders)
    (frames : Frames) :
    Fated (p ++ [⟨h, .send d frames, .done⟩])
      (h.updateLink j fun l ↦
        if l.hasRoom then { l with replies := l.replies ++ [frames] } else l) := by
  have he : Effect h (.send d frames) .done _ := .sends hd hphase hthere
  obtain ⟨l₀, hl₀, htaker⟩ := hp.coherent.taker_of_connected hd hphase
  set m : Moment := ⟨h, .send d frames, .done⟩ with hm
  have hreplied : m.replied? d = some frames := if_pos rfl
  have hother : ∀ e, e ≠ d → m.replied? e = none := fun e hne ↦ if_neg (Ne.symm hne)
  have hline : m.line? d = some l₀ := by
    rw [Moment.line?, phase?_of_getElem? hd, hphase]
    exact hl₀
  have hif : ∀ like : Link → Bool,
      m.repliedIf? d like = if like l₀ = true then some frames else none := fun like ↦ by
    rw [Moment.repliedIf?, hline, hreplied]
    rfl
  have hcollected : ∀ k, Past.collected (p ++ [m]) k = p.collected k :=
    fun k ↦ collected_of_none rfl
  have hstranded : ∀ k, Past.stranded (p ++ [m]) k = p.stranded k := fun k ↦ stranded_of_nil rfl
  refine ⟨he.coherent hp.coherent, he.tidy hp.tidy, fun k hk ↦ ?_,
    tallied_updateLink hl₀ ?_ fun k l hk hl ↦ (hp.tallied k l hl).of_readings (hcollected k)
      (hstranded k) fun e htaken ↦ repliedIf_of_silent (hother e fun hed ↦ hk ?_) _,
    fun e hu ↦ ?_, fun e ↦ ?_⟩
  · rw [hcollected, hstranded]
    exact hp.absent k (he.getElem?_eq_none hk)
  · have ht := hp.tallied j l₀ hl₀
    by_cases hroom : l₀.hasRoom = true
    · have hserved := (Bool.and_eq_true_iff.1 hroom).1
      rw [if_pos hroom]
      refine ⟨fun hvacant ↦ ?_, fun _ ↦ (hstranded j).trans (ht.served hserved), fun hgone ↦ ?_,
        fun e he ↦ ?_⟩
      · rw [show l₀.taker = none from hvacant] at htaker
        cases htaker
      · rw [show l₀.served = false from hgone] at hserved
        cases hserved
      · obtain rfl := Option.some.inj (htaker.symm.trans he)
        rw [Past.queued_snoc, hif, if_pos hroom, hcollected, hstranded, ht.account d htaker,
          List.append_assoc, List.append_assoc]
        rfl
    · rw [if_neg hroom]
      refine ht.of_readings (hcollected j) (hstranded j) fun e he ↦ ?_
      obtain rfl := Option.some.inj (htaker.symm.trans he)
      rw [Past.queued_snoc, hif, if_neg hroom, Option.toList_none, List.append_nil]
  · -- whoever took another link is not connected to this one
    subst hed
    obtain ⟨dealer', hd', hor⟩ := hp.coherent.connected_of_taker hl htaken
    obtain rfl := Option.some.inj (hd.symm.trans hd')
    rw [hphase] at hor
    rcases hor with hor | hor
    · exact (Phase.connected.inj hor).symm
    · cases hor
  · have hne : e ≠ d := by
      rintro rfl
      rw [hu dealer hd] at hphase
      cases hphase
    rw [replied_of_silent (hother e hne)]
    exact hp.silent e hu
  · by_cases hed : e = d
    · subst hed
      have hcount := hp.count e
      rw [Past.replied_snoc, Past.queued, Past.overflowed, Past.orphaned, Past.repliedIf_snoc,
        Past.repliedIf_snoc, Past.repliedIf_snoc, hif, hif, hif, hreplied, Link.hasRoom]
      rw [Past.queued, Past.overflowed, Past.orphaned] at hcount
      -- one of the three has the reply, as the service lives or not and there is room or not
      rcases l₀.served with - | - <;>
        rcases decide (l₀.replies.length < l₀.capacity) with - | - <;> simp <;> omega
    · exact hp.count_of_silent (hother e hed)

end Special

/-! ### Every history -/

/-- **Every operation keeps the account of all replies.** -/
theorem Effect.fated {p : Past} {h h' : Hub} {o : Operation} {a : Answer} (he : Effect h o a h')
    (hp : Fated p h) : Fated (p ++ [⟨h, o, a⟩]) h' := by
  have hquiet (hm : Moment.Quiet ⟨h, o, a⟩) (hface : ∀ k, h'.face? k = h.face? k) :
      Fated (p ++ [⟨h, o, a⟩]) h' :=
    hp.of_quiet he hm fun k l hl ↦ by
      rw [hface, face?, hl]
      rfl
  have heffect := he
  cases he with
  | unbinds hl hserved => exact hp.unbind hl hserved
  | collects ho hl hserved hreplies => exact hp.collect ho hl hserved hreplies
  | connects hd halive hphase hbound hl htaker =>
    exact hp.connect hd halive hphase hbound hl htaker
  | sends hd hphase hthere => exact hp.send hd hphase hthere _
  | binds =>
    refine hp.of_quiet heffect ⟨fun _ ↦ rfl, fun _ ↦ rfl, fun _ ↦ rfl⟩ fun k l hl ↦ ?_
    rw [face?, List.getElem?_append_left (List.getElem?_eq_some_iff.1 hl).1, hl]
    rfl
  | fails ho => exact hquiet (quiet_of_fails ho) fun _ ↦ rfl
  | delivers | keepsAside | receives =>
    exact hquiet ⟨fun _ ↦ rfl, fun _ ↦ rfl, fun _ ↦ rfl⟩ (face_updateLink fun _ ↦ rfl)
  | drops | disconnects =>
    exact hquiet ⟨fun _ ↦ rfl, fun _ ↦ rfl, fun _ ↦ rfl⟩ (h.still_abandonRequests _).face
  | creates | finds | receivesKept | retains | releases =>
    exact hquiet ⟨fun _ ↦ rfl, fun _ ↦ rfl, fun _ ↦ rfl⟩ fun _ ↦ rfl

/-- **Along every history, all that was sent through a dealer is accounted for.** -/
theorem Fated.of_leadsTo {p : Past} {h : Hub} (hph : p.LeadsTo h) : Fated p h :=
  hph.induction fated_empty fun he hp ↦ he.fated hp

/-! ### Who sends has a link -/

section Takers

variable {h h' : Hub} {o : Operation} {a : Answer} {d e : Nat}

/-- A dealer that has not connected stays so through an update that leaves its phase. -/
theorem Unconnected.updateDealer (hu : h.Unconnected d) {f : Dealer → Dealer}
    (hf : e = d → ∀ dealer, h.dealers[e]? = some dealer → (f dealer).phase = .unconnected) :
    (h.updateDealer e f).Unconnected d := by
  intro dealer' hd'
  obtain ⟨dealer, hd, rfl⟩ := exists_of_getElem?_updateDealer hd'
  split
  · next hed => exact hf hed dealer (hed ▸ hd)
  · exact hu dealer hd

/-- A dealer that never connected goes on like that, or connects. -/
theorem Effect.unconnected_or_connected? (he : Effect h o a h') (hu : h.Unconnected d) :
    h'.Unconnected d ∨ ∃ k, Moment.connected? ⟨h, o, a⟩ k = some d := by
  have habandoned : ∀ dealer, (h.abandonRequests dealer).Unconnected d := fun dealer dealer' hd ↦ by
    rw [dealers_abandonRequests] at hd
    exact hu dealer' hd
  cases he with
  | fails | binds | unbinds | delivers | collects | finds | receives | sends => exact .inl hu
  | creates =>
    refine .inl fun dealer (hd : (h.dealers ++ [({} : Dealer)])[d]? = some dealer) ↦ ?_
    rw [List.getElem?_append] at hd
    split at hd
    · exact hu dealer hd
    · rw [List.mem_singleton.1 (List.mem_of_getElem? hd)]
  | drops =>
    refine .inl ((habandoned _).updateDealer fun hed dealer hd ↦ ?_)
    exact habandoned _ dealer (hed ▸ hd)
  | disconnects hd hphase =>
    refine .inl ((habandoned _).updateDealer fun hed _ _ ↦ ?_)
    rw [hu _ (hed ▸ hd)] at hphase
    cases hphase
  | @connects e j address dealer l hd halive hphase hbound =>
    by_cases hed : e = d
    · subst hed
      exact .inr ⟨j, if_pos hbound⟩
    · refine .inl (Unconnected.updateDealer ?_ fun heq ↦ absurd heq hed)
      exact hu
  | keepsAside =>
    refine .inl (Unconnected.updateDealer ?_ fun hed dealer hd ↦ hu dealer (hed ▸ hd))
    exact hu
  | receivesKept | retains | releases =>
    exact .inl (hu.updateDealer fun hed dealer hd ↦ hu dealer (hed ▸ hd))

/-- **A dealer that ever connected has taken a link.** -/
theorem exists_taker {p : Past} (hph : p.LeadsTo h) {phase : Phase}
    (hphase : h.phase? d = some phase) (hconnected : phase ≠ .unconnected) :
    ∃ (k : Nat) (l : Link), h.links[k]? = some l ∧ l.taker = some d := by
  have hpast : h.Unconnected d ∨ ∃ k, d ∈ p.connected k :=
    hph.induction (P := fun p h ↦ h.Unconnected d ∨ ∃ k, d ∈ p.connected k)
      (.inl fun _ hd ↦ nomatch hd) fun {p h o a h'} he hpast ↦ by
        rcases hpast with hu | ⟨k, hk⟩
        · refine (he.unconnected_or_connected? hu).imp_right fun ⟨k, hk⟩ ↦ ⟨k, ?_⟩
          rw [Past.connected_snoc, hk]
          exact List.mem_append_right _ List.mem_cons_self
        · refine .inr ⟨k, ?_⟩
          rw [Past.connected_snoc]
          exact List.mem_append_left _ hk
  obtain ⟨dealer, hd, rfl⟩ := exists_of_phase? hphase
  rcases hpast with hu | ⟨k, hk⟩
  · exact absurd (hu dealer hd) hconnected
  · have hconserved := Conserved.of_leadsTo hph
    rcases hl : h.links[k]? with - | l
    · rw [(hconserved.absent k hl).2] at hk
      cases hk
    · rw [hconserved.taker k l hl] at hk
      exact ⟨k, l, hl, Option.mem_toList.1 hk⟩

end Takers

end QueryDispatch.Hub
