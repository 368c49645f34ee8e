import Mathlib.Logic.ExistsUnique
import QueryDispatch.Hub.Context
import QueryDispatch.Proofs.Hub.Separate
import QueryDispatch.Proofs.Hub.Standing

/-!
# The address table is right

A service removes what is at its address as it is dropped, whoever put it there, and a dealer takes
what is at an address without asking whose it is. That the table is right nevertheless rests on one
thing: an address is bound only if nothing is there, so of the services bound at it only the last
can be alive, and what is there is its own.

## Main results

* `Context.Lists.step`: the table holds the worker's sides of the links of live services, and as
  long as it does, going by the table is going by the links.
* `Context.orderly_run`: so the operations on a context do what those on its hub do, and along every
  history the table tells which addresses are bound, and which of them no dealer came to.
-/

namespace QueryDispatch

/-- What there is at the address of a live service: the worker's side of its link, until a dealer
takes it. -/
def Standing.slot (s : Standing) (k : Nat) : Option Nat := if s.taker.isSome then none else some k

namespace Hub

namespace Context

/-- The table holds what there is at the addresses of the live services, and nothing else. -/
structure Lists (c : Context) : Prop where
  distinct : c.hub.Distinct
  entry : ∀ {k : Nat} {s : Standing}, c.hub.standing? k = some s → s.served = true →
    c.table.get? s.address = some (s.slot k)
  live : ∀ {address : String}, c.table.get? address ≠ none → ∃ k, c.hub.Serves k address

/-! ### Reading the table -/

section Reading

variable {c : Context} {k : Nat} {address : String}

/-- What serves an address is listed under it. -/
theorem Lists.get?_of_serves (hc : c.Lists) (hk : c.hub.Serves k address) :
    ∃ taker, c.hub.standing? k = some ⟨address, true, taker⟩ ∧
      c.table.get? address = some (Standing.slot ⟨address, true, taker⟩ k) := by
  obtain ⟨taker, hs⟩ := serves_iff.1 hk
  exact ⟨taker, hs, hc.entry hs rfl⟩

/-- Nothing is listed under an address that no link serves. -/
theorem Lists.get?_eq_none_iff (hc : c.Lists) :
    c.table.get? address = none ↔ ∀ k, ¬ c.hub.Serves k address := by
  constructor
  · intro hnone k hk
    obtain ⟨taker, -, hentry⟩ := hc.get?_of_serves hk
    cases hnone.symm.trans hentry
  · intro hnot
    refine Decidable.byContradiction fun hentry ↦ ?_
    obtain ⟨k, hk⟩ := hc.live hentry
    exact hnot k hk

theorem isBound_eq_false_iff : c.isBound address = false ↔ c.table.get? address = none := by
  rw [isBound, Option.isSome_eq_false_iff, Option.isNone_iff_eq_none]

/-- The list says of every address whether it is bound. -/
theorem Lists.isBound_eq (hc : c.Lists) (address : String) :
    c.isBound address = c.hub.isBound address := by
  rw [Bool.eq_iff_iff, ← Decidable.not_iff_not, Bool.not_eq_true, Bool.not_eq_true,
    isBound_eq_false_iff, hc.get?_eq_none_iff, Hub.isBound_eq_false_iff, bound?_eq_none_iff]

/-- An address is bound exactly if one live service is, since there are never two. -/
theorem Lists.isBound_iff (hc : c.Lists) :
    c.isBound address = true ↔ ∃! k, c.hub.Serves k address := by
  rw [← Bool.not_eq_false, isBound_eq_false_iff]
  constructor
  · intro hentry
    obtain ⟨k, hk⟩ := hc.live hentry
    exact ⟨k, hk, fun j hj ↦ hc.distinct.eq hj hk⟩
  · rintro ⟨k, hk, -⟩ hnone
    exact hc.get?_eq_none_iff.1 hnone k hk

end Reading

/-! ### Changing the table -/

section Changing

variable {c : Context} {h' : Hub} {k : Nat} {address : String} {taker : Option Nat}

/-- A list stays right while the links keep their standing. -/
theorem Lists.of_standing?_eq (hc : c.Lists) (hdistinct : h'.Distinct)
    (hrest : ∀ j, h'.standing? j = c.hub.standing? j) : Lists { c with hub := h' } where
  distinct := hdistinct
  entry hs := hc.entry ((hrest _).symm.trans hs)
  live hentry := by
    obtain ⟨j, hj⟩ := hc.live hentry
    exact ⟨j, (serves_congr (hrest j)).2 hj⟩

/-- A link is bound at an address, or taken there. -/
theorem Lists.insert (hc : c.Lists) (hdistinct : h'.Distinct)
    (hbefore : ∀ other, c.hub.Serves k other → other = address)
    (hk : h'.standing? k = some ⟨address, true, taker⟩)
    (hrest : ∀ j, j ≠ k → h'.standing? j = c.hub.standing? j) :
    Lists ⟨h', c.table.insert address (Standing.slot ⟨address, true, taker⟩ k)⟩ where
  distinct := hdistinct
  entry {j s} hs hserved := by
    rw [Table.get?_insert]
    by_cases hjk : j = k
    · subst hjk
      obtain rfl := Option.some.inj (hk.symm.trans hs)
      exact if_pos rfl
    · -- another live service is bound at another address
      have hne : s.address ≠ address := fun heq ↦
        hjk (hdistinct.eq (heq ▸ serves_of_standing? hs hserved) (serves_iff.2 ⟨taker, hk⟩))
      rw [if_neg hne]
      exact hc.entry ((hrest j hjk).symm.trans hs) hserved
  live {other} hentry := by
    rw [Table.get?_insert] at hentry
    by_cases hother : other = address
    · subst hother
      exact ⟨k, serves_iff.2 ⟨taker, hk⟩⟩
    · rw [if_neg hother] at hentry
      obtain ⟨j, hj⟩ := hc.live hentry
      have hjk : j ≠ k := fun heq ↦ hother (hbefore other (heq ▸ hj))
      exact ⟨j, (serves_congr (hrest j hjk)).2 hj⟩

/-- A service is dropped, and what is at its address removed. -/
theorem Lists.erase (hc : c.Lists) (hdistinct : h'.Distinct)
    (hk : c.hub.standing? k = some ⟨address, true, taker⟩)
    (hk' : h'.standing? k = some ⟨address, false, taker⟩)
    (hrest : ∀ j, j ≠ k → h'.standing? j = c.hub.standing? j) :
    Lists ⟨h', c.table.erase address⟩ where
  distinct := hdistinct
  entry {j s} hs hserved := by
    rw [Table.get?_erase]
    have hjk : j ≠ k := by
      rintro rfl
      obtain rfl := Option.some.inj (hk'.symm.trans hs)
      cases hserved
    have hs' := (hrest j hjk).symm.trans hs
    -- another live service is bound at another address
    have hne : s.address ≠ address := fun heq ↦
      hjk (hc.distinct.eq (heq ▸ serves_of_standing? hs' hserved) (serves_iff.2 ⟨taker, hk⟩))
    rw [if_neg hne]
    exact hc.entry hs' hserved
  live {other} hentry := by
    rw [Table.get?_erase] at hentry
    by_cases hother : other = address
    · exact absurd (if_pos hother) hentry
    · rw [if_neg hother] at hentry
      obtain ⟨j, hj⟩ := hc.live hentry
      have hjk : j ≠ k := by
        rintro rfl
        exact hother (hj.address_eq hk)
      exact ⟨j, (serves_congr (hrest j hjk)).2 hj⟩

end Changing

/-! ### Going by the table -/

/-- The context answers as the hub does, comes to have the hub that the hub becomes, and its table
is right again. -/
structure Agrees (r : Answer × Context) (s : Answer × Hub) : Prop where
  answer : r.1 = s.1
  hub : r.2.hub = s.2
  lists : r.2.Lists

section Step

variable {c : Context}

/-- To bind comes to the same with the list and without it. -/
theorem Lists.agrees_bind (hc : c.Lists) (address : String) (mark : UInt64) :
    Agrees (c.apply (.bind address mark)) (c.hub.apply (.bind address mark)) := by
  have hdistinct := (c.hub.effect_bind address mark).turnover.distinct hc.distinct
  rw [Hub.apply, Hub.bind] at hdistinct ⊢
  rw [Context.apply, Context.bind, hc.isBound_eq]
  by_cases hbound : c.hub.isBound address = true
  · rw [if_pos hbound, if_pos hbound]
    exact ⟨rfl, rfl, hc⟩
  · rw [if_neg hbound] at hdistinct
    rw [if_neg hbound, if_neg hbound]
    by_cases hlong : longestQueue < capacity mark
    · rw [if_pos hlong, if_pos hlong]
      exact ⟨rfl, rfl, hc⟩
    · rw [if_neg hlong] at hdistinct
      rw [if_neg hlong, if_neg hlong]
      refine ⟨rfl, rfl, hc.insert hdistinct (fun other hk ↦ ?_) (c.hub.standing?_append_self _)
        fun j hj ↦ standing?_append_of_ne _ hj⟩
      obtain ⟨l, hl, -⟩ := hk
      exact absurd (List.getElem?_eq_some_iff.1 hl).1 (Nat.lt_irrefl _)

/-- To unbind comes to the same with the list and without it. -/
theorem Lists.agrees_unbind (hc : c.Lists) (k : Nat) :
    Agrees (c.apply (.unbind k)) (c.hub.apply (.unbind k)) := by
  have hdistinct := (c.hub.effect_unbind k).turnover.distinct hc.distinct
  rw [Hub.apply, guarded] at hdistinct ⊢
  rw [Context.apply]
  by_cases hserved : c.hub.isServed k = true
  · rw [if_pos hserved] at hdistinct
    rw [if_pos hserved, if_pos hserved]
    obtain ⟨l, hl, hlives⟩ := (Option.any_eq_true ..).1 hserved
    rw [Context.unbind, hl]
    have hk : c.hub.standing? k = some ⟨l.address, true, l.taker⟩ := by
      rw [standing?_eq_some hl, Link.standing, hlives]
    exact ⟨rfl, rfl, hc.erase hdistinct hk (standing?_updateLink_self hl _)
      fun j hj ↦ standing?_updateLink_of_ne hj _⟩
  · rw [if_neg hserved, if_neg hserved]
    exact ⟨rfl, rfl, hc⟩

/-- To connect comes to the same with the list and without it. -/
theorem Lists.agrees_connect (hc : c.Lists) (d : Nat) (address : String) :
    Agrees (c.apply (.connect d address)) (c.hub.apply (.connect d address)) := by
  have hdistinct := (c.hub.effect_connect d address).turnover.distinct hc.distinct
  rw [Hub.apply, guarded] at hdistinct ⊢
  rw [Context.apply]
  by_cases halive : c.hub.isAlive d = true
  · rw [if_pos halive] at hdistinct
    rw [if_pos halive, if_pos halive]
    obtain ⟨dealer, hd, -⟩ := (Option.any_eq_true ..).1 halive
    rw [Hub.connect, hd] at hdistinct ⊢
    rw [Context.connect, hd]
    dsimp only at hdistinct ⊢
    by_cases hphase : dealer.phase ≠ .unconnected
    · rw [if_pos hphase, if_pos hphase]
      exact ⟨rfl, rfl, hc⟩
    · rw [if_neg hphase] at hdistinct
      rw [if_neg hphase, if_neg hphase]
      rcases hbound : c.hub.bound? address with - | k
      · -- nothing is bound there, so nothing is there to take
        rw [Context.take, hc.get?_eq_none_iff.2 (bound?_eq_none_iff.1 hbound)]
        exact ⟨rfl, rfl, hc⟩
      · obtain ⟨taker, hs, hentry⟩ := hc.get?_of_serves (Serves.of_bound? hbound)
        obtain ⟨l, hl, hstanding⟩ := exists_of_standing? hs
        injection hstanding with haddress hserved htaker
        rw [hbound] at hdistinct
        rw [Context.take, hentry]
        simp only [hl, Option.bind_some, htaker, Standing.slot] at hdistinct ⊢
        rcases taker with - | e
        · have hk : (c.hub.updateLink k fun l ↦ { l with taker := some d }).standing? k =
              some ⟨address, true, some d⟩ := by
            rw [standing?_updateLink_self hl, Link.standing, haddress, hserved]
          exact ⟨rfl, rfl, hc.insert hdistinct (fun _ hother ↦ hother.address_eq hs) hk
            fun j hj ↦ standing?_updateLink_of_ne (h := c.hub) hj _⟩
        · exact ⟨rfl, rfl, hc⟩
  · rw [if_neg halive, if_neg halive]
    exact ⟨rfl, rfl, hc⟩

/-- **As long as the table is right, going by the table is going by the links**, and the table stays
right. -/
theorem Lists.step (hc : c.Lists) (o : Operation) : Agrees (c.apply o) (c.hub.apply o) := by
  have ht := (c.hub.effect_apply o).turnover
  have hdistinct := ht.distinct hc.distinct
  cases o with
  | bind address mark => exact hc.agrees_bind address mark
  | unbind k => exact hc.agrees_unbind k
  | connect d address => exact hc.agrees_connect d address
  | _ =>
    exact ⟨rfl, rfl, hc.of_standing?_eq hdistinct
      (ht.standing?_eq (fun _ _ ↦ nofun) (fun _ ↦ nofun) fun _ _ ↦ nofun)⟩

/-- A run comes to the same with the list and without it. -/
theorem Lists.run (hc : c.Lists) (operations : List Operation) :
    (c.run operations).hub = c.hub.run operations ∧
      c.answers operations = c.hub.answers operations ∧ (c.run operations).Lists := by
  induction operations generalizing c with
  | nil => exact ⟨rfl, rfl, hc⟩
  | cons o rest ih =>
    obtain ⟨hanswer, hhub, hlists⟩ := hc.step o
    obtain ⟨hruns, hanswers, hlists⟩ := ih hlists
    rw [hhub] at hruns hanswers
    refine ⟨hruns, ?_, hlists⟩
    rw [answers, Hub.answers, hanswer, hanswers]

end Step

theorem lists_empty : Lists {} where
  distinct _ _ _ hj := by
    obtain ⟨l, hl, -⟩ := hj
    cases hl
  entry hs := by cases hs
  live hentry := absurd rfl hentry

/-! ### What a history tells -/

section History

variable {p : Past} {h : Hub} {k : Nat} {address : String}

/-- Whoever serves an address was bound there. -/
theorem exists_binds_of_serves (hph : p.LeadsTo h) (hk : h.Serves k address) :
    ∃ m ∈ p, m.Binds k address := by
  refine hph.induction (P := fun p h ↦ h.Serves k address → ∃ m ∈ p, m.Binds k address) ?_ ?_ hk
  · rintro ⟨l, hl, -⟩
    cases hl
  · intro p h o a h' he ih hk
    rcases he.turnover.serves_before hk with hk | ⟨hbinds, -⟩
    · obtain ⟨m, hm, hbinds⟩ := ih hk
      exact ⟨m, List.mem_append_left _ hm, hbinds⟩
    · exact ⟨_, List.mem_append_right _ List.mem_cons_self, hbinds⟩

/-- Since it was bound, a service that lives has the dealer that came to its address, and no more
than one did. -/
theorem standing?_of_binds {operations : List Operation} {before after : Past} {m : Moment}
    (hd : h.Distinct) (hp : h.past operations = before ++ m :: after) (hm : m.Binds k address)
    (hk : (h.run operations).Serves k address) :
    ∃ taker, (h.run operations).standing? k = some ⟨address, true, taker⟩ ∧
      after.comers address = taker.toList := by
  obtain ⟨xs, o, ys, rfl, -, rfl, rfl⟩ := past_eq_append_cons hp
  have he := (h.run xs).effect_apply o
  have hstart := he.standing?_of_binds hm
  obtain ⟨s, hs, hcontinues⟩ := standing_run (he.turnover.distinct (hd.run xs)) hstart ys
  rw [run_append] at hk ⊢
  obtain ⟨taker, hs'⟩ := serves_iff.1 hk
  obtain rfl := Option.some.inj (hs'.symm.trans hs)
  exact ⟨taker, hs', (hcontinues.live rfl).2.symm⟩

/-- Between two dealers that come to an address, the service that the first came to is dropped, and
then the address is bound again. -/
theorem exists_rebind {operations : List Operation} {before middle after : Past} {m m' : Moment}
    {d d' : Nat} (hd : h.Distinct)
    (hp : h.past operations = before ++ m :: (middle ++ m' :: after))
    (hm : m.comer? address = some d) (hm' : m'.comer? address = some d') :
    ∃ k early drops later binds rest j, m.hub.Serves k address ∧
      middle = early ++ drops :: (later ++ binds :: rest) ∧ drops.Drops k ∧
        binds.Binds j address := by
  obtain ⟨xs, o, ys, rfl, -, rfl, hys⟩ := past_eq_append_cons hp
  obtain ⟨zs, o', ws, rfl, rfl, rfl, -⟩ := past_eq_append_cons hys.symm
  have hturn := ((h.run xs).effect_apply o).turnover
  obtain ⟨k, hk, hk'⟩ := hturn.of_comer hm
  have hd₁ := hturn.distinct (hd.run xs)
  generalize ((h.run xs).apply o).2 = g at hk' hd₁ hm' ⊢
  obtain ⟨j, hj, -⟩ := ((g.run zs).effect_apply o').turnover.of_comer hm'
  have hjserves : (g.run zs).Serves j address := serves_iff.2 ⟨none, hj⟩
  -- the link that was taken first is not free again, so its service is gone
  have hgone : ¬ (g.run zs).Serves k address := by
    intro hserves
    obtain rfl := (hd₁.run zs).eq hserves hjserves
    obtain ⟨s, hs, hcontinues⟩ := standing_run hd₁ hk' zs
    obtain rfl := Option.some.inj (hj.symm.trans hs)
    cases hcontinues.taker d rfl
  obtain ⟨us, o₁, vs, rfl, hu, hu'⟩ :=
    exists_change (P := fun h ↦ h.Serves k address) (serves_iff.2 ⟨_, hk'⟩) hgone
  have hturn₁ := ((g.run us).effect_apply o₁).turnover
  have hdrops := (hturn₁.serves_after hu).resolve_left hu'
  -- it was the only one, so now the address is free, and it is bound again when the second comes
  have hfree : ∀ i, ¬ ((g.run us).apply o₁).2.Serves i address := by
    intro i hi
    rcases hturn₁.serves_before hi with hi' | ⟨-, hnone⟩
    · exact hu' ((hd₁.run us).eq hu hi' ▸ hi)
    · exact bound?_eq_none_iff.1 hnone k hu
  rw [run_append] at hjserves
  obtain ⟨as, o₂, bs, rfl, ha, ha'⟩ :=
    exists_change (P := fun h ↦ ∀ i, ¬ h.Serves i address) hfree fun hnot ↦ hnot j hjserves
  obtain ⟨i, hi⟩ := Classical.not_forall_not.1 ha'
  have hbinds := ((Effect.turnover (effect_apply _ o₂)).serves_before hi).resolve_left (ha i)
  have hmiddle := past_append g us (o₁ :: (as ++ o₂ :: bs))
  rw [past, past_append _ as, past] at hmiddle
  exact ⟨k, _, _, _, _, _, i, serves_iff.2 ⟨none, hk⟩, hmiddle, hdrops, hbinds.1⟩

end History

/-! ### Asking for an address -/

section Asking

variable {c : Context}

theorem apply_bind (address : String) {mark : UInt64} (hfits : capacity mark ≤ longestQueue) :
    (c.apply (.bind address mark)).1 =
      if c.isBound address then .refused (.endpointInUse address)
      else .bound c.hub.links.length address := by
  rw [Context.apply, Context.bind]
  by_cases hbound : c.isBound address = true
  · rw [if_pos hbound, if_pos hbound]
  · rw [if_neg hbound, if_neg hbound, if_neg (Nat.not_lt_of_le hfits)]

/-- A dealer that never connected goes by the table. -/
theorem apply_connect {d : Nat} {dealer : Dealer} (hd : c.hub.dealers[d]? = some dealer)
    (halive : dealer.alive = true) (hphase : dealer.phase = .unconnected) (address : String) :
    (c.apply (.connect d address)).1 =
      match c.table.get? address with
      | none => .refused (.endpointNotFound address)
      | some none => .refused (.endpointInUse address)
      | some (some _) => .done := by
  have hallowed : c.hub.isAlive d = true := by
    rw [isAlive, hd]
    exact halive
  rw [Context.apply, if_pos hallowed, Context.connect, hd]
  dsimp only
  rw [if_neg (not_not_intro hphase), Context.take]
  rcases c.table.get? address with - | - | k <;> rfl

/-- Dropping a service takes out what is at the address it is bound to, and nothing else. -/
theorem get?_unbind (c : Context) (k : Nat) (address : String) :
    (c.hub.Serves k address → (c.apply (.unbind k)).2.table.get? address = none) ∧
      (¬ c.hub.Serves k address →
        (c.apply (.unbind k)).2.table.get? address = c.table.get? address) := by
  rw [Context.apply]
  by_cases hserved : c.hub.isServed k = true
  · obtain ⟨l, hl, hlives⟩ := (Option.any_eq_true ..).1 hserved
    have hserves : c.hub.Serves k address ↔ address = l.address := by
      refine ⟨fun hk ↦ hk.address_eq (standing?_eq_some hl), ?_⟩
      rintro rfl
      exact ⟨l, hl, hlives, rfl⟩
    rw [if_pos hserved, Context.unbind, hl, hserves]
    dsimp only
    rw [Table.get?_erase]
    exact ⟨fun heq ↦ if_pos heq, fun hne ↦ if_neg hne⟩
  · rw [if_neg hserved]
    refine ⟨fun ⟨l, hl, hlives, _⟩ ↦ absurd ?_ hserved, fun _ ↦ rfl⟩
    rw [isServed, hl]
    exact hlives

end Asking

/-- What the address table tells at the end of a history, and how it came about. -/
structure Orderly (p : Past) (c : Context) : Prop where
  /-- An address is in the table exactly if one live service is bound to it. -/
  bound : ∀ address, c.isBound address = true ↔ ∃! k, c.hub.Serves k address
  /-- It is not in the table exactly if none is. -/
  free : ∀ address, c.isBound address = false ↔ ∀ k, ¬ c.hub.Serves k address
  /-- Every live service was bound at its address. -/
  origin : ∀ k address, c.hub.Serves k address → ∃ m ∈ p, m.Binds k address
  /-- Since a live service was bound, at most one dealer came to its address. The slot is filled,
  with the worker's side of the link of this service, if none did, and otherwise it is empty. -/
  tenure : ∀ (before : Past) (m : Moment) (after : Past) (k : Nat) (address : String),
    p = before ++ m :: after → m.Binds k address → c.hub.Serves k address →
    (after.comers address).length ≤ 1 ∧
      (c.table.get? address = some (some k) ↔ after.comers address = []) ∧
      (c.table.get? address = some none ↔ after.comers address ≠ [])
  /-- Between any two dealers that came to an address, the service that the first came to was
  dropped, and then the address was bound again. -/
  between : ∀ (before : Past) (m : Moment) (middle : Past) (m' : Moment) (after : Past)
    (d d' : Nat) (address : String), p = before ++ m :: (middle ++ m' :: after) →
    m.comer? address = some d → m'.comer? address = some d' →
    ∃ k early drops later binds rest j, m.hub.Serves k address ∧
      middle = early ++ drops :: (later ++ binds :: rest) ∧ drops.Drops k ∧ binds.Binds j address
  /-- With a queue that is not too long, an address can be bound exactly if it is not. -/
  binds : ∀ address mark, capacity mark ≤ longestQueue →
    ((∃ k, (c.apply (.bind address mark)).1 = .bound k address) ↔ c.isBound address = false)
  /-- A dealer that never connected finds nothing exactly if the address is not bound, is told that
  it is in use exactly if it is bound and the slot empty, and connects exactly if it is filled. -/
  connects : ∀ d dealer address, c.hub.dealers[d]? = some dealer → dealer.alive = true →
    dealer.phase = .unconnected →
    ((c.apply (.connect d address)).1 = .refused (.endpointNotFound address) ↔
        c.isBound address = false) ∧
      ((c.apply (.connect d address)).1 = .refused (.endpointInUse address) ↔
        c.table.get? address = some none) ∧
      ((c.apply (.connect d address)).1 = .done ↔ ∃ k, c.table.get? address = some (some k))
  /-- Dropping a service takes out what is at the address it is bound to, and nothing else. -/
  unbinds : ∀ k address,
    (c.hub.Serves k address → (c.apply (.unbind k)).2.table.get? address = none) ∧
      (¬ c.hub.Serves k address →
        (c.apply (.unbind k)).2.table.get? address = c.table.get? address)

/-- **The address table and the links tell the same story.** Whatever is done with a context, its
hub comes to be the hub that goes by its links, and all the answers are the same. At every point of
every history the table is `Orderly`: which addresses are in it, which slots are filled, who can
bind and connect and what is dropped are as the services and dealers that there are require. And no
messages pass but between a service and the one dealer that took what it had put in the table,
however often the address is bound again. -/
theorem orderly_run (operations : List Operation) :
    (run {} operations).hub = ({} : Hub).run operations ∧
      answers {} operations = ({} : Hub).answers operations ∧
      Orderly (({} : Hub).past operations) (run {} operations) ∧
      Separate (({} : Hub).past operations) := by
  obtain ⟨hhub, hanswers, hlists⟩ := lists_empty.run operations
  have hph : Past.LeadsTo (({} : Hub).past operations) (run {} operations).hub :=
    ⟨operations, rfl, hhub⟩
  refine ⟨hhub, hanswers, ?_, (Separated.of_leadsTo hph).separate⟩
  generalize hc : run {} operations = c at hhub hlists hph
  exact {
    bound _ := hlists.isBound_iff
    free _ := isBound_eq_false_iff.trans hlists.get?_eq_none_iff
    origin _ _ := exists_binds_of_serves hph
    tenure before m after k address hp hm hk := by
      rw [hhub] at hk
      obtain ⟨taker, hs, hcomers⟩ := standing?_of_binds lists_empty.distinct hp hm hk
      rw [← hhub] at hs
      rw [hlists.entry hs rfl, hcomers]
      rcases taker with - | d <;> simp [Standing.slot]
    between _ _ _ _ _ _ _ _ hp hm hm' := exists_rebind lists_empty.distinct hp hm hm'
    binds address mark hfits := by
      rw [apply_bind address hfits]
      rcases c.isBound address with - | - <;> simp
    connects d dealer address hd halive hphase := by
      rw [apply_connect hd halive hphase, isBound_eq_false_iff]
      rcases c.table.get? address with - | - | k <;> simp
    unbinds := get?_unbind c }

/-- A service is dropped while its dealer and a sender are still there, and its address is bound
again: the sender's message reaches neither service, and a second dealer takes the new link. -/
example :
    let operations : List Operation :=
      [.bind "a" 1, .create, .connect 0 "a", .retain 0, .unbind 0, .bind "a" 1, .send 0 [[1]],
        .create, .connect 0 "a", .connect 1 "a", .send 1 [[2]], .tryCollect 1, .tryCollect 1]
    let c := run {} operations
    c.hub.Serves 1 "a" ∧ c.table.get? "a" = some none ∧
      answers {} operations =
        [.bound 0 "a", .created 0, .done, .done, .done, .bound 1 "a", .done, .created 1,
          .refused .alreadyConnected, .done, .done, .message [[2]], .nothing] :=
  ⟨⟨_, rfl, rfl, rfl⟩, by decide⟩

end Context

end Hub

end QueryDispatch
