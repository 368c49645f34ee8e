import QueryDispatch.Proofs.Hub.Past

/-!
# Who serves an address, and who came to it

Of all that operations do, three things bear on addresses: an address is bound, a service is
dropped, and a dealer connects. What they bear on is the `Standing` of a link: its address, whether
its service lives, and its taker. `Turnover` says what an operation does to the standings, with all
the effects that leave them alone in one case, so that statements about addresses have four cases
and not one for every effect.

## Main results

* `Effect.turnover`: every operation is a turnover.
* `Distinct.of_leadsTo`: no two live services are bound at one address.
* `standing_run`: while a service lives, its link is with the only dealer that came to its address.
* `exists_change`: what holds before a list of operations and not after it, some operation ends.
-/

namespace QueryDispatch

/-- What there is to say about a link at its address. -/
structure Standing where
  address : String
  served : Bool
  taker : Option Nat

/-- How the link stands at its address. -/
def Link.standing (l : Link) : Standing := ⟨l.address, l.served, l.taker⟩

/-- What may become of a link while these dealers connect at its address. It never leaves its taker
and never comes back to life, and while it lives they are the ones that take it. -/
structure Standing.Continues (s s' : Standing) (comers : List Nat) : Prop where
  address : s'.address = s.address
  taker : ∀ d, s.taker = some d → s'.taker = some d
  live : s'.served = true → s.served = true ∧ s'.taker.toList = s.taker.toList ++ comers

namespace Standing.Continues

variable {s s' s'' : Standing} {xs ys : List Nat}

theorem refl (s : Standing) : s.Continues s [] :=
  ⟨rfl, fun _ h ↦ h, fun hserved ↦ ⟨hserved, (List.append_nil _).symm⟩⟩

theorem trans (h : s.Continues s' xs) (h' : s'.Continues s'' ys) : s.Continues s'' (xs ++ ys) where
  address := h'.address.trans h.address
  taker d hd := h'.taker d (h.taker d hd)
  live hserved := by
    obtain ⟨hserved', htaker'⟩ := h'.live hserved
    obtain ⟨hserved, htaker⟩ := h.live hserved'
    rw [htaker', htaker, List.append_assoc]
    exact ⟨hserved, rfl⟩

end Standing.Continues

namespace Hub

/-- What there is to say about a link, if it is there. -/
def standing? (h : Hub) (k : Nat) : Option Standing := h.links[k]?.map Link.standing

/-- The service lives and is bound at the address. -/
def Serves (h : Hub) (k : Nat) (address : String) : Prop :=
  ∃ l, h.links[k]? = some l ∧ l.served = true ∧ l.address = address

/-- No two live services are bound at one address. -/
def Distinct (h : Hub) : Prop :=
  ∀ (j k : Nat) (address : String), h.Serves j address → h.Serves k address → j = k

section Views

variable {h h' : Hub} {j k : Nat} {l : Link} {s : Standing} {address : String}

theorem standing?_eq_some (hl : h.links[k]? = some l) : h.standing? k = some l.standing := by
  rw [standing?, hl]
  rfl

/-- What has a standing is a link. -/
theorem exists_of_standing? (hs : h.standing? k = some s) :
    ∃ l, h.links[k]? = some l ∧ l.standing = s := Option.map_eq_some_iff.1 hs

/-- A link serves an address if and only if it stands for it. -/
theorem serves_iff : h.Serves k address ↔ ∃ taker, h.standing? k = some ⟨address, true, taker⟩ := by
  constructor
  · rintro ⟨l, hl, hserved, rfl⟩
    refine ⟨l.taker, ?_⟩
    rw [standing?_eq_some hl, Link.standing, hserved]
  · rintro ⟨taker, hs⟩
    obtain ⟨l, hl, hstanding⟩ := exists_of_standing? hs
    injection hstanding with haddress hserved _
    exact ⟨l, hl, hserved, haddress⟩

theorem serves_of_standing? (hs : h.standing? k = some s) (hserved : s.served = true) :
    h.Serves k s.address := by
  obtain ⟨address, served, taker⟩ := s
  subst hserved
  exact serves_iff.2 ⟨taker, hs⟩

/-- A link serves its own address only. -/
theorem Serves.address_eq (hk : h.Serves k address) (hs : h.standing? k = some s) :
    address = s.address := by
  obtain ⟨taker, hs'⟩ := serves_iff.1 hk
  obtain rfl := Option.some.inj (hs.symm.trans hs')
  rfl

/-- Whether a link serves depends on its standing. -/
theorem serves_congr (hstanding : h'.standing? k = h.standing? k) :
    h'.Serves k address ↔ h.Serves k address := by
  rw [serves_iff, serves_iff, hstanding]

/-- What is bound serves. -/
theorem Serves.of_bound? (hbound : h.bound? address = some k) : h.Serves k address := by
  obtain ⟨hlength, hmatch, -⟩ := List.findIdx?_eq_some_iff_getElem.1 hbound
  obtain ⟨hserved, haddress⟩ := Bool.and_eq_true_iff.1 hmatch
  exact ⟨h.links[k], List.getElem?_eq_getElem hlength, hserved, eq_of_beq haddress⟩

/-- An address is not bound if and only if no link serves it. -/
theorem bound?_eq_none_iff : h.bound? address = none ↔ ∀ k, ¬ h.Serves k address := by
  constructor
  · rintro hnone k ⟨l, hl, hserved, haddress⟩
    have hmatch := List.findIdx?_eq_none_iff.1 hnone l (List.mem_of_getElem? hl)
    rw [hserved, haddress, beq_self_eq_true] at hmatch
    cases hmatch
  · intro hnot
    rcases hbound : h.bound? address with - | k
    · rfl
    · exact absurd (Serves.of_bound? hbound) (hnot k)

theorem isBound_eq_false_iff : h.isBound address = false ↔ h.bound? address = none := by
  rw [isBound, Option.isSome_eq_false_iff, Option.isNone_iff_eq_none]

/-- At most one link serves an address. -/
theorem Distinct.eq (hd : h.Distinct) (hj : h.Serves j address) (hk : h.Serves k address) : j = k :=
  hd j k address hj hk

theorem standing?_updateLink (f : Link → Link) :
    (h.updateLink j f).standing? k =
      h.links[k]?.map fun l ↦ (if j = k then f l else l).standing := by
  rw [standing?, getElem?_updateLink, Option.map_map]
  rfl

theorem standing?_updateLink_self (hl : h.links[k]? = some l) (f : Link → Link) :
    (h.updateLink k f).standing? k = some (f l).standing :=
  standing?_eq_some (getElem?_updateLink_self hl f)

theorem standing?_updateLink_of_ne (hne : k ≠ j) (f : Link → Link) :
    (h.updateLink j f).standing? k = h.standing? k := by
  rw [standing?_updateLink]
  simp only [if_neg hne.symm]
  rfl

/-- A change of a link that does not concern its standing. -/
theorem standing?_updateLink_of_same {f : Link → Link} (hf : ∀ l, (f l).standing = l.standing) :
    (h.updateLink j f).standing? k = h.standing? k := by
  rw [standing?_updateLink, standing?]
  congr 1
  funext l
  split
  · exact hf l
  · rfl

/-- A link more, as it is made by `bind`. -/
theorem standing?_append_self (h : Hub) (l : Link) :
    Hub.standing? { h with links := h.links ++ [l] } h.links.length = some l.standing :=
  standing?_eq_some List.getElem?_concat_length

theorem standing?_append_of_ne (l : Link) (hne : k ≠ h.links.length) :
    Hub.standing? { h with links := h.links ++ [l] } k = h.standing? k := by
  simp only [standing?]
  rcases Nat.lt_or_gt_of_ne hne with hlt | hgt
  · rw [List.getElem?_append_left hlt]
  · rw [List.getElem?_eq_none (Nat.le_of_lt hgt), List.getElem?_eq_none]
    rw [List.length_append]
    exact hgt

/-- To abandon requests leaves the standing of every link. -/
theorem standing?_abandonRequests (dealer : Dealer) :
    (h.abandonRequests dealer).standing? k = h.standing? k := by
  rw [abandonRequests]
  split
  · rfl
  · exact standing?_updateLink_of_same fun _ ↦ rfl

end Views

/-! ### What one operation does -/

namespace Moment

variable (m : Moment)

/-- The address was bound, to the service with this number. -/
def Binds (k : Nat) (address : String) : Prop :=
  (∃ mark, m.operation = .bind address mark) ∧ m.answer = .bound k address

/-- The service was dropped. -/
def Drops (k : Nat) : Prop := m.operation = .unbind k ∧ m.answer = .done

/-- The dealer that connected at an address. -/
def comer? (address : String) : Option Nat :=
  match m.deed? with
  | some (.connected d at') => if at' = address then some d else none
  | _ => none

variable {m} {k : Nat} {address : String}

/-- A moment of binding is no connection. -/
theorem Binds.comer?_eq_none (hm : m.Binds k address) (other : String) : m.comer? other = none := by
  obtain ⟨h, o, a⟩ := m
  obtain ⟨⟨mark, rfl⟩, rfl⟩ := hm
  rfl

/-- A moment of dropping is no connection. -/
theorem Drops.comer?_eq_none (hm : m.Drops k) (other : String) : m.comer? other = none := by
  obtain ⟨h, o, a⟩ := m
  obtain ⟨rfl, rfl⟩ := hm
  rfl

/-- Who comes to an address connects to it. -/
theorem comer?_eq_some {d : Nat} (hm : m.comer? address = some d) :
    m.operation = .connect d address := by
  obtain ⟨h, o, a⟩ := m
  cases o with
  | connect e other =>
    cases a with
    | done =>
      have hsome : (if other = address then some e else none) = some d := hm
      split at hsome
      · next heq => rw [heq, Option.some.inj hsome]
      · cases hsome
    | _ => cases hm
  | _ => cases a <;> cases hm

end Moment

/-- The dealers that connected at an address. -/
def Past.comers (p : Past) (address : String) : List Nat := p.filterMap fun m ↦ m.comer? address

theorem Past.comers_cons (m : Moment) (p : Past) (address : String) :
    comers (m :: p) address = (m.comer? address).toList ++ p.comers address := by
  rw [comers, List.filterMap_cons]
  rcases m.comer? address with - | d <;> rfl

/-- What an operation may do to the standings: nothing, or one of three things to one link. -/
inductive Turnover (m : Moment) (h' : Hub) : Prop where
  | rests (hrest : ∀ j, h'.standing? j = m.hub.standing? j)
      (hcomer : ∀ address, m.comer? address = none)
  | binds {k : Nat} {address : String} (hm : m.Binds k address)
      (hfree : m.hub.bound? address = none) (hk : m.hub.standing? k = none)
      (hk' : h'.standing? k = some ⟨address, true, none⟩)
      (hrest : ∀ j, j ≠ k → h'.standing? j = m.hub.standing? j)
  | drops {k : Nat} {address : String} {taker : Option Nat} (hm : m.Drops k)
      (hk : m.hub.standing? k = some ⟨address, true, taker⟩)
      (hk' : h'.standing? k = some ⟨address, false, taker⟩)
      (hrest : ∀ j, j ≠ k → h'.standing? j = m.hub.standing? j)
  | connects {d k : Nat} {address : String}
      (hm : ∀ other, m.comer? other = if address = other then some d else none)
      (hk : m.hub.standing? k = some ⟨address, true, none⟩)
      (hk' : h'.standing? k = some ⟨address, true, some d⟩)
      (hrest : ∀ j, j ≠ k → h'.standing? j = m.hub.standing? j)

/-- **Every operation is a turnover.** -/
theorem Effect.turnover {h h' : Hub} {o : Operation} {a : Answer} (he : Effect h o a h') :
    Turnover ⟨h, o, a⟩ h' := by
  cases he with
  | fails ho =>
    refine .rests (fun _ ↦ rfl) fun address ↦ ?_
    rw [Moment.comer?, Moment.deed?_of_fails ho]
  | finds | creates | receivesKept | retains | releases =>
    exact .rests (fun _ ↦ rfl) fun _ ↦ rfl
  | @binds address mark hfree =>
    refine .binds (k := h.links.length) ⟨⟨mark, rfl⟩, rfl⟩ (isBound_eq_false_iff.1 hfree) ?_
      (h.standing?_append_self _) fun j hj ↦ standing?_append_of_ne _ hj
    rw [standing?, List.getElem?_eq_none (Nat.le_refl _)]
    rfl
  | @unbinds k l hl hserved =>
    have hk : h.standing? k = some ⟨l.address, true, l.taker⟩ := by
      rw [standing?_eq_some hl, Link.standing, hserved]
    exact .drops ⟨rfl, rfl⟩ hk (standing?_updateLink_self hl _)
      fun j hj ↦ standing?_updateLink_of_ne hj _
  | delivers | receives =>
    exact .rests (fun _ ↦ standing?_updateLink_of_same fun _ ↦ rfl) fun _ ↦ rfl
  | collects ho =>
    refine .rests (fun _ ↦ standing?_updateLink_of_same fun _ ↦ rfl) fun _ ↦ ?_
    rcases ho with rfl | rfl <;> rfl
  | keepsAside =>
    exact .rests (fun _ ↦ standing?_updateLink_of_same (h := h) fun _ ↦ rfl) fun _ ↦ rfl
  | drops | disconnects =>
    exact .rests (fun _ ↦ standing?_abandonRequests (h := h) _) fun _ ↦ rfl
  | @connects d k address dealer l _ _ _ hbound hl htaker =>
    obtain ⟨l', hl', hserved, haddress⟩ := Serves.of_bound? hbound
    obtain rfl := Option.some.inj (hl.symm.trans hl')
    have hk : h.standing? k = some ⟨address, true, none⟩ := by
      rw [standing?_eq_some hl, Link.standing, hserved, haddress, htaker]
    refine .connects (fun _ ↦ rfl) hk ?_ fun j hj ↦ standing?_updateLink_of_ne (h := h) hj _
    refine (standing?_updateLink_self hl _).trans ?_
    rw [Link.standing, hserved, haddress]
  | sends =>
    refine .rests (fun _ ↦ standing?_updateLink_of_same fun _ ↦ ?_) fun _ ↦ rfl
    split <;> rfl

/-- A link that is bound is there for a dealer to take. -/
theorem Effect.standing?_of_binds {h h' : Hub} {o : Operation} {a : Answer} (he : Effect h o a h')
    {k : Nat} {address : String} (hm : Moment.Binds ⟨h, o, a⟩ k address) :
    h'.standing? k = some ⟨address, true, none⟩ := by
  obtain ⟨⟨mark, hoperation⟩, hanswer⟩ := hm
  dsimp only at hoperation hanswer
  subst hoperation hanswer
  cases he with
  | fails ho => cases ho
  | binds => exact h.standing?_append_self _

namespace Turnover

variable {m : Moment} {h' : Hub} {k : Nat} {address : String}

/-- A service that lives lived before, or was bound just now, when none lived at its address. -/
theorem serves_before (ht : Turnover m h') (hk : h'.Serves k address) :
    m.hub.Serves k address ∨ m.Binds k address ∧ m.hub.bound? address = none := by
  obtain ⟨taker, hs⟩ := serves_iff.1 hk
  cases ht with
  | rests hrest => exact .inl ((serves_congr (hrest k)).1 hk)
  | @binds j other hm hfree _ hj' hrest =>
    by_cases hkj : k = j
    · subst hkj
      obtain rfl := hk.address_eq hj'
      exact .inr ⟨hm, hfree⟩
    · exact .inl ((serves_congr (hrest k hkj)).1 hk)
  | @drops j other _ _ _ hj' hrest =>
    by_cases hkj : k = j
    · subst hkj
      cases hs.symm.trans hj'
    · exact .inl ((serves_congr (hrest k hkj)).1 hk)
  | @connects d j other _ hj hj' hrest =>
    by_cases hkj : k = j
    · subst hkj
      obtain rfl := hk.address_eq hj'
      exact .inl (serves_iff.2 ⟨none, hj⟩)
    · exact .inl ((serves_congr (hrest k hkj)).1 hk)

/-- A service that lives goes on living, unless it is dropped. -/
theorem serves_after (ht : Turnover m h') (hk : m.hub.Serves k address) :
    h'.Serves k address ∨ m.Drops k := by
  obtain ⟨taker, hs⟩ := serves_iff.1 hk
  cases ht with
  | rests hrest => exact .inl ((serves_congr (hrest k)).2 hk)
  | @binds j _ _ _ hj _ hrest =>
    have hkj : k ≠ j := by
      rintro rfl
      cases hs.symm.trans hj
    exact .inl ((serves_congr (hrest k hkj)).2 hk)
  | @drops j _ _ hm _ _ hrest =>
    by_cases hkj : k = j
    · exact .inr (hkj ▸ hm)
    · exact .inl ((serves_congr (hrest k hkj)).2 hk)
  | @connects d j other _ hj hj' hrest =>
    by_cases hkj : k = j
    · subst hkj
      obtain rfl := hk.address_eq hj
      exact .inl (serves_iff.2 ⟨some d, hj'⟩)
    · exact .inl ((serves_congr (hrest k hkj)).2 hk)

/-- Whoever comes to an address takes the link that is there. -/
theorem of_comer (ht : Turnover m h') {d : Nat} (hm : m.comer? address = some d) :
    ∃ k, m.hub.standing? k = some ⟨address, true, none⟩ ∧
      h'.standing? k = some ⟨address, true, some d⟩ := by
  cases ht with
  | rests _ hcomer => cases (hcomer address).symm.trans hm
  | binds hbinds => cases (hbinds.comer?_eq_none address).symm.trans hm
  | drops hdrops => cases (hdrops.comer?_eq_none address).symm.trans hm
  | @connects e k other hcomer hk hk' =>
    have hsome := (hcomer address).symm.trans hm
    split at hsome
    · next heq =>
      subst heq
      obtain rfl := Option.some.inj hsome
      exact ⟨k, hk, hk'⟩
    · cases hsome

/-- Whatever else is done changes no standing. -/
theorem standing?_eq (ht : Turnover m h') (hbind : ∀ address mark, m.operation ≠ .bind address mark)
    (hunbind : ∀ k, m.operation ≠ .unbind k)
    (hconnect : ∀ d address, m.operation ≠ .connect d address) (j : Nat) :
    h'.standing? j = m.hub.standing? j := by
  cases ht with
  | rests hrest => exact hrest j
  | binds hm =>
    obtain ⟨⟨mark, hoperation⟩, -⟩ := hm
    exact absurd hoperation (hbind _ mark)
  | drops hm => exact absurd hm.1 (hunbind _)
  | @connects d _ address hm =>
    exact absurd (Moment.comer?_eq_some ((hm address).trans (if_pos rfl))) (hconnect d address)

/-- A turnover leaves at most one link for an address. -/
theorem distinct (ht : Turnover m h') (hd : m.hub.Distinct) : h'.Distinct := by
  intro i j address hi hj
  rcases ht.serves_before hi with hi | ⟨⟨-, hi⟩, hfree⟩
  · rcases ht.serves_before hj with hj | ⟨-, hfree⟩
    · exact hd.eq hi hj
    · exact absurd hi (bound?_eq_none_iff.1 hfree i)
  · rcases ht.serves_before hj with hj | ⟨⟨-, hj⟩, -⟩
    · exact absurd hj (bound?_eq_none_iff.1 hfree j)
    · exact (Answer.bound.inj (hi.symm.trans hj)).1

/-- Every link continues, and no one comes to a live service but at its own address. -/
theorem standing (ht : Turnover m h') (hd : m.hub.Distinct) {s : Standing}
    (hs : m.hub.standing? k = some s) :
    ∃ s', h'.standing? k = some s' ∧ s.Continues s' (m.comer? s.address).toList := by
  have hsame : m.comer? s.address = none → h'.standing? k = m.hub.standing? k →
      ∃ s', h'.standing? k = some s' ∧ s.Continues s' (m.comer? s.address).toList :=
    fun hcomer hk ↦ ⟨s, hk.trans hs, hcomer ▸ .refl s⟩
  cases ht with
  | rests hrest hcomer => exact hsame (hcomer _) (hrest k)
  | @binds j _ hm _ hj _ hrest =>
    refine hsame (hm.comer?_eq_none _) (hrest k ?_)
    rintro rfl
    cases hs.symm.trans hj
  | @drops j address taker hm hj hj' hrest =>
    by_cases hkj : k = j
    · subst hkj
      obtain rfl := Option.some.inj (hs.symm.trans hj)
      exact ⟨_, hj', rfl, fun _ h ↦ h, fun hserved ↦ nomatch hserved⟩
    · exact hsame (hm.comer?_eq_none _) (hrest k hkj)
  | @connects d j address hm hj hj' hrest =>
    by_cases hkj : k = j
    · subst hkj
      obtain rfl := Option.some.inj (hs.symm.trans hj)
      refine ⟨_, hj', rfl, ?_, fun _ ↦ ⟨rfl, ?_⟩⟩
      · intro _ hnone
        cases hnone
      · rw [hm, if_pos rfl]
        rfl
    · rcases hserved : s.served with - | -
      · refine ⟨s, (hrest k hkj).trans hs, rfl, fun _ h ↦ h, fun h ↦ ?_⟩
        rw [hserved] at h
        cases h
      · -- whoever comes to this address comes to the live service there, and that is another
        refine hsame ?_ (hrest k hkj)
        rw [hm, if_neg]
        rintro rfl
        exact hkj (hd.eq (serves_of_standing? hs hserved) (serves_iff.2 ⟨none, hj⟩))

end Turnover

/-- At most one link serves an address in every state that can be reached. -/
theorem Distinct.of_leadsTo {p : Past} {h : Hub} (hph : p.LeadsTo h) : h.Distinct := by
  refine hph.induction (P := fun _ h ↦ h.Distinct) ?_ fun he hd ↦ he.turnover.distinct hd
  rintro j k address ⟨l, hl, -⟩
  cases hl

/-! ### What a list of operations does -/

section Run

variable {h : Hub} {k : Nat} {s : Standing}

theorem past_append (h : Hub) (xs ys : List Operation) :
    h.past (xs ++ ys) = h.past xs ++ (h.run xs).past ys := by
  induction xs generalizing h with
  | nil => rfl
  | cons o rest ih =>
    rw [List.cons_append, past, ih]
    rfl

/-- A moment of the past is of an operation of the list, between those before and those after it. -/
theorem past_eq_append_cons {operations : List Operation} {before after : Past} {m : Moment}
    (hp : h.past operations = before ++ m :: after) :
    ∃ xs o ys, operations = xs ++ o :: ys ∧ before = h.past xs ∧
      m = ⟨h.run xs, o, ((h.run xs).apply o).1⟩ ∧ after = ((h.run xs).apply o).2.past ys := by
  induction before generalizing h operations with
  | nil =>
    rcases operations with - | ⟨o, rest⟩
    · cases hp
    · obtain ⟨hm, hafter⟩ := List.cons.inj hp
      exact ⟨[], o, rest, rfl, rfl, hm.symm, hafter.symm⟩
  | cons first before ih =>
    rcases operations with - | ⟨o, rest⟩
    · cases hp
    · obtain ⟨hfirst, hrest⟩ := List.cons.inj hp
      obtain ⟨xs, o', ys, rfl, rfl, hm, hafter⟩ := ih hrest
      exact ⟨o :: xs, o', ys, rfl, by rw [past, hfirst], hm, hafter⟩

/-- **What holds before a list of operations and not after it, one of them ends.** -/
theorem exists_change {P : Hub → Prop} {operations : List Operation} (hbefore : P h)
    (hafter : ¬ P (h.run operations)) :
    ∃ xs o ys, operations = xs ++ o :: ys ∧ P (h.run xs) ∧ ¬ P ((h.run xs).apply o).2 := by
  induction operations generalizing h with
  | nil => exact absurd hbefore hafter
  | cons o rest ih =>
    by_cases hP : P (h.apply o).2
    · obtain ⟨xs, o', ys, rfl, hx, hy⟩ := ih hP hafter
      exact ⟨o :: xs, o', ys, rfl, hx, hy⟩
    · exact ⟨[], o, rest, rfl, hbefore, hP⟩

/-- A run leaves at most one link for an address. -/
theorem Distinct.run (hd : h.Distinct) (operations : List Operation) :
    (h.run operations).Distinct := by
  induction operations generalizing h with
  | nil => exact hd
  | cons o rest ih => exact ih ((h.effect_apply o).turnover.distinct hd)

/-- **While a service lives, its link is with whoever came to its address.** -/
theorem standing_run (hd : h.Distinct) (hs : h.standing? k = some s) (operations : List Operation) :
    ∃ s', (h.run operations).standing? k = some s' ∧
      s.Continues s' ((h.past operations).comers s.address) := by
  induction operations generalizing h s with
  | nil => exact ⟨s, hs, .refl s⟩
  | cons o rest ih =>
    have ht := (h.effect_apply o).turnover
    obtain ⟨s₁, hs₁, hfirst⟩ := ht.standing hd hs
    obtain ⟨s₂, hs₂, hrest⟩ := ih (ht.distinct hd) hs₁
    rw [hfirst.address] at hrest
    refine ⟨s₂, hs₂, ?_⟩
    rw [past, Past.comers_cons]
    exact hfirst.trans hrest

end Run

end QueryDispatch.Hub
