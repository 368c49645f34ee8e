import QueryDispatch.Proofs.Hub.Effect

/-!
# The part of a hub that concerns one address

Take the links of one address out of a hub, and of its dealers those that connect there: what is
left is a hub of its own (`part`). Links are counted anew in it; dealers keep their numbers, and
those left out are as new.

Whatever one of those dealers does, or a service bound at the address, it does to the part as it
does to the hub (`poll_part` and its like). This rests on dealers being connected only to links of
the address they go to (`Parted`).
-/

namespace QueryDispatch

/-! ### Counting anew -/

section Rank

variable {α : Type} {p q : α → Bool} {xs ys : List α} {i j : Nat} {x y : α} {f : α → α}

/-- The number of an element among those that meet a condition. -/
def rank (p : α → Bool) (xs : List α) (i : Nat) : Nat := (xs.take i).countP p

theorem rank_cons_succ (p : α → Bool) (x : α) (xs : List α) (i : Nat) :
    rank p (x :: xs) (i + 1) = rank p xs i + if p x then 1 else 0 := by
  rw [rank, List.take_succ_cons, List.countP_cons]
  rfl

/-- What satisfies the condition stands in the filtered list at its rank. -/
theorem getElem?_filter_rank (hx : xs[i]? = some x) (hp : p x = true) :
    (xs.filter p)[rank p xs i]? = some x := by
  induction xs generalizing i with
  | nil => cases hx
  | cons first rest ih =>
    rcases i with - | i
    · obtain rfl := Option.some.inj hx
      rw [List.filter_cons_of_pos hp]
      rfl
    · rw [rank_cons_succ, List.filter_cons]
      split
      · exact ih hx
      · exact ih hx

/-- Those that meet the condition keep their order. -/
theorem eq_of_rank_eq (hx : xs[i]? = some x) (hpx : p x = true) (hy : xs[j]? = some y)
    (hpy : p y = true) (h : rank p xs i = rank p xs j) : i = j := by
  induction xs generalizing i j with
  | nil => cases hx
  | cons first rest ih =>
    rcases i with - | i <;> rcases j with - | j
    · rfl
    · obtain rfl := Option.some.inj hx
      rw [rank_cons_succ, if_pos hpx] at h
      cases h
    · obtain rfl := Option.some.inj hy
      rw [rank_cons_succ, if_pos hpy] at h
      cases h
    · rw [rank_cons_succ, rank_cons_succ] at h
      rw [ih hx hy (Nat.add_right_cancel h)]

/-- The rank depends on what comes before only. -/
theorem rank_append (h : i ≤ xs.length) : rank p (xs ++ ys) i = rank p xs i := by
  rw [rank, List.take_append_of_le_length h]
  rfl

/-- The rank of the end is the length of the filtered list. -/
theorem rank_length (p : α → Bool) (xs : List α) : rank p xs xs.length = (xs.filter p).length := by
  rw [rank, List.take_length, List.countP_eq_length_filter]

/-- A change that leaves the condition alone. -/
theorem rank_modify (hf : ∀ x, p (f x) = p x) (j i : Nat) :
    rank p (xs.modify j f) i = rank p xs i := by
  induction xs generalizing i j with
  | nil => rw [List.modify_nil]
  | cons first rest ih =>
    rcases i with - | i
    · rfl
    · rcases j with - | j
      · rw [List.modify_zero_cons, rank_cons_succ, rank_cons_succ, hf]
      · rw [List.modify_succ_cons, rank_cons_succ, rank_cons_succ, ih]

/-- A change to an element that is kept is a change at its rank. -/
theorem filter_modify (hx : xs[i]? = some x) (hp : p x = true) (hf : ∀ x, p (f x) = p x) :
    (xs.modify i f).filter p = (xs.filter p).modify (rank p xs i) f := by
  induction xs generalizing i with
  | nil => cases hx
  | cons first rest ih =>
    rcases i with - | i
    · obtain rfl := Option.some.inj hx
      have hp' : p (f first) = true := (hf first).trans hp
      rw [List.modify_zero_cons, List.filter_cons_of_pos hp, List.filter_cons_of_pos hp']
      rfl
    · rw [List.modify_succ_cons, rank_cons_succ, List.filter_cons, List.filter_cons]
      split
      · rw [ih hx]
        rfl
      · exact ih hx

/-- A change to an element that is not kept does not show. -/
theorem filter_modify_of_neg (hx : xs[i]? = some x) (hp : p x = false) (hf : ∀ x, p (f x) = p x) :
    (xs.modify i f).filter p = xs.filter p := by
  induction xs generalizing i with
  | nil => cases hx
  | cons first rest ih =>
    rcases i with - | i
    · obtain rfl := Option.some.inj hx
      have hp' : p (f first) = false := (hf first).trans hp
      rw [List.modify_zero_cons, List.filter_cons_of_neg (ne_true_of_eq_false hp),
        List.filter_cons_of_neg (ne_true_of_eq_false hp')]
    · rw [List.modify_succ_cons, List.filter_cons, List.filter_cons, ih hx]

theorem filter_concat_of_pos (hp : p x = true) (xs : List α) :
    (xs ++ [x]).filter p = xs.filter p ++ [x] := by
  rw [List.filter_append, List.filter_cons_of_pos hp]
  rfl

theorem filter_concat_of_neg (hp : p x = false) (xs : List α) :
    (xs ++ [x]).filter p = xs.filter p := by
  rw [List.filter_append, List.filter_cons_of_neg (ne_true_of_eq_false hp)]
  exact List.append_nil _

/-- The first element is found at its rank. -/
theorem findIdx?_filter (hqp : ∀ x, q x = true → p x = true) (xs : List α) :
    (xs.filter p).findIdx? q = (xs.findIdx? q).map (rank p xs) := by
  induction xs with
  | nil => rfl
  | cons first rest ih =>
    rcases hq : q first with - | -
    · have hrank : (rank p (first :: rest) ∘ fun i ↦ i + 1) =
          fun i ↦ rank p rest i + if p first then 1 else 0 :=
        funext fun i ↦ rank_cons_succ p first rest i
      rw [List.findIdx?_cons, hq, List.filter_cons]
      simp only [Bool.false_eq_true, if_false, Option.map_map, hrank]
      split
      · rw [List.findIdx?_cons, hq, ih]
        simp [Option.map_map, Function.comp_def]
      · rw [ih]
        rfl
    · rw [List.filter_cons_of_pos (hqp first hq), List.findIdx?_cons, List.findIdx?_cons, hq]
      rfl

end Rank

/-- The state of a dealer where links are counted another way. -/
def Phase.renumber (f : Nat → Nat) : Phase → Phase
  | .unconnected => .unconnected
  | .connected k => .connected (f k)
  | .closed => .closed

/-- The dealer with the link it goes by renumbered. -/
def Dealer.renumber (f : Nat → Nat) (dealer : Dealer) : Dealer :=
  { dealer with phase := dealer.phase.renumber f, inbound := dealer.inbound.map f }

namespace Hub

/-- Whether a link is one of an address. -/
def isAt (a : String) (l : Link) : Bool := l.address == a

/-- The number that a link has among those of an address. -/
def number (a : String) (h : Hub) (k : Nat) : Nat := rank (isAt a) h.links k

/-- The links of one address, and the dealers that go there. -/
def part (a : String) (mine : Nat → Bool) (h : Hub) : Hub where
  links := h.links.filter (isAt a)
  dealers := h.dealers.mapIdx fun d dealer ↦ if mine d then dealer.renumber (h.number a) else {}

/-- Links and dealers agree, and the links of the address are taken by the dealers that go there. -/
structure Parted (a : String) (mine : Nat → Bool) (h : Hub) : Prop where
  coherent : h.Coherent
  takers : ∀ {k d : Nat} {l : Link}, h.links[k]? = some l → l.taker = some d →
    isAt a l = mine d

/-- A hub is its links and its dealers. -/
theorem eq_of_lists {h h' : Hub} (hlinks : h.links = h'.links) (hdealers : h.dealers = h'.dealers) :
    h = h' := by
  obtain ⟨links, dealers⟩ := h
  obtain rfl : links = h'.links := hlinks
  obtain rfl : dealers = h'.dealers := hdealers
  rfl

/-! ### Reading the part -/

section Reading

variable {a : String} {mine : Nat → Bool} {h : Hub} {k d : Nat} {l : Link} {dealer : Dealer}
  {f : Link → Link}

theorem dealers_part (d : Nat) :
    (h.part a mine).dealers[d]? =
      h.dealers[d]?.map fun dealer ↦ if mine d then dealer.renumber (h.number a) else {} := by
  rw [part, List.getElem?_mapIdx]

/-- A dealer of the channel is in the part under its number. -/
theorem dealers_part_of_mine (hd : mine d = true) :
    (h.part a mine).dealers[d]? = h.dealers[d]?.map (·.renumber (h.number a)) := by
  rw [dealers_part]
  simp only [hd, if_true]

/-- A link of the channel is in the part under its rank. -/
theorem links_part (hl : h.links[k]? = some l) (ha : isAt a l = true) :
    (h.part a mine).links[h.number a k]? = some l := getElem?_filter_rank hl ha

/-- The link that a dealer receives from is one of the address it goes to. -/
theorem Parted.link_of_inbound (hp : h.Parted a mine) (hd : h.dealers[d]? = some dealer)
    (hk : dealer.inbound = some k) : ∃ l, h.links[k]? = some l ∧ isAt a l = mine d := by
  obtain ⟨l, hl, htaker⟩ := hp.coherent.taker_of_connected hd
    (hp.coherent.connected_of_inbound hd hk)
  exact ⟨l, hl, hp.takers hl htaker⟩

/-- A dealer of the channel, and no other, is connected to one of its links. -/
theorem Parted.link_of_connected (hp : h.Parted a mine) (hd : h.dealers[d]? = some dealer)
    (hk : dealer.phase = .connected k) : ∃ l, h.links[k]? = some l ∧ isAt a l = mine d := by
  obtain ⟨l, hl, htaker⟩ := hp.coherent.taker_of_connected hd hk
  exact ⟨l, hl, hp.takers hl htaker⟩

/-! ### Changing the part -/

theorem number_updateLink (hf : ∀ l, (f l).address = l.address) (k : Nat) :
    (h.updateLink k f).number a = h.number a := by
  funext j
  exact rank_modify (fun l ↦ by rw [isAt, isAt, hf]) k j

/-- To update a link of the channel in the part is to take the part of what comes of it. -/
theorem updateLink_part (hl : h.links[k]? = some l) (ha : isAt a l = true)
    (hf : ∀ l, (f l).address = l.address) :
    (h.part a mine).updateLink (h.number a k) f = (h.updateLink k f).part a mine := by
  have hlinks : (h.links.filter (isAt a)).modify (h.number a k) f =
      (h.links.modify k f).filter (isAt a) :=
    (filter_modify hl ha fun l ↦ by rw [isAt, isAt, hf]).symm
  rw [part, part, number_updateLink hf]
  exact congrArg (Hub.mk · _) hlinks

/-- An update of a link of another address is not seen in the part. -/
theorem part_updateLink_of_ne (hl : h.links[k]? = some l) (ha : isAt a l = false)
    (hf : ∀ l, (f l).address = l.address) : (h.updateLink k f).part a mine = h.part a mine := by
  have hlinks : (h.links.modify k f).filter (isAt a) = h.links.filter (isAt a) :=
    filter_modify_of_neg hl ha fun l ↦ by rw [isAt, isAt, hf]
  rw [part, number_updateLink hf]
  exact congrArg (Hub.mk · _) hlinks

/-- To update a dealer of the channel in the part is to take the part of what comes of it. -/
theorem updateDealer_part (hd : mine d = true) {f f' : Dealer → Dealer}
    (hf : ∀ dealer, f' (dealer.renumber (h.number a)) = (f dealer).renumber (h.number a)) :
    (h.part a mine).updateDealer d f' = (h.updateDealer d f).part a mine := by
  have hdealers : ((h.part a mine).updateDealer d f').dealers =
      ((h.updateDealer d f).part a mine).dealers := by
    refine List.ext_getElem? fun e ↦ ?_
    rw [dealers_part, getElem?_updateDealer, getElem?_updateDealer, dealers_part, Option.map_map,
      Option.map_map]
    congr 1
    funext dealer
    show (if d = e then f' (if mine e then dealer.renumber (h.number a) else {})
        else if mine e then dealer.renumber (h.number a) else {}) =
      if mine e then (if d = e then f dealer else dealer).renumber (h.number a) else {}
    by_cases hde : d = e
    · subst hde
      rw [if_pos hd, if_pos rfl, if_pos rfl, if_pos hd, hf]
    · rw [if_neg hde, if_neg hde]
  exact congrArg (Hub.mk (h.links.filter (isAt a))) hdealers

/-- An update of another dealer is not seen in the part. -/
theorem part_updateDealer_of_not_mine (hd : mine d = false) (f : Dealer → Dealer) :
    (h.updateDealer d f).part a mine = h.part a mine := by
  have hdealers : ((h.updateDealer d f).part a mine).dealers = (h.part a mine).dealers := by
    refine List.ext_getElem? fun e ↦ ?_
    rw [dealers_part, getElem?_updateDealer, dealers_part, Option.map_map]
    congr 1
    funext dealer
    show (if mine e then (if d = e then f dealer else dealer).renumber (h.number a) else {}) = _
    by_cases hde : d = e
    · subst hde
      rw [hd, if_neg Bool.false_ne_true, if_neg Bool.false_ne_true]
    · rw [if_neg hde]
  exact congrArg (Hub.mk (h.links.filter (isAt a))) hdealers

end Reading

/-! ### What the dealers of the part do -/

section Mine

variable {a : String} {mine : Nat → Bool} {h : Hub} {d : Nat}

/-- To abandon requests in the part is to take the part of what comes of it. -/
theorem abandonRequests_part (hp : h.Parted a mine) {dealer : Dealer}
    (hdealer : h.dealers[d]? = some dealer) (hd : mine d = true) :
    (h.part a mine).abandonRequests (dealer.renumber (h.number a)) =
      (h.abandonRequests dealer).part a mine := by
  rw [abandonRequests, abandonRequests]
  rcases hinbound : dealer.inbound with - | k
  · simp only [Dealer.renumber, hinbound, Option.map_none]
  · obtain ⟨l, hl, ha⟩ := hp.link_of_inbound hdealer hinbound
    simp only [Dealer.renumber, hinbound, Option.map_some]
    exact updateLink_part hl (ha.trans hd) fun _ ↦ rfl

theorem dropDealer_part (hp : h.Parted a mine) (hd : mine d = true) :
    (h.part a mine).dropDealer d = (h.dropDealer d).part a mine := by
  rw [dropDealer, dropDealer, dealers_part_of_mine hd]
  rcases hdealer : h.dealers[d]? with - | dealer
  · rfl
  · simp only [Option.map_some]
    rw [abandonRequests_part hp hdealer hd]
    exact updateDealer_part hd fun _ ↦ rfl

theorem retain_part (hd : mine d = true) :
    (h.part a mine).retain d = (h.retain d).part a mine :=
  updateDealer_part hd fun _ ↦ rfl

theorem release_part (hd : mine d = true) :
    (h.part a mine).release d = (h.release d).part a mine :=
  updateDealer_part hd fun _ ↦ rfl

/-- A live service of the address is found in the part where it is found in the hub. -/
theorem bound?_part : (h.part a mine).bound? a = (h.bound? a).map (h.number a) := by
  refine findIdx?_filter (fun l hl ↦ ?_) h.links
  exact (Bool.and_eq_true_iff.1 hl).2

/-- To connect gives the same answer in the part. -/
theorem connect_part (hd : mine d = true) :
    (h.part a mine).connect d a = ((h.connect d a).1, (h.connect d a).2.part a mine) := by
  rw [connect, connect, dealers_part_of_mine hd]
  rcases hdealer : h.dealers[d]? with - | dealer
  · rfl
  · have hphase : (dealer.renumber (h.number a)).phase ≠ .unconnected ↔
        dealer.phase ≠ .unconnected := by
      rcases hphase : dealer.phase with - | k | - <;>
        simp [Dealer.renumber, hphase, Phase.renumber]
    simp only [Option.map_some, hphase, bound?_part]
    split
    · rfl
    · rcases hbound : h.bound? a with - | k
      · rfl
      · obtain ⟨hlength, hmatch, -⟩ := List.findIdx?_eq_some_iff_getElem.1 hbound
        have hl : h.links[k]? = some h.links[k] := List.getElem?_eq_getElem hlength
        have ha : isAt a h.links[k] = true := (Bool.and_eq_true_iff.1 hmatch).2
        simp only [Option.map_some, links_part hl ha, hl]
        split
        · rfl
        · have hlink :
              (h.part a mine).updateLink (h.number a k) (fun l ↦ { l with taker := some d }) =
                (h.updateLink k fun l ↦ { l with taker := some d }).part a mine :=
            updateLink_part hl ha fun _ ↦ rfl
          have hnumber :
              (h.updateLink k fun l ↦ { l with taker := some d }).number a = h.number a := by
            refine number_updateLink ?_ k
            exact fun _ ↦ rfl
          rw [hlink, ← hnumber]
          exact congrArg (Prod.mk none) (updateDealer_part hd fun _ ↦ rfl)

/-- To poll gives the same answer in the part. -/
theorem poll_part (hp : h.Parted a mine) (hd : mine d = true) :
    (h.part a mine).poll d = ((h.poll d).1, (h.poll d).2.part a mine) := by
  rw [poll, poll, dealers_part_of_mine hd]
  rcases hdealer : h.dealers[d]? with - | dealer
  · rfl
  · simp only [Option.map_some, Dealer.renumber]
    split
    · rfl
    · rcases hinbound : dealer.inbound with - | k
      · rfl
      · obtain ⟨l, hl, ha⟩ := hp.link_of_inbound hdealer hinbound
        simp only [Option.map_some, links_part hl (ha.trans hd), hl]
        rcases l.requests with - | ⟨frames, rest⟩
        · rfl
        · have hlink :
              (h.part a mine).updateLink (h.number a k) (fun l ↦ { l with requests := rest }) =
                (h.updateLink k fun l ↦ { l with requests := rest }).part a mine :=
            updateLink_part hl (ha.trans hd) fun _ ↦ rfl
          dsimp only
          rw [hlink]
          exact congrArg (Prod.mk _) (updateDealer_part hd fun _ ↦ rfl)

/-- To receive gives the same answer in the part. -/
theorem receive_part (hp : h.Parted a mine) (hd : mine d = true) :
    (h.part a mine).receive d = ((h.receive d).1, (h.receive d).2.part a mine) := by
  rw [receive, receive, dealers_part_of_mine hd]
  rcases hdealer : h.dealers[d]? with - | dealer
  · rfl
  · simp only [Option.map_some, Dealer.renumber]
    rcases dealer.pending with - | frames
    · rcases hinbound : dealer.inbound with - | k
      · rfl
      · obtain ⟨l, hl, ha⟩ := hp.link_of_inbound hdealer hinbound
        simp only [Option.map_some, links_part hl (ha.trans hd), hl]
        rcases l.requests with - | ⟨frames, rest⟩
        · rfl
        · exact congrArg (Prod.mk (Received.message frames))
            (updateLink_part hl (ha.trans hd) fun _ ↦ rfl)
    · exact congrArg (Prod.mk (Received.message frames)) (updateDealer_part hd fun _ ↦ rfl)

/-- To disconnect gives the same answer in the part. -/
theorem disconnect_part (hp : h.Parted a mine) (hd : mine d = true) :
    (h.part a mine).disconnect d = ((h.disconnect d).1, (h.disconnect d).2.part a mine) := by
  rw [disconnect, disconnect, dealers_part_of_mine hd]
  rcases hdealer : h.dealers[d]? with - | dealer
  · rfl
  · have habandon := abandonRequests_part hp hdealer hd
    simp only [Option.map_some, habandon]
    rcases hphase : dealer.phase with - | k | -
    · simp [Dealer.renumber, hphase, Phase.renumber]
    · simp only [Dealer.renumber, hphase, Phase.renumber]
      exact congrArg (Prod.mk none) (updateDealer_part hd fun _ ↦ rfl)
    · simp [Dealer.renumber, hphase, Phase.renumber]

/-- To send gives the same answer in the part. -/
theorem send_part (hp : h.Parted a mine) (hd : mine d = true) (frames : Frames) :
    (h.part a mine).send d frames = ((h.send d frames).1, (h.send d frames).2.part a mine) := by
  rw [send, send, dealers_part_of_mine hd]
  rcases hdealer : h.dealers[d]? with - | dealer
  · rfl
  · rcases hphase : dealer.phase with - | k | -
    · simp [Dealer.renumber, hphase, Phase.renumber]
    · obtain ⟨l, hl, ha⟩ := hp.link_of_connected hdealer hphase
      simp only [Option.map_some, Dealer.renumber, hphase, Phase.renumber]
      refine congrArg (Prod.mk none) (updateLink_part hl (ha.trans hd) fun l ↦ ?_)
      split <;> rfl
    · simp [Dealer.renumber, hphase, Phase.renumber]

/-- A dealer of the channel has the same backlog in the part. -/
theorem backlog_part (hp : h.Parted a mine) (hd : mine d = true) :
    (h.part a mine).backlog d = h.backlog d := by
  rw [backlog, backlog, dealers_part_of_mine hd]
  rcases hdealer : h.dealers[d]? with - | dealer
  · rfl
  · simp only [Option.map_some, Dealer.renumber]
    rcases hinbound : dealer.inbound with - | k
    · rfl
    · obtain ⟨l, hl, ha⟩ := hp.link_of_inbound hdealer hinbound
      simp only [Option.map_some, Option.bind_some, links_part hl (ha.trans hd), hl]

end Mine

/-! ### What the services of the part do -/

section Service

variable {a : String} {mine : Nat → Bool} {h h' : Hub} {j k d : Nat} {l l' : Link}

/-- Of the links of the address, none are confused. -/
theorem number_eq_iff (hl : h.links[k]? = some l) (ha : isAt a l = true)
    (hl' : h.links[j]? = some l') (ha' : isAt a l' = true) : h.number a j = h.number a k ↔ j = k :=
  ⟨eq_of_rank_eq hl' ha' hl ha, fun hjk ↦ hjk ▸ rfl⟩

/-- A link of the channel has in the part a receiver exactly if it has one. -/
theorem hasReceiver_part (hp : h.Parted a mine) (hl : h.links[k]? = some l)
    (ha : isAt a l = true) : (h.part a mine).hasReceiver (h.number a k) l = h.hasReceiver k l := by
  rw [hasReceiver, hasReceiver]
  rcases htaker : l.taker with - | d
  · rfl
  · have hd : mine d = true := (hp.takers hl htaker).symm.trans ha
    simp only [dealers_part_of_mine hd, Option.any_map]
    rcases hdealer : h.dealers[d]? with - | dealer
    · rfl
    · simp only [Option.any_some, Dealer.renumber]
      rcases hinbound : dealer.inbound with - | j
      · rfl
      · -- whichever link the taker receives from is one of the same address
        obtain ⟨l', hl', ha'⟩ := hp.link_of_inbound hdealer hinbound
        rw [Option.map_some, Bool.eq_iff_iff, beq_iff_eq, beq_iff_eq, Option.some.injEq,
          Option.some.injEq, number_eq_iff hl ha hl' (ha'.trans hd)]

/-- A link of the channel has in the part a sender exactly if it has one. -/
theorem hasSender_part (hp : h.Parted a mine) (hl : h.links[k]? = some l)
    (ha : isAt a l = true) : (h.part a mine).hasSender (h.number a k) l = h.hasSender k l := by
  rw [hasSender, hasSender]
  rcases htaker : l.taker with - | d
  · rfl
  · have hd : mine d = true := (hp.takers hl htaker).symm.trans ha
    simp only [dealers_part_of_mine hd, Option.any_map]
    rcases hdealer : h.dealers[d]? with - | dealer
    · rfl
    · simp only [Option.any_some, Dealer.renumber]
      rcases hphase : dealer.phase with - | j | -
      · rfl
      · obtain ⟨l', hl', ha'⟩ := hp.link_of_connected hdealer hphase
        have hnumber : (Phase.connected (h.number a j) == Phase.connected (h.number a k)) =
            (Phase.connected j == Phase.connected k) := by
          rw [Bool.eq_iff_iff, beq_iff_eq, beq_iff_eq, Phase.connected.injEq, Phase.connected.injEq,
            number_eq_iff hl ha hl' (ha'.trans hd)]
        exact congrArg (· && (dealer.alive || decide (0 < dealer.senders))) hnumber
      · rfl

theorem unbind_part (hl : h.links[k]? = some l) (ha : isAt a l = true) :
    (h.part a mine).unbind (h.number a k) = (h.unbind k).part a mine :=
  updateLink_part hl ha fun _ ↦ rfl

/-- To deliver gives the same answer in the part. -/
theorem deliver_part (hp : h.Parted a mine) (hl : h.links[k]? = some l) (ha : isAt a l = true)
    (frames : Frames) :
    (h.part a mine).deliver (h.number a k) frames =
      ((h.deliver k frames).1, (h.deliver k frames).2.part a mine) := by
  rw [deliver, deliver]
  simp only [links_part hl ha, hl, hasReceiver_part hp hl ha]
  split
  · rfl
  · split
    · rfl
    · exact congrArg (Prod.mk Delivery.accepted) (updateLink_part hl ha fun _ ↦ rfl)

/-- To collect gives the same answer in the part. -/
theorem collect_part (hp : h.Parted a mine) (hl : h.links[k]? = some l) (ha : isAt a l = true) :
    (h.part a mine).collect (h.number a k) =
      ((h.collect k).1, (h.collect k).2.part a mine) := by
  rw [collect, collect]
  simp only [links_part hl ha, hl, hasSender_part hp hl ha]
  rcases l.replies with - | ⟨frames, rest⟩
  · rfl
  · exact congrArg (Prod.mk (Collected.message frames)) (updateLink_part hl ha fun _ ↦ rfl)

/-! ### What is added -/

/-- Another link does not change the numbers of those there are. -/
theorem dealers_part_append (hp : h.Parted a mine) (link : Link) :
    (part a mine { h with links := h.links ++ [link] }).dealers = (h.part a mine).dealers := by
  set h' : Hub := { h with links := h.links ++ [link] }
  -- dealers know only links that there are, and these stand before the new one
  have hnumber : ∀ {k : Nat} {l : Link}, h.links[k]? = some l → h'.number a k = h.number a k :=
    fun hl ↦ rank_append (Nat.le_of_lt (List.getElem?_eq_some_iff.1 hl).1)
  refine List.ext_getElem? fun d ↦ ?_
  rw [dealers_part, dealers_part]
  show h.dealers[d]?.map _ = _
  rcases hdealer : h.dealers[d]? with - | dealer
  · rfl
  · refine congrArg some ?_
    split
    · have hphase : dealer.phase.renumber (h'.number a) = dealer.phase.renumber (h.number a) := by
        rcases hphase : dealer.phase with - | k | -
        · rfl
        · obtain ⟨l, hl, -⟩ := hp.link_of_connected hdealer hphase
          exact congrArg Phase.connected (hnumber hl)
        · rfl
      have hinbound : dealer.inbound.map (h'.number a) = dealer.inbound.map (h.number a) := by
        rcases hinbound : dealer.inbound with - | k
        · rfl
        · obtain ⟨l, hl, -⟩ := hp.link_of_inbound hdealer hinbound
          exact congrArg some (hnumber hl)
      show Dealer.mk _ _ _ _ _ = Dealer.mk _ _ _ _ _
      rw [hphase, hinbound]
    · rfl

/-- An address is bound in its part exactly if it is bound. -/
theorem isBound_part : (h.part a mine).isBound a = h.isBound a := by
  rw [isBound, isBound, bound?_part, Option.isSome_map]

/-- A bind that is refused is refused in the part. -/
theorem bind_part_error {mark : UInt64} {e : BindError} (hbind : h.bind a mark = .error e) :
    (h.part a mine).bind a mark = .error e := by
  rw [bind, isBound_part]
  rw [bind] at hbind
  split
  · next hbound => rwa [if_pos hbound] at hbind
  · next hbound =>
    rw [if_neg hbound] at hbind
    split
    · next hlong => rwa [if_pos hlong] at hbind
    · next hlong =>
      rw [if_neg hlong] at hbind
      cases hbind

/-- A bind that succeeds does so in the part. -/
theorem bind_part (hp : h.Parted a mine) {mark : UInt64} (hbind : h.bind a mark = .ok (k, h')) :
    (h.part a mine).bind a mark = .ok (h'.number a k, h'.part a mine) := by
  obtain ⟨rfl, rfl⟩ := eq_of_bind hbind
  have hdealers := dealers_part_append hp { address := a, capacity := capacity mark }
  rw [bind] at hbind ⊢
  rw [isBound_part]
  split
  · next hbound =>
    rw [if_pos hbound] at hbind
    cases hbind
  · next hbound =>
    rw [if_neg hbound] at hbind
    split
    · next hlong =>
      rw [if_pos hlong] at hbind
      cases hbind
    · set link : Link := { address := a, capacity := capacity mark }
      have hlinks : (h.links ++ [link]).filter (isAt a) = h.links.filter (isAt a) ++ [link] :=
        filter_concat_of_pos (show isAt a link = true from beq_self_eq_true a) h.links
      refine congrArg Except.ok (Prod.ext ?_ (eq_of_lists hlinks.symm hdealers.symm))
      show (h.links.filter (isAt a)).length = rank (isAt a) (h.links ++ [link]) h.links.length
      rw [rank_append (Nat.le_refl _), rank_length]

/-- What is bound at another address is none of the part. -/
theorem part_of_bind_of_ne (hp : h.Parted a mine) {b : String} {mark : UInt64}
    (hbind : h.bind b mark = .ok (k, h')) (hba : (b == a) = false) :
    h'.part a mine = h.part a mine := by
  obtain ⟨-, rfl⟩ := eq_of_bind hbind
  set link : Link := { address := b, capacity := capacity mark }
  have hlinks : (h.links ++ [link]).filter (isAt a) = h.links.filter (isAt a) :=
    filter_concat_of_neg (show isAt a link = false from hba) h.links
  exact eq_of_lists hlinks (dealers_part_append hp link)

/-- A new dealer goes nowhere yet. -/
theorem newDealer_part {mine' : Nat → Bool} (hmine : ∀ d < h.dealers.length, mine' d = mine d) :
    (h.part a mine).newDealer = (h.newDealer.1, h.newDealer.2.part a mine') := by
  have hlength : (h.part a mine).dealers.length = h.dealers.length := List.length_mapIdx
  have hdealers : (h.part a mine).dealers ++ [({} : Dealer)] =
      (h.newDealer.2.part a mine').dealers := by
    refine List.ext_getElem? fun d ↦ ?_
    rw [dealers_part]
    show _ = (h.dealers ++ [({} : Dealer)])[d]?.map _
    rcases Nat.lt_or_ge d h.dealers.length with hlt | hge
    · rw [List.getElem?_append_left (hlength ▸ hlt), List.getElem?_append_left hlt, dealers_part,
        hmine d hlt]
      rfl
    · rw [List.getElem?_append_right (hlength ▸ hge), List.getElem?_append_right hge, hlength]
      rcases d - h.dealers.length with - | n
      · show some ({} : Dealer) = some _
        split <;> rfl
      · rfl
  exact Prod.ext hlength (eq_of_lists rfl hdealers)

end Service

end Hub

end QueryDispatch
