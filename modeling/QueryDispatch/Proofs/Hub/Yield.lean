import QueryDispatch.Proofs.Hub.Effect

/-!
# What a service gets, and who can still add to it

Replies come to a service through the dealer that took its link, and only while that dealer is
connected. `Yields` is the account of one link from one hub to a later one: what the service
collected in between, what was added, and that nothing was if the dealer had closed before. Accounts
are put together by `Yields.trans`, whoever did what in between.

Most of what a dealer does leaves all phases alone and all that a service could notice of its link;
such changes are `Still`.
-/

namespace QueryDispatch

/-- What a service could notice of its link. -/
def Link.face (l : Link) : Bool × Option Nat × List Frames := (l.served, l.taker, l.replies)

namespace Hub

/-- The state that a dealer shares with its senders, if it is there. -/
def phase? (h : Hub) (d : Nat) : Option Phase := h.dealers[d]?.map Dealer.phase

/-- The phase of a dealer is its own. -/
theorem phase?_of_getElem? {h : Hub} {d : Nat} {dealer : Dealer}
    (hd : h.dealers[d]? = some dealer) : h.phase? d = some dealer.phase := by
  rw [phase?, hd]
  rfl

theorem exists_of_phase? {h : Hub} {d : Nat} {phase : Phase} (hphase : h.phase? d = some phase) :
    ∃ dealer, h.dealers[d]? = some dealer ∧ dealer.phase = phase :=
  Option.map_eq_some_iff.1 hphase

/-- What the service of a link could notice of it, if it is there. -/
def face? (h : Hub) (k : Nat) : Option (Bool × Option Nat × List Frames) :=
  h.links[k]?.map Link.face

/-- The message that was found, if one was. -/
def Collected.message? : Collected → Option Frames
  | .message frames => some frames
  | .waiting | .closed => none

/-! ### Changes that services do not notice -/

/-- No dealer connects or disconnects, and no service could notice a change. -/
structure Still (h h' : Hub) : Prop where
  phase : ∀ d, h'.phase? d = h.phase? d
  face : ∀ k, h'.face? k = h.face? k

section Still

variable {h h' h'' : Hub} {d k : Nat}

theorem Still.refl (h : Hub) : h.Still h := ⟨fun _ ↦ rfl, fun _ ↦ rfl⟩

theorem Still.trans (hs : h.Still h') (hs' : h'.Still h'') : h.Still h'' :=
  ⟨fun d ↦ (hs'.phase d).trans (hs.phase d), fun k ↦ (hs'.face k).trans (hs.face k)⟩

theorem face_updateLink {f : Link → Link} (hf : ∀ l, (f l).face = l.face) (j : Nat) :
    (h.updateLink k f).face? j = h.face? j := by
  rw [face?, face?, getElem?_updateLink, Option.map_map]
  congr 1
  funext l
  show (if k = j then f l else l).face = l.face
  split
  · exact hf l
  · rfl

/-- Links that show the same hold the same replies. -/
theorem replies_of_face (hface : ∀ k, h'.face? k = h.face? k) :
    h'.links.map Link.replies = h.links.map Link.replies := by
  refine List.ext_getElem? fun k ↦ ?_
  have hreplies := congrArg (Option.map (·.2.2)) (hface k)
  rw [face?, face?, Option.map_map, Option.map_map] at hreplies
  rw [List.getElem?_map, List.getElem?_map]
  exact hreplies

/-- An update that leaves what a link shows leaves the hub still. -/
theorem still_updateLink (h : Hub) (k : Nat) {f : Link → Link} (hf : ∀ l, (f l).face = l.face) :
    h.Still (h.updateLink k f) := ⟨fun _ ↦ rfl, face_updateLink hf⟩

/-- An update that leaves the phase of its dealer leaves the hub still. -/
theorem still_updateDealer (h : Hub) (d : Nat) {f : Dealer → Dealer}
    (hf : ∀ dealer, (f dealer).phase = dealer.phase) : h.Still (h.updateDealer d f) := by
  refine ⟨fun e ↦ ?_, fun _ ↦ rfl⟩
  rw [phase?, getElem?_updateDealer, Option.map_map, phase?]
  congr 1
  funext dealer
  show (if d = e then f dealer else dealer).phase = dealer.phase
  split
  · exact hf dealer
  · rfl

theorem still_abandonRequests (h : Hub) (dealer : Dealer) : h.Still (h.abandonRequests dealer) := by
  rw [abandonRequests]
  split
  · exact .refl h
  · exact h.still_updateLink _ fun _ ↦ rfl

theorem still_dropDealer (h : Hub) (d : Nat) : h.Still (h.dropDealer d) := by
  rw [dropDealer]
  split
  · exact .refl h
  · exact (h.still_abandonRequests _).trans (still_updateDealer _ d fun _ ↦ rfl)

theorem still_retain (h : Hub) (d : Nat) : h.Still (h.retain d) :=
  h.still_updateDealer d fun _ ↦ rfl

theorem still_release (h : Hub) (d : Nat) : h.Still (h.release d) :=
  h.still_updateDealer d fun _ ↦ rfl

theorem still_poll (h : Hub) (d : Nat) : h.Still (h.poll d).2 := by
  rw [poll]
  split
  · exact .refl h
  · split
    · exact .refl h
    · split
      · exact .refl h
      · next k _ =>
        split
        · exact .refl h
        · split
          · next rest _ =>
            have hlink : h.Still (h.updateLink k fun l ↦ { l with requests := rest }) :=
              h.still_updateLink k fun _ ↦ rfl
            exact hlink.trans (still_updateDealer _ d fun _ ↦ rfl)
          · exact .refl h

theorem still_receive (h : Hub) (d : Nat) : h.Still (h.receive d).2 := by
  rw [receive]
  split
  · exact .refl h
  · split
    · exact h.still_updateDealer d fun _ ↦ rfl
    · split
      · exact .refl h
      · split
        · exact .refl h
        · split
          · exact h.still_updateLink _ fun _ ↦ rfl
          · exact .refl h

theorem still_deliver (h : Hub) (k : Nat) (frames : Frames) : h.Still (h.deliver k frames).2 := by
  rw [deliver]
  split
  · exact .refl h
  · split
    · exact .refl h
    · split
      · exact .refl h
      · exact h.still_updateLink k fun _ ↦ rfl

end Still

/-! ### Connecting, disconnecting and sending -/

section Phases

variable {h : Hub} {d e k : Nat} {address : String} {frames : Frames}

theorem phase?_updateDealer_of_ne (hne : d ≠ e) (f : Dealer → Dealer) :
    (h.updateDealer d f).phase? e = h.phase? e := by
  rw [phase?, getElem?_updateDealer]
  simp only [if_neg hne, Option.map_id', phase?]

/-- A dealer that is refused stays as it is. One that is not connects to a link that nobody took. -/
theorem connect_cases (h : Hub) (d : Nat) (address : String) :
    (∃ cause, h.connect d address = (some cause, h)) ∨
      ∃ k dealer l, h.dealers[d]? = some dealer ∧ h.links[k]? = some l ∧ l.taker = none ∧
        h.connect d address =
          (none, (h.updateLink k fun l ↦ { l with taker := some d }).updateDealer d fun dealer ↦
            { dealer with phase := .connected k, inbound := some k }) := by
  rw [connect]
  rcases hd : h.dealers[d]? with - | dealer
  · exact .inl ⟨_, rfl⟩
  · dsimp only
    split
    · exact .inl ⟨_, rfl⟩
    · rcases hbound : h.bound? address with - | k
      · exact .inl ⟨_, rfl⟩
      · -- the address is bound to a link, so the link is there
        obtain ⟨hlength, -, -⟩ := List.findIdx?_eq_some_iff_getElem.1 hbound
        have hl : h.links[k]? = some h.links[k] := List.getElem?_eq_getElem hlength
        simp only [hl, Option.bind_some]
        rcases htaker : h.links[k].taker with - | e
        · exact .inr ⟨k, dealer, h.links[k], rfl, hl, htaker, rfl⟩
        · exact .inl ⟨_, rfl⟩

/-- A connected dealer can disconnect. -/
theorem disconnect_of_connected (hphase : h.phase? d = some (.connected k)) :
    ∃ dealer, h.disconnect d = (none, (h.abandonRequests dealer).updateDealer d fun dealer ↦
      { dealer with phase := .closed, inbound := none, pending := none }) := by
  obtain ⟨dealer, hd, hconnected⟩ := exists_of_phase? hphase
  exact ⟨dealer, by simp only [disconnect, hd, hconnected]⟩

/-- A connected dealer that disconnects is closed. -/
theorem phase?_disconnect (hphase : h.phase? d = some (.connected k)) :
    (h.disconnect d).2.phase? d = some .closed := by
  obtain ⟨dealer, hd, -⟩ := exists_of_phase? hphase
  obtain ⟨dealer', hdisconnect⟩ := disconnect_of_connected hphase
  rw [hdisconnect]
  have hd' : (h.abandonRequests dealer').dealers[d]? = some dealer := by
    rw [dealers_abandonRequests]
    exact hd
  exact phase?_of_getElem? (getElem?_updateDealer_self hd' _)

theorem phase?_disconnect_of_ne (hne : d ≠ e) : (h.disconnect d).2.phase? e = h.phase? e := by
  rw [disconnect]
  split
  · rfl
  · next dealer _ =>
    split
    · exact (phase?_updateDealer_of_ne hne _).trans ((h.still_abandonRequests dealer).phase e)
    · rfl

theorem face_disconnect (h : Hub) (d : Nat) (k : Nat) :
    (h.disconnect d).2.face? k = h.face? k := by
  rw [disconnect]
  split
  · rfl
  · next dealer _ =>
    split
    · exact (h.still_abandonRequests dealer).face k
    · rfl

theorem phase?_connect_of_ne (hne : d ≠ e) : (h.connect d address).2.phase? e = h.phase? e := by
  rcases h.connect_cases d address with ⟨cause, hconnect⟩ | ⟨k, dealer, l, -, -, -, hconnect⟩
  · rw [hconnect]
  · rw [hconnect]
    exact phase?_updateDealer_of_ne (h := h.updateLink k _) hne _

/-- To connect takes a link, and leaves what is queued on it. -/
theorem replies_connect (h : Hub) (d : Nat) (address : String) :
    (h.connect d address).2.links.map Link.replies = h.links.map Link.replies := by
  rcases h.connect_cases d address with ⟨cause, hconnect⟩ | ⟨k, dealer, l, -, -, -, hconnect⟩
  · rw [hconnect]
  · rw [hconnect]
    refine List.ext_getElem? fun j ↦ ?_
    show ((h.updateLink k _).links.map Link.replies)[j]? = _
    rw [List.getElem?_map, List.getElem?_map, getElem?_updateLink, Option.map_map]
    congr 1
    funext l
    show (if k = j then _ else l).replies = l.replies
    split <;> rfl

/-- To send leaves the phase of every dealer. -/
theorem phase?_send (h : Hub) (d : Nat) (frames : Frames) (e : Nat) :
    (h.send d frames).2.phase? e = h.phase? e := by
  rw [send]
  split
  · rfl
  · split <;> rfl

/-- **What a dealer does where it is** could be noticed only if it sends. -/
theorem Handles.still_or_send {h' : Hub} (hh : h.Handles d h') :
    h.Still h' ∨ ∃ frames, h' = (h.send d frames).2 := by
  cases hh with
  | send frames => exact .inr ⟨frames, rfl⟩
  | poll => exact .inl (h.still_poll d)
  | receive => exact .inl (h.still_receive d)
  | retain => exact .inl (h.still_retain d)
  | release => exact .inl (h.still_release d)
  | drop => exact .inl (h.still_dropDealer d)

/-- What is done on a dealer leaves the phases. -/
theorem Handles.phase? {h' : Hub} (hh : h.Handles d h') (e : Nat) : h'.phase? e = h.phase? e := by
  rcases hh.still_or_send with hstill | ⟨frames, rfl⟩
  · exact hstill.phase e
  · exact h.phase?_send d frames e

theorem phase?_collect (h : Hub) (j e : Nat) : (h.collect j).2.phase? e = h.phase? e := by
  rw [collect]
  split
  · rfl
  · split <;> rfl

/-- What is sent through a dealer that has closed goes nowhere. -/
theorem send_of_closed (hphase : h.phase? d = some .closed) (frames : Frames) :
    h.send d frames = (some .serviceStopped, h) := by
  obtain ⟨dealer, hd, hclosed⟩ := exists_of_phase? hphase
  simp only [send, hd, hclosed]

end Phases

/-! ### The account of a link -/

/-- The dealer that took the link has closed. -/
def IsOver (h : Hub) (l : Link) : Prop := ∃ d, l.taker = some d ∧ h.phase? d = some .closed

/-- Once its dealer has closed, a service collects what is left, and then nothing will come. -/
theorem collect_of_isOver {h : Hub} {k : Nat} {l : Link} (hl : h.links[k]? = some l)
    (hover : h.IsOver l) :
    (h.collect k).1 = l.replies.head?.elim .closed .message := by
  obtain ⟨d, htaker, hphase⟩ := hover
  obtain ⟨dealer, hd, hclosed⟩ := exists_of_phase? hphase
  rcases hreplies : l.replies with - | ⟨frames, rest⟩
  · simp [collect, hl, hreplies, hasSender, htaker, hd, hclosed]
  · simp [collect, hl, hreplies]

/-- From `h` to `h'`, the link `k` became `l'` from `l`, and its service collected `taken`. If its
service lives, then it did all the while, and whatever was added to the replies came at the end, and
not after its dealer had closed. -/
structure Yields (k : Nat) (h : Hub) (l : Link) (taken : List Frames) (h' : Hub) (l' : Link) :
    Prop where
  link : h'.links[k]? = some l'
  closed : ∀ d, h.phase? d = some .closed → h'.phase? d = some .closed
  taker : ∀ d, l.taker = some d → l'.taker = some d
  account : l'.served = true → l.served = true ∧
    ∃ added, l.replies ++ added = taken ++ l'.replies ∧ (h.IsOver l → added = [])

namespace Yields

variable {h h' h'' : Hub} {d j k : Nat} {l l' l'' : Link} {taken taken' : List Frames}

/-- A link that is over stays so. -/
theorem isOver (hy : Yields k h l taken h' l') (hover : h.IsOver l) : h'.IsOver l' := by
  obtain ⟨d, htaker, hclosed⟩ := hover
  exact ⟨d, hy.taker d htaker, hy.closed d hclosed⟩

theorem trans (hy : Yields k h l taken h' l') (hy' : Yields k h' l' taken' h'' l'') :
    Yields k h l (taken ++ taken') h'' l'' where
  link := hy'.link
  closed d hd := hy'.closed d (hy.closed d hd)
  taker d hd := hy'.taker d (hy.taker d hd)
  account hserved := by
    obtain ⟨hserved', added', hreplies', hover'⟩ := hy'.account hserved
    obtain ⟨hserved, added, hreplies, hover⟩ := hy.account hserved'
    refine ⟨hserved, added ++ added', ?_, fun h ↦ ?_⟩
    · rw [← List.append_assoc, hreplies, List.append_assoc, hreplies', List.append_assoc]
    · rw [hover h, hover' (hy.isOver h)]
      rfl

/-- Nothing is collected and nothing is added. -/
theorem of_same (hl' : h'.links[k]? = some l') (hserved : l'.served = l.served)
    (htaker : ∀ d, l.taker = some d → l'.taker = some d) (hreplies : l'.replies = l.replies)
    (hclosed : ∀ d, h.phase? d = some .closed → h'.phase? d = some .closed) :
    Yields k h l [] h' l' where
  link := hl'
  closed := hclosed
  taker := htaker
  account hlives := by
    refine ⟨hserved ▸ hlives, [], ?_, fun _ ↦ rfl⟩
    rw [hreplies, List.append_nil, List.nil_append]

/-- A link that shows the same has given nothing away, if what is closed stays closed. -/
theorem of_face (hl : h.links[k]? = some l)
    (hface : h'.face? k = h.face? k)
    (hclosed : ∀ d, h.phase? d = some .closed → h'.phase? d = some .closed) :
    ∃ l', Yields k h l [] h' l' := by
  rw [face?, face?, hl] at hface
  obtain ⟨l', hl', heq⟩ := Option.map_eq_some_iff.1 hface
  obtain ⟨hserved, htaker, hreplies⟩ :
      l'.served = l.served ∧ l'.taker = l.taker ∧ l'.replies = l.replies := by
    simpa [Link.face] using heq
  exact ⟨l', of_same hl' hserved (fun d hd ↦ htaker.trans hd) hreplies hclosed⟩

/-- A link of a hub that is still has given nothing away. -/
theorem of_still (hl : h.links[k]? = some l) (hs : h.Still h') : ∃ l', Yields k h l [] h' l' :=
  of_face hl (hs.face k) fun d hd ↦ (hs.phase d).trans hd

theorem refl (hl : h.links[k]? = some l) : Yields k h l [] h l :=
  of_same hl rfl (fun _ hd ↦ hd) rfl fun _ hd ↦ hd

/-- A change of a link, of which the service takes note only if it is its own. -/
theorem of_updateLink (hl : h.links[k]? = some l) {f : Link → Link}
    (hself : j = k → ∃ l', Yields k h l taken (h.updateLink j f) l') (hother : j ≠ k → taken = []) :
    ∃ l', Yields k h l taken (h.updateLink j f) l' := by
  by_cases hjk : j = k
  · exact hself hjk
  · rw [hother hjk]
    exact ⟨l, of_same (getElem?_updateLink_of_ne hl hjk f) rfl (fun _ hd ↦ hd) rfl fun _ hd ↦ hd⟩

/-- To send takes nothing from a link. -/
theorem send (hh : h.Coherent) (hl : h.links[k]? = some l) (d : Nat) (frames : Frames) :
    ∃ l', Yields k h l [] (h.send d frames).2 l' := by
  rw [Hub.send]
  split
  · exact ⟨l, refl hl⟩
  · next dealer hd =>
    split
    · exact ⟨l, refl hl⟩
    · exact ⟨l, refl hl⟩
    · next j hphase =>
      refine of_updateLink hl (fun hjk ↦ ?_) fun _ ↦ rfl
      subst hjk
      refine ⟨_, getElem?_updateLink_self hl _, fun _ he ↦ he, ?_, ?_⟩
      · intro e he
        split <;> exact he
      · -- whoever sends is connected, so the link's dealer has not closed
        have hgoing : ¬ h.IsOver l := by
          rintro ⟨e, htaker, hclosed⟩
          obtain ⟨l₀, hl₀, htaker₀⟩ := hh.taker_of_connected hd hphase
          obtain rfl := Option.some.inj (hl.symm.trans hl₀)
          obtain rfl := Option.some.inj (htaker.symm.trans htaker₀)
          rw [phase?_of_getElem? hd, hphase] at hclosed
          cases hclosed
        intro hserved
        by_cases hroom : l.hasRoom = true
        · rw [if_pos hroom] at hserved ⊢
          exact ⟨hserved, [frames], rfl, fun h ↦ absurd h hgoing⟩
        · rw [if_neg hroom] at hserved ⊢
          exact ⟨hserved, [], List.append_nil _, fun _ ↦ rfl⟩

/-- What is done on a dealer takes nothing from a link. -/
theorem handles (hh : h.Coherent) (hl : h.links[k]? = some l) (hd : h.Handles d h') :
    ∃ l', Yields k h l [] h' l' := by
  rcases hd.still_or_send with hstill | ⟨frames, rfl⟩
  · exact of_still hl hstill
  · exact send hh hl d frames

/-- To connect takes nothing from a link. -/
theorem connect (hl : h.links[k]? = some l) (d : Nat) (address : String)
    (hphase : h.phase? d ≠ some .closed) : ∃ l', Yields k h l [] (h.connect d address).2 l' := by
  have hclosed : ∀ e, h.phase? e = some .closed →
      (h.connect d address).2.phase? e = some .closed := by
    intro e he
    have hne : d ≠ e := by
      rintro rfl
      exact hphase he
    rw [phase?_connect_of_ne hne, he]
  rcases h.connect_cases d address with ⟨cause, hconnect⟩ | ⟨j, dealer, l₀, -, hl₀, hnone, hconnect⟩
  · rw [hconnect]
    exact ⟨l, refl hl⟩
  · rw [hconnect] at hclosed ⊢
    by_cases hjk : j = k
    · subst hjk
      obtain rfl := Option.some.inj (hl.symm.trans hl₀)
      refine ⟨_, of_same (getElem?_updateLink_self hl _) rfl (fun e he ↦ ?_) rfl hclosed⟩
      rw [hnone] at he
      cases he
    · exact ⟨l, of_same (getElem?_updateLink_of_ne hl hjk _) rfl (fun _ he ↦ he) rfl hclosed⟩

/-- To disconnect takes nothing from a link. -/
theorem disconnect (hl : h.links[k]? = some l) (hphase : h.phase? d = some (.connected j)) :
    ∃ l', Yields k h l [] (h.disconnect d).2 l' := by
  refine of_face hl (h.face_disconnect d k) fun e he ↦ ?_
  by_cases hne : d = e
  · subst hne
    exact phase?_disconnect hphase
  · rw [phase?_disconnect_of_ne hne, he]

/-- To bind takes nothing from a link. -/
theorem bind {address : String} {mark : UInt64} {n : Nat} (hl : h.links[k]? = some l)
    (hbind : h.bind address mark = .ok (n, h')) : Yields k h l [] h' l := by
  obtain ⟨-, rfl⟩ := eq_of_bind hbind
  refine of_same ?_ rfl (fun _ hd ↦ hd) rfl fun _ hd ↦ hd
  exact (List.getElem?_append_left (List.getElem?_eq_some_iff.1 hl).1).trans hl

theorem newDealer (hl : h.links[k]? = some l) : Yields k h l [] h.newDealer.2 l := by
  refine of_same hl rfl (fun _ hd ↦ hd) rfl fun d hd ↦ ?_
  obtain ⟨dealer, hdealer, hclosed⟩ := exists_of_phase? hd
  have hlength := (List.getElem?_eq_some_iff.1 hdealer).1
  rw [phase?_of_getElem? ((List.getElem?_append_left hlength).trans hdealer), hclosed]

/-- To unbind takes nothing from a link. -/
theorem unbind (hl : h.links[k]? = some l) (j : Nat) : ∃ l', Yields k h l [] (h.unbind j) l' := by
  refine of_updateLink hl (fun hjk ↦ ?_) fun _ ↦ rfl
  subst hjk
  exact ⟨_, getElem?_updateLink_self hl _, fun _ hd ↦ hd, fun _ hd ↦ hd,
    fun hserved ↦ nomatch hserved⟩

/-- The message that is collected, if one is, is the first there is. -/
theorem collect (hl : h.links[k]? = some l) (j : Nat) :
    ∃ l', Yields k h l (if j = k then (h.collect j).1.message?.toList else [])
      (h.collect j).2 l' := by
  have hnothing : ∀ found : Collected, found.message? = none →
      ∃ l', Yields k h l (if j = k then found.message?.toList else []) h l' := by
    intro found hnone
    rw [hnone, Option.toList_none, ite_self]
    exact ⟨l, refl hl⟩
  rw [Hub.collect]
  rcases hj : h.links[j]? with - | l₀
  · exact hnothing .closed rfl
  · dsimp only
    rcases hreplies : l₀.replies with - | ⟨frames, rest⟩
    · refine hnothing (if h.hasSender j l₀ then .waiting else .closed) ?_
      split <;> rfl
    · refine of_updateLink hl (fun hjk ↦ ?_) fun hjk ↦ if_neg hjk
      subst hjk
      obtain rfl := Option.some.inj (hl.symm.trans hj)
      refine ⟨_, getElem?_updateLink_self hl _, fun _ hd ↦ hd, fun _ hd ↦ hd, fun hserved ↦
        ⟨hserved, [], ?_, fun _ ↦ rfl⟩⟩
      rw [if_pos rfl, List.append_nil, hreplies]
      rfl

end Yields

end Hub

end QueryDispatch
