import QueryDispatch.Proofs.Session.Side

/-!
# One side of a session

Take away from a session all that belongs to the other channel: what is left is a session of its
own, in which the other workers have ended (`part`). Workers keep their numbers, and links are
counted anew.

What the workers of the channel do in the session, they do in the part: `part` commutes with their
turns, since all they read and change is there. What the other workers do leaves the part as it is,
since it touches their own side only, and in the part they rest. So `part` commutes with everyone
running until they have to wait (`settle_part`).
-/

namespace QueryDispatch

/-! ### Tables -/

namespace Table

variable {α : Type} {keep : String → Bool} {f : α → α} {name : String}

/-- The names that are kept, with their values changed. -/
def part (keep : String → Bool) (f : α → α) (t : Table α) : Table α :=
  ⟨(t.entries.filter (keep ·.1)).map fun e ↦ (e.1, f e.2)⟩

/-- What is found in a table is one of its entries. -/
theorem mem_of_get? {t : Table α} {value : α} (h : t.get? name = some value) :
    (name, value) ∈ t.entries := by
  obtain ⟨before, after, hentries, -⟩ := List.lookup_eq_some_iff.1 h
  rw [hentries]
  exact List.mem_append_right before List.mem_cons_self

/-- A part depends only on what its function does to the entries. -/
theorem part_congr {g : α → α} {t : Table α} (h : ∀ e ∈ t.entries, f e.2 = g e.2) :
    t.part keep f = t.part keep g := by
  refine congrArg Table.mk (List.map_congr_left fun e he ↦ ?_)
  rw [h e (List.mem_filter.1 he).1]

/-- A name that is kept is found in the part, with its value carried over. -/
theorem get?_part (hkeep : keep name = true) (t : Table α) :
    (t.part keep f).get? name = (t.get? name).map f := by
  obtain ⟨entries⟩ := t
  show ((entries.filter _).map _).lookup name = (entries.lookup name).map f
  induction entries with
  | nil => rfl
  | cons head rest ih =>
    obtain ⟨other, value⟩ := head
    rw [List.filter_cons, List.lookup_cons]
    rcases hname : name == other with - | -
    · split
      · rw [List.map_cons, List.lookup_cons, hname, ← ih]
      · exact ih
    · obtain rfl := eq_of_beq hname
      rw [if_pos hkeep, List.map_cons, List.lookup_cons, hname]
      rfl

/-- To erase a name from the part is to take the part of what is left. -/
theorem erase_part (t : Table α) (name : String) :
    (t.erase name).part keep f = (t.part keep f).erase name := by
  refine congrArg Table.mk ?_
  show ((t.entries.filter _).filter _).map _ = ((t.entries.filter _).map _).filter _
  rw [List.filter_map, List.filter_filter, List.filter_filter]
  simp only [Function.comp_def, Bool.and_comm]

/-- To insert a kept name in the part is to take the part of what comes of it. -/
theorem insert_part (hkeep : keep name = true) (t : Table α) (value : α) :
    (t.insert name value).part keep f = (t.part keep f).insert name (f value) := by
  have hcons : ((name, value) :: (t.erase name).entries).filter (keep ·.1) =
      (name, value) :: (t.erase name).entries.filter (keep ·.1) := List.filter_cons_of_pos hkeep
  rw [part, insert, hcons, List.map_cons, insert, ← erase_part]
  rfl

/-- A name that is not kept has nothing in the part. -/
theorem part_erase_of_not (hkeep : keep name = false) (t : Table α) :
    (t.erase name).part keep f = t.part keep f := by
  refine congrArg (fun entries : List (String × α) ↦ (⟨entries.map _⟩ : Table α)) ?_
  show (t.entries.filter _).filter _ = t.entries.filter _
  rw [List.filter_filter]
  refine List.filter_congr fun e _ ↦ ?_
  rcases hname : e.1 == name with - | -
  · rw [bne, hname]
    exact Bool.and_true _
  · rw [bne, hname, eq_of_beq hname, hkeep]
    rfl

/-- What is not kept may be inserted without changing the part. -/
theorem part_insert_of_not (hkeep : keep name = false) (t : Table α) (value : α) :
    (t.insert name value).part keep f = t.part keep f := by
  rw [← t.part_erase_of_not (f := f) hkeep]
  refine congrArg (fun entries : List (String × α) ↦ (⟨entries.map _⟩ : Table α)) ?_
  exact List.filter_cons_of_neg (ne_true_of_eq_false hkeep)

end Table

/-! ### Taking the part -/

/-- A worker, as it is seen from the given channel: one of the other channel plays no part. -/
def Member.masked (c : Security) (m : Member) : Member :=
  if m.security = c then m
  else
    { dispatcher := { channel := { security := m.security } }
      endpoint := ""
      dealer := 0
      exit := some .completed }

/-- Whether the chance to answer is one of the channel. -/
def OpenTicket.isOf (c : Security) (t : OpenTicket) : Bool := t.ticket.security == c

namespace Session

/-- Whether a worker, by number, is of the channel. -/
def mans (c : Security) (s : Session) (w : Nat) : Bool := s.side? w == some c

/-- What belongs to one channel. -/
def part (roster : Roster) (c : Security) (s : Session) : Session :=
  { s with
    hub := s.hub.part (s.settings.endpoint c) (s.mans c)
    services := s.services.part (roster.serves c) (s.hub.number (s.settings.endpoint c))
    workers := s.workers.map (Member.masked c)
    parked := s.parked.filter (OpenTicket.isOf c)
    deferred := s.deferred.filter (OpenTicket.isOf c)
    trace := s.trace.filter (Event.isOf c) }

variable {roster : Roster} {s s' : Session} {w v : Nat} {m : Member} {side c : Security}

/-! ### Reading the part -/

theorem mans_of_side? (hw : s.side? w = some c) : s.mans c w = true := beq_iff_eq.2 hw

/-- A worker of the other channel is none of this one's. -/
theorem mans_of_ne (hw : s.side? w = some side) (hne : side ≠ c) : s.mans c w = false := by
  rw [mans, hw]
  exact beq_eq_false_iff_ne.2 fun h ↦ hne (Option.some.inj h)

/-- An endpoint belongs to the channel whose endpoint it is. -/
theorem isAt_endpoint (hs : s.Manned roster) {l : Link}
    (haddress : l.address = s.settings.endpoint side) :
    Hub.isAt (s.settings.endpoint c) l = (side == c) := by
  rw [Hub.isAt, haddress, Bool.eq_iff_iff, beq_iff_eq, beq_iff_eq]
  exact ⟨hs.endpoint_inj, congrArg _⟩

/-- The part of the hub is that of the workers of the channel. -/
theorem Manned.parted (hs : s.Manned roster) (c : Security) :
    s.hub.Parted (s.settings.endpoint c) (s.mans c) where
  coherent := hs.sound.coherent
  takers := by
    intro k d l hl htaker
    obtain ⟨side, hside, haddress⟩ := hs.taker k l d hl htaker
    rw [isAt_endpoint hs haddress, mans, hside]
    rfl

/-- In the part the workers of the channel stand where they were, and the others are masked. -/
theorem getElem?_part (c : Security) (w : Nat) :
    (s.part roster c).workers[w]? = s.workers[w]?.map (Member.masked c) := List.getElem?_map ..

theorem getElem?_part_of_side (hm : s.workers[w]? = some m) (hside : m.security = c) :
    (s.part roster c).workers[w]? = some m := by
  rw [getElem?_part, hm]
  exact congrArg some (if_pos hside)

/-! ### Single effects -/

/-- Whom a channel employs depends on the sides of the workers only. -/
theorem mans_of_side?_eq (h : ∀ v, s'.side? v = s.side? v) : s'.mans c = s.mans c := by
  funext v
  rw [mans, mans, h]

/-- The part records the events of its own channel. -/
theorem record_part (events : Trace) :
    (s.record events).part roster c = (s.part roster c).record (events.filter (Event.isOf c)) :=
  congrArg (fun trace ↦ { s.part roster c with trace }) (List.filter_append s.trace events)

/-- The hub of the part is the part of the hub, so long as the links of the channel keep their
numbers. -/
theorem onHub_part {hub : Hub}
    (hnumber : hub.number (s.settings.endpoint c) = s.hub.number (s.settings.endpoint c)) :
    (s.onHub hub).part roster c =
      (s.part roster c).onHub (hub.part (s.settings.endpoint c) (s.mans c)) :=
  congrArg (fun number ↦ { s.part roster c with
    hub := hub.part (s.settings.endpoint c) (s.mans c)
    services := s.services.part (roster.serves c) number }) hnumber

/-- Events of the channel are all recorded in the part. -/
theorem record_part_of_isOf {events : Trace} (hevents : ∀ e ∈ events, e.isOf c = true) :
    (s.record events).part roster c = (s.part roster c).record events := by
  rw [record_part, List.filter_eq_self.2 hevents]

/-- Notices of the channel are all noted in the part. -/
theorem note_part {notices : List Notice} (hnotices : ∀ n ∈ notices, n.security = c) :
    (s.note notices).part roster c = (s.part roster c).note notices := by
  refine record_part_of_isOf fun e he ↦ ?_
  obtain ⟨notice, hnotice, rfl⟩ := List.mem_map.1 he
  exact beq_iff_eq.2 (congrArg some (hnotices notice hnotice))

/-- An update of a worker of the channel is an update in the part. -/
theorem update_part (hw : s.side? w = some c) {f : Member → Member}
    (hf : ∀ m, (f m).place = m.place) :
    (s.update w f).part roster c = (s.part roster c).update w f := by
  have hmans : (s.update w f).mans c = s.mans c := mans_of_side?_eq (side?_update hf)
  have hworkers : (s.workers.modify w f).map (Member.masked c) =
      (s.workers.map (Member.masked c)).modify w f := by
    refine map_modify fun m hm ↦ ?_
    have hmine : m.security = c := Option.some.inj ((side?_of_getElem? hm).symm.trans hw)
    rw [Member.masked, Member.masked, if_pos hmine,
      if_pos ((Member.security_of_place (hf m)).trans hmine)]
  rw [part, hmans]
  exact congrArg (fun workers ↦ { s.part roster c with workers }) hworkers

/-- An update of a worker of the other channel does not show in the part. -/
theorem part_update_of_ne (hw : s.side? w = some side) (hne : side ≠ c) {f : Member → Member}
    (hf : ∀ m, (f m).place = m.place) : (s.update w f).part roster c = s.part roster c := by
  have hmans : (s.update w f).mans c = s.mans c := mans_of_side?_eq (side?_update hf)
  have hmasked : (s.workers.modify w f).map (Member.masked c) =
      (s.workers.map (Member.masked c)).modify w id := by
    refine map_modify fun m hm ↦ ?_
    have hother : m.security ≠ c := Option.some.inj ((side?_of_getElem? hm).symm.trans hw) ▸ hne
    rw [Member.masked, Member.masked, Member.security_of_place (hf m), if_neg hother, if_neg hother]
    rfl
  rw [List.modify_id] at hmasked
  rw [part, hmans]
  exact congrArg (fun workers ↦ { s.part roster c with workers }) hmasked

/-! ### The other side -/

/-- The hub is touched at the endpoint of the other channel, by one of its workers or a service. -/
theorem part_onHub_of_ne (hs : s.Manned roster) (hne : side ≠ c) {actor : Option Nat} {hub : Hub}
    (hactor : ∀ d, actor = some d → s.side? d = some side)
    (hworked : Hub.Worked actor (s.settings.endpoint side) s.hub hub) :
    (s.onHub hub).part roster c = s.part roster c := by
  have hhub : hub.part (s.settings.endpoint c) (s.mans c) =
      s.hub.part (s.settings.endpoint c) (s.mans c) :=
    hworked.part (fun d hd ↦ mans_of_ne (hactor d hd) hne) (hs.endpoint_ne hne)
  rw [onHub_part (hworked.number _), hhub]
  rfl

/-- **What is done on the other side leaves the part as it is.** -/
theorem Employs.part_of_does (h : s.Employs roster w side) (hne : side ≠ c)
    (hd : Does w side s s') : s'.part roster c = s.part roster c := by
  have hnot : ∀ number r, (⟨w, number, side, r⟩ : OpenTicket).isOf c = false :=
    fun _ _ ↦ beq_eq_false_iff_ne.2 hne
  have honHub : ∀ {m : Member} {hub : Hub}, s.workers[w]? = some m →
      s.hub.Acts m.dealer m.endpoint hub → (s.onHub hub).part roster c = s.part roster c :=
    fun hm hhub ↦
      part_onHub_of_ne h.manned hne (fun d hd ↦ Option.some.inj hd ▸ h.side) (h.worked hm hhub)
  cases hd with
  | touches ht =>
    cases ht with
    | @record side' events hw hevents =>
      obtain rfl := Option.some.inj (hw.symm.trans h.side)
      have hnone : events.filter (Event.isOf c) = [] := by
        refine List.filter_eq_nil_iff.2 fun e he hof ↦ hne ?_
        exact Option.some.inj ((eq_of_beq (hevents e he)).symm.trans (eq_of_beq hof))
      rw [record_part, hnone]
      exact congrArg (fun trace ↦ { s.part roster c with trace }) (List.append_nil _)
    | update hplace => exact part_update_of_ne h.side hne hplace
    | onHub hm hhub => exact honHub hm (.handles hhub)
    | park number r =>
      exact congrArg (fun parked ↦ { s.part roster c with parked })
        (filter_concat_of_neg (hnot number r) s.parked)
    | defer number r =>
      exact congrArg (fun deferred ↦ { s.part roster c with deferred })
        (filter_concat_of_neg (hnot number r) s.deferred)
  | onHub hm hhub => exact honHub hm hhub
  | update hplace => exact part_update_of_ne h.side hne hplace

/-- What is done on a worker of the other channel does not show in the part. -/
theorem Employs.part_of_done (h : s.Employs roster w side) (hne : side ≠ c)
    (hd : Done w side s s') : s'.part roster c = s.part roster c := by
  induction hd with
  | refl => rfl
  | tail hfirst hlast ih => exact ((h.done hfirst).part_of_does hne hlast).trans ih

/-! ### This side -/

section Own

variable (h : s.Employs roster w c)

include h

/-- A channel that employs a worker has its dealer among its own. -/
theorem Employs.parted : s.hub.Parted (s.settings.endpoint c) (s.mans c) := h.manned.parted c

theorem Employs.mans_eq : s.mans c w = true := mans_of_side? h.side

/-- Everything about the workers of the channel is in the part. -/
theorem Employs.exists_member_part :
    ∃ m, s.workers[w]? = some m ∧ (s.part roster c).workers[w]? = some m ∧ m.dealer = w ∧
      m.security = c := by
  obtain ⟨m, hm, hdealer, -, hside⟩ := h.exists_member
  exact ⟨m, hm, getElem?_part_of_side hm hside, hdealer, hside⟩

/-- To reply in the part is to take the part of what comes of it. -/
theorem reply_part (response : Response) :
    (s.reply w response).part roster c = (s.part roster c).reply w response := by
  obtain ⟨m, hm, hm', hdealer, hside⟩ := h.exists_member_part
  have hsend : (s.part roster c).hub.send w response.encode = _ :=
    Hub.send_part h.parted h.mans_eq response.encode
  have hnumber := (Hub.worked_send h.goesTo response.encode).number (s.settings.endpoint c)
  rw [reply, reply, hm, hm']
  dsimp only
  rw [hdealer, hsend, note_part fun n hn ↦ (Channel.security_refusalNotices hn).trans hside,
    update_part, onHub_part hnumber]
  · exact h.side
  · exact fun _ ↦ rfl

/-- To conclude a worker in the part is to take the part of what comes of it. -/
theorem conclude_part (exit : Exit) :
    (s.conclude w exit).part roster c = (s.part roster c).conclude w exit := by
  obtain ⟨m, hm, hm', hdealer, -⟩ := h.exists_member_part
  have hdrop : (s.part roster c).hub.dropDealer w = _ := Hub.dropDealer_part h.parted h.mans_eq
  have hnumber := (Hub.worked_dropDealer h.goesTo).number (s.settings.endpoint c)
  rw [conclude, conclude, hm, hm']
  dsimp only
  rw [hdealer, hdrop, update_part, onHub_part hnumber]
  · exact h.side
  · exact fun _ ↦ rfl

theorem retain_part : (s.retain w).part roster c = (s.part roster c).retain w := by
  obtain ⟨m, hm, hm', hdealer, -⟩ := h.exists_member_part
  have hretain : (s.part roster c).hub.retain w = _ := Hub.retain_part h.mans_eq
  rw [retain, retain, hm, hm']
  dsimp only
  rw [hdealer, hretain]
  exact onHub_part rfl

/-- To release a ticket in the part is to take the part of what comes of it. -/
theorem release_part : (s.release w).part roster c = (s.part roster c).release w := by
  obtain ⟨m, hm, hm', hdealer, -⟩ := h.exists_member_part
  have hrelease : (s.part roster c).hub.release w = _ := Hub.release_part h.mans_eq
  rw [release, release, hm, hm']
  dsimp only
  rw [hdealer, hrelease]
  exact onHub_part rfl

/-- To complete a ticket in the part is to take the part of what comes of it. -/
theorem complete_part (number : Nat) (completion : Completion) :
    (s.complete w number c completion).part roster c =
      (s.part roster c).complete w number c completion := by
  have hmine : ∀ r, (⟨w, number, c, r⟩ : OpenTicket).isOf c = true := fun _ ↦ beq_self_eq_true c
  cases completion with
  | dropped => rfl
  | answered response => exact reply_part h response
  | parked r =>
    rw [complete, complete, ← retain_part h]
    exact congrArg (fun parked ↦ { (s.retain w).part roster c with parked })
      (filter_concat_of_pos (hmine r) s.parked)
  | deferred r =>
    rw [complete, complete, ← retain_part h]
    exact congrArg (fun deferred ↦ { (s.retain w).part roster c with deferred })
      (filter_concat_of_pos (hmine r) s.deferred)
  | panicked => exact conclude_part h .panicked

section Member

variable (hm : s.workers[w]? = some m)

include hm

/-- To connect in the part is to take the part of what comes of it. -/
theorem connect_part : (s.connect w m).part roster c = (s.part roster c).connect w m := by
  have hside := h.security_eq hm
  have hendpoint : m.endpoint = s.settings.endpoint c := hside ▸ h.manned.endpoint hm
  have hconnect : (s.part roster c).hub.connect w (s.settings.endpoint c) = _ :=
    Hub.connect_part h.mans_eq
  have hworked : Hub.Worked (some w) (s.settings.endpoint c) s.hub
      (s.hub.connect w (s.settings.endpoint c)).2 := Hub.worked_connect
  have hnumber := hworked.number (s.settings.endpoint c)
  have htried := h.done (done_tried hm)
  rw [tried, h.manned.dealer hm, hendpoint] at htried
  rw [connect, connect, h.manned.dealer hm, hendpoint, hconnect]
  -- what came of it no longer matters, only that both read the same
  generalize s.hub.connect w (s.settings.endpoint c) = result at hnumber htried ⊢
  obtain ⟨refusal, hub⟩ := result
  have hpart : (((s.onHub hub).note [Worker.connectNotice m.security (s.settings.endpoint c)
      refusal]).update w (·.change (Worker.connectChange refusal))).part roster c =
        (((s.part roster c).onHub (hub.part (s.settings.endpoint c) (s.mans c))).note
          [Worker.connectNotice m.security (s.settings.endpoint c) refusal]).update w
            (·.change (Worker.connectChange refusal)) := by
    rw [update_part, note_part, onHub_part hnumber]
    · exact fun n hn ↦ by rw [List.mem_singleton.1 hn, Worker.security_connectNotice, hside]
    · exact h.side
    · exact fun _ ↦ rfl
  dsimp only
  split
  · exact hpart
  · rw [conclude_part htried, hpart]

/-- To finish in the part is to take the part of what comes of it. -/
theorem finish_part : (s.finish w m).part roster c = (s.part roster c).finish w m := by
  have hside := h.security_eq hm
  have hdisconnect : (s.part roster c).hub.disconnect w = _ :=
    Hub.disconnect_part h.parted h.mans_eq
  have hnumber := (Hub.worked_disconnect h.goesTo).number (s.settings.endpoint c)
  have hdrained := h.done (done_drained hm)
  rw [drained, h.manned.dealer hm] at hdrained
  rw [finish, finish, h.manned.dealer hm, hdisconnect, conclude_part hdrained, note_part,
    update_part, onHub_part hnumber]
  · exact h.side
  · exact fun _ ↦ rfl
  · exact fun n hn ↦ (Worker.security_disconnectNotices hn).trans hside

/-- What the dispatcher decides has the same effect in the part. -/
theorem absorb_part (v : Verdict) :
    (s.absorb w m v).part roster c = (s.part roster c).absorb w m v := by
  rw [absorb, absorb, update_part, record_part_of_isOf]
  · exact fun e he ↦ h.security_eq hm ▸ Channel.isOf_events he
  · exact h.side
  · exact fun _ ↦ rfl

/-- To dispatch in the part is to take the part of what comes of it. -/
theorem dispatch_part (received : Received) :
    (s.dispatch w m received).part roster c = (s.part roster c).dispatch w m received := by
  rw [dispatch, dispatch, h.stops_judge hm, heed, heed, if_neg Bool.false_ne_true,
    if_neg Bool.false_ne_true, h.security_eq hm, ← absorb_part h hm]
  exact complete_part (h.touched (touched_absorb hm _)) _ _

theorem receive_part : (s.receive w m).part roster c = (s.part roster c).receive w m := by
  have hreceive : (s.part roster c).hub.receive w = _ := Hub.receive_part h.parted h.mans_eq
  have hnumber := (Hub.worked_receive h.goesTo).number (s.settings.endpoint c)
  have hreceived := h.touched (touched_onHub hm .receive)
  rw [h.manned.dealer hm] at hreceived
  rw [receive, receive, h.manned.dealer hm, hreceive]
  dsimp only
  split
  · exact onHub_part hnumber
  · rw [dispatch_part hreceived hm, onHub_part hnumber]

/-- To serve in the part is to take the part of what comes of it. -/
theorem serve_part : (s.serve w m).part roster c = (s.part roster c).serve w m := by
  have hpoll : (s.part roster c).hub.poll w = _ := Hub.poll_part h.parted h.mans_eq
  have hnumber := (Hub.worked_poll h.goesTo).number (s.settings.endpoint c)
  have hpolled := h.touched (touched_onHub hm .poll)
  rw [h.manned.dealer hm] at hpolled
  rw [serve, serve, h.manned.dealer hm, hpoll]
  dsimp only
  rcases (s.hub.poll w).1 with - | - | cause
  · rw [receive_part hpolled hm, onHub_part hnumber]
  · rfl
  · have hnotices : ∀ n ∈ Worker.pollNotices m.security cause, n.security = c :=
      fun n hn ↦ (Worker.security_pollNotices hn).trans (h.security_eq hm)
    have hnoted := hpolled.touched (touched_note hpolled.side hnotices)
    dsimp only
    rw [finish_part hnoted hm, note_part hnotices, onHub_part hnumber]

end Member

/-- **A worker of the channel moves in the part as it does in the session.** -/
theorem advance_part : (s.advance w).part roster c = (s.part roster c).advance w := by
  obtain ⟨m, hm, hm', -, -⟩ := h.exists_member_part
  rw [advance, advance, hm, hm']
  dsimp only
  rcases m.exit with - | exit
  · rcases m.stage with - | - | - | -
    · exact connect_part h hm
    · rcases m.stopRequested with - | -
      · exact serve_part h hm
      · exact finish_part h hm
    · rfl
    · rfl
  · rfl

omit h in

/-- Advances in the part are the part of the advances. -/
theorem advances_part (n : Nat) (h : s.Employs roster w c) :
    (s.advances w n).part roster c = (s.part roster c).advances w n := by
  induction n generalizing s with
  | zero => rfl
  | succ n ih =>
    rw [advances, advances, ← advance_part h]
    exact ih (h.done (done_advance h))

/-- A worker of the channel has the same backlog in the part. -/
theorem backlog_part : (s.part roster c).backlog w = s.backlog w := by
  obtain ⟨m, hm, hm', hdealer, -⟩ := h.exists_member_part
  rw [backlog, backlog, hm, hm']
  dsimp only
  rw [hdealer]
  exact Hub.backlog_part h.parted h.mans_eq

end Own

/-! ### Everyone's turns -/

/-- **A turn in the session is a turn in the part**, where the workers of the other channel have
nothing to do. -/
theorem turn_part (hs : s.Manned roster) (w : Nat) :
    (s.turn w).part roster c = (s.part roster c).turn w := by
  rcases hm : s.workers[w]? with - | m
  · have hnone : (s.part roster c).workers[w]? = none := by rw [getElem?_part, hm]; rfl
    rw [turn_of_rests (rests_of_getElem?_eq_none hm),
      turn_of_rests (rests_of_getElem?_eq_none hnone)]
  · have h : s.Employs roster w m.security := ⟨hs, side?_of_getElem? hm⟩
    by_cases hside : m.security = c
    · rw [hside] at h
      have hadvanced := h.done (done_advance h)
      rw [turn, turn, advances_part _ hadvanced, ← advance_part h, backlog_part hadvanced]
    · -- in the part this worker has ended, so there it rests
      have hm' : (s.part roster c).workers[w]? = some (m.masked c) := by rw [getElem?_part, hm]; rfl
      have hexit : (m.masked c).exit.isSome := by rw [Member.masked, if_neg hside]; rfl
      rw [turn_of_rests (rests_of_exit hm' hexit)]
      exact h.part_of_done hside (done_turn h)

/-- A turn keeps every worker and service on the channel of the roster. -/
theorem Manned.turn (hs : s.Manned roster) (w : Nat) : (s.turn w).Manned roster := by
  rcases hm : s.workers[w]? with - | m
  · rwa [turn_of_rests (rests_of_getElem?_eq_none hm)]
  · have h : s.Employs roster w m.security := ⟨hs, side?_of_getElem? hm⟩
    exact (h.done (done_turn h)).manned

/-- Turns, taken one after the other, are the same in the part. -/
theorem foldl_turn_part (ws : List Nat) (hs : s.Manned roster) :
    (ws.foldl turn s).Manned roster ∧
      (ws.foldl turn s).part roster c = ws.foldl turn (s.part roster c) := by
  induction ws generalizing s with
  | nil => exact ⟨hs, rfl⟩
  | cons w rest ih =>
    rw [List.foldl_cons, List.foldl_cons, ← turn_part hs w]
    exact ih (hs.turn w)

/-- A round of turns is the same in the part. -/
theorem turns_part (hs : s.Manned roster) :
    s.turns.Manned roster ∧ s.turns.part roster c = (s.part roster c).turns := by
  have hlength : (s.part roster c).workers.length = s.workers.length := List.length_map ..
  rw [turns, turns, hlength]
  exact foldl_turn_part _ hs

/-! ### What was put off -/

/-- To answer a ticket in the part is to take the part of what comes of it. -/
theorem decide_part {t : OpenTicket} (h : s.Employs roster t.worker c) :
    (s.decide t .echo).part roster c = (s.part roster c).decide t .echo := by
  rw [decide_echo, decide_echo, release_part (h.touched (touched_reply _)), reply_part h]

/-- To answer many tickets in the part is to answer those of the channel. -/
theorem foldl_decide_part (tickets : List OpenTicket) (hs : s.Manned roster)
    (htickets : ∀ t ∈ tickets, s.side? t.worker = some t.ticket.security) :
    (tickets.foldl (fun s t ↦ s.decide t .echo) s).Manned roster ∧
      (tickets.foldl (fun s t ↦ s.decide t .echo) s).part roster c =
        (tickets.filter (OpenTicket.isOf c)).foldl (fun s t ↦ s.decide t .echo)
          (s.part roster c) := by
  induction tickets generalizing s with
  | nil => exact ⟨hs, rfl⟩
  | cons t rest ih =>
    have h : s.Employs roster t.worker t.ticket.security := ⟨hs, htickets t List.mem_cons_self⟩
    have hdecided : Done t.worker t.ticket.security s (s.decide t .echo) :=
      Touched.done (s.touched_decide t .echo)
    have hrest := ih (h.done hdecided).manned fun t' ht' ↦
      (hdecided.side? t'.worker).trans (htickets t' (List.mem_cons_of_mem t ht'))
    refine ⟨hrest.1, hrest.2.trans ?_⟩
    by_cases hside : t.ticket.security = c
    · rw [List.filter_cons_of_pos (show t.isOf c = true from beq_iff_eq.2 hside), List.foldl_cons,
        decide_part (hside ▸ h)]
    · have hnot : ¬ t.isOf c = true := fun hof ↦ hside (eq_of_beq hof)
      rw [List.filter_cons_of_neg hnot, h.part_of_done hside hdecided]

/-- A flush is the same in the part. -/
theorem flush_part (hs : s.Manned roster) :
    s.flush.Manned roster ∧ s.flush.part roster c = (s.part roster c).flush := by
  have hnone : { s with deferred := [] }.Manned roster :=
    { hs with sound := hs.sound.of_eq rfl rfl rfl rfl, deferred := fun _ ht ↦ by cases ht }
  exact foldl_decide_part s.deferred hnone hs.deferred

/-- **Everyone runs in the part as in the session.** -/
theorem settle_part (hs : s.Manned roster) :
    s.settle.Manned roster ∧ s.settle.part roster c = (s.part roster c).settle := by
  obtain ⟨hturns, hturns_part⟩ := turns_part (c := c) hs
  obtain ⟨hagain, hagain_part⟩ := turns_part (c := c) hturns
  obtain ⟨hflush, hflush_part⟩ := flush_part (c := c) hagain
  exact ⟨hflush, by rw [settle, settle, hflush_part, hagain_part, hturns_part]⟩

end Session

end QueryDispatch
