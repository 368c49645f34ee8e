import Mathlib.Data.List.Perm.Basic
import QueryDispatch.Proofs.Session.Books
import QueryDispatch.Proofs.Session.Growth

/-!
# The chronicle of a session

Every single effect in a session is one operation on its hub, or none, and with it the books are
carried on (`Recorded`). From the effects they are carried on through the moves of a worker and the
decisions of handlers, along the definitions of both.

Which operation is allowed, and what it may be answered, depends on where the worker is: one that
serves is connected, and one whose chance to answer is kept has connected once. `Chronicle` takes
the books together with this, and each of its theorems adds the operations that are listed for what
was done.

## Main results

* `Chronicle.advance`: a worker's move does what is listed for it.
* `Chronicle.decide`: so does the decision of a handler about a chance to answer that was kept.
* `Chronicle.settle`: and so does everyone, who runs until they have to wait.
-/

namespace QueryDispatch

/-- The events of a verdict hold no harmful notice. -/
theorem Channel.isHarmless_of_mem_events {c : Channel} {number : Nat} {v : Verdict} {n : Notice}
    (hn : .noted n ∈ c.events number v) : n.IsHarmless := by
  rcases c.mem_events hn with ⟨m, -, heq⟩ | ⟨r, -, heq⟩ | ⟨handler, r, -, heq | heq⟩
  all_goals cases heq
  all_goals exact ⟨Logging.Severity.noConfusion, fun h ↦ Logging.Severity.noConfusion h⟩

/-- A dispatch breaks down over a request that the handler of its command was given. -/
theorem Channel.isRegular_of_completion {c : Channel} {received : Received} (number : Nat)
    {trace : Trace} {endpoint : String} (h : (c.judge received).completion = .panicked)
    (htrace : ∀ e ∈ c.events number (c.judge received), e ∈ trace) :
    Exit.panicked.IsRegular c.registry trace c.security endpoint := by
  rcases hv : c.judge received with - | m | r | ⟨handler, r⟩
  all_goals rw [hv] at h htrace
  · cases h
  · cases h
  · cases h
  · have hinvoked : .invoked (handler.map Binding.number) (c.ticket number r) ∈ trace :=
      htrace _ (List.mem_append_right _ List.mem_cons_self)
    exact .panicked (c.get?_of_judge hv) h hinvoked

namespace Session

variable {settings : Settings} {registry : Registry (Handler Binding)} {s s' : Session}
  {w k : Nat} {m : Member} {inHand inHand' : List OpenTicket} {handed handed' : Nat → List Frames}
  {done : List Hub.Operation}

/-! ### Single effects -/

section Equations

variable (hm : s.workers[w]? = some m)

include hm

/-- To conclude a worker is to drop its dealer. -/
theorem conclude_eq (halive : s.hub.isAlive m.dealer = true) (exit : Exit) :
    s.conclude w exit =
      s.operate w (.drop m.dealer) (fun m ↦ { m with exit := some exit }) [] := by
  rw [conclude, hm, operate, Hub.apply_drop halive, List.append_nil]
  rfl

/-- To retain a ticket is to retain the dealer. -/
theorem retain_eq (halive : s.hub.isAlive m.dealer = true) :
    s.retain w = s.operate w (.retain m.dealer) id [] := by
  rw [retain, hm, operate, Hub.apply_retain halive, List.append_nil, List.modify_id]
  rfl

/-- To release a ticket is to release the dealer. -/
theorem release_eq (hretained : s.hub.isRetained m.dealer = true) :
    s.release w = s.operate w (.release m.dealer) id [] := by
  rw [release, hm, operate, Hub.apply_release hretained, List.append_nil, List.modify_id]
  rfl

/-- To reply is to have the dealer send. -/
theorem reply_eq (hthere : s.hub.isAlive m.dealer = true ∨ s.hub.isRetained m.dealer = true)
    (response : Response) :
    s.reply w response =
      let refusal := (s.hub.send m.dealer response.encode).1
      s.operate w (.send m.dealer response.encode)
        (fun m ↦ { m with dispatcher := m.dispatcher.settle refusal })
        ((m.dispatcher.channel.refusalNotices response refusal).map .noted) := by
  rw [reply, hm, operate, Hub.apply_reply hthere]
  rfl

end Equations

theorem getElem?_operate_self (hm : s.workers[w]? = some m) {o : Hub.Operation}
    {f : Member → Member} {events : Trace} :
    (s.operate w o f events).workers[w]? = some (f m) := by
  show (s.workers.modify w f)[w]? = some (f m)
  rw [List.getElem?_modify_eq, hm]
  rfl

/-- To poll is one operation of the hub. -/
theorem poll_eq (halive : s.hub.isAlive m.dealer = true) :
    s.onHub (s.hub.poll m.dealer).2 = s.operate w (.poll m.dealer) id [] := by
  rw [operate, Hub.apply_poll halive, List.append_nil, List.modify_id]
  rfl

/-- To receive, and to do what the verdict asks for, is one operation of the hub. -/
theorem absorb_eq (halive : s.hub.isAlive m.dealer = true) (v : Verdict) :
    (s.onHub (s.hub.receive m.dealer).2).absorb w m v =
      s.operate w (.receive m.dealer)
        (fun m ↦ { m with dispatcher := m.dispatcher.absorb v })
        (m.dispatcher.channel.events m.dispatcher.arrivals v) := by
  rw [operate, Hub.apply_receive halive]
  rfl

namespace Recorded

variable (hr : s.Recorded registry inHand handed done) (hm : s.workers[w]? = some m)

include hr hm

/-- A worker that has not ended has its dealer. -/
theorem isAlive (hexit : m.exit = none) : s.hub.isAlive m.dealer = true := by
  have hcustody := (hr.members w m hm).custody
  rw [hexit] at hcustody
  exact Hub.isAlive_of_custody? hcustody

/-- The worker ends, and with it its end of the transport. -/
theorem conclude (hexit : m.exit = none) {exit : Exit}
    (hregular : exit.IsRegular registry s.trace m.security m.endpoint) :
    (s.conclude w exit).Recorded registry inHand handed (done ++ [.drop m.dealer]) := by
  have halive := hr.isAlive hm hexit
  have hanswer : (s.hub.apply (.drop m.dealer)).1 = .done := by rw [Hub.apply_drop halive]
  rw [conclude_eq hm halive]
  refine hr.operate (o := .drop m.dealer) hm rfl hanswer rfl (fun _ hn ↦ nomatch hn)
    (fun _ _ ↦ rfl)
    ((hr.members w m hm).of_silent hanswer rfl rfl (fun exit' hexit' ↦ ?_) (if_pos rfl) rfl rfl)
  obtain rfl := Option.some.inj hexit'
  exact hregular.mono (List.prefix_append _ _)

/-- The worker keeps a chance to answer, which is in hand from then on. -/
theorem retain (hexit : m.exit = none) {t : OpenTicket} (ht : t.worker = w) :
    (s.retain w).Recorded registry (t :: inHand) handed (done ++ [.retain m.dealer]) := by
  subst ht
  have halive := hr.isAlive hm hexit
  have hanswer : (s.hub.apply (.retain m.dealer)).1 = .done := by rw [Hub.apply_retain halive]
  rw [retain_eq hm halive]
  refine hr.operate_of_books (o := .retain m.dealer) hm rfl hanswer rfl rfl
    (fun _ hn ↦ nomatch hn) (fun v hv ↦ openThrough_cons_of_ne hv inHand) ?_ rfl rfl
  rw [List.cons_append, openThrough_cons_self]
  exact if_pos rfl

/-- A chance to answer in hand is let go of. -/
theorem release {t : OpenTicket} {rest : List OpenTicket} (hinHand : inHand = t :: rest)
    (ht : t.worker = w) :
    (s.release w).Recorded registry rest handed (done ++ [.release m.dealer]) := by
  subst ht hinHand
  have hcustody := (hr.members t.worker m hm).custody
  rw [List.cons_append, openThrough_cons_self] at hcustody
  have hretained := Hub.isRetained_of_custody? hcustody (Nat.succ_pos _)
  have hanswer : (s.hub.apply (.release m.dealer)).1 = .done := by rw [Hub.apply_release hretained]
  rw [release_eq hm hretained]
  refine hr.operate_of_books (o := .release m.dealer) hm rfl hanswer rfl rfl
    (fun _ hn ↦ nomatch hn) (fun v hv ↦ (openThrough_cons_of_ne hv rest).symm) ?_ rfl rfl
  rw [List.cons_append, openThrough_cons_self]
  exact if_pos rfl

/-- A reply goes out through a worker that connected once. -/
theorem reply (hthere : s.hub.isAlive m.dealer = true ∨ s.hub.isRetained m.dealer = true)
    {phase : Phase} (hphase : s.hub.phase? m.dealer = some phase)
    (hconnected : phase ≠ .unconnected) (response : Response) :
    (s.reply w response).Recorded registry inHand handed
      (done ++ [.send m.dealer response.encode]) := by
  have hrefusal := Hub.send_refusal hphase hconnected response.encode
  have hanswer : (s.hub.apply (.send m.dealer response.encode)).1 =
      .ofRefusal (s.hub.send m.dealer response.encode).1 := by
    rw [Hub.apply_reply hthere]
  rw [reply_eq hm hthere]
  refine hr.operate (o := .send m.dealer response.encode) hm rfl ?_ rfl (fun n hn ↦ ?_)
    (fun _ _ ↦ rfl) ((hr.members w m hm).send hanswer hrefusal (List.prefix_append _ _))
  · rw [hanswer]
    rcases hrefusal with hrefusal | hrefusal <;> rw [hrefusal]
    · exact .inl rfl
    · exact .inr rfl
  · rcases hrefusal with hrefusal | hrefusal <;> rw [hrefusal] at hn <;> cases hn

/-- A worker that is connected looks for a message. -/
theorem poll (hexit : m.exit = none) (hphase : s.hub.phase? m.dealer = some (.connected k)) :
    (s.onHub (s.hub.poll m.dealer).2).Recorded registry inHand handed
      (done ++ [.poll m.dealer]) := by
  have halive := hr.isAlive hm hexit
  have hfound := Hub.poll_found (Hub.Conserved.of_leadsTo hr.leadsTo).coherent
    (.of_leadsTo hr.leadsTo) halive hphase
  rw [poll_eq (w := w) halive]
  refine hr.operate_of_books (o := .poll m.dealer) hm rfl rfl ?_ rfl (fun _ hn ↦ nomatch hn)
    (fun _ _ ↦ rfl) rfl rfl rfl
  rw [Hub.apply_poll halive]
  rcases hfound with hfound | hfound | hfound <;> rw [hfound]
  · exact .inl rfl
  · exact .inr (.inl rfl)
  · exact .inr (.inr rfl)

/-- A worker takes a message, counts it and notes what happens before the reply. -/
theorem absorb (hexit : m.exit = none) {frames : Frames}
    (hreceive : (s.hub.receive m.dealer).1 = .message frames) :
    ((s.onHub (s.hub.receive m.dealer).2).absorb w m
      (m.dispatcher.channel.judge (.message frames))).Recorded registry inHand handed
        (done ++ [.receive m.dealer]) := by
  have halive := hr.isAlive hm hexit
  have hanswer : (s.hub.apply (.receive m.dealer)).1 = .message frames := by
    rw [Hub.apply_receive halive, hreceive]
    rfl
  rw [absorb_eq halive]
  refine hr.operate (o := .receive m.dealer) hm rfl ⟨frames, hanswer⟩ rfl (fun n hn ↦ ?_)
    (fun _ _ ↦ rfl) ((hr.members w m hm).receive hanswer (List.prefix_append _ _))
  exact Channel.isHarmless_of_mem_events hn

/-! ### Moves of a worker -/

/-- What becomes of a chance to answer in the hands of a worker that is connected. -/
theorem complete (hexit : m.exit = none) (hphase : s.hub.phase? m.dealer = some (.connected k))
    (number : Nat) (security : Security) {completion : Completion}
    (hpanics : completion = .panicked →
      Exit.panicked.IsRegular registry s.trace m.security m.endpoint) :
    (s.complete w number security completion).Recorded registry inHand handed
      (done ++ completion.operations m.dealer) := by
  -- what is retained is in hand, until it is among what the session keeps
  have hshelved : ∀ {t : OpenTicket} {kept : List OpenTicket}, t.worker = w →
      kept.Perm (t :: s.kept) → ∀ v,
        openThrough (inHand ++ kept) v = openThrough (t :: inHand ++ (s.retain w).kept) v := by
    intro t kept ht hperm v
    rw [kept_of_tickets (s.tickets_retain w), List.cons_append, openThrough_append,
      openThrough_perm hperm, ← openThrough_append]
    exact openThrough_perm List.perm_middle v
  cases completion with
  | dropped => exact (List.append_nil done).symm ▸ hr
  | answered response =>
    exact hr.reply hm (.inl (hr.isAlive hm hexit)) hphase Phase.noConfusion response
  | parked r =>
    have hretained := hr.retain hm hexit (t := ⟨w, number, security, r⟩) rfl
    refine hretained.of_books rfl rfl (fun _ ↦ rfl) rfl (hshelved rfl ?_)
    show ((s.parked ++ [_]) ++ (s.retain w).deferred).Perm _
    rw [deferred_of_tickets (s.tickets_retain w), List.append_assoc]
    exact List.perm_middle
  | deferred r =>
    have hretained := hr.retain hm hexit (t := ⟨w, number, security, r⟩) rfl
    refine hretained.of_books rfl rfl (fun _ ↦ rfl) rfl (hshelved rfl ?_)
    show ((s.retain w).parked ++ (s.deferred ++ [_])).Perm _
    rw [parked_of_tickets (s.tickets_retain w), ← List.append_assoc]
    exact List.perm_append_singleton _ _
  | panicked => exact hr.conclude hm hexit (hpanics rfl)

omit hm in
/-- A change of a worker that is not in its books. -/
theorem update {f : Member → Member} (hf : ∀ m, (f m).books = m.books) (w : Nat) :
    (s.update w f).Recorded registry inHand handed done := by
  refine hr.of_books rfl rfl (fun v ↦ ?_) rfl fun _ ↦ rfl
  rw [getElem?_update, Option.map_map]
  congr 1
  funext m
  show (if w = v then f m else m).books = m.books
  split
  · exact hf m
  · rfl

omit hm in

/-- Heeding a stop asks nothing of the hub. -/
theorem heed (stops : Bool) : (s.heed stops).Recorded registry inHand handed done := by
  rw [Session.heed]
  split
  · refine hr.of_books rfl rfl (fun v ↦ ?_) rfl fun _ ↦ rfl
    show (s.workers.map _)[v]?.map Member.books = _
    rw [List.getElem?_map, Option.map_map]
    rfl
  · exact hr

/-- A worker that is connected ends in order. -/
theorem finish (hexit : m.exit = none) (hphase : s.hub.phase? m.dealer = some (.connected k)) :
    (s.finish w m).Recorded registry inHand handed (done ++ m.finishing) := by
  have halive := hr.isAlive hm hexit
  obtain ⟨dealer, hdisconnect⟩ := Hub.disconnect_of_connected hphase
  have hrefusal : (s.hub.disconnect m.dealer).1 = none := by rw [hdisconnect]
  have hanswer : (s.hub.apply (.disconnect m.dealer)).1 = .done := by
    rw [Hub.apply_disconnect halive, hrefusal]
    rfl
  set drain : Member → Member := fun m ↦ (m.change .stopObserved).change .disconnected
  have hdrained : (s.operate w (.disconnect m.dealer) drain []).Recorded registry inHand handed
      (done ++ [.disconnect m.dealer]) :=
    hr.operate_of_books (o := .disconnect m.dealer) hm rfl hanswer rfl rfl
      (fun _ hn ↦ nomatch hn) (fun _ _ ↦ rfl) rfl rfl rfl
  have heq : s.finish w m =
      (s.operate w (.disconnect m.dealer) drain []).conclude w .completed := by
    rw [Session.finish, Session.operate, Hub.apply_disconnect halive]
    dsimp only
    rw [hrefusal]
    rfl
  have hended := hdrained.conclude (getElem?_operate_self hm) hexit .completed
  rw [List.append_assoc] at hended
  rw [heq]
  exact hended

/-- A worker connects that never did, or ends because it cannot. -/
theorem connect (hexit : m.exit = none) (hphase : s.hub.phase? m.dealer = some .unconnected) :
    (s.connect w m).Recorded registry inHand handed (done ++ m.connecting s.hub) := by
  have halive := hr.isAlive hm hexit
  have hrefusal := Hub.connect_refusal hphase m.endpoint
  have happly := Hub.apply_connect halive m.endpoint
  generalize hresult : s.hub.connect m.dealer m.endpoint = result at hrefusal happly
  obtain ⟨refusal, hub⟩ := result
  have htried : (s.operate w (.connect m.dealer m.endpoint)
      (·.change (Worker.connectChange refusal))
      [.noted (Worker.connectNotice m.security m.endpoint refusal)]).Recorded registry inHand handed
        (done ++ [.connect m.dealer m.endpoint]) := by
    have hanswer : (s.hub.apply (.connect m.dealer m.endpoint)).1 = .ofRefusal refusal := by
      rw [happly]
    refine hr.operate_of_books (o := .connect m.dealer m.endpoint) hm rfl hanswer ?_ rfl
      (fun n hn ↦ ?_) (fun _ _ ↦ rfl) rfl ?_ ?_
    · rcases hrefusal with hrefusal | hrefusal | hrefusal <;> cases hrefusal
      · exact .inl rfl
      · exact .inr (.inl rfl)
      · exact .inr (.inr rfl)
    · cases List.mem_singleton.1 hn
      rcases refusal with - | cause
      · exact ⟨Logging.Severity.noConfusion, fun h ↦ Logging.Severity.noConfusion h⟩
      · exact ⟨Logging.Severity.noConfusion, fun _ ↦ rfl⟩
    all_goals rcases refusal with - | cause <;> rfl
  rw [Session.connect, Member.connecting, hresult]
  rcases refusal with - | cause
  · rw [Session.operate, happly] at htried
    exact htried
  · have hregular : (Exit.failed (.connect m.security m.endpoint cause)).IsRegular registry
        (s.operate w (.connect m.dealer m.endpoint) (·.change .connectFailed)
          [.noted (.connectFailed m.security m.endpoint cause)]).trace m.security m.endpoint := by
      rcases hrefusal with hrefusal | hrefusal | hrefusal <;> cases hrefusal
      · exact .unbound
      · exact .occupied
    have hended := htried.conclude (getElem?_operate_self hm) hexit hregular
    rw [List.append_assoc, Session.operate, happly] at hended
    exact hended

/-- What a worker does about a message, up to the reply and beyond. -/
theorem dispatch (hexit : m.exit = none) (hphase : s.hub.phase? m.dealer = some (.connected k))
    (hregistry : m.dispatcher.channel.registry = registry) {frames : Frames}
    (hreceive : (s.hub.receive m.dealer).1 = .message frames) :
    ((s.onHub (s.hub.receive m.dealer).2).dispatch w m (.message frames)).Recorded registry inHand
      handed (done ++ m.receiving s.hub) := by
  set received := s.onHub (s.hub.receive m.dealer).2
  set verdict := m.dispatcher.channel.judge (.message frames) with hverdict
  have hasked := (hr.absorb hm hexit hreceive).heed verdict.stops
  obtain ⟨m', hm', hdispatcher, hendpoint, hdealer, hexit'⟩ :
      ∃ m', ((received.absorb w m verdict).heed verdict.stops).workers[w]? = some m' ∧
        m'.dispatcher = m.dispatcher.absorb verdict ∧ m'.endpoint = m.endpoint ∧
        m'.dealer = m.dealer ∧ m'.exit = m.exit := by
    have habsorbed : (received.absorb w m verdict).workers[w]? =
        some { m with dispatcher := m.dispatcher.absorb verdict } := getElem?_update_self hm _
    rw [Session.heed]
    split
    · refine ⟨_, (List.getElem?_map ..).trans (congrArg _ habsorbed), rfl, rfl, rfl, rfl⟩
    · exact ⟨_, habsorbed, rfl, rfl, rfl, rfl⟩
  have hphase' : ((received.absorb w m verdict).heed verdict.stops).hub.phase? m'.dealer =
      some (.connected k) := by
    rw [((received.absorb w m verdict).steady_heed verdict.stops).phase, hdealer, ← hphase]
    exact (s.hub.still_receive m.dealer).phase m.dealer
  have hpanics : verdict.completion = .panicked →
      Exit.panicked.IsRegular registry ((received.absorb w m verdict).heed verdict.stops).trace
        m'.security m'.endpoint := fun hpanics ↦ by
    have hsecurity : m'.security = m.dispatcher.channel.security :=
      congrArg (·.channel.security) hdispatcher
    rw [hsecurity, ← hregistry]
    refine Channel.isRegular_of_completion m.dispatcher.arrivals hpanics fun e he ↦ ?_
    rw [trace_heed]
    exact List.mem_append_right s.trace he
  have hcompleted :=
    hasked.complete hm' (hexit'.trans hexit) hphase' m.dispatcher.arrivals m.security hpanics
  rw [hdealer, List.append_assoc] at hcompleted
  rw [Member.receiving, hreceive, if_neg Received.noConfusion]
  exact hcompleted

/-- A worker that is connected looks for a message and deals with what it finds. -/
theorem serve (hexit : m.exit = none) (hphase : s.hub.phase? m.dealer = some (.connected k))
    (hregistry : m.dispatcher.channel.registry = registry) :
    (s.serve w m).Recorded registry inHand handed (done ++ m.serving s.hub) := by
  have hpolled := hr.poll hm hexit hphase
  have hphase' : (s.onHub (s.hub.poll m.dealer).2).hub.phase? m.dealer = some (.connected k) :=
    ((s.hub.still_poll m.dealer).phase m.dealer).trans hphase
  have hfound := Hub.poll_found (Hub.Conserved.of_leadsTo hr.leadsTo).coherent
    (.of_leadsTo hr.leadsTo) (hr.isAlive hm hexit) hphase
  rw [Member.serving, List.append_cons]
  rcases hfound with hfound | hfound | hfound
  · obtain ⟨frames, hreceive, -⟩ := Hub.receive_of_poll_eq_ready hfound
    rw [serve_of_ready hfound, receive_of_message hreceive, hfound]
    exact hpolled.dispatch hm hexit hphase' hregistry hreceive
  · rw [serve_of_waiting hfound, hfound, List.append_nil]
    rw [Hub.poll_of_waiting hfound] at hpolled
    exact hpolled
  · rw [serve_of_failed hfound, hfound]
    have hnoted : (s.onHub (s.hub.poll m.dealer).2).note
        (Worker.pollNotices m.security .serviceStopped) = s.onHub (s.hub.poll m.dealer).2 := by
      rw [note, record, Worker.pollNotices, List.map_nil, List.append_nil]
    rw [hnoted]
    exact hpolled.finish hm hexit hphase'

end Recorded

/-! ### Chances to answer that were kept -/

namespace Recorded

variable {t : OpenTicket} (hr : s.Recorded registry (t :: inHand) handed done)
  (hm : s.workers[t.worker]? = some m)

include hr hm

/-- A chance to answer in hand is kept again: it is handed on, and the transport takes no note. -/
theorem keepAgain (again : OpenTicket) (hagain : again.worker = t.worker)
    {parked deferred : List OpenTicket} (hkept : (parked ++ deferred).Perm (again :: s.kept)) :
    (({ s.onHub (s.hub.retain m.dealer) with parked, deferred } : Session).release
      t.worker).Recorded registry inHand handed done := by
  have hworker : ({ s.onHub (s.hub.retain m.dealer) with parked, deferred } :
      Session).workers[t.worker]? = some m := hm
  rw [Session.release, hworker]
  refine hr.of_books (Hub.release_retain s.hub m.dealer) rfl (fun _ ↦ rfl) rfl fun v ↦ ?_
  show openThrough (inHand ++ (parked ++ deferred)) v = openThrough (t :: (inHand ++ s.kept)) v
  rw [← openThrough_cons_congr hagain, openThrough_append, openThrough_perm hkept,
    ← openThrough_append]
  exact openThrough_perm List.perm_middle v

/-- A handler decides about a chance to answer in hand. -/
theorem decided {phase : Phase} (hphase : s.hub.phase? m.dealer = some phase)
    (hconnected : phase ≠ .unconnected) (number : Nat) (security : Security)
    (completion : Completion) :
    ((match completion with
      | .panicked => s
      | completion => s.complete t.worker number security completion).release
        t.worker).Recorded registry inHand handed (done ++ completion.releasing m.dealer) := by
  have hretain : s.retain t.worker = s.onHub (s.hub.retain m.dealer) := by
    rw [Session.retain, hm]
  cases completion with
  | dropped => exact hr.release hm rfl rfl
  | panicked => exact hr.release hm rfl rfl
  | answered response =>
    have hcustody := (hr.members t.worker m hm).custody
    rw [List.cons_append, openThrough_cons_self] at hcustody
    have hretained := Hub.isRetained_of_custody? hcustody (Nat.succ_pos _)
    have hreplied := hr.reply hm (.inr hretained) hphase hconnected response
    have hm' : (s.reply t.worker response).workers[t.worker]? = some { m with
        dispatcher := m.dispatcher.settle (s.hub.send m.dealer response.encode).1 } := by
      rw [reply_eq hm (.inr hretained)]
      exact getElem?_operate_self hm
    have hreleased := hreplied.release hm' rfl rfl
    rw [List.append_assoc] at hreleased
    exact hreleased
  | parked r =>
    rw [Completion.releasing, List.append_nil]
    dsimp only [Session.complete]
    rw [hretain]
    refine hr.keepAgain hm ⟨t.worker, number, security, r⟩ rfl ?_
    rw [List.append_assoc]
    exact List.perm_middle
  | deferred r =>
    rw [Completion.releasing, List.append_nil]
    dsimp only [Session.complete]
    rw [hretain]
    refine hr.keepAgain hm ⟨t.worker, number, security, r⟩ rfl ?_
    rw [← List.append_assoc]
    exact List.perm_append_singleton _ _

end Recorded

/-! ### Turns -/

/-- What was done in a session that can come about is in its books. -/
structure Chronicle (settings : Settings) (registry : Registry (Handler Binding))
    (inHand : List OpenTicket) (handed : Nat → List Frames) (done : List Hub.Operation)
    (s : Session) : Prop where
  sound : s.Sound settings registry
  placed : s.Placed
  recorded : s.Recorded registry inHand handed done

namespace Chronicle

section Turns

variable (hc : s.Chronicle settings registry inHand handed done)

include hc

theorem continues : Continues settings registry s s := .refl hc.sound hc.placed

/-- **A worker's move does what is listed for it**, and the books are kept. -/
theorem advance (w : Nat) :
    (s.advance w).Chronicle settings registry inHand handed (done ++ s.movement w) := by
  obtain ⟨hsound, hplaced, -⟩ := hc.continues.advance w
  refine ⟨hsound, hplaced, ?_⟩
  have hrests : s.Recorded registry inHand handed (done ++ []) := by
    rw [List.append_nil]
    exact hc.recorded
  rw [Session.advance, movement]
  rcases hm : s.workers[w]? with - | m
  · exact hrests
  · dsimp only
    have hplaced := hc.placed.members w m hm
    rcases hexit : m.exit with - | exit
    · rw [Option.isSome_none, if_neg Bool.false_ne_true, if_neg Bool.false_ne_true]
      rw [Member.Placed] at hplaced
      rcases hstage : m.stage with - | - | - | -
      all_goals rw [hstage] at hplaced
      · exact hc.recorded.connect hm hexit hplaced
      · obtain ⟨k, hphase⟩ := hplaced
        dsimp only
        split
        · exact hc.recorded.finish hm hexit hphase
        · refine hc.recorded.serve hm hexit hphase ?_
          rw [hc.sound.channel_eq hm]
          rfl
      · exact hrests
      · exact hrests
    · exact hrests

/-- Advances are recorded, with the movements of all of them. -/
theorem advances (w n : Nat) :
    (s.advances w n).Chronicle settings registry inHand handed (done ++ s.movements w n) := by
  induction n generalizing s done with
  | zero =>
    rw [movements, List.append_nil]
    exact hc
  | succ n ih =>
    rw [movements, ← List.append_assoc]
    exact ih (hc.advance w)

/-- A turn is recorded with its operations. -/
theorem turn (w : Nat) :
    (s.turn w).Chronicle settings registry inHand handed (done ++ s.turnOperations w) := by
  rw [turnOperations, ← List.append_assoc]
  exact (hc.advance w).advances w _

/-- Turns are recorded with the operations of each. -/
theorem foldl_turn (ws : List Nat) :
    (ws.foldl Session.turn s).Chronicle settings registry inHand handed
      (done ++ along Session.turn turnOperations s ws) := by
  induction ws generalizing s done with
  | nil =>
    rw [along, List.append_nil]
    exact hc
  | cons w rest ih =>
    rw [along, ← List.append_assoc]
    exact ih (hc.turn w)

theorem turns :
    s.turns.Chronicle settings registry inHand handed (done ++ s.turnsOperations) :=
  hc.foldl_turn _

end Turns

/-- Chances to answer that were kept are taken in hand. -/
theorem takeUp {tickets parked deferred : List OpenTicket}
    (hc : s.Chronicle settings registry [] handed done)
    (htaken : (tickets ++ (parked ++ deferred)).Perm s.kept) :
    ({ s with parked, deferred } : Session).Chronicle settings registry tickets handed done := by
  have hcontinues : Continues settings registry s { s with parked, deferred } :=
    hc.continues.of_kept rfl rfl rfl rfl fun t ht ↦
      htaken.subset (List.mem_append_right tickets ht)
  exact ⟨hcontinues.sound, hcontinues.placed,
    hc.recorded.of_books rfl rfl (fun _ ↦ rfl) rfl (openThrough_perm htaken)⟩

/-- **A handler's decision does what is listed for it**, and the chance to answer leaves the
hand. -/
theorem decide {t : OpenTicket} (hc : s.Chronicle settings registry (t :: inHand) handed done)
    (ht : s.HasConnected t.worker) (behaviour : Behaviour) :
    (s.decide t behaviour).Chronicle settings registry inHand handed
      (done ++ s.decideOperations t behaviour) := by
  obtain ⟨hsound, hplaced, -⟩ := hc.continues.decide ht behaviour
  refine ⟨hsound, hplaced, ?_⟩
  obtain ⟨m, hm, hconnected⟩ := ht
  have hsteady := s.steady_heed behaviour.stops
  obtain ⟨m', hm', -, hdealer⟩ := exists_of_stations hsteady.stations hm
  obtain ⟨dealer, hd, -⟩ := Hub.exists_of_custody? (hc.recorded.members t.worker m hm).custody
  have hphase : (s.heed behaviour.stops).hub.phase? m'.dealer = some dealer.phase := by
    rw [hsteady.phase, hdealer]
    exact Hub.phase?_of_getElem? hd
  have hdecided := (hc.recorded.heed behaviour.stops).decided hm' hphase
    (fun heq ↦ hconnected (heq ▸ Hub.phase?_of_getElem? hd)) t.ticket.number t.ticket.security
    (behaviour.completion t.ticket.request)
  rw [hdealer] at hdecided
  rw [decideOperations, hm]
  exact hdecided

/-- A flush is recorded with its operations. -/
theorem flush (hc : s.Chronicle settings registry [] handed done) :
    s.flush.Chronicle settings registry [] handed (done ++ s.flushOperations) := by
  -- all that was put off is in hand, and leaves it piece by piece
  have hfoldl : ∀ (tickets : List OpenTicket) {z : Session} {done : List Hub.Operation},
      z.Chronicle settings registry tickets handed done →
      (∀ t ∈ tickets, z.HasConnected t.worker) →
        (tickets.foldl (fun s t ↦ s.decide t .echo) z).Chronicle settings registry [] handed
          (done ++ along (·.decide · .echo) (·.decideOperations · .echo) z tickets) := by
    intro tickets
    induction tickets with
    | nil =>
      intro z done hz _
      rw [along, List.append_nil]
      exact hz
    | cons t rest ih =>
      intro z done hz hconnected
      have hsteady := steady_decide hz.sound.coherent t .echo
      rw [along, ← List.append_assoc]
      refine ih (hz.decide (hconnected t List.mem_cons_self) .echo) fun t' ht' ↦ ?_
      exact (hconnected t' (List.mem_cons_of_mem t ht')).of_stations hsteady.stations hsteady.phase
  refine hfoldl s.deferred (hc.takeUp ?_) fun t ht ↦
    hc.placed.tickets t (List.mem_append_right _ ht)
  rw [List.append_nil]
  exact List.perm_append_comm

/-- A chance to answer that was kept is taken in hand and decided about. -/
theorem decideKept {t : OpenTicket} {parked deferred : List OpenTicket}
    (hc : s.Chronicle settings registry [] handed done)
    (htaken : (t :: (parked ++ deferred)).Perm s.kept) (behaviour : Behaviour) :
    (({ s with parked, deferred } : Session).decide t behaviour).Chronicle settings registry []
      handed (done ++ ({ s with parked, deferred } : Session).decideOperations t behaviour) := by
  have hconnected := hc.placed.tickets t (htaken.subset List.mem_cons_self)
  have hinHand : ({ s with parked, deferred } : Session).Chronicle settings registry [t] handed
      done := hc.takeUp htaken
  exact hinHand.decide (hconnected.of_stations (fun _ ↦ rfl) fun _ ↦ rfl) behaviour

/-- **As everyone runs until they have to wait, what is listed is done.** -/
theorem settle (hc : s.Chronicle settings registry [] handed done) :
    s.settle.Chronicle settings registry [] handed (done ++ s.settleOperations) := by
  rw [settleOperations, ← List.append_assoc, ← List.append_assoc]
  exact hc.turns.turns.flush

end Chronicle

end Session

end QueryDispatch
