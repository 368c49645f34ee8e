import QueryDispatch.Proofs.Hub.Waiting
import QueryDispatch.Proofs.Session.Sound

/-!
# Sessions come to rest

A worker rests if another move of it would change nothing: it has ended, or it serves, has not been
asked to stop, and waits (`Rests`). After every step all workers of a session rest
(`rests_step`), whatever the handlers do; in particular the moves that a turn is given always
suffice.

Every move of a worker is one of a few (`Moves`). A worker that has had its turn rests, because each
of its moves takes a message off what it has yet to receive (`progress_advance`). Other workers'
turns can disturb it only by asking it to stop: they leave it calm (`Calm`). A calm worker whose
turn comes again stops, and runs no handler, so that the second round of turns disturbs nobody.
-/

namespace QueryDispatch

/-- The worker could do nothing but stop. -/
def Member.Calm (m : Member) (h : Hub) : Prop :=
  m.exit = none → m.stage ≠ .idle ∧ (m.stage = .running → m.stopRequested = true ∨ h.Waits m.dealer)

/-- The worker can do nothing. -/
def Member.Rests (m : Member) (h : Hub) : Prop :=
  m.exit = none → m.stage ≠ .idle ∧
    (m.stage = .running → m.stopRequested = false ∧ h.Waits m.dealer)

/-- A worker at rest has nothing left to poll. -/
theorem Member.Rests.calm {m : Member} {h : Hub} (hm : m.Rests h) : m.Calm h :=
  fun hexit ↦ ⟨(hm hexit).1, fun hrunning ↦ .inr ((hm hexit).2 hrunning).2⟩

namespace Session

/-- The worker, if it is there, has nothing to do but to stop. -/
def Calm (s : Session) (w : Nat) : Prop := ∀ m, s.workers[w]? = some m → m.Calm s.hub

/-- The worker, if it is there, has nothing to do at all. -/
def Rests (s : Session) (w : Nat) : Prop := ∀ m, s.workers[w]? = some m → m.Rests s.hub

variable {s s' s'' : Session} {w v d : Nat} {m : Member}

theorem Rests.calm (h : s.Rests w) : s.Calm w := fun m hm ↦ (h m hm).calm

/-- Past the last worker there is nothing to disturb. -/
theorem rests_of_length_le (h : s.workers.length ≤ v) : s.Rests v := by
  intro m hm
  exact absurd h (Nat.not_le_of_lt (List.getElem?_eq_some_iff.1 hm).1)

/-- A session rests where its worker does. -/
theorem rests_of_getElem? (hm : s.workers[w]? = some m) (h : m.Rests s.hub) : s.Rests w := by
  intro m' hm'
  rw [hm] at hm'
  obtain rfl := Option.some.inj hm'
  exact h

theorem rests_of_getElem?_eq_none (hm : s.workers[w]? = none) : s.Rests w :=
  rests_of_length_le (List.getElem?_eq_none_iff.1 hm)

/-- A worker that has stopped is at rest. -/
theorem rests_of_exit (hm : s.workers[w]? = some m) (hexit : m.exit.isSome) : s.Rests w := by
  refine rests_of_getElem? hm fun hnone ↦ ?_
  rw [hnone] at hexit
  cases hexit

/-! ### The ways of serving -/

/-- While there is nothing to receive the worker waits, and the session stays as it is. -/
theorem serve_of_waiting (hpoll : (s.hub.poll m.dealer).1 = .waiting) : s.serve w m = s := by
  rw [serve]
  dsimp only
  rw [hpoll]

/-- A poll that fails ends the work of the worker. -/
theorem serve_of_failed {cause : TransportError} (hpoll : (s.hub.poll m.dealer).1 = .failed cause) :
    s.serve w m = ((s.onHub (s.hub.poll m.dealer).2).note
      (Worker.pollNotices m.security cause)).finish w m := by
  rw [serve]
  dsimp only
  rw [hpoll]

/-- Where the poll says that a request is there, the worker receives. -/
theorem serve_of_ready (hpoll : (s.hub.poll m.dealer).1 = .ready) :
    s.serve w m = (s.onHub (s.hub.poll m.dealer).2).receive w m := by
  rw [serve]
  dsimp only
  rw [hpoll]

/-- A message received goes on to the dispatcher. -/
theorem receive_of_message {frames : Frames}
    (hreceive : (s.hub.receive m.dealer).1 = .message frames) :
    s.receive w m = (s.onHub (s.hub.receive m.dealer).2).dispatch w m (.message frames) := by
  rw [receive]
  dsimp only
  rw [hreceive, if_neg Received.noConfusion]

/-- **A worker that rests does not move.** -/
theorem advance_of_rests (h : s.Rests w) : s.advance w = s := by
  rw [advance]
  split
  · rfl
  · next m hm =>
    split
    · rfl
    · next hexit =>
      obtain ⟨hidle, hrunning⟩ := h m hm (Option.not_isSome_iff_eq_none.1 hexit)
      split
      · next hstage => exact absurd hstage hidle
      · next hstage =>
        obtain ⟨hgoing, hwaits⟩ := hrunning hstage
        rw [hgoing]
        exact serve_of_waiting (Hub.poll_eq_waiting_iff.2 hwaits)
      · rfl
      · rfl

/-- Where one advance changes nothing, no number of them does. -/
theorem advances_of_advance_eq (h : s.advance w = s) (n : Nat) : s.advances w n = s := by
  induction n with
  | zero => rfl
  | succ n ih => rw [advances, h, ih]

/-- A worker at rest stays at rest however often it is advanced. -/
theorem advances_of_rests (h : s.Rests w) (n : Nat) : s.advances w n = s :=
  advances_of_advance_eq (advance_of_rests h) n

/-- Advances add up. -/
theorem advances_add (s : Session) (w a b : Nat) :
    s.advances w (a + b) = (s.advances w a).advances w b := by
  induction a generalizing s with
  | zero => rw [Nat.zero_add, advances]
  | succ a ih => rw [Nat.succ_add, advances, advances, ih]

/-- However many moves it takes a worker to rest, it gets to the same point. -/
theorem advances_eq_of_rests {a b : Nat} (ha : (s.advances w a).Rests w)
    (hb : (s.advances w b).Rests w) : s.advances w a = s.advances w b := by
  rcases Nat.le_total a b with hle | hle
  · obtain ⟨c, rfl⟩ := Nat.exists_eq_add_of_le hle
    rw [advances_add, advances_of_rests ha]
  · obtain ⟨c, rfl⟩ := Nat.exists_eq_add_of_le hle
    rw [advances_add, advances_of_rests hb]

/-- The turn of a worker at rest changes nothing. -/
theorem turn_of_rests (h : s.Rests w) : s.turn w = s := by
  rw [turn, advance_of_rests h, advances_of_rests h]

/-! ### Workers that end -/

theorem getElem?_conclude (hm : s.workers[w]? = some m) (exit : Exit) :
    (s.conclude w exit).workers[w]? = some { m with exit := some exit } := by
  rw [conclude, hm]
  show ((s.onHub _).update w _).workers[w]? = _
  rw [getElem?_update]
  show s.workers[w]?.map _ = _
  rw [hm, Option.map_some, if_pos rfl]

/-- A worker that is concluded is at rest. -/
theorem rests_conclude (s : Session) (w : Nat) (exit : Exit) : (s.conclude w exit).Rests w := by
  rcases hm : s.workers[w]? with - | m
  · rw [conclude, hm]
    exact rests_of_getElem?_eq_none hm
  · exact rests_of_exit (getElem?_conclude hm exit) rfl

/-- A worker that has finished is at rest. -/
theorem rests_finish (s : Session) (w : Nat) (m : Member) : (s.finish w m).Rests w :=
  rests_conclude _ w _

/-! ### The moves of a worker -/

/-- All that a move can come to: there is nothing to do; the worker connects; it stops because it
was asked to, or because there is nothing more to come; or it dispatches the message it finds. -/
inductive Moves (s : Session) (w : Nat) : Session → Prop
  | rests (h : s.Rests w) : Moves s w s
  | connects {m : Member} (hm : s.workers[w]? = some m) (hexit : m.exit = none)
      (hstage : m.stage = .idle) : Moves s w (s.connect w m)
  | stops {m : Member} (hm : s.workers[w]? = some m) (hexit : m.exit = none)
      (hstage : m.stage = .running) (hstop : m.stopRequested = true) : Moves s w (s.finish w m)
  | fails {m : Member} {cause : TransportError} (hm : s.workers[w]? = some m)
      (hexit : m.exit = none) (hstage : m.stage = .running) (hgoing : m.stopRequested = false)
      (hpoll : (s.hub.poll m.dealer).1 = .failed cause) :
      Moves s w (((s.onHub (s.hub.poll m.dealer).2).note
        (Worker.pollNotices m.security cause)).finish w m)
  | receives {m : Member} {frames : Frames} (hm : s.workers[w]? = some m) (hexit : m.exit = none)
      (hstage : m.stage = .running) (hgoing : m.stopRequested = false)
      (hpoll : (s.hub.poll m.dealer).1 = .ready)
      (hless : ((s.hub.poll m.dealer).2.receive m.dealer).2.backlog m.dealer <
        s.hub.backlog m.dealer) :
      Moves s w (((s.onHub (s.hub.poll m.dealer).2).onHub
        ((s.hub.poll m.dealer).2.receive m.dealer).2).dispatch w m (.message frames))

/-- **Every move is one of these.** -/
theorem moves_advance (s : Session) (w : Nat) : Moves s w (s.advance w) := by
  rw [advance]
  split
  · next hm => exact .rests (rests_of_getElem?_eq_none hm)
  · next m hm =>
    split
    · next hexit => exact .rests (rests_of_exit hm hexit)
    · next hexit =>
      have hexit' : m.exit = none := Option.not_isSome_iff_eq_none.1 hexit
      split
      · next hstage => exact .connects hm hexit' hstage
      · next hstage =>
        split
        · next hstop => exact .stops hm hexit' hstage hstop
        · next hstop =>
          have hgoing : m.stopRequested = false := Bool.eq_false_iff.2 hstop
          rcases hpoll : (s.hub.poll m.dealer).1 with - | - | cause
          · obtain ⟨frames, hreceive, hless⟩ := Hub.receive_of_poll_eq_ready hpoll
            rw [serve_of_ready hpoll, receive_of_message hreceive]
            exact .receives hm hexit' hstage hgoing hpoll hless
          · have hwaits := Hub.poll_eq_waiting_iff.1 hpoll
            rw [serve_of_waiting hpoll]
            refine .rests (rests_of_getElem? hm fun _ ↦ ⟨?_, fun _ ↦ ⟨hgoing, hwaits⟩⟩)
            rw [hstage]
            exact Stage.noConfusion
          · rw [serve_of_failed hpoll]
            exact .fails hm hexit' hstage hgoing hpoll
      all_goals
        next hstage =>
          -- a worker that is draining or stopped has no way back
          refine .rests (rests_of_getElem? hm fun _ ↦ ⟨?_, fun hrunning ↦ ?_⟩)
          · rw [hstage]
            exact Stage.noConfusion
          · rw [hstage] at hrunning
            cases hrunning

/-! ### One worker's own turn -/

/-- The worker has tried to connect. -/
def Started (s : Session) (w : Nat) : Prop :=
  ∀ m, s.workers[w]? = some m → m.exit = none → m.stage ≠ .idle

theorem Rests.started (h : s.Rests w) : s.Started w := fun m hm hexit ↦ (h m hm hexit).1

/-- What decides about the moves of a worker, apart from what there is to receive. -/
def view (m : Member) : Option Exit × Stage × Nat := (m.exit, m.stage, m.dealer)

/-- From `s` to `s'` nothing has changed about what the worker is at, and as much is left for it to
receive. -/
structure Alike (w : Nat) (s s' : Session) : Prop where
  view : s'.workers[w]?.map view = s.workers[w]?.map view
  backlog : ∀ d, s'.hub.backlog d = s.hub.backlog d

/-- Sameness to the worker carries from step to step. -/
theorem Alike.trans (h : Alike w s s') (h' : Alike w s' s'') : Alike w s s'' :=
  ⟨h'.view.trans h.view, fun d ↦ (h'.backlog d).trans (h.backlog d)⟩

/-- What looks alike to a worker has started for it or has not. -/
theorem Alike.started (h : Alike w s s') (hs : s.Started w) : s'.Started w := by
  intro m' hm' hexit
  have hview := h.view
  rw [hm'] at hview
  obtain ⟨m, hm, heq⟩ := Option.map_eq_some_iff.1 hview.symm
  obtain ⟨hexit', hstage, -⟩ : m.exit = m'.exit ∧ m.stage = m'.stage ∧ m.dealer = m'.dealer := by
    simpa [Session.view] using heq
  rw [← hstage]
  exact hs m hm (hexit'.trans hexit)

theorem backlog_of_getElem? (hm : s.workers[w]? = some m) :
    s.backlog w = s.hub.backlog m.dealer := by
  rw [backlog, hm]

/-- What looks alike to a worker leaves it the same backlog. -/
theorem Alike.backlog_eq (h : Alike w s s') : s'.backlog w = s.backlog w := by
  have hview := h.view
  rcases hm : s.workers[w]? with - | m
  · rw [hm] at hview
    rw [Session.backlog, Session.backlog, hm, Option.map_eq_none_iff.1 hview]
  · rw [hm] at hview
    obtain ⟨m', hm', heq⟩ := Option.map_eq_some_iff.1 hview
    have hdealer : m'.dealer = m.dealer := congrArg (·.2.2) heq
    rw [backlog_of_getElem? hm, backlog_of_getElem? hm', hdealer, h.backlog]

/-- An update of what the worker does not look at changes nothing for it. -/
theorem alike_update {f : Member → Member} (hf : ∀ m, view (f m) = view m) :
    Alike w s (s.update w f) := by
  refine ⟨?_, fun _ ↦ rfl⟩
  rw [getElem?_update, Option.map_map]
  congr 1
  funext m
  show view (if w = w then f m else m) = view m
  rw [if_pos rfl, hf]

theorem alike_record (events : Trace) : Alike w s (s.record events) := ⟨rfl, fun _ ↦ rfl⟩

theorem alike_onHub {hub : Hub} (h : ∀ d, hub.backlog d = s.hub.backlog d) :
    Alike w s (s.onHub hub) := ⟨rfl, h⟩

theorem alike_absorb (v : Verdict) : Alike w s (s.absorb w m v) := by
  refine (alike_record _).trans (alike_update ?_)
  exact fun _ ↦ rfl

theorem alike_heed (stops : Bool) : Alike w s (s.heed stops) := by
  rw [heed]
  split
  · refine ⟨?_, fun _ ↦ rfl⟩
    show (s.workers.map _)[w]?.map view = _
    rw [List.getElem?_map, Option.map_map]
    rfl
  · exact ⟨rfl, fun _ ↦ rfl⟩

/-- To reply leaves the worker what it had before it. -/
theorem alike_reply (response : Response) : Alike w s (s.reply w response) := by
  rw [reply]
  split
  · exact ⟨rfl, fun _ ↦ rfl⟩
  · next m _ =>
    have hsent := alike_onHub (w := w) (s.hub.backlog_send m.dealer response.encode)
    refine (hsent.trans (alike_update ?_)).trans (alike_record _)
    exact fun _ ↦ rfl

/-- To retain a ticket leaves the worker what it had before it. -/
theorem alike_retain : Alike w s (s.retain w) := by
  rw [retain]
  split
  · exact ⟨rfl, fun _ ↦ rfl⟩
  · next m _ => exact alike_onHub (s.hub.backlog_retain m.dealer)

/-- The worker goes on as before, unless its handler breaks down and ends it. -/
theorem rests_or_alike_dispatch (received : Received) :
    (s.dispatch w m received).Rests w ∨ Alike w s (s.dispatch w m received) := by
  set verdict := m.dispatcher.channel.judge received with hverdict
  have hasked : Alike w s ((s.absorb w m verdict).heed verdict.stops) :=
    (alike_absorb verdict).trans (alike_heed _)
  set asked := (s.absorb w m verdict).heed verdict.stops with hasked'
  show (asked.complete w m.dispatcher.arrivals m.security verdict.completion).Rests w ∨
    Alike w s (asked.complete w m.dispatcher.arrivals m.security verdict.completion)
  rcases verdict.completion with - | response | r | r | -
  · exact .inr hasked
  · exact .inr (hasked.trans (alike_reply response))
  · have hretained := hasked.trans alike_retain
    exact .inr ⟨hretained.view, hretained.backlog⟩
  · have hretained := hasked.trans alike_retain
    exact .inr ⟨hretained.view, hretained.backlog⟩
  · exact .inl (rests_conclude asked w .panicked)

/-- **A move of a worker takes a message off what it has yet to receive**, or leaves the worker with
nothing to do. -/
theorem progress_advance (h : s.Started w) :
    (s.advance w).Rests w ∨
      (s.advance w).Started w ∧ (s.advance w).backlog w < s.backlog w := by
  have hmoves := s.moves_advance w
  generalize s.advance w = s' at hmoves ⊢
  cases hmoves with
  | rests hrests => exact .inl hrests
  | connects hm hexit hstage => exact absurd hstage (h _ hm hexit)
  | stops => exact .inl (rests_finish s w _)
  | fails => exact .inl (rests_finish _ w _)
  | @receives m frames hm hexit hstage hgoing hpoll hless =>
    -- only its dispatch can end the worker; otherwise the message it took is what has changed
    rcases rests_or_alike_dispatch (.message frames) with hrests | halike
    · exact .inl hrests
    · refine .inr ⟨halike.started h, ?_⟩
      have htaken : ((s.onHub (s.hub.poll m.dealer).2).onHub
          ((s.hub.poll m.dealer).2.receive m.dealer).2).backlog w =
            ((s.hub.poll m.dealer).2.receive m.dealer).2.backlog m.dealer :=
        backlog_of_getElem? hm
      rw [halike.backlog_eq, htaken, backlog_of_getElem? hm]
      exact hless

/-- A worker that connects has started. -/
theorem started_connect (hm : s.workers[w]? = some m) (hstage : m.stage = .idle) :
    (s.connect w m).Started w := by
  rw [connect]
  dsimp only
  rcases (s.hub.connect m.dealer m.endpoint).1 with - | cause
  · intro m' hm' _
    have hchanged : some (m.change .connected) = some m' := by
      rw [← hm']
      show _ = (s.workers.modify w _)[w]?
      rw [List.getElem?_modify_eq, hm]
      rfl
    rw [← Option.some.inj hchanged, Member.change, hstage]
    exact Stage.noConfusion
  · exact (rests_conclude _ w _).started

/-- What has started stays so. -/
theorem Started.advance (h : s.Started w) : (s.advance w).Started w := by
  rcases progress_advance h with hrests | ⟨hstarted, -⟩
  · exact hrests.started
  · exact hstarted

/-- One advance is enough to start. -/
theorem started_advance (s : Session) (w : Nat) : (s.advance w).Started w := by
  rcases hm : s.workers[w]? with - | m
  · refine Started.advance fun m' hm' ↦ ?_
    rw [hm] at hm'
    cases hm'
  · by_cases hidle : m.exit = none ∧ m.stage = .idle
    · -- only a worker that is still idle connects
      obtain ⟨hexit, hstage⟩ := hidle
      rw [Session.advance]
      rw [hm]
      dsimp only
      rw [hexit, hstage]
      exact started_connect hm hstage
    · refine Started.advance fun m' hm' hexit hstage ↦ hidle ?_
      rw [hm] at hm'
      obtain rfl := Option.some.inj hm'
      exact ⟨hexit, hstage⟩

/-- A worker that has started is at rest after one advance more than it has requests before it. -/
theorem rests_advances (n : Nat) (h : s.Started w) (hn : s.backlog w ≤ n) :
    (s.advances w (n + 1)).Rests w := by
  induction n generalizing s with
  | zero =>
    rcases progress_advance h with hrests | ⟨-, hlt⟩
    · exact hrests
    · exact absurd (Nat.lt_of_lt_of_le hlt hn) (Nat.not_lt_zero _)
  | succ n ih =>
    rw [advances]
    rcases progress_advance h with hrests | ⟨hstarted, hlt⟩
    · rw [advances_of_rests hrests]
      exact hrests
    · exact ih hstarted (Nat.le_of_lt_succ (Nat.lt_of_lt_of_le hlt hn))

/-- **A worker that has had its turn rests.** -/
theorem rests_turn (s : Session) (w : Nat) : (s.turn w).Rests w :=
  rests_advances (s := s.advance w) _ (s.started_advance w) (Nat.le_refl _)

/-! ### Other workers' turns -/

/-- From `s` to `s'` only worker `w`, whose dealer is `d`, has done something: the other workers are
as they were, and where another dealer waited it still waits. -/
structure Spares (w d : Nat) (s s' : Session) : Prop where
  dealer : s'.workers[w]?.map Member.dealer = s.workers[w]?.map Member.dealer
  others : ∀ v, w ≠ v → s'.workers[v]? = s.workers[v]?
  waits : ∀ e, d ≠ e → s.hub.Waits e → s'.hub.Waits e

theorem Spares.refl (s : Session) : Spares w d s s := ⟨rfl, fun _ _ ↦ rfl, fun _ _ h ↦ h⟩

theorem Spares.trans (h : Spares w d s s') (h' : Spares w d s' s'') : Spares w d s s'' :=
  ⟨h'.dealer.trans h.dealer, fun v hv ↦ (h'.others v hv).trans (h.others v hv),
    fun e he hw ↦ h'.waits e he (h.waits e he hw)⟩

theorem spares_onHub {hub : Hub} (h : ∀ e, d ≠ e → s.hub.Waits e → hub.Waits e) :
    Spares w d s (s.onHub hub) :=
  ⟨rfl, fun _ _ ↦ rfl, h⟩

theorem spares_update {f : Member → Member} (hf : ∀ m, (f m).dealer = m.dealer) :
    Spares w d s (s.update w f) := by
  refine ⟨?_, fun v hv ↦ ?_, fun _ _ h ↦ h⟩
  · rw [getElem?_update, Option.map_map]
    congr 1
    funext m
    show (if w = w then f m else m).dealer = m.dealer
    rw [if_pos rfl, hf]
  · rw [getElem?_update]
    simp only [if_neg hv, Option.map_id']

theorem dealer_of_getElem? (hm : s.workers[w]? = some m) :
    s.workers[w]?.map Member.dealer = some m.dealer := by
  rw [hm]
  rfl

section Done

variable {c : Security} (hd : s.workers[w]?.map Member.dealer = some d)

include hd

/-- **Whatever a worker does by itself spares the others.** -/
theorem Does.spares (h : Does w c s s') : Spares w d s s' := by
  have honHub : ∀ {m : Member} {hub : Hub}, s.workers[w]? = some m →
      s.hub.Acts m.dealer m.endpoint hub → Spares w d s (s.onHub hub) := by
    intro m hub hm hhub
    rw [hm] at hd
    obtain rfl := Option.some.inj hd
    exact spares_onHub fun e he hw ↦ hw.acts he hhub
  have hupdate : ∀ {f : Member → Member}, (∀ m, (f m).place = m.place) →
      Spares w d s (s.update w f) := fun hplace ↦
    spares_update fun m ↦ congrArg (·.1) (hplace m)
  cases h with
  | touches h =>
    cases h with
    | update hplace => exact hupdate hplace
    | onHub hm hhub => exact honHub hm (.handles hhub)
    | record | park | defer => exact ⟨rfl, fun _ _ ↦ rfl, fun _ _ h ↦ h⟩
  | onHub hm hhub => exact honHub hm hhub
  | update hplace => exact hupdate hplace

/-- What is done on one worker spares the dealers of the others. -/
theorem Done.spares (h : Done w c s s') : Spares w d s s' := by
  induction h with
  | refl => exact .refl s
  | tail _ hlast ih => exact ih.trans (hlast.spares (ih.dealer.trans hd))

/-- What touches one worker spares the dealers of the others. -/
theorem Touched.spares (h : Touched w c s s') : Spares w d s s' := Done.spares hd (Touched.done h)

end Done

variable {settings : Settings} {registry : Registry (Handler Binding)}

/-- Two workers have different dealers. -/
theorem Sound.dealer_ne_of_map (hs : s.Sound settings registry) (hne : w ≠ v)
    (hd : s.workers[w]?.map Member.dealer = some d) (hm : s.workers[v]? = some m) :
    d ≠ m.dealer := by
  obtain ⟨m', hm', rfl⟩ := Option.map_eq_some_iff.1 hd
  exact hs.dealer_ne hne.symm hm' hm

section Others

variable (hs : s.Sound settings registry) (hd : s.workers[w]?.map Member.dealer = some d)
  (hspares : Spares w d s s') (hne : w ≠ v)

include hs hd hspares hne

/-- What leaves the dealer of a worker alone leaves the worker calm, or at rest. -/
theorem Calm.of_spares (h : s.Calm v) : s'.Calm v := by
  intro m hm hexit
  rw [hspares.others v hne] at hm
  obtain ⟨hidle, hrunning⟩ := h m hm hexit
  refine ⟨hidle, fun hstage ↦ (hrunning hstage).imp_right fun hwaits ↦ ?_⟩
  exact hspares.waits _ (hs.dealer_ne_of_map hne hd hm) hwaits

/-- A worker that is spared stays at rest. -/
theorem Rests.of_spares (h : s.Rests v) : s'.Rests v := by
  intro m hm hexit
  rw [hspares.others v hne] at hm
  obtain ⟨hidle, hrunning⟩ := h m hm hexit
  refine ⟨hidle, fun hstage ↦ ⟨(hrunning hstage).1, ?_⟩⟩
  exact hspares.waits _ (hs.dealer_ne_of_map hne hd hm) (hrunning hstage).2

end Others

/-- A request to stop leaves a worker calm. -/
theorem Calm.heed (h : s.Calm v) (stops : Bool) : (s.heed stops).Calm v := by
  rw [Session.heed]
  split
  · intro m' hm' hexit
    have hmap : (s.workers.map fun m ↦ { m with stopRequested := true })[v]? = some m' := hm'
    rw [List.getElem?_map] at hmap
    obtain ⟨m, hm, rfl⟩ := Option.map_eq_some_iff.1 hmap
    exact ⟨(h m hm hexit).1, fun _ ↦ .inl rfl⟩
  · exact h

/-- **Another worker's move leaves a worker calm.** -/
theorem Calm.advance (hs : s.Sound settings registry) (hne : w ≠ v) (h : s.Calm v) :
    (s.advance w).Calm v := by
  rcases hm : s.workers[w]? with - | m
  · rw [advance_of_rests (rests_of_getElem?_eq_none hm)]
    exact h
  · have hd := dealer_of_getElem? hm
    cases moved_advance hm with
    | done hdone => exact h.of_spares hs hd (Done.spares hd hdone) hne
    | @asked received z _ hbefore hafter =>
      -- a handler may ask all of them to stop
      have hz := Touched.spares hd hbefore
      have hsound := (hs.of_keeps (Touched.keeps hbefore)).of_keeps (keeps_heed z true)
      have hasked := (h.of_spares hs hd hz hne).heed true
      have hd' : z.requestStops.workers[w]?.map Member.dealer = some m.dealer := by
        rw [← hd, ← hz.dealer]
        show (z.workers.map _)[w]?.map Member.dealer = _
        rw [List.getElem?_map, Option.map_map]
        rfl
      exact hasked.of_spares hsound hd' (Touched.spares hd' hafter) hne

/-- A calm worker stays calm through the turn of another. -/
theorem Calm.turn (hs : s.Sound settings registry) (hne : w ≠ v) (h : s.Calm v) :
    (s.turn w).Calm v := by
  have hadvances : ∀ (n : Nat) {s : Session}, s.Sound settings registry → s.Calm v →
      (s.advances w n).Calm v := by
    intro n
    induction n with
    | zero => exact fun _ h ↦ h
    | succ n ih =>
      intro s hs h
      exact ih (hs.of_keeps (s.keeps_advance w)) (h.advance hs hne)
  exact hadvances _ (hs.of_keeps (s.keeps_advance w)) (h.advance hs hne)

/-! ### All workers -/

/-- **A calm worker whose turn comes** does nothing, or stops. -/
theorem turn_of_calm (h : s.Calm w) (hm : s.workers[w]? = some m) :
    s.turn w = s ∨ m.stage = .running ∧ s.turn w = s.finish w m := by
  have hmember : ∀ {m'}, s.workers[w]? = some m' → m' = m := fun hm' ↦
    Option.some.inj (hm'.symm.trans hm)
  have hadvance : s.advance w = s ∨ m.stage = .running ∧ s.advance w = s.finish w m := by
    have hmoves := s.moves_advance w
    generalize s.advance w = s' at hmoves ⊢
    cases hmoves with
    | rests => exact .inl rfl
    | connects hm' hexit hstage => exact absurd hstage (h _ hm' hexit).1
    | stops hm' _ hstage =>
      obtain rfl := hmember hm'
      exact .inr ⟨hstage, rfl⟩
    | fails hm' hexit hstage hgoing hpoll =>
      rcases (h _ hm' hexit).2 hstage with hstop | hwaits
      · exact absurd hstop (ne_true_of_eq_false hgoing)
      · rw [Hub.poll_eq_waiting_iff.2 hwaits] at hpoll
        cases hpoll
    | receives hm' hexit hstage hgoing hpoll =>
      rcases (h _ hm' hexit).2 hstage with hstop | hwaits
      · exact absurd hstop (ne_true_of_eq_false hgoing)
      · rw [Hub.poll_eq_waiting_iff.2 hwaits] at hpoll
        cases hpoll
  rcases hadvance with hstays | ⟨hstage, hfinishes⟩
  · exact .inl (by rw [turn, hstays, advances_of_advance_eq hstays])
  · exact .inr ⟨hstage, by rw [turn, hfinishes, advances_of_rests (s.rests_finish w m)]⟩

/-- A worker at rest stays so through the turn of one that is calm. -/
theorem Rests.turn_of_calm (hs : s.Sound settings registry) (hne : w ≠ v) (hcalm : s.Calm w)
    (h : s.Rests v) : (s.turn w).Rests v := by
  rcases hm : s.workers[w]? with - | m
  · have hrests : s.Rests w := fun m' hm' ↦ by rw [hm] at hm'; cases hm'
    rw [turn_of_rests hrests]
    exact h
  · have hd := dealer_of_getElem? hm
    rcases Session.turn_of_calm hcalm hm with hturn | ⟨-, hturn⟩
    · rw [hturn]
      exact h
    · rw [hturn]
      exact h.of_spares hs hd (Done.spares hd (done_finish (c := m.security) hm)) hne

/-- The first workers to have had their turn are calm. -/
theorem calm_foldl_turn (hs : s.Sound settings registry) (n : Nat) :
    ∀ v < n, ((List.range n).foldl turn s).Calm v := by
  induction n with
  | zero => exact fun v hv ↦ absurd hv (Nat.not_lt_zero v)
  | succ n ih =>
    intro v hv
    rw [List.range_succ, List.foldl_append]
    have hsound := hs.of_keeps (keeps_foldl s keeps_turn (List.range n))
    rcases Nat.lt_succ_iff_lt_or_eq.1 hv with hlt | rfl
    · exact (ih v hlt).turn hsound (Nat.ne_of_gt hlt)
    · exact (rests_turn _ v).calm

/-- After a round of turns every worker is calm. -/
theorem calm_turns (hs : s.Sound settings registry) (v : Nat) : s.turns.Calm v := by
  rcases Nat.lt_or_ge v s.workers.length with hlt | hge
  · exact calm_foldl_turn hs s.workers.length v hlt
  · exact (rests_of_length_le (Nat.le_trans (Nat.le_of_eq s.keeps_turns.length_workers) hge)).calm

/-- A second turn of calm workers disturbs nobody. -/
theorem rests_foldl_turn (hs : s.Sound settings registry) (hcalm : ∀ v, s.Calm v) (n : Nat) :
    (∀ v, ((List.range n).foldl turn s).Calm v) ∧
      ∀ v < n, ((List.range n).foldl turn s).Rests v := by
  induction n with
  | zero => exact ⟨hcalm, fun v hv ↦ absurd hv (Nat.not_lt_zero v)⟩
  | succ n ih =>
    rw [List.range_succ, List.foldl_append]
    have hsound := hs.of_keeps (keeps_foldl s keeps_turn (List.range n))
    refine ⟨fun v ↦ ?_, fun v hv ↦ ?_⟩
    · by_cases hne : n = v
      · subst hne
        exact (rests_turn _ n).calm
      · exact (ih.1 v).turn hsound hne
    · rcases Nat.lt_succ_iff_lt_or_eq.1 hv with hlt | rfl
      · exact (ih.2 v hlt).turn_of_calm hsound (Nat.ne_of_gt hlt) (ih.1 n)
      · exact rests_turn _ v

/-- **Two rounds of turns bring everyone to rest.** -/
theorem rests_turns_turns (hs : s.Sound settings registry) (v : Nat) : s.turns.turns.Rests v := by
  have hturns := hs.of_keeps s.keeps_turns
  rcases Nat.lt_or_ge v s.turns.workers.length with hlt | hge
  · exact (rests_foldl_turn hturns (calm_turns hs) s.turns.workers.length).2 v hlt
  · exact rests_of_length_le (Nat.le_trans (Nat.le_of_eq s.turns.keeps_turns.length_workers) hge)

/-! ### What was put off -/

/-- What a worker is at. -/
def doing (m : Member) : Option Exit × Stage × Bool × Nat :=
  (m.exit, m.stage, m.stopRequested, m.dealer)

/-- What is done outside the workers leaves them at rest. -/
theorem Rests.of_doing (h : s.Rests v)
    (hdoing : s'.workers[v]?.map doing = s.workers[v]?.map doing)
    (hwaits : ∀ e, s.hub.Waits e → s'.hub.Waits e) : s'.Rests v := by
  intro m' hm' hexit
  rw [hm'] at hdoing
  obtain ⟨m, hm, heq⟩ := Option.map_eq_some_iff.1 hdoing.symm
  obtain ⟨hexit', hstage, hstop, hdealer⟩ : m.exit = m'.exit ∧ m.stage = m'.stage ∧
      m.stopRequested = m'.stopRequested ∧ m.dealer = m'.dealer := by
    simpa [doing] using heq
  rw [← hstage, ← hstop, ← hdealer]
  obtain ⟨hidle, hrunning⟩ := h m hm (hexit'.trans hexit)
  exact ⟨hidle, fun hr ↦ ⟨(hrunning hr).1, hwaits _ (hrunning hr).2⟩⟩

/-- A reply disturbs nobody's rest. -/
theorem Rests.reply (h : s.Rests v) (w : Nat) (response : Response) :
    (s.reply w response).Rests v := by
  rw [Session.reply]
  split
  · exact h
  · next m _ =>
    refine h.of_doing ?_ fun e he ↦ he.send m.dealer response.encode
    show ((s.onHub _).update w _).workers[v]?.map doing = _
    rw [getElem?_update, Option.map_map]
    congr 1
    funext m'
    show doing (if w = v then _ else m') = doing m'
    split <;> rfl

/-- To release a ticket disturbs nobody's rest. -/
theorem Rests.release (h : s.Rests v) (w : Nat) : (s.release w).Rests v := by
  rw [Session.release]
  split
  · exact h
  · next m _ => exact h.of_doing rfl fun e he ↦ he.release m.dealer

/-- A request that was put off is echoed, through the worker that received it. -/
theorem decide_echo (s : Session) (t : OpenTicket) :
    s.decide t .echo =
      (s.reply t.worker (.success t.ticket.request t.ticket.request.body)).release t.worker := rfl

/-- To answer what was deferred disturbs nobody's rest. -/
theorem rests_flush (h : ∀ v, s.Rests v) (v : Nat) : s.flush.Rests v := by
  have hfoldl : ∀ (tickets : List OpenTicket) {s : Session}, s.Rests v →
      (tickets.foldl (fun s t ↦ s.decide t .echo) s).Rests v := by
    intro tickets
    induction tickets with
    | nil => exact fun h ↦ h
    | cons t rest ih =>
      intro s h
      refine ih ?_
      show (s.decide t .echo).Rests v
      rw [decide_echo]
      exact (h.reply t.worker _).release t.worker
  exact hfoldl s.deferred (h v)

theorem deferred_reply (s : Session) (w : Nat) (response : Response) :
    (s.reply w response).deferred = s.deferred := by
  rw [reply]
  split <;> rfl

theorem deferred_release (s : Session) (w : Nat) : (s.release w).deferred = s.deferred := by
  rw [release]
  split <;> rfl

/-- After a flush no ticket is deferred. -/
theorem deferred_flush (s : Session) : s.flush.deferred = [] := by
  have hdecide : ∀ (s : Session) (t : OpenTicket), (s.decide t .echo).deferred = s.deferred := by
    intro s t
    rw [decide_echo, deferred_release, deferred_reply]
  have hfoldl : ∀ (tickets : List OpenTicket) (s : Session),
      (tickets.foldl (fun s t ↦ s.decide t .echo) s).deferred = s.deferred := by
    intro tickets
    induction tickets with
    | nil => exact fun _ ↦ rfl
    | cons t rest ih => exact fun s ↦ (ih _).trans (hdecide s t)
  exact hfoldl s.deferred { s with deferred := [] }

/-- **After every step everyone rests.** -/
theorem rests_step (hs : s.Sound settings registry) (st : Step) (v : Nat) : (s.step st).Rests v :=
  rests_flush (rests_turns_turns (hs.act st)) v

/-- **In every session that can come about everyone rests**, and nothing is left put off. -/
theorem rests_run (settings : Settings) (registry : Registry (Handler Binding))
    (steps : List Step) :
    (∀ w, ((fresh settings registry).run steps).Rests w) ∧
      ((fresh settings registry).run steps).deferred = [] := by
  rcases List.eq_nil_or_concat steps with rfl | ⟨earlier, last, rfl⟩
  · exact ⟨fun w ↦ rests_of_length_le (Nat.zero_le w), rfl⟩
  · rw [List.concat_eq_append, run_append]
    exact ⟨rests_step (sound_run settings registry earlier) last, deferred_flush _⟩

end Session

end QueryDispatch
