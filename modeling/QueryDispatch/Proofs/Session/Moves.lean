import QueryDispatch.Proofs.Session.Account
import QueryDispatch.Proofs.Session.Operations

/-!
# Sessions move by move

In a session everyone runs after each step, and much happens between one step and the next. Moves
are finer than steps: every list of steps is a list of moves (`exists_interleave_run`), and so every
moment of a session, in the middle of a step too, is one that some list of moves leads to.

What holds of all lists of moves therefore holds at every moment of every session, and of many more
sessions, in which nobody waits for the others to finish.

## Main results

* `account_interleave`: a list of moves goes on with all accounts, with what it hands out.
* `exists_interleave_run`: a list of steps is a list of moves that hands out the same.
-/

namespace QueryDispatch.Session

/-- The replies that a list of moves takes of the service with this number. -/
def handedAmong (s : Session) (k : Nat) : List Move → List Frames
  | [] => []
  | .act st :: rest => s.handed k st ++ (s.act st).2.handedAmong k rest
  | .advance w :: rest => (s.advance w).handedAmong k rest
  | .echo index :: rest => (s.echoAt index).handedAmong k rest

/-- Some moves lead from `s` to `s'`, and nobody outside acts in the meantime. -/
def Proceeds (s s' : Session) : Prop :=
  ∃ moves, (∀ st, .act st ∉ moves) ∧ s.interleave moves = s'

variable {settings : Settings} {registry : Registry (Handler Binding)} {s s' s'' : Session}

theorem interleave_append (s : Session) (moves moves' : List Move) :
    s.interleave (moves ++ moves') = (s.interleave moves).interleave moves' := List.foldl_append

/-- What two lists of moves hand out, one after the other. -/
theorem handedAmong_append (s : Session) (k : Nat) (moves moves' : List Move) :
    s.handedAmong k (moves ++ moves') =
      s.handedAmong k moves ++ (s.interleave moves).handedAmong k moves' := by
  induction moves generalizing s with
  | nil => rfl
  | cons move rest ih =>
    cases move with
    | act st => exact (congrArg (s.handed k st ++ ·) (ih _)).trans (List.append_assoc ..).symm
    | advance w => exact ih _
    | echo index => exact ih _

/-- Replies are handed out to someone outside only. -/
theorem handedAmong_eq_nil {moves : List Move} (h : ∀ st, .act st ∉ moves) (s : Session) (k : Nat) :
    s.handedAmong k moves = [] := by
  induction moves generalizing s with
  | nil => rfl
  | cons move rest ih =>
    have hrest : ∀ st, .act st ∉ rest := fun st hst ↦ h st (List.mem_cons_of_mem move hst)
    cases move with
    | act st => exact absurd List.mem_cons_self (h st)
    | advance w => exact ih hrest _
    | echo index => exact ih hrest _

/-! ### Accounts -/

/-- To send a reply that was put off goes on with every account. -/
theorem Continues.echoAt (h : Continues settings registry s s') (index : Nat) :
    Continues settings registry s (s'.echoAt index) := by
  rw [Session.echoAt]
  split
  · exact h
  · next t ht =>
    have htaken : Continues settings registry s
        { s' with deferred := s'.deferred.eraseIdx index } := by
      refine h.of_kept rfl rfl rfl rfl fun t' ht' ↦ ?_
      refine List.mem_append.2 ((List.mem_append.1 ht').imp_right ?_)
      exact List.mem_of_mem_eraseIdx
    have hconnected := h.placed.tickets t (List.mem_append_right _ (List.mem_of_getElem? ht))
    exact htaken.decide (hconnected.of_stations (fun _ ↦ rfl) fun _ ↦ rfl) .echo

/-- **A list of moves goes on with every account**, with what it hands out. -/
theorem account_interleave (hs : s.Sound settings registry) (hp : s.Placed) (moves : List Move) :
    (s.interleave moves).Sound settings registry ∧ (s.interleave moves).Placed ∧
      s.Follows (s.interleave moves) fun k ↦ s.handedAmong k moves := by
  induction moves generalizing s with
  | nil => exact ⟨hs, hp, .refl s⟩
  | cons move rest ih =>
    have hrefl := Continues.refl hs hp
    -- nobody collects anything in a move that a worker makes
    have hinside : ∀ {z : Session}, Continues settings registry s z →
        (z.interleave rest).Sound settings registry ∧ (z.interleave rest).Placed ∧
          s.Follows (z.interleave rest) fun k ↦ z.handedAmong k rest := by
      intro z hz
      obtain ⟨hsound, hplaced, hfollows⟩ := ih hz.sound hz.placed
      exact ⟨hsound, hplaced, hz.follows.trans hfollows⟩
    cases move with
    | act st =>
      obtain ⟨hacted, hacts⟩ := account_act hs hp st
      obtain ⟨hsound, hplaced, hfollows⟩ := ih (hs.act st) hacted
      exact ⟨hsound, hplaced, hacts.trans hfollows⟩
    | advance w => exact hinside (hrefl.advance w)
    | echo index => exact hinside (hrefl.echoAt index)

/-! ### Steps are moves -/

namespace Proceeds

theorem refl (s : Session) : s.Proceeds s := ⟨[], fun _ ↦ List.not_mem_nil, rfl⟩

theorem trans (h : s.Proceeds s') (h' : s'.Proceeds s'') : s.Proceeds s'' := by
  obtain ⟨moves, hinside, rfl⟩ := h
  obtain ⟨moves', hinside', rfl⟩ := h'
  refine ⟨moves ++ moves', fun st hst ↦ ?_, s.interleave_append moves moves'⟩
  exact (List.mem_append.1 hst).elim (hinside st) (hinside' st)

/-- To advance is to proceed. -/
theorem advance (s : Session) (w : Nat) : s.Proceeds (s.advance w) :=
  ⟨[.advance w], by simp, rfl⟩

/-- To echo is to proceed. -/
theorem echoAt (s : Session) (index : Nat) : s.Proceeds (s.echoAt index) :=
  ⟨[.echo index], by simp, rfl⟩

theorem advances (s : Session) (w n : Nat) : s.Proceeds (s.advances w n) := by
  induction n generalizing s with
  | zero => exact .refl s
  | succ n ih => exact (Proceeds.advance s w).trans (ih _)

/-- A turn proceeds. -/
theorem turn (s : Session) (w : Nat) : s.Proceeds (s.turn w) :=
  (Proceeds.advance s w).trans (.advances _ w _)

/-- A round of turns proceeds. -/
theorem turns (s : Session) : s.Proceeds s.turns := by
  have hfoldl : ∀ (ws : List Nat) (s : Session), s.Proceeds (ws.foldl Session.turn s) := by
    intro ws
    induction ws with
    | nil => exact .refl
    | cons w rest ih => exact fun s ↦ (Proceeds.turn s w).trans (ih _)
  exact hfoldl _ s

end Proceeds

/-- A reply that was put off is sent without a look at what else was put off. -/
theorem decide_echo_deferred (s : Session) (t : OpenTicket) (deferred : List OpenTicket) :
    ({ s with deferred } : Session).decide t .echo = { s.decide t .echo with deferred } := by
  rw [decide_echo, decide_echo, reply, reply]
  rcases hm : s.workers[t.worker]? with - | m
  · simp only [release, hm]
  · have hm' : ∀ f : Member → Member, (s.workers.modify t.worker f)[t.worker]? = some (f m) :=
      fun f ↦ by rw [List.getElem?_modify_eq, hm]; rfl
    simp only [release, note, record, update, onHub, hm']

/-- To send all replies that were put off is to send one after the other, oldest first. -/
theorem Proceeds.flush (s : Session) : s.Proceeds s.flush := by
  have hfoldl : ∀ (tickets : List OpenTicket) (s : Session), s.deferred = tickets →
      s.Proceeds (tickets.foldl (fun s t ↦ s.decide t .echo) { s with deferred := [] }) := by
    intro tickets
    induction tickets with
    | nil =>
      intro s hs
      rw [List.foldl_nil, ← hs]
      exact .refl s
    | cons t rest ih =>
      intro s hs
      have hecho : s.echoAt 0 = { s.decide t .echo with deferred := rest } := by
        rw [Session.echoAt, hs, ← decide_echo_deferred]
        rfl
      have hrest := ih (s.echoAt 0) (by rw [hecho])
      rw [hecho] at hrest
      rw [List.foldl_cons, decide_echo_deferred]
      refine .trans ?_ hrest
      rw [← hecho]
      exact .echoAt s 0
  exact hfoldl s.deferred s rfl

/-- To settle is to proceed. -/
theorem Proceeds.settle (s : Session) : s.Proceeds s.settle :=
  ((Proceeds.turns s).trans (.turns _)).trans (.flush _)

/-- **A list of steps is a list of moves**, which hands out the same. -/
theorem exists_interleave_run (s : Session) (steps : List Step) :
    ∃ moves, s.interleave moves = s.run steps ∧
      ∀ k, s.handedAmong k moves = s.handedAll k steps := by
  induction steps generalizing s with
  | nil => exact ⟨[], rfl, fun _ ↦ rfl⟩
  | cons st rest ih =>
    obtain ⟨settling, hinside, hsettle⟩ := Proceeds.settle (s.act st).2
    obtain ⟨moves, hmoves, hhanded⟩ := ih (s.step st)
    refine ⟨.act st :: (settling ++ moves), ?_, fun k ↦ ?_⟩
    · show (s.act st).2.interleave (settling ++ moves) = _
      rw [interleave_append, hsettle]
      exact hmoves
    · show s.handed k st ++ (s.act st).2.handedAmong k (settling ++ moves) = _
      rw [handedAmong_append, handedAmong_eq_nil hinside, hsettle, List.nil_append]
      exact congrArg (s.handed k st ++ ·) (hhanded k)

end QueryDispatch.Session
