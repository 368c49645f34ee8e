import QueryDispatch.Proofs.Session.Touch
import QueryDispatch.Session.Step

/-!
# The trace of a session

The trace of a session only grows: every operation leaves what was there and adds at the end. So the
events that a step reports are exactly those by which the trace grew (`trace_step`), and the reports
of a list of steps, one after the other, are the whole of what happened (`trace_run`).

Of all that touches a worker, only a record reaches the trace, and requests to stop do not.
-/

namespace QueryDispatch.Session

/-! ### What a worker does -/

section Done

variable {s s' : Session} {w : Nat} {c : Security} {m : Member}

/-- **Whatever a worker does is added at the end of the trace.** -/
theorem Does.trace_le (h : Does w c s s') : s.trace <+: s'.trace := by
  cases h with
  | touches h =>
    cases h with
    | record => exact List.prefix_append _ _
    | _ => exact List.prefix_refl _
  | _ => exact List.prefix_refl _

/-- What is done on a worker adds to the trace. -/
theorem Done.trace_le (h : Done w c s s') : s.trace <+: s'.trace := by
  induction h with
  | refl => exact List.prefix_refl _
  | tail _ hlast ih => exact ih.trans hlast.trace_le

theorem Touched.trace_le (h : Touched w c s s') : s.trace <+: s'.trace :=
  Done.trace_le (Touched.done h)

end Done

theorem trace_heed (s : Session) (stops : Bool) : (s.heed stops).trace = s.trace := by
  rw [heed]
  split <;> rfl

/-- An advance adds to the trace. -/
theorem trace_le_advance (s : Session) (w : Nat) : s.trace <+: (s.advance w).trace := by
  rcases hm : s.workers[w]? with - | m
  · have hrests : s.advance w = s := by rw [advance, hm]
    exact hrests.symm ▸ List.prefix_refl s.trace
  · cases moved_advance hm with
    | done h => exact Done.trace_le h
    | @asked _ z _ hbefore hafter =>
      have hasked : z.requestStops.trace <+: (s.advance w).trace := Touched.trace_le hafter
      exact (Touched.trace_le hbefore).trans hasked

/-! ### Turns and steps -/

theorem trace_le_advances (s : Session) (w n : Nat) : s.trace <+: (s.advances w n).trace := by
  induction n generalizing s with
  | zero => exact List.prefix_refl _
  | succ n ih => exact .trans (s.trace_le_advance w) (ih _)

theorem trace_le_turn (s : Session) (w : Nat) : s.trace <+: (s.turn w).trace :=
  .trans (s.trace_le_advance w) (trace_le_advances _ w _)

/-- What adds to the trace at each step adds to it over a list. -/
theorem trace_le_foldl {α : Type} {f : Session → α → Session}
    (h : ∀ s a, s.trace <+: (f s a).trace) (as : List α) (s : Session) :
    s.trace <+: (as.foldl f s).trace := by
  induction as generalizing s with
  | nil => exact List.prefix_refl _
  | cons a rest ih => exact .trans (h s a) (ih _)

theorem trace_le_turns (s : Session) : s.trace <+: s.turns.trace :=
  trace_le_foldl trace_le_turn _ s

theorem trace_le_decide (s : Session) (t : OpenTicket) (behaviour : Behaviour) :
    s.trace <+: (s.decide t behaviour).trace :=
  s.trace_heed behaviour.stops ▸ (s.touched_decide t behaviour).trace_le

/-- A flush adds to the trace. -/
theorem trace_le_flush (s : Session) : s.trace <+: s.flush.trace :=
  trace_le_foldl (fun s t ↦ s.trace_le_decide t .echo) _ { s with deferred := [] }

theorem trace_le_settle (s : Session) : s.trace <+: s.settle.trace :=
  .trans s.trace_le_turns (.trans s.turns.trace_le_turns (trace_le_flush _))

/-- What is done on a worker by its name adds to the trace, if it does so for every worker. -/
theorem trace_le_attend (s : Session) (name : String) (f : Nat → Answer × Session)
    (h : ∀ w, s.trace <+: (f w).2.trace) : s.trace <+: (s.attend name f).2.trace := by
  unfold attend
  split
  · exact List.prefix_refl _
  · split
    · exact h _
    · exact List.prefix_refl _

theorem trace_withService (s : Session) (name : String) (f : Nat → Answer × Hub) :
    (s.withService name f).2.trace = s.trace := by
  unfold withService
  split <;> rfl

theorem trace_bind (s : Session) (name : String) (security : Security) :
    (s.bind name security).2.trace = s.trace := by
  unfold bind
  split <;> rfl

theorem trace_unbind (s : Session) (name : String) : (s.unbind name).2.trace = s.trace := by
  unfold unbind
  split <;> rfl

/-- To release a ticket adds to the trace. -/
theorem trace_le_releaseAt (s : Session) (index : Nat) (behaviour : Behaviour) :
    s.trace <+: (s.releaseAt index behaviour).2.trace := by
  unfold releaseAt
  split
  · exact List.prefix_refl _
  · exact trace_le_decide { s with parked := s.parked.eraseIdx index } _ behaviour

/-- What a step does adds to the trace. -/
theorem trace_le_act (s : Session) (st : Step) : s.trace <+: (s.act st).2.trace := by
  cases st with
  | bind name security => exact (s.trace_bind name security).symm ▸ List.prefix_refl _
  | unbind name => exact (s.trace_unbind name).symm ▸ List.prefix_refl _
  | start name security => exact List.prefix_refl _
  | send name messages | drain name | collect name =>
    exact (s.trace_withService name _).symm ▸ List.prefix_refl _
  | stop name | join name => exact s.trace_le_attend name _ fun w ↦ List.prefix_refl _
  | shutdown name => exact s.trace_le_attend name _ fun w ↦ trace_le_turn (s.requestStop w) w
  | release index behaviour => exact s.trace_le_releaseAt index behaviour

/-- A step adds to the trace. -/
theorem trace_le_step (s : Session) (st : Step) : s.trace <+: (s.step st).trace :=
  .trans (s.trace_le_act st) (trace_le_settle _)

/-- **A step reports exactly the events by which the trace grew.** -/
theorem trace_step (s : Session) (st : Step) :
    (s.step st).trace = s.trace ++ (s.report st).events := by
  obtain ⟨events, h⟩ := s.trace_le_step st
  simp [report, ← h]

/-- **The reports of a list of steps are the whole of what happened.** -/
theorem trace_run (s : Session) (steps : List Step) :
    (s.run steps).trace = s.trace ++ (s.reports steps).flatMap Report.events := by
  induction steps generalizing s with
  | nil => simp [reports]
  | cons st rest ih => simp [reports, ih, trace_step]

end QueryDispatch.Session
