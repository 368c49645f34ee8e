import QueryDispatch.Trace

/-!
# Reading a trace

What statements about runs say of a trace they say through a few readings of it: the calls made on
the socket, the stages entered, the events in which a dispatcher shows (`Event.isWork`), the replies
handed over, and the messages counted (`arrivals`). Each reading of a longer trace is put together
from the readings of its parts, so whoever knows what an operation adds knows how the readings
change.

The stage of an event that does not record one is the stage that the trace has reached before it
(`staged`).
-/

namespace QueryDispatch

namespace Event

/-- The socket call that the event is, with the stage it was made in. -/
def call? : Event → Option (SocketCall × Stage)
  | .called call stage => some (call, stage)
  | _ => none

/-- The stage that the event enters. -/
def stage? : Event → Option Stage
  | .entered stage => some stage
  | _ => none

/-- The reply that the event hands over, with the number of the message it answers. -/
def reply? : Event → Option (Nat × Frames)
  | .sent number frames _ => some (number, frames)
  | _ => none

/-- What the transport said to the reply that the event hands over. -/
def refusal? : Event → Option Refusal
  | .sent _ _ refusal => some refusal
  | _ => none

/-- What the event writes to the log. -/
def notice? : Event → Option Notice
  | .noted notice => some notice
  | _ => none

/-- The event of a request that is given to a handler. -/
def isInvocation : Event → Bool
  | .invoked .. => true
  | _ => false

/-- The event of a reply that is sent. -/
def isSend : Event → Bool
  | .sent .. => true
  | _ => false

/-- Whether it can be seen from the event that a dispatcher works: it writes to the log, gives a
request to a handler, or hands over a reply. -/
def isWork : Event → Bool
  | .invoked .. | .sent .. | .noted _ => true
  | _ => false

/-- Whether the event is of the worker's own life: a call on its socket, or the entry into a stage.
Nothing that a dispatcher does is. -/
def isLifecycle : Event → Bool
  | .called .. | .entered _ => true
  | _ => false

/-- A dispatcher's work is no part of the lifecycle. -/
theorem isLifecycle_of_isWork (e : Event) (h : e.isWork = true) : e.isLifecycle = false := by
  cases e with
  | invoked | sent | noted => rfl
  | _ => cases h

/-- Whether the event is the mark of a counted message. There is one for each: the notice of its
rejection, the notice that its command is unknown, or the invocation of its handler. -/
def isArrival : Event → Bool
  | .invoked .. | .noted (.rejected ..) | .noted (.unknownCommand ..) => true
  | _ => false

/-- Only the mark of a message can be an invocation. -/
theorem isInvocation_eq_false (e : Event) (h : e.isArrival = false) : e.isInvocation = false := by
  cases e with
  | invoked => cases h
  | _ => rfl

end Event

namespace Trace

/-- The calls on the socket, each with the stage it was made in. -/
def calls (t : Trace) : List (SocketCall × Stage) := t.filterMap Event.call?

/-- The stages entered. -/
def stages (t : Trace) : List Stage := t.filterMap Event.stage?

/-- The stages a watcher of the worker sees: the one every worker starts in, and those entered. -/
def published (t : Trace) : List Stage := .idle :: t.stages

/-- The replies handed over, each with the number of the message it answers. -/
def replies (t : Trace) : List (Nat × Frames) := t.filterMap Event.reply?

/-- What the transport said to the replies handed over, one after the other. -/
def refusals (t : Trace) : List Refusal := t.filterMap Event.refusal?

/-- What was written to the log. -/
def notices (t : Trace) : List Notice := t.filterMap Event.notice?

/-- How many replies to message `number` were handed over. -/
def repliesTo (t : Trace) (number : Nat) : Nat := t.replies.countP fun r ↦ r.1 == number

/-- How many messages were counted. -/
def arrivals (t : Trace) : Nat := t.countP Event.isArrival

/-- The stage reached after the events, from a stage on. -/
def reached (stage : Stage) (t : Trace) : Stage := t.foldl (fun s e ↦ e.stage?.getD s) stage

/-- Each event with the stage in which it happens, from a stage on. -/
def staged : Stage → Trace → List (Stage × Event)
  | _, [] => []
  | stage, e :: rest => (stage, e) :: staged (e.stage?.getD stage) rest

variable (xs ys : Trace)

@[simp] theorem calls_append : calls (xs ++ ys) = calls xs ++ calls ys := List.filterMap_append

@[simp] theorem stages_append : stages (xs ++ ys) = stages xs ++ stages ys := List.filterMap_append

@[simp] theorem replies_append : replies (xs ++ ys) = replies xs ++ replies ys :=
  List.filterMap_append

@[simp] theorem refusals_append : refusals (xs ++ ys) = refusals xs ++ refusals ys :=
  List.filterMap_append

@[simp] theorem notices_append : notices (xs ++ ys) = notices xs ++ notices ys :=
  List.filterMap_append

@[simp] theorem arrivals_append : arrivals (xs ++ ys) = arrivals xs + arrivals ys :=
  List.countP_append

@[simp] theorem calls_called (c : SocketCall) (stage : Stage) :
    calls (.called c stage :: xs) = (c, stage) :: calls xs := rfl

@[simp] theorem stages_called (c : SocketCall) (stage : Stage) :
    stages (.called c stage :: xs) = stages xs := rfl

/-- A trace goes on in the stage that the part before it has reached. -/
theorem staged_append (stage : Stage) :
    staged stage (xs ++ ys) = staged stage xs ++ staged (reached stage xs) ys := by
  induction xs generalizing stage with
  | nil => rfl
  | cons e rest ih =>
    rw [List.cons_append, staged, ih]
    rfl

variable {xs}

/-- Where no stage is entered, everything happens in the stage from which the events start. -/
theorem staged_of_stages_eq_nil {stage : Stage} (h : stages xs = []) :
    staged stage xs = xs.map (stage, ·) := by
  induction xs with
  | nil => rfl
  | cons e rest ih =>
    have hnone := List.filterMap_eq_nil_iff.1 h
    have hrest : stages rest = [] :=
      List.filterMap_eq_nil_iff.2 fun a ha ↦ hnone a (List.mem_cons_of_mem e ha)
    rw [staged, hnone e List.mem_cons_self, Option.getD_none, ih hrest, List.map_cons]

/-- A trace without any part of the lifecycle has no call on the socket. -/
theorem calls_eq_nil (h : ∀ e ∈ xs, e.isLifecycle = false) : calls xs = [] := by
  refine List.filterMap_eq_nil_iff.2 fun e he ↦ ?_
  have hlife := h e he
  cases e with
  | called call stage => cases hlife
  | _ => rfl

/-- A trace without any part of the lifecycle enters no stage. -/
theorem stages_eq_nil (h : ∀ e ∈ xs, e.isLifecycle = false) : stages xs = [] := by
  refine List.filterMap_eq_nil_iff.2 fun e he ↦ ?_
  have hlife := h e he
  cases e with
  | entered stage => cases hlife
  | _ => rfl

theorem mem_of_mem_staged {stage st : Stage} {e : Event} (h : (st, e) ∈ staged stage xs) :
    e ∈ xs := by
  induction xs generalizing stage with
  | nil => cases h
  | cons first rest ih =>
    rw [staged] at h
    rcases List.mem_cons.1 h with heq | h
    · rw [(Prod.mk.inj heq).2]
      exact List.mem_cons_self
    · exact List.mem_cons_of_mem first (ih h)

/-- An event that is found only in a part in which no stage is entered happens in the stage in which
that part begins. -/
theorem stage_of_mem_staged {stage st : Stage} {e : Event} {pre mid post : Trace}
    (hpre : e ∉ pre) (hmid : stages mid = []) (hpost : e ∉ post)
    (h : (st, e) ∈ staged stage (pre ++ mid ++ post)) : st = reached stage pre := by
  rw [staged_append, staged_append] at h
  rcases List.mem_append.1 h with h | h
  · rcases List.mem_append.1 h with h | h
    · exact absurd (mem_of_mem_staged h) hpre
    · rw [staged_of_stages_eq_nil hmid] at h
      obtain ⟨e', -, heq⟩ := List.mem_map.1 h
      exact (Prod.mk.inj heq).1.symm
  · exact absurd (mem_of_mem_staged h) hpost

end Trace

end QueryDispatch
