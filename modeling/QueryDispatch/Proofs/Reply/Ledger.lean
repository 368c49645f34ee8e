import Mathlib.Data.List.Perm.Basic
import QueryDispatch.Proofs.Dispatch
import QueryDispatch.Proofs.Lists

/-!
# The ledger of the chances to answer

Every item that a dispatcher takes off its transport comes with one chance to answer it. The chance
is either with a ticket that is set aside, or used up: by a reply, by being put off, or by being
given up. A step of the bench takes one chance in hand, that of a new item or that of a ticket it
takes out, and then decides about it; the decision is an `Entry` of the ledger.

`Ledger` says that the bench and its entries agree and that for every item there is exactly one
chance: in hand, set aside, or used by one entry. Steps pass through a state with a chance in hand
(`Ledger.receive`, `Ledger.take`) and leave it by `Ledger.complete`, so the two kinds of decision,
at once and later, are one case. `Ledger.of_run` carries it along all histories.
-/

namespace QueryDispatch

namespace Completion

/-- The request that is set aside. -/
def parked? : Completion → Option Request
  | .parked r => some r
  | _ => none

/-- The request whose answer is put off. -/
def deferred? : Completion → Option Request
  | .deferred r => some r
  | _ => none

end Completion

namespace Behaviour

/-- Whether a reply follows at once. -/
def answers : Behaviour → Bool
  | .echo | .body _ | .notFound | .stopEcho => true
  | .failure code => !isReserved code
  | .silent | .park | .later | .stop | .panic => false

/-- A behaviour replies exactly when it answers. -/
theorem isSome_reply?_completion (β : Behaviour) (r : Request) :
    (β.completion r).reply?.isSome = β.answers := by
  cases β with
  | failure code =>
    rw [completion, answers]
    rcases hcode : FailureCode.ofCode? code with - | fc
    · rw [FailureCode.ofCode?_eq_none_iff.1 hcode]
      rfl
    · have hunreserved : isReserved code ≠ true := fun h ↦ by
        rw [FailureCode.ofCode?_eq_none_iff.2 h] at hcode
        cases hcode
      rw [Bool.eq_false_iff.2 hunreserved]
      rfl
  | _ => rfl

theorem parked?_completion (β : Behaviour) (r : Request) :
    (β.completion r).parked? = if β = .park then some r else none := by
  cases β with
  | failure code =>
    rw [completion]
    split <;> rfl
  | _ => rfl

theorem deferred?_completion (β : Behaviour) (r : Request) :
    (β.completion r).deferred? = if β = .later then some r else none := by
  cases β with
  | failure code =>
    rw [completion]
    split <;> rfl
  | _ => rfl

end Behaviour

/-- What a handler does with a request, put as something that could also be decided later. -/
def Handler.behaviour : Handler Binding → Behaviour
  | .node m => .body (Wire.utf8 m.label)
  | .custom b => b.behaviour

theorem Handler.completion_behaviour (handler : Handler Binding) (r : Request) :
    handler.behaviour.completion r = handler.completion r := by
  cases handler <;> rfl

/-- The behaviour of the handler that is given the request, if there is one. -/
def Verdict.behaviour? : Verdict → Option Behaviour
  | .accepted handler _ => some handler.behaviour
  | _ => none

/-! ### Entries -/

/-- A decision about the chance to answer a message. -/
structure Entry where
  /-- The number of the message. -/
  number : Nat
  /-- The behaviour that was decided for; the dispatcher itself decides without one. -/
  behaviour : Option Behaviour
  completion : Completion

namespace Entry

variable (c : Channel) (items : List Received) (u : Entry)

/-- The reply that the entry sends, if it sends one. -/
def reply? : Option (Nat × Frames) :=
  u.completion.reply?.map fun response ↦ (u.number, response.encode)

/-- The ticket that the entry sets aside, if it does. -/
def parked? : Option Ticket := u.completion.parked?.map (c.ticket u.number)

/-- The ticket that the entry puts off, if it does. -/
def deferred? : Option Ticket := u.completion.deferred?.map (c.ticket u.number)

/-- The behaviour that was decided for, with the number of the message. -/
def decision? : Option (Nat × Behaviour) := u.behaviour.map (u.number, ·)

/-- Whether the chance is used up. -/
def isFinal : Bool := u.completion.parked?.isNone

/-- The entry is what its behaviour makes of the request in its message, or what the dispatcher
makes of a message that is for no handler. -/
def Valid : Prop :=
  ∃ x, items[u.number]? = some x ∧
    match u.behaviour with
    | none => (c.judge x).behaviour? = none ∧ u.completion = (c.judge x).completion
    | some β => ∃ handler r, c.judge x = .accepted handler r ∧ u.completion = β.completion r

end Entry

/-- The ticket is a chance to answer the message of its number, which was for a handler. -/
def Channel.Issued (c : Channel) (items : List Received) (t : Ticket) : Prop :=
  t.security = c.security ∧
    ∃ x handler, items[t.number]? = some x ∧ c.judge x = .accepted handler t.request

section Valid

variable {c : Channel} {items : List Received} {u : Entry}

/-- An entry stays valid as more is received. -/
theorem Entry.Valid.append (h : u.Valid c items) (more : List Received) :
    u.Valid c (items ++ more) := by
  obtain ⟨x, hx, hu⟩ := h
  exact ⟨x, getElem?_append_of_eq_some hx more, hu⟩

/-- A ticket stays issued as more is received. -/
theorem Channel.Issued.append {t : Ticket} (h : c.Issued items t) (more : List Received) :
    c.Issued (items ++ more) t := by
  obtain ⟨hsecurity, x, handler, hx, hjudge⟩ := h
  exact ⟨hsecurity, x, handler, getElem?_append_of_eq_some hx more, hjudge⟩

/-- The dispatcher itself sets nothing aside and puts nothing off. -/
theorem Verdict.completion_of_behaviour?_eq_none {v : Verdict} (h : v.behaviour? = none) :
    v.completion.parked? = none ∧ v.completion.deferred? = none := by
  cases v with
  | accepted handler r => cases h
  | _ => exact ⟨rfl, rfl⟩

/-- Whatever is set aside or put off is a chance to answer the message it is about. -/
theorem Entry.Valid.issued (h : u.Valid c items) {r : Request}
    (hr : u.completion.parked? = some r ∨ u.completion.deferred? = some r) :
    c.Issued items (c.ticket u.number r) := by
  obtain ⟨x, hx, hu⟩ := h
  rcases hβ : u.behaviour with - | β
  · rw [hβ] at hu
    obtain ⟨hnone, hcompletion⟩ := hu
    obtain ⟨hparked, hdeferred⟩ := Verdict.completion_of_behaviour?_eq_none hnone
    rw [hcompletion, hparked, hdeferred] at hr
    rcases hr with hr | hr <;> cases hr
  · rw [hβ] at hu
    obtain ⟨handler, r', hjudge, hcompletion⟩ := hu
    rw [hcompletion, Behaviour.parked?_completion, Behaviour.deferred?_completion] at hr
    have hr' : r' = r := by
      rcases hr with hr | hr <;> split at hr <;> cases hr <;> rfl
    exact ⟨rfl, x, handler, hx, hr' ▸ hjudge⟩

end Valid

/-! ### What a step decides -/

namespace Bench

/-- A bench on which nothing has happened. -/
def fresh (c : Channel) (refusal : Refusal) : Bench := { dispatcher := { channel := c }, refusal }

/-- The item that a step receives. -/
def Step.item? : Step → Option Received
  | .receive x => some x
  | _ => none

/-- The items that are received, in order; the number of each is its place. -/
def items (steps : List Step) : List Received := steps.filterMap Step.item?

theorem items_cons (s : Step) (rest : List Step) :
    items (s :: rest) = s.item?.toList ++ items rest := by
  rw [items, List.filterMap_cons]
  cases s.item? <;> rfl

/-- The decision that a step makes. -/
def entry? (b : Bench) : Step → Option Entry
  | .receive x => some ⟨b.dispatcher.arrivals, (b.judge x).behaviour?, (b.judge x).completion⟩
  | .release index behaviour =>
    b.parked[index]?.map fun t ↦ ⟨t.number, some behaviour, behaviour.completion t.request⟩
  | .setRefusal _ => none

/-- The decisions that a list of steps makes, in order. -/
def entries (b : Bench) : List Step → List Entry
  | [] => []
  | s :: rest => (b.entry? s).toList ++ (b.step s).entries rest

/-- What was decided by handlers, and later by whoever released their tickets: each behaviour with
the number of the message. -/
def decisions (b : Bench) (steps : List Step) : List (Nat × Behaviour) :=
  (b.entries steps).filterMap Entry.decision?

variable (b : Bench)

/-! ### What it adds -/

theorem replies_replyEvents (c : Channel) (refusal : Refusal) (number : Nat) (response : Response) :
    Trace.replies (c.replyEvents refusal number response) = [(number, response.encode)] := by
  have hnoted : ∀ notices : List Notice, Trace.replies (notices.map .noted) = [] := fun notices ↦
    List.filterMap_eq_nil_iff.2 fun e he ↦ by
      obtain ⟨notice, -, rfl⟩ := List.mem_map.1 he
      rfl
  exact congrArg (List.cons (number, response.encode)) (hnoted _)

/-- To complete an entry sends its reply. -/
theorem replies_complete (u : Entry) :
    (b.complete u.number u.completion).trace.replies = b.trace.replies ++ u.reply?.toList := by
  obtain ⟨number, behaviour, completion⟩ := u
  cases completion with
  | answered response =>
    show Trace.replies (b.trace ++ b.channel.replyEvents b.refusal number response) = _
    rw [Trace.replies_append, replies_replyEvents]
    rfl
  | _ => exact (List.append_nil _).symm

/-- To complete an entry parks its ticket if that is its way. -/
theorem parked_complete (u : Entry) :
    (b.complete u.number u.completion).parked = b.parked ++ (u.parked? b.channel).toList := by
  obtain ⟨number, behaviour, completion⟩ := u
  cases completion with
  | parked r => rfl
  | _ => exact (List.append_nil _).symm

/-- To complete an entry defers its ticket if that is its way. -/
theorem deferred_complete (u : Entry) :
    (b.complete u.number u.completion).deferred = b.deferred ++ (u.deferred? b.channel).toList := by
  obtain ⟨number, behaviour, completion⟩ := u
  cases completion with
  | deferred r => rfl
  | _ => exact (List.append_nil _).symm

theorem arrivals_complete (number : Nat) (completion : Completion) :
    (b.complete number completion).dispatcher.arrivals = b.dispatcher.arrivals := by
  cases completion <;> rfl

theorem replies_heed (stops : Bool) : (b.heed stops).trace.replies = b.trace.replies := by
  rw [trace_heed, Trace.replies_append, stopEvents]
  split <;> exact List.append_nil _

theorem replies_absorb (v : Verdict) : (b.absorb v).trace.replies = b.trace.replies := by
  show Trace.replies (b.trace ++ b.channel.events b.dispatcher.arrivals v) = _
  have hnone : Trace.replies (b.channel.events b.dispatcher.arrivals v) = [] := by
    cases v with
    | accepted handler r =>
      rw [Channel.events]
      split <;> rfl
    | _ => rfl
  rw [Trace.replies_append, hnone, List.append_nil]

end Bench

/-! ### The ledger -/

/-- The bench and its entries agree, and for each item there is one chance: in hand, set aside, or
used up by one entry. -/
structure Ledger (c : Channel) (b : Bench) (items : List Received) (entries : List Entry)
    (hand : Option Nat) : Prop where
  channel : b.channel = c
  arrivals : b.dispatcher.arrivals = items.length
  replies : b.trace.replies = entries.filterMap Entry.reply?
  deferred : b.deferred = entries.filterMap (Entry.deferred? c)
  issued : ∀ t ∈ b.parked, c.Issued items t
  valid : ∀ u ∈ entries, u.Valid c items
  balance : ∀ n, (b.parked.countP fun t ↦ t.number == n) +
    (entries.countP fun u ↦ u.number == n && u.isFinal) + (if hand = some n then 1 else 0) =
      if n < items.length then 1 else 0

namespace Ledger

variable {c : Channel} {b : Bench} {items : List Received} {entries : List Entry}

/-- The ledger is empty at the start. -/
theorem fresh (c : Channel) (refusal : Refusal) : Ledger c (.fresh c refusal) [] [] none where
  channel := rfl
  arrivals := rfl
  replies := rfl
  deferred := rfl
  issued _ ht := by cases ht
  valid _ hu := by cases hu
  balance _ := rfl

/-- To be asked to stop makes no difference. -/
theorem heed {hand : Option Nat} (h : Ledger c b items entries hand) (stops : Bool) :
    Ledger c (b.heed stops) items entries hand where
  channel := (b.channel_heed stops).trans h.channel
  arrivals := by
    rw [Bench.heed_eq]
    exact h.arrivals
  replies := (b.replies_heed stops).trans h.replies
  deferred := by
    rw [Bench.heed_eq]
    exact h.deferred
  issued t ht := h.issued t (by rwa [Bench.heed_eq] at ht)
  valid := h.valid
  balance := by
    rw [Bench.heed_eq]
    exact h.balance

/-- A new item is a new chance, and it is in hand. -/
theorem receive (h : Ledger c b items entries none) (x : Received) :
    Ledger c (b.absorb (c.judge x)) (items ++ [x]) entries (some items.length) where
  channel := h.channel
  arrivals := by
    rw [List.length_append, ← h.arrivals]
    rfl
  replies := (b.replies_absorb _).trans h.replies
  deferred := h.deferred
  issued t ht := (h.issued t ht).append [x]
  valid u hu := (h.valid u hu).append [x]
  balance n := by
    have hn := h.balance n
    show (b.parked.countP fun t ↦ t.number == n) + _ + _ = _
    rw [List.length_append, List.length_singleton]
    simp only [Option.some.injEq, reduceCtorEq, if_false] at hn ⊢
    split at hn <;> split <;> split <;> omega

/-- A ticket that is taken out is a chance in hand. -/
theorem take (h : Ledger c b items entries none) {index : Nat} {t : Ticket}
    (ht : b.parked[index]? = some t) :
    Ledger c { b with parked := b.parked.eraseIdx index } items entries (some t.number) where
  channel := h.channel
  arrivals := h.arrivals
  replies := h.replies
  deferred := h.deferred
  issued t' ht' := h.issued t' (List.mem_of_mem_eraseIdx ht')
  valid := h.valid
  balance n := by
    obtain ⟨hindex, rfl⟩ := List.getElem?_eq_some_iff.1 ht
    have hperm := (List.getElem_cons_eraseIdx_perm hindex).countP_eq fun t ↦ t.number == n
    have hn := h.balance n
    rw [← hperm, List.countP_cons] at hn
    simp only [Option.some.injEq, reduceCtorEq, if_false, beq_iff_eq] at hn ⊢
    omega

/-- A decision uses up the chance in hand or sets it aside again. -/
theorem complete {u : Entry} (h : Ledger c b items entries (some u.number)) (hu : u.Valid c items) :
    Ledger c (b.complete u.number u.completion) items (entries ++ [u]) none where
  channel := (b.channel_complete _ _).trans h.channel
  arrivals := (b.arrivals_complete _ _).trans h.arrivals
  replies := by
    rw [Bench.replies_complete, h.replies, List.filterMap_append]
    cases hreply : u.reply? <;> simp [hreply]
  deferred := by
    rw [Bench.deferred_complete, h.deferred, h.channel, List.filterMap_append]
    cases hdeferred : u.deferred? c <;> simp [hdeferred]
  issued t ht := by
    rw [Bench.parked_complete, h.channel] at ht
    rcases List.mem_append.1 ht with ht | ht
    · exact h.issued t ht
    · obtain ⟨r, hr, rfl⟩ := Option.map_eq_some_iff.1 (Option.mem_toList.1 ht)
      exact hu.issued (.inl hr)
  valid u' hu' := by
    rcases List.mem_append.1 hu' with hu' | hu'
    · exact h.valid u' hu'
    · exact List.mem_singleton.1 hu' ▸ hu
  balance n := by
    have hn := h.balance n
    have hone : ((u.parked? c).toList.countP fun t ↦ t.number == n) +
        (if (u.number == n && u.isFinal) = true then 1 else 0) = if u.number = n then 1 else 0 := by
      rw [Entry.parked?, Entry.isFinal]
      cases u.completion.parked? <;> simp [Channel.ticket, List.countP_cons]
    rw [Bench.parked_complete, h.channel, List.countP_append, List.countP_append,
      List.countP_singleton]
    simp only [Option.some.injEq, reduceCtorEq, if_false] at hn ⊢
    omega

/-- What is decided about a new item is what the dispatcher or the item's handler makes of it. -/
theorem valid_receive (c : Channel) (items : List Received) (x : Received) :
    Entry.Valid c (items ++ [x])
      ⟨items.length, (c.judge x).behaviour?, (c.judge x).completion⟩ := by
  refine ⟨x, List.getElem?_concat_length, ?_⟩
  cases hv : c.judge x with
  | accepted handler r => exact ⟨handler, r, rfl, (handler.completion_behaviour r).symm⟩
  | _ => exact ⟨rfl, rfl⟩

/-- **Every step keeps the ledger**, with the decision it makes. -/
theorem step (h : Ledger c b items entries none) (s : Bench.Step) :
    Ledger c (b.step s) (items ++ s.item?.toList) (entries ++ (b.entry? s).toList) none := by
  cases s with
  | receive x =>
    have hjudge : b.judge x = c.judge x := congrArg (Channel.judge · x) h.channel
    have hdone := ((h.receive x).heed (c.judge x).stops).complete
      (u := ⟨items.length, (c.judge x).behaviour?, (c.judge x).completion⟩)
      (valid_receive c items x)
    rw [Bench.entry?, hjudge, h.arrivals]
    show Ledger c (b.dispatch x) _ _ none
    rw [Bench.dispatch, hjudge, h.arrivals]
    exact hdone
  | release index behaviour =>
    show Ledger c ((b.release? index behaviour).getD b) (items ++ [])
      (entries ++ (b.entry? (.release index behaviour)).toList) none
    rw [List.append_nil, Bench.release?, Bench.entry?]
    rcases ht : b.parked[index]? with - | t
    · rw [Option.map_none, Option.map_none, Option.toList_none, List.append_nil]
      exact h
    · obtain ⟨-, x, handler, hx, hjudge⟩ := h.issued t (List.mem_of_getElem? ht)
      exact ((h.take ht).heed behaviour.stops).complete
        (u := ⟨t.number, some behaviour, behaviour.completion t.request⟩)
        ⟨x, hx, handler, t.request, hjudge, rfl⟩
  | setRefusal refusal =>
    show Ledger c { b with refusal } (items ++ []) (entries ++ []) none
    rw [List.append_nil, List.append_nil]
    exact ⟨h.channel, h.arrivals, h.replies, h.deferred, h.issued, h.valid, h.balance⟩

/-- The ledger is kept over a run. -/
theorem run (h : Ledger c b items entries none) (steps : List Bench.Step) :
    Ledger c (b.run steps) (items ++ Bench.items steps) (entries ++ b.entries steps) none := by
  induction steps generalizing b items entries with
  | nil =>
    rw [Bench.items, List.filterMap_nil, List.append_nil, Bench.entries, List.append_nil]
    exact h
  | cons s rest ih =>
    have hrest := ih (h.step s)
    rw [Bench.items_cons, Bench.entries, ← List.append_assoc, ← List.append_assoc]
    exact hrest

/-- **Every history keeps the ledger.** -/
theorem of_run (c : Channel) (refusal : Refusal) (steps : List Bench.Step) :
    Ledger c ((Bench.fresh c refusal).run steps) (Bench.items steps)
      ((Bench.fresh c refusal).entries steps) none :=
  (Ledger.fresh c refusal).run steps

end Ledger

end QueryDispatch
