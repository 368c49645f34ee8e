import QueryDispatch.Proofs.Reply.Ledger
import Mathlib.Data.List.Nodup

/-!
# At most one reply to a message

However messages come in, and in whatever order and how often tickets are taken out and decided
about, no message is answered twice and no reply goes astray. All of it is read off the `Ledger`: an
entry that replies uses up a chance, and there is one chance for each message.

## Main results

* `Ledger.repliesTo_le_one`, `Ledger.repliesTo_of_not_dispatches`, `Ledger.repliesTo_eq_one_iff`:
  how many replies there are to a message.
* `Ledger.mem_parked_iff`: which messages are set aside.
* `Bench.replies_at_most_once`: these for every history, with what a single step sends.
-/

namespace QueryDispatch

namespace Channel

variable (c : Channel) {x : Received}

/-- The item is a query for a command that has a handler. -/
def Dispatches (x : Received) : Prop :=
  ∃ frames r handler, x = .message frames ∧ Request.decode c.security frames = .ok r ∧
    c.registry.get? r.command = some handler

variable {c}

/-- A message is dispatched if and only if it is accepted. -/
theorem dispatches_iff : c.Dispatches x ↔ ∃ handler r, c.judge x = .accepted handler r := by
  constructor
  · rintro ⟨frames, r, handler, h⟩
    exact ⟨handler, r, c.judge_eq_accepted_iff.2 ⟨frames, h⟩⟩
  · rintro ⟨handler, r, h⟩
    obtain ⟨frames, h⟩ := c.judge_eq_accepted_iff.1 h
    exact ⟨frames, r, handler, h⟩

/-- The verdict is to stop if and only if the service has stopped. -/
theorem judge_eq_stopped_iff : c.judge x = .stopped ↔ x = .fault .serviceStopped := by
  constructor
  · intro h
    unfold judge at h
    split at h
    · rfl
    · cases h
    · split at h
      · cases h
      · split at h <;> cases h
  · rintro rfl
    rfl

/-- What is for no handler the dispatcher answers, unless it is the end of the session. -/
theorem completion_judge_of_not_dispatches (hx : ¬ c.Dispatches x) :
    (c.judge x).behaviour? = none ∧
      (x ≠ .fault .serviceStopped → ∃ response, (c.judge x).completion = .answered response) := by
  rw [dispatches_iff] at hx
  rw [ne_eq, ← judge_eq_stopped_iff (c := c)]
  cases hv : c.judge x with
  | accepted handler r => exact absurd ⟨handler, r, hv⟩ hx
  | stopped => exact ⟨rfl, fun hne ↦ absurd rfl hne⟩
  | rejected m | unknown r => exact ⟨rfl, fun _ ↦ ⟨_, rfl⟩⟩

end Channel

namespace Entry

variable {c : Channel} {items : List Received} {u : Entry} {x : Received}

/-- What was dispatched was answered as its behaviour says. -/
theorem Valid.of_dispatches (hu : u.Valid c items) (hx : items[u.number]? = some x)
    {handler : Handler Binding} {r : Request} (hjudge : c.judge x = .accepted handler r) :
    ∃ β, u.behaviour = some β ∧ u.completion = β.completion r := by
  obtain ⟨x', hx', hu⟩ := hu
  obtain rfl := Option.some.inj (hx.symm.trans hx')
  rcases hβ : u.behaviour with - | β
  · rw [hβ, hjudge] at hu
    cases hu.1
  · rw [hβ, hjudge] at hu
    obtain ⟨handler', r', heq, hcompletion⟩ := hu
    cases heq
    exact ⟨β, rfl, hcompletion⟩

/-- What was not dispatched was answered by the verdict. -/
theorem Valid.of_not_dispatches (hu : u.Valid c items) (hx : items[u.number]? = some x)
    (hnot : ¬ c.Dispatches x) : u.behaviour = none ∧ u.completion = (c.judge x).completion := by
  obtain ⟨x', hx', hu⟩ := hu
  obtain rfl := Option.some.inj (hx.symm.trans hx')
  rcases hβ : u.behaviour with - | β
  · rw [hβ] at hu
    exact ⟨rfl, hu.2⟩
  · rw [hβ] at hu
    obtain ⟨handler, r, hjudge, -⟩ := hu
    exact absurd (Channel.dispatches_iff.2 ⟨handler, r, hjudge⟩) hnot

theorem Valid.completion_of_behaviour (hu : u.Valid c items) {β : Behaviour}
    (hβ : u.behaviour = some β) : ∃ r, u.completion = β.completion r := by
  obtain ⟨x, -, hu⟩ := hu
  rw [hβ] at hu
  obtain ⟨handler, r, -, hcompletion⟩ := hu
  exact ⟨r, hcompletion⟩

theorem Valid.isFinal_eq (hu : u.Valid c items) {β : Behaviour} (hβ : u.behaviour = some β) :
    u.isFinal = (β != .park) := by
  obtain ⟨r, hcompletion⟩ := hu.completion_of_behaviour hβ
  rw [isFinal, hcompletion, Behaviour.parked?_completion]
  by_cases hpark : β = .park
  · rw [hpark]
    rfl
  · rw [if_neg hpark, bne_iff_ne.2 hpark]
    rfl

theorem Valid.isSome_reply?_eq (hu : u.Valid c items) {β : Behaviour} (hβ : u.behaviour = some β) :
    u.completion.reply?.isSome = β.answers := by
  obtain ⟨r, hcompletion⟩ := hu.completion_of_behaviour hβ
  rw [hcompletion, Behaviour.isSome_reply?_completion]

/-- A reply uses up the chance. -/
theorem isFinal_of_isSome_reply? (h : u.completion.reply?.isSome = true) : u.isFinal = true := by
  rw [isFinal]
  cases hu : u.completion with
  | parked r =>
    rw [hu] at h
    cases h
  | _ => rfl

end Entry

/-- The decisions are those of the entries. -/
theorem mem_decisions_iff {entries : List Entry} {n : Nat} {β : Behaviour} :
    (n, β) ∈ entries.filterMap Entry.decision? ↔
      ∃ u ∈ entries, u.number = n ∧ u.behaviour = some β := by
  simp only [List.mem_filterMap, Entry.decision?, Option.map_eq_some_iff, Prod.mk.injEq]
  constructor
  · rintro ⟨u, hu, β', hβ, hn, rfl⟩
    exact ⟨u, hu, hn, hβ⟩
  · rintro ⟨u, hu, hn, hβ⟩
    exact ⟨u, hu, β, hβ, hn, rfl⟩

/-! ### What the ledger says -/

namespace Ledger

variable {c : Channel} {b : Bench} {items : List Received} {entries : List Entry} {n : Nat}
  {x : Received} (h : Ledger c b items entries none)

include h

/-- A reply is to an item that was received, and it is what the dispatcher makes of that item, or
what was decided about the query in it. -/
theorem exists_of_mem_replies {frames : Frames} (hmem : (n, frames) ∈ b.trace.replies) :
    ∃ x response, items[n]? = some x ∧ frames = response.encode ∧
      (¬ c.Dispatches x ∧ (c.judge x).completion = .answered response ∨
        ∃ handler r β, c.judge x = .accepted handler r ∧
          (n, β) ∈ entries.filterMap Entry.decision? ∧ β.completion r = .answered response) := by
  rw [h.replies] at hmem
  obtain ⟨u, hu, hreply⟩ := List.mem_filterMap.1 hmem
  obtain ⟨response, hresponse, heq⟩ := Option.map_eq_some_iff.1 hreply
  obtain ⟨hn, rfl⟩ := Prod.mk.inj heq
  have hanswered : u.completion = .answered response := by
    cases hcompletion : u.completion with
    | answered response' =>
      rw [hcompletion] at hresponse
      exact congrArg Completion.answered (Option.some.inj hresponse)
    | _ =>
      rw [hcompletion] at hresponse
      cases hresponse
  obtain ⟨x, hx, -⟩ := h.valid u hu
  refine ⟨x, response, hn ▸ hx, rfl, ?_⟩
  by_cases hdispatches : c.Dispatches x
  · obtain ⟨handler, r, hjudge⟩ := Channel.dispatches_iff.1 hdispatches
    obtain ⟨β, hβ, hcompletion⟩ := (h.valid u hu).of_dispatches hx hjudge
    exact .inr ⟨handler, r, β, hjudge, mem_decisions_iff.2 ⟨u, hu, hn, hβ⟩,
      hcompletion.symm.trans hanswered⟩
  · obtain ⟨-, hcompletion⟩ := (h.valid u hu).of_not_dispatches hx hdispatches
    exact .inl ⟨hdispatches, hcompletion.symm.trans hanswered⟩

/-- The replies to a message are the entries that reply to it. -/
theorem repliesTo_eq (n : Nat) : b.trace.repliesTo n =
    entries.countP fun u ↦ u.number == n && u.completion.reply?.isSome := by
  rw [Trace.repliesTo, h.replies, List.countP_filterMap]
  refine List.countP_congr fun u _ ↦ ?_
  rw [Entry.reply?]
  cases u.completion.reply? <;> simp

/-- No chance is used twice. -/
theorem countP_isFinal_le (n : Nat) :
    (entries.countP fun u ↦ u.number == n && u.isFinal) ≤ 1 := by
  have hn := h.balance n
  split at hn <;> split at hn <;> omega

/-- There is at most one reply to a message. -/
theorem repliesTo_le_one (n : Nat) : b.trace.repliesTo n ≤ 1 := by
  rw [h.repliesTo_eq]
  refine Nat.le_trans (List.countP_mono_left fun u _ hu ↦ ?_) (h.countP_isFinal_le n)
  rw [Bool.and_eq_true] at hu ⊢
  exact ⟨hu.1, Entry.isFinal_of_isSome_reply? hu.2⟩

/-- Of the decisions about a message, at most one is not to park it. -/
theorem countP_decisions_le (n : Nat) :
    ((entries.filterMap Entry.decision?).countP fun d ↦ d.1 == n && d.2 != .park) ≤ 1 := by
  rw [List.countP_filterMap]
  refine Nat.le_trans (List.countP_mono_left fun u hu hd ↦ ?_) (h.countP_isFinal_le n)
  rw [Entry.decision?] at hd
  rcases hβ : u.behaviour with - | β
  · rw [hβ] at hd
    cases hd
  · rw [hβ] at hd
    rw [(h.valid u hu).isFinal_eq hβ]
    exact hd

/-- A message that is for no handler is answered once, the end of the session never. -/
theorem repliesTo_of_not_dispatches (hx : items[n]? = some x) (hnot : ¬ c.Dispatches x) :
    b.trace.repliesTo n = if x = .fault .serviceStopped then 0 else 1 := by
  obtain ⟨-, hanswered⟩ := Channel.completion_judge_of_not_dispatches hnot
  have hcompletion : ∀ u ∈ entries, u.number = n → u.completion = (c.judge x).completion := by
    rintro u hu rfl
    exact ((h.valid u hu).of_not_dispatches hx hnot).2
  rw [h.repliesTo_eq]
  split
  · next hstopped =>
    refine List.countP_eq_zero.2 fun u hu hreply ↦ ?_
    rw [Bool.and_eq_true, beq_iff_eq] at hreply
    rw [hcompletion u hu hreply.1, hstopped] at hreply
    cases hreply.2
  · next hstopped =>
    -- nothing of it is set aside, so its chance is used, and with it a reply is sent
    obtain ⟨response, hresponse⟩ := hanswered hstopped
    have hparked : (b.parked.countP fun t ↦ t.number == n) = 0 :=
      List.countP_eq_zero.2 fun t ht hn ↦ by
        obtain ⟨-, x', handler, hx', hjudge⟩ := h.issued t ht
        rw [eq_of_beq hn, hx] at hx'
        obtain rfl := Option.some.inj hx'
        exact hnot (Channel.dispatches_iff.2 ⟨handler, t.request, hjudge⟩)
    have hfinal : (entries.countP fun u ↦ u.number == n && u.completion.reply?.isSome) =
        entries.countP fun u ↦ u.number == n && u.isFinal :=
      List.countP_congr fun u hu ↦ by
        by_cases hn : u.number = n
        · rw [Entry.isFinal, hcompletion u hu hn, hresponse]
          rfl
        · rw [beq_eq_false_iff_ne.2 hn, Bool.false_and, Bool.false_and]
    have hbalance := h.balance n
    rw [hparked, if_pos (List.getElem?_eq_some_iff.1 hx).1] at hbalance
    rw [hfinal]
    simpa using hbalance

/-- A message for a handler is answered once if someone decided to, and otherwise not. -/
theorem repliesTo_eq_one_iff (hx : items[n]? = some x) (hdispatches : c.Dispatches x) :
    b.trace.repliesTo n = 1 ↔
      ∃ β, (n, β) ∈ entries.filterMap Entry.decision? ∧ β.answers = true := by
  obtain ⟨handler, r, hjudge⟩ := Channel.dispatches_iff.1 hdispatches
  have hpos : b.trace.repliesTo n = 1 ↔ 0 < b.trace.repliesTo n := by
    have hle := h.repliesTo_le_one n
    omega
  rw [hpos, h.repliesTo_eq, List.countP_pos_iff]
  constructor
  · rintro ⟨u, hu, hreply⟩
    rw [Bool.and_eq_true, beq_iff_eq] at hreply
    obtain ⟨hn, hreply⟩ := hreply
    obtain ⟨β, hβ, -⟩ := (h.valid u hu).of_dispatches (hn ▸ hx) hjudge
    exact ⟨β, mem_decisions_iff.2 ⟨u, hu, hn, hβ⟩, (h.valid u hu).isSome_reply?_eq hβ ▸ hreply⟩
  · rintro ⟨β, hdecision, hanswers⟩
    obtain ⟨u, hu, hn, hβ⟩ := mem_decisions_iff.1 hdecision
    refine ⟨u, hu, ?_⟩
    rw [(h.valid u hu).isSome_reply?_eq hβ, hanswers, hn, beq_self_eq_true]
    rfl

/-- A message is set aside as long as all that was decided about it is to park it. -/
theorem mem_parked_iff (hx : items[n]? = some x) (hdispatches : c.Dispatches x) :
    n ∈ b.parked.map Ticket.number ↔
      ∀ β, (n, β) ∈ entries.filterMap Entry.decision? → β = .park := by
  obtain ⟨handler, r, hjudge⟩ := Channel.dispatches_iff.1 hdispatches
  have hparked : n ∈ b.parked.map Ticket.number ↔ 0 < b.parked.countP fun t ↦ t.number == n := by
    simp only [List.mem_map, List.countP_pos_iff, beq_iff_eq]
  have hbalance := h.balance n
  rw [if_pos (List.getElem?_eq_some_iff.1 hx).1] at hbalance
  have hfinal : (0 < b.parked.countP fun t ↦ t.number == n) ↔
      (entries.countP fun u ↦ u.number == n && u.isFinal) = 0 := by
    simp only [reduceCtorEq, if_false] at hbalance
    omega
  rw [hparked, hfinal, List.countP_eq_zero]
  constructor
  · intro hnone β hdecision
    obtain ⟨u, hu, hn, hβ⟩ := mem_decisions_iff.1 hdecision
    have hopen := hnone u hu
    rw [(h.valid u hu).isFinal_eq hβ, hn, beq_self_eq_true, Bool.true_and, bne_iff_ne] at hopen
    exact Decidable.not_not.1 hopen
  · intro hpark u hu hused
    rw [Bool.and_eq_true, beq_iff_eq] at hused
    obtain ⟨hn, hused⟩ := hused
    obtain ⟨β, hβ, -⟩ := (h.valid u hu).of_dispatches (hn ▸ hx) hjudge
    rw [(h.valid u hu).isFinal_eq hβ, hpark β (mem_decisions_iff.2 ⟨u, hu, hn, hβ⟩)] at hused
    cases hused

/-- No message is set aside twice. -/
theorem nodup_parked : (b.parked.map Ticket.number).Nodup := by
  rw [List.nodup_iff_count_le_one]
  intro n
  have hbalance := h.balance n
  rw [List.count, List.countP_map]
  show (b.parked.countP fun t ↦ t.number == n) ≤ 1
  split at hbalance <;> split at hbalance <;> omega

/-- Of replies, a step shows the one that it decides for. -/
theorem replies_report (s : Bench.Step) :
    (b.report s).events.replies = (b.entry? s).toList.filterMap Entry.reply? := by
  have hstep := (h.step s).replies
  rw [b.trace_step, Trace.replies_append, h.replies, List.filterMap_append] at hstep
  exact List.append_cancel_left hstep

/-- A ticket that is released leaves the list, unless it is parked again. -/
theorem parked_release {index : Nat} {t : Ticket} (ht : b.parked[index]? = some t)
    (behaviour : Behaviour) :
    (b.step (.release index behaviour)).parked =
      b.parked.eraseIdx index ++ if behaviour = .park then [t] else [] := by
  obtain ⟨hsecurity, -⟩ := h.issued t (List.mem_of_getElem? ht)
  show ((b.release? index behaviour).getD b).parked = _
  rw [Bench.release?, ht, Option.map_some, Option.getD_some, Bench.conclude,
    Bench.parked_complete _ ⟨t.number, some behaviour, behaviour.completion t.request⟩,
    Bench.channel_heed, Bench.heed_eq, Entry.parked?, Behaviour.parked?_completion]
  show b.parked.eraseIdx index ++ _ = _
  split
  · have hticket : b.channel.ticket t.number t.request = t := by
      rw [h.channel, Channel.ticket, ← hsecurity]
    exact congrArg (fun t ↦ b.parked.eraseIdx index ++ [t]) hticket
  · rfl

end Ledger

/-! ### At most one reply -/

/-- **At most one reply to each message, in whatever order they are completed.** After any list of
steps, every reply is to a message that was received, and is made from that message; no message is
answered twice. A message for no handler is answered exactly once, and before the step that receives
it is over, whereas the end of a session is not answered. A message for a handler is answered if and
only if some decision about it is to answer, and its ticket is set aside if and only if all
decisions about it are to park it; at most one is to do something else. No ticket is set aside
twice. Releasing a ticket sends the reply to that very ticket's message, if it sends any, takes the
ticket out, and leaves the others as they are. -/
theorem Bench.replies_at_most_once (c : Channel) (refusal : Refusal) (steps : List Bench.Step) :
    let b := (fresh c refusal).run steps
    let received := items steps
    let decided := (fresh c refusal).decisions steps
    (∀ n frames, (n, frames) ∈ b.trace.replies →
      ∃ x response, received[n]? = some x ∧ frames = response.encode ∧
        (¬ c.Dispatches x ∧ (c.judge x).completion = .answered response ∨
          ∃ handler r β, c.judge x = .accepted handler r ∧ (n, β) ∈ decided ∧
            β.completion r = .answered response)) ∧
    (∀ n, b.trace.repliesTo n ≤ 1) ∧
    (∀ n x, received[n]? = some x → ¬ c.Dispatches x →
      b.trace.repliesTo n = if x = .fault .serviceStopped then 0 else 1) ∧
    (∀ x, ¬ c.Dispatches x → x ≠ .fault .serviceStopped → ∃ frames,
      (b.report (.receive x)).events.replies = [(received.length, frames)]) ∧
    (∀ n x, received[n]? = some x → c.Dispatches x →
      (b.trace.repliesTo n = 1 ↔ ∃ β, (n, β) ∈ decided ∧ β.answers = true) ∧
      (n ∈ b.parked.map Ticket.number ↔ ∀ β, (n, β) ∈ decided → β = .park)) ∧
    (∀ n, (decided.countP fun d ↦ d.1 == n && d.2 != .park) ≤ 1) ∧
    (b.parked.map Ticket.number).Nodup ∧
    ∀ index t, b.parked[index]? = some t →
      (∃ frames handler, received[t.number]? = some (.message frames) ∧
        Request.decode c.security frames = .ok t.request ∧
        c.registry.get? t.request.command = some handler) ∧
      ∀ behaviour : Behaviour,
        (b.report (.release index behaviour)).events.replies =
          ((behaviour.completion t.request).reply?.map fun response ↦
            (t.number, response.encode)).toList ∧
        (b.step (.release index behaviour)).parked =
          b.parked.eraseIdx index ++ if behaviour = .park then [t] else [] := by
  intro b received decided
  have h : Ledger c b received _ none := Ledger.of_run c refusal steps
  refine ⟨fun n frames ↦ h.exists_of_mem_replies, h.repliesTo_le_one,
    fun n x ↦ h.repliesTo_of_not_dispatches, fun x hnot hstopped ↦ ?_,
    fun n x hx hdispatches ↦ ⟨h.repliesTo_eq_one_iff hx hdispatches,
      h.mem_parked_iff hx hdispatches⟩,
    h.countP_decisions_le, h.nodup_parked, fun index t ht ↦ ⟨?_, fun behaviour ↦
      ⟨?_, h.parked_release ht behaviour⟩⟩⟩
  · obtain ⟨-, hanswered⟩ := Channel.completion_judge_of_not_dispatches hnot
    obtain ⟨response, hresponse⟩ := hanswered hstopped
    refine ⟨response.encode, ?_⟩
    rw [h.replies_report, entry?, judge, h.channel, hresponse, h.arrivals]
    rfl
  · obtain ⟨-, x, handler, hx, hjudge⟩ := h.issued t (List.mem_of_getElem? ht)
    obtain ⟨frames, rfl, hdecode, hget⟩ := c.judge_eq_accepted_iff.1 hjudge
    exact ⟨frames, handler, hx, hdecode, hget⟩
  · rw [h.replies_report, entry?, ht, Option.map_some, Option.toList_some, List.filterMap_cons,
      List.filterMap_nil, Entry.reply?]
    cases (behaviour.completion t.request).reply? <;> rfl

/-- A channel that sets every ping aside. -/
def Channel.parking : Channel where
  security := .unsecured
  registry := .ofBehaviours false [("ping", .park)]

/-- Two pings come in and something unreadable; the second ping is answered, the first parked
again. -/
def Bench.pings : List Bench.Step :=
  [.receive (.message (.query [1] "ping" 7 [])),
    .receive (.message (.query [2] "ping" 8 [5])),
    .receive (.fault .wouldBlock), .release 1 .echo, .release 0 .park]

theorem Bench.replies_at_most_once_pings :
    let b := (fresh .parking none).run pings
    b.parked.map Ticket.number = [0] ∧ b.trace.repliesTo 0 ≤ 1 ∧ b.trace.repliesTo 1 = 1 ∧
      b.trace.repliesTo 2 = 1 ∧
      (b.report (.release 0 (.body [9]))).events.replies =
        [(0, .reply [1] "ping" 7 [9])] := by
  intro b
  obtain ⟨-, hone, hnot, -, hdispatched, -, -, hrelease⟩ :=
    replies_at_most_once .parking none pings
  have hsecond : Channel.parking.Dispatches (.message (.query [2] "ping" 8 [5])) :=
    ⟨_, ⟨⟨[2]⟩, "ping", 8, [5], .unsecured⟩, .custom ⟨0, .park⟩, rfl, rfl, rfl⟩
  have hfault : ¬ Channel.parking.Dispatches (.fault .wouldBlock) := by
    rintro ⟨frames, r, handler, hmessage, -⟩
    cases hmessage
  have hdecided : (fresh .parking none).decisions pings =
      [(0, .park), (1, .park), (1, .echo), (0, .park)] := rfl
  have hecho : (1, .echo) ∈ (fresh .parking none).decisions pings := by
    rw [hdecided]
    decide
  obtain ⟨-, hsent⟩ := hrelease 0 ⟨0, .unsecured, ⟨⟨[1]⟩, "ping", 7, [], .unsecured⟩⟩ rfl
  exact ⟨rfl, hone 0, (hdispatched 1 _ rfl hsecond).1.2 ⟨.echo, hecho, rfl⟩, hnot 2 _ rfl hfault,
    (hsent (.body [9])).1⟩

end QueryDispatch
