import QueryDispatch.Proofs.Reply.Once

/-!
# Tallies account for what happened

A tally is what a trace comes to: `Trace.tally` counts a trace up, and whatever a dispatcher does
adds to its tally just what the events come to that it adds to its trace. `Accounts` is that for one
operation, together with what the log owes to the same events. Accounts are put together by
`Accounts.trans`, so a run of any length needs no more than an account of each of its operations.

That no more is sent than was received does not follow from the events. A message brings one chance
to answer it; the chance is kept, or used for a reply, or given up (`chances_complete`), so replies
and chances kept never exceed the messages received. `Balances` is an account that says so.

## Main results

* `Bench.balances_step`: the account of a step of the bench.
* `Bench.balances_run`: and of a list of steps.
* `Bench.Balances.accounted`: tally, log and trace agree, in all that a tally has to say.
-/

namespace QueryDispatch

attribute [ext] Tally

namespace Tally

/-! ### Adding up -/

/-- The tally before anything happened. -/
instance : Zero Tally := ⟨{}⟩

/-- Counter by counter. -/
instance : Add Tally where
  add s t :=
    { received := s.received + t.received
      dispatched := s.dispatched + t.dispatched
      malformed := s.malformed + t.malformed
      notFound := s.notFound + t.notFound
      responsesSent := s.responsesSent + t.responsesSent
      sendFailures := s.sendFailures + t.sendFailures }

protected theorem add_zero (t : Tally) : t + 0 = t := by
  ext1 <;> exact UInt64.add_zero _

protected theorem zero_add (t : Tally) : 0 + t = t := by
  ext1 <;> exact UInt64.zero_add _

/-- Tallies are added in any grouping. -/
protected theorem add_assoc (s t u : Tally) : s + t + u = s + (t + u) := by
  ext1 <;> exact UInt64.add_assoc ..

theorem zero_def : (0 : Tally) = {} := rfl

theorem add_def (s t : Tally) :
    s + t =
      { received := s.received + t.received
        dispatched := s.dispatched + t.dispatched
        malformed := s.malformed + t.malformed
        notFound := s.notFound + t.notFound
        responsesSent := s.responsesSent + t.responsesSent
        sendFailures := s.sendFailures + t.sendFailures } := rfl

/-- To count a message is to add a tally of one message. -/
theorem count_eq_add (t : Tally) (outcome : Outcome) : t.count outcome = t + count 0 outcome := by
  cases outcome <;> simp [count, add_def, zero_def]

/-- To count a reply is to add a tally of one reply. -/
theorem settle_eq_add (t : Tally) (refusal : Refusal) :
    t.settle refusal = t + settle 0 refusal := by
  rcases refusal with - | cause
  · simp [settle, add_def, zero_def]
  · cases cause <;> simp [settle, add_def, zero_def]

end Tally

/-- Whether the transport failed to take a reply; the end of the session is no failure. -/
def Refusal.isFailure : Refusal → Bool
  | none | some .serviceStopped => false
  | some _ => true

namespace Notice

/-- Whether it says that a query is about to be handled. -/
def isQuery (n : Notice) : Bool := n.severity = .info ∧ n.message = "Query"

/-- Whether it says that a reply could not be sent. -/
def isReplyFailure (n : Notice) : Bool :=
  n.severity = .warn ∧ n.message = "Failed to send query response"

end Notice

namespace Event

/-- The notice of a message that is no query. -/
def isRejection : Event → Bool
  | .noted (.rejected ..) => true
  | _ => false

/-- The notice of a query that nobody handles. -/
def isUnknownCommand : Event → Bool
  | .noted (.unknownCommand ..) => true
  | _ => false

/-- Whether there is something to count in the event: the mark of a message, or a reply that the
transport took or failed to take. -/
def isCounted (e : Event) : Bool :=
  e.isArrival || e.refusal?.any fun refusal ↦ refusal.isNone || Refusal.isFailure refusal

/-- Whether the event is of no concern to a tally or to what the log says of messages. -/
def isIdle (e : Event) : Bool :=
  !e.isArrival && e.refusal?.isNone && !e.notice?.any fun n ↦ n.isQuery || n.isReplyFailure

end Event

namespace Trace

/-- What a trace comes to. -/
def tally (t : Trace) : Tally where
  received := .ofNat t.arrivals
  dispatched := .ofNat (t.countP Event.isInvocation)
  malformed := .ofNat (t.countP Event.isRejection)
  notFound := .ofNat (t.countP Event.isUnknownCommand)
  responsesSent := .ofNat (t.refusals.count none)
  sendFailures := .ofNat (t.refusals.countP Refusal.isFailure)

variable (xs ys : Trace)

/-- The tally of a trace is the sum of those of its parts. -/
theorem tally_append : tally (xs ++ ys) = tally xs + tally ys := by
  ext1
  case received => exact (congrArg UInt64.ofNat (arrivals_append xs ys)).trans (UInt64.ofNat_add ..)
  case responsesSent =>
    show UInt64.ofNat ((refusals (xs ++ ys)).count none) = _
    rw [refusals_append, List.count_append, UInt64.ofNat_add]
    rfl
  case sendFailures =>
    show UInt64.ofNat ((refusals (xs ++ ys)).countP Refusal.isFailure) = _
    rw [refusals_append, List.countP_append, UInt64.ofNat_add]
    rfl
  all_goals exact (congrArg UInt64.ofNat List.countP_append).trans (UInt64.ofNat_add ..)

/-- Every message is marked in one of three ways. -/
theorem arrivals_eq (t : Trace) :
    t.arrivals = t.countP Event.isInvocation + t.countP Event.isRejection +
      t.countP Event.isUnknownCommand := by
  induction t with
  | nil => rfl
  | cons e rest ih =>
    have hmark : (if e.isArrival then 1 else 0) = (if e.isInvocation then 1 else 0) +
        (if e.isRejection then 1 else 0) + if e.isUnknownCommand then 1 else 0 := by
      rcases e with - | - | - | - | - | notice
      case noted => cases notice <;> rfl
      all_goals rfl
    rw [arrivals] at ih ⊢
    rw [List.countP_cons, List.countP_cons, List.countP_cons, List.countP_cons, ih, hmark]
    omega

/-- The log goes down to details only for messages that it rejects. -/
theorem countP_debug (t : Trace) :
    (t.notices.countP fun n ↦ n.severity = .debug) =
      t.countP Event.isRejection + t.countP Event.isUnknownCommand := by
  induction t with
  | nil => rfl
  | cons e rest ih =>
    have hnotice : notices (e :: rest) = e.notice?.toList ++ notices rest := by
      rw [notices, List.filterMap_cons]
      cases e.notice? <;> rfl
    have hmark : (e.notice?.toList.countP fun n ↦ n.severity = .debug) =
        (if e.isRejection then 1 else 0) + if e.isUnknownCommand then 1 else 0 := by
      rcases e with - | - | - | - | - | notice
      case noted => cases notice <;> rfl
      all_goals rfl
    rw [hnotice, List.countP_append, List.countP_cons, List.countP_cons, ih, hmark]
    omega

variable {xs}

/-- Where nothing is counted, the tally is empty. -/
theorem tally_eq_zero (h : ∀ e ∈ xs, e.isCounted = false) : tally xs = 0 := by
  have hmark : xs.arrivals = 0 := List.countP_eq_zero.2 fun e he harrival ↦ by
    have hcounted := h e he
    rw [Event.isCounted, harrival] at hcounted
    cases hcounted
  have hrefusal : ∀ refusal ∈ xs.refusals,
      (refusal.isNone || Refusal.isFailure refusal) = false := by
    intro refusal hmem
    obtain ⟨e, he, hrefusal⟩ := List.mem_filterMap.1 hmem
    have hcounted := h e he
    rw [Event.isCounted, hrefusal] at hcounted
    exact (Bool.or_eq_false_iff.1 hcounted).2
  -- without a mark there is none of any kind
  have hsum := xs.arrivals_eq
  ext1
  case received => exact congrArg UInt64.ofNat hmark
  case dispatched => exact congrArg UInt64.ofNat (by omega : xs.countP Event.isInvocation = 0)
  case malformed => exact congrArg UInt64.ofNat (by omega : xs.countP Event.isRejection = 0)
  case notFound => exact congrArg UInt64.ofNat (by omega : xs.countP Event.isUnknownCommand = 0)
  case responsesSent =>
    refine congrArg UInt64.ofNat (List.count_eq_zero.2 fun hmem ↦ ?_)
    cases hrefusal none hmem
  case sendFailures =>
    refine congrArg UInt64.ofNat (List.countP_eq_zero.2 fun refusal hmem hfailure ↦ ?_)
    have hnone := hrefusal refusal hmem
    rw [hfailure, Bool.or_true] at hnone
    cases hnone

end Trace

namespace Bench

/-! ### Accounts -/

/-- What has happened from `b` to `b'`, if it is `es`, is what has been counted, and the log says of
it what it is to say. -/
structure Accounts (b : Bench) (es : Trace) (b' : Bench) : Prop where
  trace : b'.trace = b.trace ++ es
  tally : b'.tally = b.tally + es.tally
  channel : b'.channel = b.channel
  queries : es.notices.countP Notice.isQuery =
    if b.channel.verbose then es.countP Event.isInvocation else 0
  failures : es.notices.countP Notice.isReplyFailure = es.refusals.countP Refusal.isFailure

namespace Accounts

variable {b b' b'' : Bench} {es es' : Trace}

theorem refl (b : Bench) : Accounts b [] b where
  trace := (List.append_nil _).symm
  tally := b.tally.add_zero.symm
  channel := rfl
  queries := (ite_self 0).symm
  failures := rfl

theorem trans (h : Accounts b es b') (h' : Accounts b' es' b'') : Accounts b (es ++ es') b'' where
  trace := by rw [h'.trace, h.trace, List.append_assoc]
  tally := by rw [h'.tally, h.tally, Trace.tally_append, Tally.add_assoc]
  channel := h'.channel.trans h.channel
  queries := by
    rw [Trace.notices_append, List.countP_append, h.queries, h'.queries, h.channel,
      List.countP_append]
    split <;> rfl
  failures := by
    rw [Trace.notices_append, List.countP_append, h.failures, h'.failures, Trace.refusals_append,
      List.countP_append]

/-- Events of no concern to the tally. -/
theorem of_isIdle (htrace : b'.trace = b.trace ++ es) (htally : b'.tally = b.tally)
    (hchannel : b'.channel = b.channel) (hidle : ∀ e ∈ es, e.isIdle = true) :
    Accounts b es b' := by
  have hidle' : ∀ e ∈ es, e.isArrival = false ∧ e.refusal? = none ∧
      ∀ n, e.notice? = some n → n.isQuery = false ∧ n.isReplyFailure = false := by
    intro e he
    have hevent := hidle e he
    simp only [Event.isIdle, Bool.and_eq_true, Bool.not_eq_true',
      Option.isNone_iff_eq_none] at hevent
    obtain ⟨⟨harrival, hrefusal⟩, hnotice⟩ := hevent
    refine ⟨harrival, hrefusal, fun n hn ↦ ?_⟩
    rw [hn] at hnotice
    exact Bool.or_eq_false_iff.1 hnotice
  have hnotices : ∀ n ∈ es.notices, n.isQuery = false ∧ n.isReplyFailure = false := by
    intro n hn
    obtain ⟨e, he, hnotice⟩ := List.mem_filterMap.1 hn
    exact (hidle' e he).2.2 n hnotice
  have hrefusals : es.refusals = [] :=
    List.filterMap_eq_nil_iff.2 fun e he ↦ (hidle' e he).2.1
  have hinvoked : es.countP Event.isInvocation = 0 :=
    List.countP_eq_zero.2 fun e he ↦
      ne_true_of_eq_false (e.isInvocation_eq_false (hidle' e he).1)
  refine ⟨htrace, ?_, hchannel, ?_, ?_⟩
  · rw [htally, Trace.tally_eq_zero, Tally.add_zero]
    intro e he
    rw [Event.isCounted, (hidle' e he).1, (hidle' e he).2.1]
    rfl
  · rw [hinvoked, ite_self]
    exact List.countP_eq_zero.2 fun n hn ↦ ne_true_of_eq_false (hnotices n hn).1
  · rw [hrefusals]
    exact List.countP_eq_zero.2 fun n hn ↦ ne_true_of_eq_false (hnotices n hn).2

end Accounts

end Bench

/-! ### What the events of a dispatch come to -/

namespace Channel

variable (c : Channel) (number : Nat)

/-- What happens on a verdict is counted once, for its outcome. -/
theorem tally_events (v : Verdict) : Trace.tally (c.events number v) = .count 0 v.outcome := by
  cases v with
  | accepted handler r =>
    rw [events]
    split <;> rfl
  | _ => rfl

/-- A query is announced just before it is handled, if it is at all. -/
theorem countP_isQuery_events (v : Verdict) :
    (Trace.notices (c.events number v)).countP Notice.isQuery =
      if c.verbose then (c.events number v).countP Event.isInvocation else 0 := by
  cases v with
  | accepted handler r =>
    rw [events]
    split <;> rfl
  | _ => exact (ite_self 0).symm

/-- No verdict brings a notice of a refused reply. -/
theorem countP_isReplyFailure_events (v : Verdict) :
    (Trace.notices (c.events number v)).countP Notice.isReplyFailure = 0 := by
  cases v with
  | accepted handler r =>
    rw [events]
    split <;> rfl
  | _ => rfl

/-- Nothing is sent before the reply. -/
theorem refusals_events (v : Verdict) : Trace.refusals (c.events number v) = [] := by
  cases v with
  | accepted handler r =>
    rw [events]
    split <;> rfl
  | _ => rfl

variable (refusal : Refusal) (response : Response)

/-- A reply is counted by what the transport said to it. -/
theorem tally_replyEvents :
    Trace.tally (c.replyEvents refusal number response) = .settle 0 refusal := by
  rcases refusal with - | cause
  · rfl
  · cases cause <;> rfl

/-- A reply is sent once. -/
theorem refusals_replyEvents :
    Trace.refusals (c.replyEvents refusal number response) = [refusal] := by
  rcases refusal with - | cause
  · rfl
  · cases cause <;> rfl

/-- The log speaks of a reply if and only if the transport failed to take it. -/
theorem countP_isReplyFailure_replyEvents :
    (Trace.notices (c.replyEvents refusal number response)).countP Notice.isReplyFailure =
      if Refusal.isFailure refusal then 1 else 0 := by
  rcases refusal with - | cause
  · rfl
  · cases cause <;> rfl

/-- No reply announces a query. -/
theorem countP_isQuery_replyEvents :
    (Trace.notices (c.replyEvents refusal number response)).countP Notice.isQuery = 0 := by
  rcases refusal with - | cause
  · rfl
  · cases cause <;> rfl

/-- No reply invokes a handler. -/
theorem countP_isInvocation_replyEvents :
    (c.replyEvents refusal number response).countP Event.isInvocation = 0 :=
  List.countP_eq_zero.2 fun e he ↦ by
    rcases c.mem_replyEvents he with rfl | ⟨_, _, _, _, rfl⟩ <;> exact Bool.false_ne_true

end Channel

namespace Bench

section Accounts

variable (b : Bench)

/-- What is counted for a verdict is what has happened on it. -/
theorem accounts_absorb (v : Verdict) :
    Accounts b (b.channel.events b.dispatcher.arrivals v) (b.absorb v) where
  trace := rfl
  tally := by
    rw [Channel.tally_events]
    exact b.tally.count_eq_add v.outcome
  channel := rfl
  queries := b.channel.countP_isQuery_events _ v
  failures := by
    rw [Channel.refusals_events]
    exact b.channel.countP_isReplyFailure_events _ v

/-- A request to stop counts nothing. -/
theorem accounts_heed (stops : Bool) : Accounts b (b.stopEvents stops) (b.heed stops) := by
  refine .of_isIdle (b.trace_heed stops) (b.tally_heed stops) (b.channel_heed stops) fun e he ↦ ?_
  rw [b.eq_stopRequested_of_mem_stopEvents he]
  rfl

/-- What is counted for a reply is what has happened on it. -/
theorem accounts_reply (number : Nat) (response : Response) :
    Accounts b (b.channel.replyEvents b.refusal number response) (b.reply number response) where
  trace := rfl
  tally := by
    rw [Channel.tally_replyEvents]
    exact b.tally.settle_eq_add b.refusal
  channel := rfl
  queries := by
    rw [Channel.countP_isQuery_replyEvents, Channel.countP_isInvocation_replyEvents, ite_self]
  failures := by
    rw [Channel.countP_isReplyFailure_replyEvents, Channel.refusals_replyEvents,
      List.countP_singleton]

/-- What is counted for a chance to answer is what has become of it. -/
theorem accounts_complete (number : Nat) (completion : Completion) :
    Accounts b (b.channel.completionEvents b.refusal number completion)
      (b.complete number completion) := by
  cases completion with
  | answered response => exact b.accounts_reply number response
  | _ => exact .of_isIdle (List.append_nil _).symm rfl rfl fun e he ↦ by cases he

/-- What is counted in a dispatch is what has happened in it. -/
theorem accounts_dispatch (received : Received) :
    Accounts b (b.dispatchEvents received) (b.dispatch received) := by
  have habsorbed := b.accounts_absorb (b.judge received)
  have hheeded := habsorbed.trans ((b.absorb _).accounts_heed (b.judge received).stops)
  have hdone := hheeded.trans (accounts_complete _ b.dispatcher.arrivals
    (b.judge received).completion)
  rw [channel_heed, refusal_heed] at hdone
  exact hdone

/-- Replies sent one after the other. -/
theorem accounts_foldl_reply (tickets : List Ticket) (b : Bench) :
    Accounts b (tickets.flatMap fun t ↦
        b.channel.replyEvents b.refusal t.number (.success t.request t.request.body))
      (tickets.foldl (fun b t ↦ b.reply t.number (.success t.request t.request.body)) b) := by
  induction tickets generalizing b with
  | nil => exact .refl b
  | cons t rest ih =>
    have hfirst := b.accounts_reply t.number (.success t.request t.request.body)
    exact hfirst.trans (ih (b.reply t.number (.success t.request t.request.body)))

/-- What is counted as what was put off is sent is what has happened then. -/
theorem accounts_flush : Accounts b b.flushEvents b.flush := by
  have hsent := accounts_foldl_reply b.deferred { b with deferred := [] }
  exact ⟨hsent.trace, hsent.tally, hsent.channel, hsent.queries, hsent.failures⟩

end Accounts

/-! ### Chances to answer -/

/-- How many chances to answer are kept. -/
def kept (b : Bench) : Nat := b.parked.length + b.deferred.length

/-- A request to stop keeps all chances to answer. -/
theorem kept_heed (b : Bench) (stops : Bool) : (b.heed stops).kept = b.kept := by
  rw [heed_eq]
  rfl

/-- A chance in hand is used for a reply, kept, or given up. -/
theorem chances_complete (b : Bench) (number : Nat) (completion : Completion) :
    (Trace.refusals (b.channel.completionEvents b.refusal number completion)).length +
        (b.complete number completion).kept ≤
      b.kept + if completion = .dropped then 0 else 1 := by
  cases completion with
  | dropped => exact Nat.le_of_eq (Nat.zero_add _)
  | answered response =>
    rw [Channel.completionEvents, Channel.refusals_replyEvents]
    exact Nat.le_of_eq (Nat.add_comm 1 b.kept)
  | parked r =>
    show 0 + ((b.parked ++ [_]).length + b.deferred.length) ≤ b.kept + 1
    rw [List.length_append, kept, List.length_singleton]
    omega
  | deferred r =>
    show 0 + (b.parked.length + (b.deferred ++ [_]).length) ≤ b.kept + 1
    rw [List.length_append, kept, List.length_singleton]
    omega
  | panicked =>
    show 0 + b.kept ≤ b.kept + 1
    omega

/-- From `b` to `b'` everything is accounted for, `n` messages were received, and no chance to
answer was used that there was not. -/
structure Balances (b : Bench) (es : Trace) (n : Nat) (b' : Bench) : Prop extends
    Accounts b es b' where
  receives : es.arrivals = n
  chances : es.refusals.length + b'.kept ≤ b.kept + n

namespace Balances

variable {b b' b'' : Bench} {es es' : Trace} {n n' : Nat}

theorem refl (b : Bench) : Balances b [] 0 b :=
  ⟨.refl b, rfl, Nat.le_of_eq (Nat.zero_add _)⟩

theorem trans (h : Balances b es n b') (h' : Balances b' es' n' b'') :
    Balances b (es ++ es') (n + n') b'' where
  toAccounts := h.toAccounts.trans h'.toAccounts
  receives := by rw [Trace.arrivals_append, h.receives, h'.receives]
  chances := by
    have hfirst := h.chances
    have hsecond := h'.chances
    rw [Trace.refusals_append, List.length_append]
    omega

/-- Events of no concern to the tally. -/
theorem of_isIdle (htrace : b'.trace = b.trace ++ es) (htally : b'.tally = b.tally)
    (hchannel : b'.channel = b.channel) (hkept : b'.kept = b.kept)
    (hidle : ∀ e ∈ es, e.isIdle = true) : Balances b es 0 b' := by
  have harrivals : es.arrivals = 0 := List.countP_eq_zero.2 fun e he harrival ↦ by
    have hevent := hidle e he
    rw [Event.isIdle, harrival] at hevent
    cases hevent
  have hrefusals : es.refusals = [] := List.filterMap_eq_nil_iff.2 fun e he ↦ by
    have hevent := hidle e he
    simp only [Event.isIdle, Bool.and_eq_true, Option.isNone_iff_eq_none] at hevent
    exact hevent.1.2
  refine ⟨.of_isIdle htrace htally hchannel hidle, harrivals, ?_⟩
  rw [hrefusals, hkept]
  exact Nat.le_of_eq (Nat.zero_add _)

end Balances

/-! ### Steps of the bench -/

section Balances

variable (b : Bench)

/-- A request to stop leaves the balance as it is. -/
theorem balances_heed (stops : Bool) : Balances b (b.stopEvents stops) 0 (b.heed stops) := by
  refine .of_isIdle (b.trace_heed stops) (b.tally_heed stops) (b.channel_heed stops)
    (b.kept_heed stops) fun e he ↦ ?_
  rw [b.eq_stopRequested_of_mem_stopEvents he]
  rfl

/-- Nothing is sent in a request to stop. -/
theorem refusals_stopEvents (stops : Bool) : Trace.refusals (b.stopEvents stops) = [] := by
  rw [stopEvents]
  split <;> rfl

/-- **Every message that is received is accounted for**, with one chance to answer it. -/
theorem balances_dispatch (received : Received) :
    Balances b (b.dispatchEvents received) (if received = .fault .serviceStopped then 0 else 1)
      (b.dispatch received) := by
  set v := b.judge received with hv
  have hstopped : v = .stopped ↔ received = .fault .serviceStopped :=
    Channel.judge_eq_stopped_iff
  refine ⟨b.accounts_dispatch received, ?_, ?_⟩
  · rw [dispatchEvents, Trace.arrivals_append, Trace.arrivals_append, arrivals_stopEvents,
      Channel.arrivals_completionEvents, Channel.arrivals_events, ← hv]
    simp only [hstopped, Nat.add_zero]
  · have hcompleted := chances_complete ((b.absorb v).heed v.stops) b.dispatcher.arrivals
      v.completion
    rw [channel_heed, refusal_heed, kept_heed] at hcompleted
    have hdropped : (if v.completion = .dropped then 0 else 1) ≤
        if received = .fault .serviceStopped then 0 else 1 := by
      by_cases hover : received = .fault .serviceStopped
      · rw [hstopped.2 hover, if_pos hover]
        exact Nat.le_refl 0
      · rw [if_neg hover]
        split <;> omega
    rw [dispatchEvents, Trace.refusals_append, Trace.refusals_append, refusals_stopEvents,
      Channel.refusals_events, List.append_nil, List.nil_append]
    exact Nat.le_trans hcompleted (Nat.add_le_add_left hdropped _)

/-- A ticket that is taken out is a chance in hand. -/
theorem balances_release (index : Nat) (behaviour : Behaviour) :
    ∃ es, Balances b es 0 ((b.release? index behaviour).getD b) := by
  rw [release?]
  rcases ht : b.parked[index]? with - | t
  · exact ⟨[], .refl b⟩
  · set taken : Bench := { b with parked := b.parked.eraseIdx index } with htaken
    have hkept : taken.kept + 1 = b.kept := by
      obtain ⟨hindex, -⟩ := List.getElem?_eq_some_iff.1 ht
      have hlength := List.length_eraseIdx_add_one hindex
      show (b.parked.eraseIdx index).length + b.deferred.length + 1 = _
      rw [kept]
      omega
    have haccounts := (taken.accounts_heed behaviour.stops).trans
      (accounts_complete _ t.number (behaviour.completion t.request))
    -- the chance that was taken out is the one that is used, kept again or given up
    have hcompleted := chances_complete (taken.heed behaviour.stops) t.number
      (behaviour.completion t.request)
    rw [channel_heed, refusal_heed] at haccounts hcompleted
    rw [kept_heed] at hcompleted
    refine ⟨_, ⟨haccounts.trace, haccounts.tally, haccounts.channel, haccounts.queries,
      haccounts.failures⟩, ?_, ?_⟩
    · rw [Trace.arrivals_append, arrivals_stopEvents, Channel.arrivals_completionEvents]
    · rw [Trace.refusals_append, refusals_stopEvents, List.nil_append]
      refine Nat.le_trans hcompleted ?_
      split <;> omega

/-- As what was put off is sent, no more is sent than was kept. -/
theorem balances_flush : Balances b b.flushEvents 0 b.flush := by
  refine ⟨b.accounts_flush, ?_, ?_⟩
  · refine List.countP_eq_zero.2 fun e he ↦ ?_
    obtain ⟨number, response, he⟩ := b.mem_flushEvents he
    exact List.countP_eq_zero.1 (b.channel.arrivals_replyEvents b.refusal number response) e he
  · have hlength : (Trace.refusals b.flushEvents).length = b.deferred.length := by
      rw [flushEvents]
      induction b.deferred with
      | nil => rfl
      | cons t rest ih =>
        rw [List.flatMap_cons, Trace.refusals_append, Channel.refusals_replyEvents,
          List.length_append, ih, List.length_singleton, List.length_cons, Nat.add_comm]
    have hkept : b.flush.kept = b.parked.length := by
      rw [flush_eq]
      rfl
    rw [hlength, hkept, kept]
    omega

/-- How many of the items are messages; the end of the session is none. -/
def messages (received : List Received) : Nat := received.countP (· ≠ .fault .serviceStopped)

/-- **Every step of the bench is accounted for.** -/
theorem balances_step (st : Step) : ∃ es, Balances b es (messages st.item?.toList) (b.step st) := by
  cases st with
  | receive received =>
    have hmessages : messages [received] = if received = .fault .serviceStopped then 0 else 1 := by
      rw [messages, List.countP_singleton]
      by_cases h : received = .fault .serviceStopped <;> simp [h]
    refine ⟨b.dispatchEvents received, ?_⟩
    show Balances b _ (messages [received]) _
    rw [hmessages]
    exact b.balances_dispatch received
  | release index behaviour => exact b.balances_release index behaviour
  | setRefusal refusal =>
    exact ⟨[], .of_isIdle (List.append_nil _).symm rfl rfl rfl fun e he ↦ by cases he⟩

/-- A list of steps keeps the balance. -/
theorem balances_run (steps : List Step) :
    ∃ es, Balances b es (messages (items steps)) (b.run steps) := by
  induction steps generalizing b with
  | nil => exact ⟨[], .refl b⟩
  | cons st rest ih =>
    obtain ⟨es, hstep⟩ := b.balances_step st
    obtain ⟨es', hrest⟩ := ih (b.step st)
    refine ⟨es ++ es', ?_⟩
    rw [items_cons, messages, List.countP_append]
    exact hstep.trans hrest

end Balances

/-! ### Agreement -/

/-- Tally, log and trace agree, where `n` messages were received. Counters wrap. That queries are
announced once for each invocation, or never, holds of the numbers themselves, and so it does that
no more is sent than was received. -/
structure Accounted (b : Bench) (n : Nat) : Prop where
  received : b.tally.received = .ofNat n
  disposed : b.tally.received = b.tally.dispatched + b.tally.malformed + b.tally.notFound
  dispatched : b.tally.dispatched = .ofNat (b.trace.countP Event.isInvocation)
  responsesSent : b.tally.responsesSent = .ofNat (b.trace.refusals.count none)
  sendFailures : b.tally.sendFailures = .ofNat (b.trace.refusals.countP Refusal.isFailure)
  warnings : b.tally.sendFailures = .ofNat (b.trace.notices.countP Notice.isReplyFailure)
  details : b.tally.malformed + b.tally.notFound =
    .ofNat (b.trace.notices.countP fun n ↦ n.severity = .debug)
  queries : b.trace.notices.countP Notice.isQuery =
    if b.channel.verbose then b.trace.countP Event.isInvocation else 0
  sends : b.trace.refusals.length ≤ n

section Agreement

variable {b b' : Bench} {es : Trace} {n : Nat}

/-- Where nothing that counts has happened, nothing was counted. -/
theorem Accounts.tally_eq (h : Accounts b es b') (hes : ∀ e ∈ es, e.isCounted = false) :
    b'.tally = b.tally := by
  rw [h.tally, Trace.tally_eq_zero hes, Tally.add_zero]

/-- **Whoever starts afresh agrees with what happened since.** -/
theorem Balances.accounted (h : Balances b es n b') (htrace : b.trace = []) (htally : b.tally = 0)
    (hkept : b.kept = 0) : b'.Accounted n := by
  have hes : b'.trace = es := by rw [h.trace, htrace, List.nil_append]
  have hsum : b'.tally = es.tally := by rw [h.tally, htally, Tally.zero_add]
  refine ⟨?_, ?_, ?_, ?_, ?_, ?_, ?_, ?_, ?_⟩
  · rw [hsum, ← h.receives]
    rfl
  · rw [hsum]
    show UInt64.ofNat es.arrivals = _
    rw [es.arrivals_eq, UInt64.ofNat_add, UInt64.ofNat_add]
    rfl
  · rw [hsum, hes]
    rfl
  · rw [hsum, hes]
    rfl
  · rw [hsum, hes]
    rfl
  · rw [hsum, hes, h.failures]
    rfl
  · rw [hsum, hes, es.countP_debug, UInt64.ofNat_add]
    rfl
  · rw [hes, h.queries, h.channel]
  · have hchances := h.chances
    rw [hes]
    omega

end Agreement

end Bench

end QueryDispatch
