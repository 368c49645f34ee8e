import QueryDispatch.Proofs.Dispatch
import QueryDispatch.Proofs.Hub.Custody
import QueryDispatch.Proofs.Session.Account
import QueryDispatch.Proofs.Session.Operations

/-!
# The books of a session

What a worker counts, whether it has ended and which chances to answer are kept through it, all of
this can be told from what was done on the hub. `IsBooked` says so of a worker and `Recorded` of a
session, together with what was done and how it was answered.

Whatever a worker does comes down to single operations of its dealer, each with a change of the
worker and with events (`operate`). The single effects of a session are equal to such operations, so
that `Recorded` is carried on in one place (`Recorded.operate`), and each effect adds only what it
changes about its own worker.
-/

namespace QueryDispatch

/-- Nothing is worth a warning, and the only error is a failure to connect. -/
def Notice.IsHarmless (n : Notice) : Prop :=
  n.severity ≠ .warn ∧ (n.severity = .error → n.message = "Failed to connect query worker")

/-- A worker ended in order, or there was nothing to connect to at its endpoint, or another worker
was there, or a handler broke down over a request that it was given. -/
inductive Exit.IsRegular (registry : Registry (Handler Binding)) (trace : Trace)
    (security : Security) (endpoint : String) : Exit → Prop where
  | completed : IsRegular registry trace security endpoint .completed
  | unbound : IsRegular registry trace security endpoint
      (.failed (.connect security endpoint (.endpointNotFound endpoint)))
  | occupied : IsRegular registry trace security endpoint
      (.failed (.connect security endpoint (.endpointInUse endpoint)))
  | panicked {handler : Handler Binding} {r : Request} {number : Nat}
      (hget : registry.get? r.command = some handler) (hpanics : handler.completion r = .panicked)
      (hinvoked : .invoked (handler.map Binding.number) ⟨number, security, r⟩ ∈ trace) :
      IsRegular registry trace security endpoint .panicked

/-- Whether a message is no query. -/
def Request.isUndecodable (security : Security) (frames : Frames) : Bool :=
  !(decode security frames).isOk

namespace Member

/-- What the books of a worker depend on. -/
def books (m : Member) : Dispatcher × String × Nat × Option Exit :=
  (m.dispatcher, m.endpoint, m.dealer, m.exit)

/-- What a worker has counted and how it ended agree with what was done through its dealer, of which
this many senders are kept. -/
structure IsBooked (registry : Registry (Handler Binding)) (p : Hub.Past) (h : Hub) (trace : Trace)
    (senders : Nat) (m : Member) : Prop where
  custody : h.custody? m.dealer = some (m.exit.isNone, senders)
  exits : ∀ exit, m.exit = some exit → exit.IsRegular registry trace m.security m.endpoint
  received : m.tally.received = .ofNat (p.received m.dealer).length
  malformed : m.tally.malformed =
    .ofNat ((p.received m.dealer).countP (Request.isUndecodable m.security))
  sent : m.tally.responsesSent = .ofNat (p.replied m.dealer).length
  failures : m.tally.sendFailures = 0

end Member

variable {registry : Registry (Handler Binding)} {p : Hub.Past} {h : Hub} {o : Hub.Operation}
  {a : Hub.Answer} {trace trace' : Trace} {n n' : Nat} {m m' : Member}

/-! ### Counting -/

/-- What a worker counts of a message. -/
theorem Tally.count_judge (t : Tally) (c : Channel) (frames : Frames) :
    let counted := t.count (c.judge (.message frames)).outcome
    counted.received = t.received + 1 ∧
      counted.malformed = t.malformed +
        .ofNat ([frames].countP (Request.isUndecodable c.security)) ∧
      counted.responsesSent = t.responsesSent ∧ counted.sendFailures = t.sendFailures := by
  rw [List.countP_singleton, Request.isUndecodable, Channel.judge]
  rcases Request.decode c.security frames with m | r
  · exact ⟨rfl, rfl, rfl, rfl⟩
  · dsimp only
    rcases c.registry.get? r.command with - | handler
    · exact ⟨rfl, (UInt64.add_zero _).symm, rfl, rfl⟩
    · exact ⟨rfl, (UInt64.add_zero _).symm, rfl, rfl⟩

/-! ### One worker's books -/

/-- What makes an end regular stays in a trace that grows. -/
theorem Exit.IsRegular.mono {exit : Exit} {security : Security} {endpoint : String}
    (he : exit.IsRegular registry trace security endpoint) (htrace : trace <+: trace') :
    exit.IsRegular registry trace' security endpoint := by
  cases he with
  | completed => exact .completed
  | unbound => exact .unbound
  | occupied => exact .occupied
  | panicked hget hpanics hinvoked => exact .panicked hget hpanics (htrace.subset hinvoked)

/-- Lengths add up as counts. -/
theorem UInt64.ofNat_length_append {α : Type} (xs ys : List α) :
    UInt64.ofNat (xs ++ ys).length = .ofNat xs.length + .ofNat ys.length := by
  rw [List.length_append, UInt64.ofNat_add]

namespace Member.IsBooked

/-- The books depend on the books only. -/
theorem of_books (hb : m.IsBooked registry p h trace n) (hbooks : m'.books = m.books) :
    m'.IsBooked registry p h trace n := by
  obtain ⟨dispatcher, endpoint, dealer, stage, stopRequested, exit, attended⟩ := m
  obtain ⟨dispatcher', endpoint', dealer', stage', stopRequested', exit', attended'⟩ := m'
  obtain ⟨rfl, rfl, rfl, rfl⟩ : dispatcher' = dispatcher ∧ endpoint' = endpoint ∧
      dealer' = dealer ∧ exit' = exit := by
    simpa [books] using hbooks
  exact ⟨hb.custody, hb.exits, hb.received, hb.malformed, hb.sent, hb.failures⟩

/-- An operation by which the worker receives nothing and sends nothing. -/
theorem of_silent (hb : m.IsBooked registry p h trace n) (ha : (h.apply o).1 = a)
    (hdispatcher : m'.dispatcher = m.dispatcher) (hdealer : m'.dealer = m.dealer)
    (hexits : ∀ exit, m'.exit = some exit →
      exit.IsRegular registry trace' m'.security m'.endpoint)
    (hcustody : Hub.Moment.custody ⟨h, o, a⟩ m.dealer (m.exit.isNone, n) = (m'.exit.isNone, n'))
    (hreceived : Hub.Moment.received? ⟨h, o, a⟩ m.dealer = none)
    (hreplied : Hub.Moment.replied? ⟨h, o, a⟩ m.dealer = none) :
    m'.IsBooked registry (p ++ [⟨h, o, (h.apply o).1⟩]) (h.apply o).2 trace' n' := by
  have heffect := h.effect_apply o
  rw [ha] at heffect ⊢
  have hreceived' : Hub.Past.received (p ++ [⟨h, o, a⟩]) m.dealer = p.received m.dealer := by
    rw [Hub.Past.received_snoc, hreceived, Option.toList_none, List.append_nil]
  refine ⟨?_, hexits, ?_, ?_, ?_, ?_⟩
  · rw [hdealer, ← hcustody]
    exact heffect.custody hb.custody
  · rw [hdealer, hreceived', tally, hdispatcher]
    exact hb.received
  · rw [hdealer, hreceived', tally, security, hdispatcher]
    exact hb.malformed
  · rw [hdealer, Hub.Past.replied_snoc, hreplied, Option.toList_none, List.append_nil, tally,
      hdispatcher]
    exact hb.sent
  · rw [tally, hdispatcher]
    exact hb.failures

/-- An operation by somebody else. -/
theorem of_ne (hb : m.IsBooked registry p h trace n) (hne : o.dealer? ≠ some m.dealer)
    (htrace : trace <+: trace') :
    m.IsBooked registry (p ++ [⟨h, o, (h.apply o).1⟩]) (h.apply o).2 trace' n :=
  hb.of_silent rfl rfl rfl (fun exit hexit ↦ (hb.exits exit hexit).mono htrace)
    (Hub.Moment.custody_of_ne hne) (Hub.Moment.received?_of_dealer?_ne hne)
    (Hub.Moment.replied?_of_dealer?_ne hne)

/-- An operation by which the worker receives a message, and counts it. -/
theorem receive (hb : m.IsBooked registry p h trace n) {frames : Frames}
    (hreceive : (h.apply (.receive m.dealer)).1 = .message frames) (htrace : trace <+: trace') :
    ({ m with dispatcher :=
        m.dispatcher.absorb (m.dispatcher.channel.judge (.message frames)) } : Member).IsBooked
      registry (p ++ [⟨h, .receive m.dealer, (h.apply (.receive m.dealer)).1⟩])
      (h.apply (.receive m.dealer)).2 trace' n := by
  have heffect := h.effect_apply (.receive m.dealer)
  rw [hreceive] at heffect ⊢
  have hreceived : Hub.Moment.received? ⟨h, .receive m.dealer, .message frames⟩ m.dealer =
      some frames := if_pos rfl
  obtain ⟨hone, hmalformed, hsent, hfailures⟩ :=
    m.tally.count_judge m.dispatcher.channel frames
  refine ⟨heffect.custody hb.custody, fun exit hexit ↦ (hb.exits exit hexit).mono htrace,
    hone.trans ?_, hmalformed.trans ?_, hsent.trans ?_, hfailures.trans hb.failures⟩
  · rw [Hub.Past.received_snoc, hreceived, UInt64.ofNat_length_append, hb.received]
    rfl
  · rw [Hub.Past.received_snoc, hreceived, List.countP_append, UInt64.ofNat_add, hb.malformed]
    rfl
  · rw [Hub.Past.replied_snoc, hb.sent]
    exact congrArg (fun xs ↦ UInt64.ofNat (List.length xs)) (List.append_nil _).symm

/-- An operation by which the worker sends a reply, and counts what it is told. -/
theorem send (hb : m.IsBooked registry p h trace n) {frames : Frames} {refusal : Refusal}
    (hsend : (h.apply (.send m.dealer frames)).1 = .ofRefusal refusal)
    (hrefusal : refusal = none ∨ refusal = some .serviceStopped) (htrace : trace <+: trace') :
    ({ m with dispatcher := m.dispatcher.settle refusal } : Member).IsBooked registry
      (p ++ [⟨h, .send m.dealer frames, (h.apply (.send m.dealer frames)).1⟩])
      (h.apply (.send m.dealer frames)).2 trace' n := by
  have heffect := h.effect_apply (.send m.dealer frames)
  rw [hsend] at heffect ⊢
  have hreceived : Hub.Past.received (p ++ [⟨h, .send m.dealer frames, .ofRefusal refusal⟩])
      m.dealer = p.received m.dealer := by
    rcases hrefusal with rfl | rfl <;>
      exact (Hub.Past.received_snoc ..).trans (List.append_nil _)
  have hcustody := heffect.custody hb.custody
  refine ⟨?_, fun exit hexit ↦ (hb.exits exit hexit).mono htrace, ?_, ?_, ?_, ?_⟩
  · rcases hrefusal with rfl | rfl <;> exact hcustody
  · rw [hreceived]
    rcases hrefusal with rfl | rfl <;> exact hb.received
  · rw [hreceived]
    rcases hrefusal with rfl | rfl <;> exact hb.malformed
  · rcases hrefusal with rfl | rfl
    · have hreplied : Hub.Moment.replied? ⟨h, .send m.dealer frames, .ofRefusal none⟩ m.dealer =
          some frames := if_pos rfl
      rw [Hub.Past.replied_snoc, hreplied, UInt64.ofNat_length_append, ← hb.sent]
      rfl
    · refine hb.sent.trans ?_
      rw [Hub.Past.replied_snoc]
      exact congrArg (fun xs ↦ UInt64.ofNat (List.length xs)) (List.append_nil _).symm
  · rcases hrefusal with rfl | rfl <;> exact hb.failures

end Member.IsBooked

namespace Session

/-- How many chances to answer are kept through worker `w`. -/
def openThrough (tickets : List OpenTicket) (w : Nat) : Nat := tickets.countP (·.worker == w)

/-- These operations were done, services were handed these replies, and all of it is in the books.
The chances to answer that somebody has in hand are not among those the session keeps. -/
structure Recorded (registry : Registry (Handler Binding)) (inHand : List OpenTicket)
    (handed : Nat → List Frames) (done : List Hub.Operation) (s : Session) : Prop where
  hub : s.hub = ({} : Hub).run done
  uneventful : ∀ m ∈ ({} : Hub).past done, m.Uneventful
  collected : ∀ k, Hub.Past.collected (({} : Hub).past done) k = handed k
  served : ∀ name k, s.services.get? name = some k → s.hub.isServed k = true
  /-- No service has two names. -/
  named : ∀ name name' k, s.services.get? name = some k → s.services.get? name' = some k →
    name = name'
  /-- No two workers share a dealer. -/
  distinct : ∀ (v w : Nat) (m m' : Member), s.workers[v]? = some m → s.workers[w]? = some m' →
    v ≠ w → m.dealer ≠ m'.dealer
  members : ∀ (w : Nat) (m : Member), s.workers[w]? = some m →
    m.IsBooked registry (({} : Hub).past done) s.hub s.trace (openThrough (inHand ++ s.kept) w)
  harmless : ∀ n, .noted n ∈ s.trace → n.IsHarmless

/-- The session after an operation done by worker `w`, with a change of the worker and with
events. -/
def operate (s : Session) (w : Nat) (o : Hub.Operation) (f : Member → Member) (events : Trace) :
    Session :=
  { s with hub := (s.hub.apply o).2, workers := s.workers.modify w f, trace := s.trace ++ events }

variable {s s' : Session} {w k : Nat} {inHand inHand' : List OpenTicket}
  {handed handed' : Nat → List Frames} {done : List Hub.Operation}

/-! ### Chances to answer -/

/-- The tickets open through a worker add up. -/
theorem openThrough_append (xs ys : List OpenTicket) (w : Nat) :
    openThrough (xs ++ ys) w = openThrough xs w + openThrough ys w := List.countP_append ..

/-- A ticket of the worker is one more open through it. -/
theorem openThrough_cons_self (t : OpenTicket) (tickets : List OpenTicket) :
    openThrough (t :: tickets) t.worker = openThrough tickets t.worker + 1 :=
  List.countP_cons_of_pos (beq_self_eq_true _)

/-- A ticket of another worker is none. -/
theorem openThrough_cons_of_ne {t : OpenTicket} (hne : t.worker ≠ w) (tickets : List OpenTicket) :
    openThrough (t :: tickets) w = openThrough tickets w :=
  List.countP_cons_of_neg (ne_true_of_eq_false (beq_eq_false_iff_ne.2 hne))

/-- Only the worker of a ticket counts. -/
theorem openThrough_cons_congr {t t' : OpenTicket} (h : t'.worker = t.worker)
    (tickets : List OpenTicket) (w : Nat) :
    openThrough (t' :: tickets) w = openThrough (t :: tickets) w := by
  rw [openThrough, openThrough, List.countP_cons, List.countP_cons, h]

/-- The order of tickets does not count. -/
theorem openThrough_perm {xs ys : List OpenTicket} (h : xs.Perm ys) (w : Nat) :
    openThrough xs w = openThrough ys w := h.countP_eq _

/-! ### Carrying on -/

namespace Recorded

variable (hr : s.Recorded registry inHand handed done)

include hr

/-- The chronicle leads from an empty hub to that of the session. -/
theorem leadsTo : Hub.Past.LeadsTo (({} : Hub).past done) s.hub := ⟨done, rfl, hr.hub⟩

theorem past_snoc (o : Hub.Operation) : ({} : Hub).past (done ++ [o]) =
    ({} : Hub).past done ++ [⟨s.hub, o, (s.hub.apply o).1⟩] := by
  rw [Hub.past_append, hr.hub]
  rfl

theorem run_snoc (o : Hub.Operation) : (s.hub.apply o).2 = ({} : Hub).run (done ++ [o]) := by
  rw [Hub.run_append, hr.hub]
  rfl

/-- An operation without event leaves the past uneventful. -/
theorem uneventful_snoc {o : Hub.Operation}
    (ho : Hub.Moment.Uneventful ⟨s.hub, o, (s.hub.apply o).1⟩) :
    ∀ m ∈ ({} : Hub).past (done ++ [o]), m.Uneventful := by
  intro m hm
  rw [hr.past_snoc, List.mem_append] at hm
  rcases hm with hm | hm
  · exact hr.uneventful m hm
  · exact List.mem_singleton.1 hm ▸ ho

/-- Nothing is done, and nothing is changed that the books depend on. -/
theorem of_books (hhub : s'.hub = s.hub) (hservices : s'.services = s.services)
    (hbooks : ∀ v : Nat, s'.workers[v]?.map Member.books = s.workers[v]?.map Member.books)
    (htrace : s'.trace = s.trace)
    (hopen : ∀ v, openThrough (inHand' ++ s'.kept) v = openThrough (inHand ++ s.kept) v) :
    s'.Recorded registry inHand' handed done := by
  have hworker : ∀ {v : Nat} {m' : Member}, s'.workers[v]? = some m' →
      ∃ m, s.workers[v]? = some m ∧ m'.books = m.books := by
    intro v m' hm'
    have hv := hbooks v
    rw [hm'] at hv
    obtain ⟨m, hm, heq⟩ := Option.map_eq_some_iff.1 hv.symm
    exact ⟨m, hm, heq.symm⟩
  have hdealer : ∀ {m m' : Member}, m'.books = m.books → m'.dealer = m.dealer :=
    fun h ↦ congrArg (·.2.2.1) h
  refine ⟨hhub.trans hr.hub, hr.uneventful, hr.collected, ?_, ?_, fun v w m m' hm hm' hne ↦ ?_,
    fun v m' hm' ↦ ?_, ?_⟩
  · rw [hservices, hhub]
    exact hr.served
  · rw [hservices]
    exact hr.named
  · obtain ⟨m₀, hm₀, hbooks₀⟩ := hworker hm
    obtain ⟨m₁, hm₁, hbooks₁⟩ := hworker hm'
    rw [hdealer hbooks₀, hdealer hbooks₁]
    exact hr.distinct v w m₀ m₁ hm₀ hm₁ hne
  · obtain ⟨m, hm, hbooks'⟩ := hworker hm'
    rw [hhub, htrace, hopen]
    exact (hr.members v m hm).of_books hbooks'
  · rw [htrace]
    exact hr.harmless

/-- **An operation of one worker.** The others take no note of it, so that all there is to show is
about the worker itself. -/
theorem operate (hm : s.workers[w]? = some m) {o : Hub.Operation} (ho : o.dealer? = some m.dealer)
    (huneventful : Hub.Moment.Uneventful ⟨s.hub, o, (s.hub.apply o).1⟩) {f : Member → Member}
    (hf : (f m).dealer = m.dealer) {events : Trace}
    (hharmless : ∀ n, .noted n ∈ events → n.IsHarmless)
    (hothers : ∀ v, w ≠ v → openThrough inHand' v = openThrough inHand v)
    (hself : (f m).IsBooked registry
      (({} : Hub).past done ++ [⟨s.hub, o, (s.hub.apply o).1⟩]) (s.hub.apply o).2
      (s.trace ++ events) (openThrough (inHand' ++ s.kept) w)) :
    (s.operate w o f events).Recorded registry inHand' handed (done ++ [o]) := by
  have hworker : ∀ {v : Nat} {m' : Member}, (s.operate w o f events).workers[v]? = some m' →
      ∃ m₀, s.workers[v]? = some m₀ ∧ m'.dealer = m₀.dealer ∧
        (w = v → m' = f m) ∧ (w ≠ v → m' = m₀) := by
    intro v m' hm'
    have hv : (s.workers.modify w f)[v]? = some m' := hm'
    rw [List.getElem?_modify] at hv
    obtain ⟨m₀, hm₀, rfl⟩ := Option.map_eq_some_iff.1 hv
    by_cases hwv : w = v
    · subst hwv
      obtain rfl := Option.some.inj (hm.symm.trans hm₀)
      exact ⟨m, hm, by rw [if_pos rfl, hf], fun _ ↦ if_pos rfl, fun hne ↦ absurd rfl hne⟩
    · exact ⟨m₀, hm₀, by rw [if_neg hwv], fun heq ↦ absurd heq hwv, fun _ ↦ if_neg hwv⟩
  refine ⟨hr.run_snoc o, hr.uneventful_snoc huneventful, fun k ↦ ?_, fun name k hk ↦ ?_, hr.named,
    fun v v' m₁ m₂ hm₁ hm₂ hne ↦ ?_, fun v m' hm' ↦ ?_, fun n hn ↦ ?_⟩
  · rw [hr.past_snoc, Hub.Past.collected_snoc, Hub.Moment.collected?_of_dealer?, ← hr.collected k]
    · exact List.append_nil _
    · rw [ho]
      exact Option.some_ne_none _
  · refine Hub.isServed_apply (hr.served name k hk) ?_
    rintro rfl
    cases ho
  · obtain ⟨m₁', hm₁', hdealer₁, -⟩ := hworker hm₁
    obtain ⟨m₂', hm₂', hdealer₂, -⟩ := hworker hm₂
    rw [hdealer₁, hdealer₂]
    exact hr.distinct v v' m₁' m₂' hm₁' hm₂' hne
  · obtain ⟨m₀, hm₀, -, hhit, hmiss⟩ := hworker hm'
    rw [hr.past_snoc]
    by_cases hwv : w = v
    · subst hwv
      rw [hhit rfl]
      exact hself
    · rw [hmiss hwv]
      have hne : o.dealer? ≠ some m₀.dealer := by
        rw [ho]
        exact fun heq ↦ hr.distinct w v m m₀ hm hm₀ hwv (Option.some.inj heq)
      have hopen : openThrough (inHand' ++ s.kept) v = openThrough (inHand ++ s.kept) v := by
        rw [openThrough_append, openThrough_append, hothers v hwv]
      show m₀.IsBooked _ _ _ _ (openThrough (inHand' ++ s.kept) v)
      rw [hopen]
      exact (hr.members v m₀ hm₀).of_ne hne (List.prefix_append _ _)
  · rcases List.mem_append.1 hn with hn | hn
    · exact hr.harmless n hn
    · exact hharmless n hn

/-- An operation by which nothing is received or sent, and that does not change the worker's own
books. -/
theorem operate_of_books (hm : s.workers[w]? = some m) {o : Hub.Operation} {a : Hub.Answer}
    (ho : o.dealer? = some m.dealer) (ha : (s.hub.apply o).1 = a)
    (huneventful : Hub.Moment.Uneventful ⟨s.hub, o, a⟩) {f : Member → Member}
    (hf : (f m).books = m.books) {events : Trace}
    (hharmless : ∀ n, .noted n ∈ events → n.IsHarmless)
    (hothers : ∀ v, w ≠ v → openThrough inHand' v = openThrough inHand v)
    (hcustody : Hub.Moment.custody ⟨s.hub, o, a⟩ m.dealer
      (m.exit.isNone, openThrough (inHand ++ s.kept) w) =
        (m.exit.isNone, openThrough (inHand' ++ s.kept) w))
    (hreceived : Hub.Moment.received? ⟨s.hub, o, a⟩ m.dealer = none)
    (hreplied : Hub.Moment.replied? ⟨s.hub, o, a⟩ m.dealer = none) :
    (s.operate w o f events).Recorded registry inHand' handed (done ++ [o]) := by
  have hbooked := hr.members w m hm
  have hself := hbooked.of_silent ha rfl rfl
    (fun exit hexit ↦ (hbooked.exits exit hexit).mono (List.prefix_append s.trace events)) hcustody
    hreceived hreplied
  exact hr.operate hm ho (ha.symm ▸ huneventful) (congrArg (·.2.2.1) hf) hharmless hothers
    (hself.of_books hf)

end Recorded

end Session

end QueryDispatch
