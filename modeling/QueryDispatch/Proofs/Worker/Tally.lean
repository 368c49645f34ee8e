import QueryDispatch.Proofs.Tally
import QueryDispatch.Proofs.Worker.Stop

/-!
# The tally of a worker

What a worker does on its own account, to call its socket, to write of itself to the log and to move
from stage to stage, is of no concern to its tally. All else is a dispatcher's work, for which there
are accounts already. So what is left is that a run is made of such operations
(`exists_operations`), also one that a handler breaks off, and that it receives what its script has
loaded, item by item.

`tally_accounts` puts workers and dispatchers by hand together.
-/

namespace QueryDispatch.Worker

namespace Run

namespace Operation

/-- The item that the operation receives. -/
def received? : Operation → Option Received
  | .receive received => some received
  | _ => none

/-- Whether the operation writes to the log of the worker itself only. -/
def IsOwn : Operation → Prop
  | .note notices => ∀ n ∈ notices, (Event.noted n).isIdle = true
  | _ => True

/-- The items that are received, in order. -/
def received (ops : List Operation) : List Received := ops.filterMap received?

/-- How many messages are received. A worker that finds the session over, or nothing to read, has
received none. -/
def messages (ops : List Operation) : Nat :=
  (received ops).countP fun x ↦ x ≠ .fault .serviceStopped ∧ x ≠ .fault .wouldBlock

theorem received_append (xs ys : List Operation) :
    received (xs ++ ys) = received xs ++ received ys := List.filterMap_append

theorem messages_append (xs ys : List Operation) :
    messages (xs ++ ys) = messages xs + messages ys := by
  rw [messages, received_append, List.countP_append]
  rfl

end Operation

open Operation

theorem balances_record (b : Bench) {events : Trace} (hidle : ∀ e ∈ events, e.isIdle = true) :
    Bench.Balances b events 0 (b.record events) := .of_isIdle rfl rfl rfl rfl hidle

theorem balances_call (r : Run) (c : SocketCall) :
    Bench.Balances r.bench [.called c r.stage] 0 (r.call c).bench :=
  balances_record r.bench fun e he ↦ by
    obtain rfl := List.mem_singleton.1 he
    rfl

/-- **Every operation of a worker is accounted for.** -/
theorem balances_operate (r : Run) {op : Operation} (hop : op.IsOwn) :
    ∃ es, Bench.Balances r.bench es (messages [op]) (r.operate op).bench := by
  cases op with
  | call c => exact ⟨_, r.balances_call c⟩
  | note notices =>
    refine ⟨_, balances_record r.bench fun e he ↦ ?_⟩
    obtain ⟨n, hn, rfl⟩ := List.mem_map.1 he
    exact hop n hn
  | change c =>
    show ∃ es, Bench.Balances r.bench es 0 (r.change c).bench
    rw [change]
    split
    · next stage _ =>
      refine ⟨_, balances_record r.bench fun e he ↦ ?_⟩
      obtain rfl := List.mem_singleton.1 he
      rfl
    · exact ⟨[], .refl r.bench⟩
  | receive received =>
    have hmessages : messages [.receive received] =
        if received = .fault .serviceStopped ∨ received = .fault .wouldBlock then 0 else 1 := by
      show List.countP _ [received] = _
      rw [List.countP_singleton]
      by_cases hover : received = .fault .serviceStopped <;>
        by_cases hempty : received = .fault .wouldBlock <;> simp [hover, hempty]
    have hcalled := r.balances_call .receive
    show ∃ es, Bench.Balances r.bench es _ (r.receive received).bench
    rw [receive, hmessages]
    by_cases hempty : received = .fault .wouldBlock
    · rw [if_pos hempty, if_pos (.inr hempty)]
      exact ⟨_, hcalled⟩
    · have hdispatched := hcalled.trans ((r.call .receive).bench.balances_dispatch received)
      rw [if_neg hempty]
      simp only [hempty, or_false]
      rw [Nat.zero_add] at hdispatched
      exact ⟨_, hdispatched⟩
  | requestStop => exact ⟨_, r.bench.balances_heed true⟩
  | flush => exact ⟨_, r.bench.balances_flush⟩

/-- A list of operations balances. -/
theorem balances_operateAll (r : Run) {ops : List Operation} (hops : ∀ op ∈ ops, op.IsOwn) :
    ∃ es, Bench.Balances r.bench es (messages ops) (r.operateAll ops).bench := by
  induction ops generalizing r with
  | nil => exact ⟨[], .refl r.bench⟩
  | cons op rest ih =>
    obtain ⟨es, hop⟩ := r.balances_operate (hops op List.mem_cons_self)
    obtain ⟨es', hrest⟩ := ih (r.operate op) fun op' hop' ↦ hops op' (List.mem_cons_of_mem op hop')
    refine ⟨es ++ es', ?_⟩
    rw [← List.singleton_append, messages_append]
    exact hop.trans hrest

/-! ### What a run is made of -/

/-- The operations by which `r` becomes `r'`, which receive what the first of the items have
loaded. -/
def Operates (items : List Item) (r r' : Run) (ops : List Operation) : Prop :=
  r' = r.operateAll ops ∧ (∀ op ∈ ops, op.IsOwn) ∧
    ∃ n, items.take n = (received ops).map fun x ↦ { readiness := .loaded x }

/-- Operations that receive nothing. -/
theorem operates_of_received_eq_nil {items : List Item} {r r' : Run} {ops : List Operation}
    (hops : r' = r.operateAll ops) (hown : ∀ op ∈ ops, op.IsOwn) (hnone : received ops = []) :
    Operates items r r' ops :=
  ⟨hops, hown, 0, by rw [hnone, List.take_zero, List.map_nil]⟩

/-- What follows without a new arrival goes on with the operations. -/
theorem Operates.append {items : List Item} {r r' r'' : Run} {ops : List Operation}
    (h : Operates items r r' ops) (ops' : List Operation) (hops : r'' = r'.operateAll ops')
    (hown : ∀ op ∈ ops', op.IsOwn) (hnone : received ops' = []) :
    Operates items r r'' (ops ++ ops') := by
  obtain ⟨rfl, hown', n, hitems⟩ := h
  refine ⟨?_, fun op hop ↦ (List.mem_append.1 hop).elim (hown' op) (hown op), n, ?_⟩
  · rw [operateAll_append, ← hops]
  · rw [received_append, hnone, List.append_nil, hitems]

theorem isIdle_pollNotices {security : Security} {cause : TransportError} {n : Notice}
    (hn : n ∈ pollNotices security cause) : (Event.noted n).isIdle = true := by
  unfold pollNotices at hn
  split at hn
  · cases hn
  · obtain rfl := List.mem_singleton.1 hn
    rfl

/-- To wait is a list of operations that receive nothing. -/
theorem operates_wait (items : List Item) (r : Run) (item : Item) :
    ∃ ops, Operates items r (r.wait item) ops := by
  rw [wait]
  split
  · exact ⟨[.call .readable, .requestStop], operates_of_received_eq_nil rfl (by simp [IsOwn]) rfl⟩
  · exact ⟨[.call .readable], operates_of_received_eq_nil rfl (by simp [IsOwn]) rfl⟩

/-- To serve is a list of operations that receive what was served. -/
theorem operates_serve (ending : Ending) (items : List Item) (r : Run) :
    ∃ ops, Operates items r (serve ending items r) ops := by
  refine serve_induction (P := fun items r r' ↦ ∃ ops, Operates items r r' ops)
    ?ended ?waited ?failed ?received items r
  case ended => exact fun _ r _ ↦ ⟨[], operates_of_received_eq_nil rfl (by simp) rfl⟩
  case waited => exact fun items item r _ ↦ operates_wait items r item
  case failed =>
    intro items item cause r _
    obtain ⟨ops, hops⟩ := operates_wait items r item
    refine ⟨_, hops.append [.note (pollNotices r.security cause)] rfl ?_ rfl⟩
    intro op hop
    obtain rfl := List.mem_singleton.1 hop
    exact fun n hn ↦ isIdle_pollNotices hn
  case received =>
    rintro rest x r r' _ ⟨ops, rfl, hown, n, hitems⟩
    refine ⟨.call .readable :: .receive x :: ops, rfl, ?_, n + 1, ?_⟩
    · simp only [List.mem_cons]
      rintro op (rfl | rfl | hop)
      · exact trivial
      · exact trivial
      · exact hown op hop
    · rw [List.take_succ_cons, hitems]
      rfl

end Run

namespace Setup

open Run Run.Operation

variable (s : Setup)

theorem isIdle_connectNotice (security : Security) (endpoint : String) (refusal : Refusal) :
    (Event.noted (connectNotice security endpoint refusal)).isIdle = true := by
  rcases refusal with - | cause <;> rfl

theorem isIdle_disconnectNotices {security : Security} {refusal : Refusal} {n : Notice}
    (hn : n ∈ disconnectNotices security refusal) : (Event.noted n).isIdle = true := by
  rcases refusal with - | cause
  · cases hn
  · obtain rfl := List.mem_singleton.1 hn
    rfl

/-- **A run is made of operations**, however it ends, and receives what its script has loaded. -/
theorem exists_operations : ∃ ops, Operates s.script.items s.initial s.final ops := by
  set opening : List Operation := [.call (.connect s.endpoint),
    .note [connectNotice s.security s.endpoint s.script.connectRefusal],
    .change (connectChange s.script.connectRefusal)]
  have hopening : ∀ op ∈ opening, op.IsOwn := by
    simp only [opening, List.mem_cons, List.not_mem_nil, or_false]
    rintro op (rfl | rfl | rfl)
    · exact trivial
    · intro n hn
      obtain rfl := List.mem_singleton.1 hn
      exact isIdle_connectNotice _ _ _
    · exact trivial
  rcases hconnect : s.script.connectRefusal with - | cause
  · -- connecting, serving, and the end, of which only the farewell is left out after a breakdown
    obtain ⟨ops, hserved, hown, n, hitems⟩ :=
      operates_serve s.script.ending s.script.items s.opened
    have hops : Operates s.script.items s.initial s.served (opening ++ ops) := by
      refine ⟨?_, fun op hop ↦ (List.mem_append.1 hop).elim (hopening op) (hown op), n, ?_⟩
      · rw [operateAll_append]
        exact hserved
      · rw [received_append]
        exact hitems
    have hrun : s.run.1 = if s.served.bench.fallen then s.served
        else s.served.finish s.script.disconnectRefusal := by
      rw [run_eq_serveToEnd hconnect, serveToEnd]
      show (if s.served.bench.fallen then _ else _ : Run × Exit).1 = _
      split <;> rfl
    rw [final, hrun]
    split
    · exact ⟨_, hops.append [.flush] rfl (by simp [IsOwn]) rfl⟩
    · refine ⟨_, hops.append [.change .stopObserved, .call .disconnect,
        .note (disconnectNotices s.served.security s.script.disconnectRefusal),
        .change .disconnected, .flush] rfl ?_ rfl⟩
      simp only [List.mem_cons, List.not_mem_nil, or_false]
      rintro op (rfl | rfl | rfl | rfl | rfl)
      · exact trivial
      · exact trivial
      · exact fun n hn ↦ isIdle_disconnectNotices hn
      · exact trivial
      · exact trivial
  · refine ⟨opening ++ [.flush], operates_of_received_eq_nil ?_ ?_ rfl⟩
    · rw [operateAll_append, final, run_of_refused hconnect]
      rfl
    · intro op hop
      rcases List.mem_append.1 hop with hop | hop
      · exact hopening op hop
      · obtain rfl := List.mem_singleton.1 hop
        exact trivial

/-- A worker starts on a fresh bench, on which it may have been asked to stop already. -/
theorem bench_initial :
    s.initial.bench = (Bench.fresh s.channel s.refusal).heed s.stopBefore := by
  rw [initial, Bench.heed]
  split <;> rfl

/-- **Every point of a run is accounted for**, from its start. -/
theorem balances_operateAll {ops : List Operation} (hown : ∀ op ∈ ops, op.IsOwn) :
    ∃ es, Bench.Balances (Bench.fresh s.channel s.refusal) es (messages ops)
      (s.initial.operateAll ops).bench := by
  obtain ⟨es, hrun⟩ := s.initial.balances_operateAll hown
  have hbegun := (Bench.fresh s.channel s.refusal).balances_heed s.stopBefore
  rw [← bench_initial] at hbegun
  have hall := hbegun.trans hrun
  rw [Nat.zero_add] at hall
  exact ⟨_, hall⟩

/-- At every point of a run tally, log and trace agree. -/
theorem accounted_operateAll {ops : List Operation} (hown : ∀ op ∈ ops, op.IsOwn) :
    (s.initial.operateAll ops).bench.Accounted (messages ops) := by
  obtain ⟨es, hall⟩ := s.balances_operateAll hown
  exact hall.accounted rfl rfl rfl

/-- The tally of a run is what its trace comes to. -/
theorem tally_final : s.final.bench.tally = s.trace.tally := by
  obtain ⟨ops, hfinal, hown, -⟩ := s.exists_operations
  obtain ⟨es, hall⟩ := s.balances_operateAll hown
  rw [← hfinal] at hall
  have htrace : s.trace = es := hall.trace
  have htally : s.final.bench.tally = 0 + es.tally := hall.tally
  rw [htally, htrace, Tally.zero_add]

end Setup

end QueryDispatch.Worker

namespace QueryDispatch

/-- **Tally and log account for exactly what happened.** However a dispatcher is driven by hand, and
however a worker's run goes, also one that a handler breaks off, the following holds after every
step. Each message received was counted once, as dispatched, malformed or not found; as many were
dispatched as handlers were invoked. Of the replies handed to the transport, those it took and those
it failed to take were counted, and the log speaks of each of the latter. It goes down to details as
often as a message was rejected, and announces each query if it is to, and else none. There were
never more replies than messages. A step in which nothing of this happens leaves the tally as it
is. -/
theorem tally_accounts :
    (∀ (c : Channel) (refusal : Refusal) (steps : List Bench.Step),
      let b := (Bench.fresh c refusal).run steps
      b.Accounted (Bench.messages (Bench.items steps)) ∧
        ∀ st, (∀ e ∈ (b.report st).events, e.isCounted = false) → (b.step st).tally = b.tally) ∧
    ∀ s : Worker.Setup, ∃ ops : List Worker.Run.Operation,
      s.initial.operateAll ops = s.final ∧
      (∃ n, s.script.items.take n =
        (Worker.Run.Operation.received ops).map fun x ↦ { readiness := .loaded x }) ∧
      ∀ earlier later, ops = earlier ++ later →
        let r := s.initial.operateAll earlier
        r.bench.Accounted (Worker.Run.Operation.messages earlier) ∧
          ∀ op rest es, later = op :: rest → (r.operate op).bench.trace = r.bench.trace ++ es →
            (∀ e ∈ es, e.isCounted = false) → (r.operate op).bench.tally = r.bench.tally := by
  constructor
  · intro c refusal steps b
    obtain ⟨es, hrun⟩ := (Bench.fresh c refusal).balances_run steps
    refine ⟨hrun.accounted rfl rfl rfl, fun st hidle ↦ ?_⟩
    obtain ⟨es', hstep⟩ := b.balances_step st
    have hevents : es' = (b.report st).events :=
      List.append_cancel_left (hstep.trace.symm.trans (b.trace_step st))
    exact hstep.tally_eq (hevents ▸ hidle)
  · intro s
    obtain ⟨ops, hfinal, hown, hitems⟩ := s.exists_operations
    refine ⟨ops, hfinal.symm, hitems, fun earlier later hops ↦ ?_⟩
    have hearlier : ∀ op ∈ earlier, op.IsOwn := fun op hop ↦
      hown op (hops ▸ List.mem_append_left _ hop)
    refine ⟨s.accounted_operateAll hearlier, fun op rest es hlater htrace hidle ↦ ?_⟩
    have hop : op.IsOwn := hown op (by simp [hops, hlater])
    obtain ⟨es', hbalances⟩ := (s.initial.operateAll earlier).balances_operate hop
    have hevents : es' = es := List.append_cancel_left (hbalances.trace.symm.trans htrace)
    exact hbalances.tally_eq (hevents ▸ hidle)

/-- A worker whose handler breaks down at the first of two pings. -/
def Worker.Setup.breaking : Worker.Setup where
  security := .unsecured
  registry := .ofBehaviours false [("ping", .panic)]
  script := { items := [{ readiness := .loaded ping }, { readiness := .loaded ping }] }

theorem tally_accounts_breaking :
    Worker.Setup.breaking.exit = .panicked ∧
      Worker.Setup.breaking.final.bench.tally.dispatched = 1 ∧
      ∃ n, Worker.Setup.breaking.final.bench.Accounted n := by
  obtain ⟨ops, hfinal, -, haccounted⟩ := tally_accounts.2 .breaking
  obtain ⟨hagrees, -⟩ := haccounted ops [] (List.append_nil ops).symm
  rw [hfinal] at hagrees
  have hinvoked : Worker.Setup.breaking.final.bench.trace.countP Event.isInvocation = 1 := by decide
  refine ⟨by decide, ?_, _, hagrees⟩
  rw [hagrees.dispatched, hinvoked]
  rfl

end QueryDispatch
