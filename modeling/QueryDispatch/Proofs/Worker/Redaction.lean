import QueryDispatch.Proofs.Redaction
import QueryDispatch.Proofs.Worker.Tally

/-!
# Hidden peers of a worker

What a worker adds to its dispatcher, its calls, its stages and its own words in the log, has
nothing to do with what it is sent. So wiping the first frames of a script commutes with a whole run
(`Setup.run_unrouted`), as it does with a history of the dispatcher, and two runs whose scripts
differ in first frames only are the same to one who does not see routes.

`redaction_hides_routes` puts dispatchers and workers together. Routes do show in one place, in the
replies, and there each run shows its own.
-/

namespace QueryDispatch.Worker

/-- What a wait comes to, without the route of a message. -/
def Readiness.unrouted : Readiness → Readiness
  | .failed cause => .failed cause
  | .loaded x => .loaded x.unrouted

/-- What there is to read. -/
def Readiness.loaded? : Readiness → Option Received
  | .failed _ => none
  | .loaded x => some x

/-- The item, without the route of its message. -/
def Item.unrouted (item : Item) : Item := { item with readiness := item.readiness.unrouted }

/-- The script, without the routes of its messages. -/
def Script.unrouted (script : Script) : Script :=
  { script with items := script.items.map Item.unrouted }

namespace Run

/-- The run with the first frame of every message wiped, wherever it is kept. -/
def unrouted (r : Run) : Run := { r with bench := r.bench.unrouted }

variable (r : Run)

theorem call_unrouted (c : SocketCall) : r.unrouted.call c = (r.call c).unrouted :=
  congrArg (Run.mk · r.stage) (r.bench.record_unrouted [.called c r.stage])

theorem note_unrouted (notices : List Notice) :
    r.unrouted.note notices = (r.note notices).unrouted := by
  have hnoted : (notices.map Event.noted).map Event.unrouted = notices.map .noted := by
    rw [List.map_map]
    rfl
  have hrecord := r.bench.record_unrouted (notices.map .noted)
  rw [hnoted] at hrecord
  exact congrArg (Run.mk · r.stage) hrecord

theorem change_unrouted (c : Change) : r.unrouted.change c = (r.change c).unrouted := by
  have hstage : r.unrouted.stage = r.stage := rfl
  rw [change, change, hstage]
  rcases r.stage.after? c with - | stage
  · rfl
  · exact congrArg (Run.mk · stage) (r.bench.record_unrouted [.entered stage])

theorem requestStop_unrouted : r.unrouted.requestStop = r.requestStop.unrouted :=
  congrArg (Run.mk · r.stage) r.bench.requestStop_unrouted

theorem finish_unrouted (refusal : Refusal) :
    r.unrouted.finish refusal = (r.finish refusal).unrouted := by
  rw [finish, finish, change_unrouted, call_unrouted, note_unrouted, change_unrouted]
  rfl

/-- To wait makes no difference between routes. -/
theorem wait_unrouted (item : Item) : r.unrouted.wait item.unrouted = (r.wait item).unrouted := by
  rw [wait, wait, call_unrouted, requestStop_unrouted]
  show (if item.stops then _ else _) = _
  split <;> rfl

section Redacted

variable {r} (hr : r.bench.channel.redactRoutes = true)

include hr

/-- To receive makes no difference between routes. -/
theorem receive_unrouted (x : Received) :
    r.unrouted.receive x.unrouted = (r.receive x).unrouted := by
  have hempty : x.unrouted = .fault .wouldBlock ↔ x = .fault .wouldBlock := by
    cases x <;> simp [Received.unrouted]
  rw [receive, receive]
  simp only [call_unrouted, hempty]
  split
  · rfl
  · have hdispatch := Bench.dispatch_unrouted (b := (r.call .receive).bench) hr x
    exact congrArg (Run.mk · r.stage) hdispatch

/-- **Serving does not look at first frames.** -/
theorem serve_unrouted (ending : Ending) (items : List Item) :
    serve ending (items.map Item.unrouted) r.unrouted = (serve ending items r).unrouted := by
  -- wiping changes neither whether the run is over nor what kind of item is next
  induction items generalizing r with
  | nil =>
    rcases hover : r.isOver with - | -
    · rw [serve_nil hover, List.map_nil, serve_nil (r := r.unrouted) hover]
      exact r.wait_unrouted { stops := ending == .stop, readiness := .failed .serviceStopped }
    · rw [serve_of_isOver hover, serve_of_isOver (r := r.unrouted) hover]
  | cons item rest ih =>
    rw [List.map_cons]
    rcases hover : r.isOver with - | -
    · rcases hready : item.readiness with cause | x
      · have hready' : item.unrouted.readiness = .failed cause :=
          congrArg Readiness.unrouted hready
        rw [serve_of_failed hover rest hready, serve_of_failed (r := r.unrouted) hover _ hready',
          wait_unrouted, note_unrouted]
        rfl
      · have hready' : item.unrouted.readiness = .loaded x.unrouted :=
          congrArg Readiness.unrouted hready
        rcases hstops : item.stops with - | -
        · have hnext : ((r.call .readable).receive x).bench.channel.redactRoutes = true := by
            rw [(continues_receive (r.call .readable) x).channel]
            exact hr
          rw [serve_of_loaded hover rest hready hstops,
            serve_of_loaded (r := r.unrouted) hover _ hready' hstops, call_unrouted,
            receive_unrouted (r := r.call .readable) hr, ih hnext]
        · rw [serve_of_stops hover rest hready hstops,
            serve_of_stops (r := r.unrouted) hover _ hready' hstops, wait_unrouted]
    · rw [serve_of_isOver hover, serve_of_isOver (r := r.unrouted) hover]

/-- To serve to the end makes no difference between routes. -/
theorem serveToEnd_unrouted (script : Script) :
    r.unrouted.serveToEnd script.unrouted =
      ((r.serveToEnd script).1.unrouted, (r.serveToEnd script).2) := by
  have hserved := serve_unrouted hr script.ending script.items
  rw [serveToEnd, serveToEnd]
  simp only [Script.unrouted, hserved]
  show (if (serve script.ending script.items r).bench.fallen then _ else _) = _
  split
  · rfl
  · rw [finish_unrouted]
    rfl

end Redacted

/-! ### Addresses -/

namespace Operation

/-- The items that are dispatched: all that are received but those that say there is nothing to
read. -/
def dispatched (ops : List Operation) : List Received :=
  (received ops).filter (· ≠ .fault .wouldBlock)

theorem dispatched_append (xs ys : List Operation) :
    dispatched (xs ++ ys) = dispatched xs ++ dispatched ys := by
  rw [dispatched, received_append, List.filter_append]
  rfl

/-- What is received is dispatched, unless it would block. -/
theorem dispatched_receive {x : Received} (h : x ≠ .fault .wouldBlock) :
    dispatched [.receive x] = [x] := List.filter_cons_of_pos (decide_eq_true h)

end Operation

open Operation

theorem channel_operate (r : Run) (op : Operation) :
    (r.operate op).bench.channel = r.bench.channel := by
  cases op with
  | call c => rfl
  | note notices => rfl
  | change c =>
    show (r.change c).bench.channel = _
    rw [change]
    split <;> rfl
  | receive x => exact (r.continues_receive x).channel
  | requestStop => exact r.bench.channel_heed true
  | flush =>
    show r.bench.flush.channel = _
    rw [Bench.flush_eq]
    rfl

/-- What a worker does on its own account concerns no peer. -/
theorem addressed_operate {r : Run} {items : List Received} (h : Bench.Addressed items r.bench)
    (op : Operation) : Bench.Addressed (items ++ dispatched [op]) (r.operate op).bench := by
  have hcall : ∀ c, Bench.Addressed items (r.call c).bench := fun c ↦ h.record fun e he ↦ by
    obtain rfl := List.mem_singleton.1 he
    trivial
  cases op with
  | call c =>
    show Bench.Addressed (items ++ []) _
    rw [List.append_nil]
    exact hcall c
  | note notices =>
    show Bench.Addressed (items ++ []) _
    rw [List.append_nil]
    refine h.record fun e he ↦ ?_
    obtain ⟨notice, -, rfl⟩ := List.mem_map.1 he
    trivial
  | change c =>
    show Bench.Addressed (items ++ []) (r.change c).bench
    rw [List.append_nil, change]
    split
    · refine h.record fun e he ↦ ?_
      obtain rfl := List.mem_singleton.1 he
      trivial
    · exact h
  | receive x =>
    show Bench.Addressed _ (r.receive x).bench
    rw [receive]
    by_cases hempty : x = .fault .wouldBlock
    · have hnone : dispatched [.receive x] = [] := List.filter_cons_of_neg (by simp [hempty])
      rw [if_pos hempty, hnone, List.append_nil]
      exact hcall .receive
    · rw [if_neg hempty, dispatched_receive hempty]
      exact (hcall .receive).dispatch x
  | requestStop =>
    show Bench.Addressed (items ++ []) _
    rw [List.append_nil]
    exact h.heed true
  | flush =>
    show Bench.Addressed (items ++ []) _
    rw [List.append_nil]
    exact h.flush

/-- What operations add stays addressed to those who asked. -/
theorem addressed_operateAll {r : Run} {items : List Received} (h : Bench.Addressed items r.bench)
    (ops : List Operation) :
    Bench.Addressed (items ++ dispatched ops) (r.operateAll ops).bench := by
  induction ops generalizing r items with
  | nil =>
    show Bench.Addressed (items ++ []) _
    rw [List.append_nil]
    exact h
  | cons op rest ih =>
    rw [← List.singleton_append, dispatched_append, ← List.append_assoc]
    exact ih (addressed_operate h op)

end Run

namespace Setup

/-- The worker with a script whose first frames are wiped. -/
def unrouted (s : Setup) : Setup := { s with script := s.script.unrouted }

variable {s s' : Setup}

/-- The opening makes no difference between routes. -/
theorem opened_unrouted (s : Setup) : s.unrouted.opened = s.opened.unrouted := by
  have hinitial : s.unrouted.initial = s.initial.unrouted := by
    rw [initial_eq, initial_eq]
    show _ = Run.mk (Bench.unrouted _) _
    have hearly : s.earlyEvents.map Event.unrouted = s.earlyEvents := by
      rw [earlyEvents]
      split <;> rfl
    simp only [Bench.unrouted, hearly]
    rfl
  rw [opened, opened, hinitial, Run.call_unrouted, Run.note_unrouted, Run.change_unrouted]
  rfl

/-- **Wiping first frames before a run is wiping them after it.** -/
theorem run_unrouted (hs : s.settings.redactRoutes = true) :
    s.unrouted.run = (s.run.1.unrouted, s.run.2) := by
  rcases hconnect : s.script.connectRefusal with - | cause
  · have hopened : s.opened.bench.channel.redactRoutes = true := by
      rw [channel_opened]
      exact hs
    rw [run_eq_serveToEnd hconnect, run_eq_serveToEnd (s := s.unrouted) hconnect, opened_unrouted]
    exact Run.serveToEnd_unrouted hopened s.script
  · rw [run_of_refused hconnect, run_of_refused (s := s.unrouted) hconnect, opened_unrouted]
    rfl

/-! ### What an onlooker sees, and what each peer sees -/

/-- The messages that the script has for the worker, in order. -/
def incoming (s : Setup) : List Received :=
  (s.script.items.filterMap fun item ↦ item.readiness.loaded?).filter (· ≠ .fault .wouldBlock)

theorem channel_run (s : Setup) : s.run.1.bench.channel = s.channel := by
  obtain ⟨ops, hfinal, -⟩ := s.exists_operations
  have hall : ∀ (ops : List Run.Operation) (r : Run),
      (r.operateAll ops).bench.channel = r.bench.channel := fun ops ↦ by
    induction ops with
    | nil => exact fun r ↦ rfl
    | cons op rest ih => exact fun r ↦ (ih (r.operate op)).trans (r.channel_operate op)
  have hchannel : s.run.1.bench.flush.channel = s.initial.bench.channel := by
    rw [← hall ops s.initial, ← hfinal]
    rfl
  rw [Bench.flush_eq, initial_eq] at hchannel
  exact hchannel

/-- Runs whose scripts differ in first frames only end alike, before and after the replies that were
put off are sent. -/
theorem run_alike (hs : s.settings.redactRoutes = true) (h : s.unrouted = s'.unrouted) :
    s.exit = s'.exit ∧ s.final.stage = s'.final.stage ∧ s.run.1.bench.Alike s'.run.1.bench ∧
      s.final.bench.Alike s'.final.bench := by
  have hs' : s'.settings.redactRoutes = true := by
    have hsettings := congrArg Setup.settings h
    exact hsettings ▸ hs
  have hrun : (s.run.1.unrouted, s.run.2) = (s'.run.1.unrouted, s'.run.2) := by
    rw [← run_unrouted hs, h, run_unrouted hs']
  obtain ⟨hrun, hexit⟩ := Prod.mk.inj hrun
  have hbench : s.run.1.bench.unrouted = s'.run.1.bench.unrouted := congrArg Run.bench hrun
  have hstage := congrArg Run.stage hrun
  refine ⟨hexit, hstage, .of_unrouted_eq hbench, .of_unrouted_eq ?_⟩
  show s.run.1.bench.flush.unrouted = s'.run.1.bench.flush.unrouted
  rw [← Bench.flush_unrouted (s.channel_run ▸ hs),
    ← Bench.flush_unrouted (s'.channel_run ▸ hs'), hbench]

/-- A run is made of operations that dispatch the first of what the script has for the worker. -/
theorem exists_dispatched (s : Setup) :
    ∃ ops, s.final = s.initial.operateAll ops ∧ (∀ op ∈ ops, op.IsOwn) ∧
      Run.Operation.dispatched ops <+: s.incoming := by
  obtain ⟨ops, hfinal, hown, n, hitems⟩ := s.exists_operations
  -- what was received is what the first items of the script have loaded
  have hreceived : Run.Operation.received ops =
      (s.script.items.take n).filterMap fun item ↦ item.readiness.loaded? := by
    rw [hitems, List.filterMap_map]
    exact List.filterMap_some.symm
  refine ⟨ops, hfinal, hown, ((s.script.items.drop n).filterMap fun item ↦
    item.readiness.loaded?).filter (· ≠ .fault .wouldBlock), ?_⟩
  rw [Run.Operation.dispatched, hreceived, ← List.filter_append, ← List.filterMap_append,
    List.take_append_drop]
  rfl

/-- Nothing is addressed to anybody at the start. -/
theorem addressed_initial (s : Setup) : Bench.Addressed [] s.initial.bench :=
  s.bench_initial ▸ (Bench.Addressed.fresh s.channel s.refusal).heed s.stopBefore

/-- Whatever there is of a message in a run is of a message that the script has for the worker. -/
theorem answers_trace (s : Setup) : ∀ e ∈ s.trace, e.Answers s.incoming := by
  obtain ⟨ops, hfinal, -, rest, hincoming⟩ := s.exists_dispatched
  have haddressed := Run.addressed_operateAll s.addressed_initial ops
  rw [← hfinal] at haddressed
  intro e he
  rw [← hincoming]
  exact (haddressed.trace e he).append rest

/-- Every reply of a run is addressed as the message it answers. -/
theorem addressed_final (s : Setup) : ∀ number frames, (number, frames) ∈ s.trace.replies →
    ∃ x, s.incoming[number]? = some x ∧ frames.head? = some x.peer.bytes := by
  intro number frames hmem
  obtain ⟨x, hx, -, hframes⟩ := Trace.exists_of_mem_replies s.answers_trace hmem
  exact ⟨x, hx, hframes⟩

end Setup

end QueryDispatch.Worker

namespace QueryDispatch

/-- **Hidden peers stay hidden.** A channel that hides its peers is given, by hand or as a worker,
two histories that differ in nothing but the first frames of messages. Then every step answers the
same and leaves the same state: what is counted, what is parked, whether a stop is requested and
whether a handler broke down. The log is the same to the letter. Handlers are invoked and replies
handed over in the same places, and wiping their first frames is enough to make them the same. A
worker ends the same way in the same stage. Each reply is addressed to the peer of the message it
answers, of its own history. -/
theorem redaction_hides_routes :
    (∀ (c : Channel) (refusal : Refusal) (steps steps' : List Bench.Step),
      c.redactRoutes = true →
      steps.map Bench.Step.unrouted = steps'.map Bench.Step.unrouted →
      let b := Bench.fresh c refusal
      List.Forall₂ Bench.Report.Alike (b.reports steps) (b.reports steps') ∧
        (b.run steps).flush.Alike (b.run steps').flush ∧
        ∀ number frames, (number, frames) ∈ (b.run steps).flush.trace.replies →
          ∃ x, (Bench.items steps)[number]? = some x ∧ frames.head? = some x.peer.bytes) ∧
    ∀ s s' : Worker.Setup, s.settings.redactRoutes = true → s.unrouted = s'.unrouted →
      s.exit = s'.exit ∧ s.final.stage = s'.final.stage ∧
        s.run.1.bench.Alike s'.run.1.bench ∧ s.final.bench.Alike s'.final.bench ∧
        ∀ number frames, (number, frames) ∈ s.trace.replies →
          ∃ x, s.incoming[number]? = some x ∧ frames.head? = some x.peer.bytes := by
  constructor
  · intro c refusal steps steps' hc hsteps b
    have hb : b.channel.redactRoutes = true := hc
    refine ⟨Bench.reports_alike hb hsteps, Bench.run_alike hb hsteps, fun number frames ↦ ?_⟩
    exact ((Bench.Addressed.fresh c refusal).run steps).flush.head?_of_mem_replies
  · intro s s' hs h
    obtain ⟨hexit, hstage, hrun, hfinal⟩ := Worker.Setup.run_alike hs h
    exact ⟨hexit, hstage, hrun, hfinal, s.addressed_final⟩

/-- A channel that says of every query that it came, and hides from whom. -/
def Channel.hiding : Channel where
  security := .unsecured
  verbose := true
  redactRoutes := true
  registry := .ofBehaviours false [("ping", .echo)]

/-- What a peer may send: a ping, and something that is no query. -/
def messagesFrom (peer : Bytes) : List Received :=
  [.message (.query peer "ping" 7 [5]), .message [peer]]

/-- A worker that hides its peers, and what one peer sends it. -/
def Worker.Setup.hiding (peer : Bytes) : Worker.Setup where
  settings := { verbose := true, redactRoutes := true }
  security := .unsecured
  registry := .ofBehaviours false [("ping", .echo)]
  script := { items := (messagesFrom peer).map fun x ↦ { readiness := .loaded x } }

theorem redaction_hides_routes_messages :
    ((Bench.fresh .hiding none).run ((messagesFrom [1]).map .receive)).flush.Alike
        ((Bench.fresh .hiding none).run ((messagesFrom []).map .receive)).flush ∧
      (Worker.Setup.hiding [1]).final.bench.Alike (Worker.Setup.hiding []).final.bench ∧
      (Worker.Setup.hiding [1]).trace.replies.map (fun reply ↦ reply.2.head?) =
        [some [1], some [1]] ∧
      (Worker.Setup.hiding []).trace.replies.map (fun reply ↦ reply.2.head?) =
        [some [], some []] := by
  obtain ⟨-, hbench, -⟩ := redaction_hides_routes.1 .hiding none
    ((messagesFrom [1]).map .receive) ((messagesFrom []).map .receive) rfl rfl
  obtain ⟨-, -, -, hworker, -⟩ := redaction_hides_routes.2 (.hiding [1]) (.hiding []) rfl rfl
  exact ⟨hbench, hworker, by decide, by decide⟩

end QueryDispatch
