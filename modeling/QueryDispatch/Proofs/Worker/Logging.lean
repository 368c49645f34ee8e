import QueryDispatch.Proofs.Worker.Presentation

/-!
# Logging changes nothing but the log

Of its settings a channel has two for its log: whether it announces queries, and whether it hides
its peers. What they change is told exactly. To announce queries puts one notice before each
invocation (`Trace.announced`), and to hide peers puts one text in the place of each peer in the log
(`Trace.redacted`); and neither does anything else.

All four ways of logging present the same run of the plain channel, so this is a matter of single
events. What an event does, as opposed to what it says in the log, is not touched by either
(`Trace.deeds`), and neither is what the log says if announcements and routes are left out
(`Trace.log`).

## Main results

* `Trace.presented_verbose`, `Trace.presented_redactRoutes`: what either setting does to a trace.
* `Bench.sameDeeds_logging`, `Worker.Setup.sameDeeds_logging`: whatever is logged, the same is done.
* `logging_changes_nothing_else`: all of this for dispatchers and workers.
-/

namespace QueryDispatch

/-! ### Ways of logging -/

/-- The channel, with its log as told. -/
def Channel.logging (c : Channel) (verbose redactRoutes : Bool) : Channel :=
  { c with verbose, redactRoutes }

namespace Trace

/-- The trace with an announcement before each invocation. -/
def announced (c : Channel) (t : Trace) : Trace := t.flatMap (Event.announced c)

/-- The trace with the peers in the log hidden. -/
def redacted (t : Trace) : Trace := t.map Event.redacted

/-- What happened apart from the log. -/
def deeds (t : Trace) : Trace := t.filter fun e ↦ e.notice?.isNone

/-- What the log says, without announcements and without routes. -/
def log (t : Trace) : List (Logging.Severity × String × List (String × String)) :=
  (t.notices.filter fun n ↦ !n.isQuery).map fun n ↦
    (n.severity, n.message, n.fields.filter fun f ↦ f.1 ≠ "route")

end Trace

/-- **Hiding peers changes the route field**, whatever the route, and nothing else that the log
shows of a notice. -/
theorem Notice.shown_redacted (n : Notice) :
    n.redacted.severity = n.severity ∧ n.redacted.message = n.message ∧
      n.redacted.fields =
        n.fields.map fun f ↦ if f.1 = "route" then (f.1, "[redacted]") else f := by
  refine ⟨?_, ?_, ?_⟩
  · cases n <;> rfl
  · cases n <;> rfl
  · cases n <;> simp [redacted, fields, Channel.redactedPeer]

namespace Event

variable (c : Channel) (address : String) (redactRoutes verbose : Bool) (e : Event)

/-- A verbose channel presents what the other does, and announces it. -/
theorem presented_verbose :
    e.presented (c.logging true redactRoutes) address =
      Trace.announced (c.logging true redactRoutes)
        (e.presented (c.logging false redactRoutes) address) := by
  show Event.announced _ _ = Event.announced _ _ ++ []
  rw [List.append_nil]
  rfl

/-- To announce what is redacted is to redact the announcement. -/
theorem announced_redacted :
    e.redacted.announced (c.logging verbose true) =
      Trace.redacted (e.announced (c.logging verbose false)) := by
  cases e <;> rfl

/-- A channel that redacts presents what the other does, redacted. -/
theorem presented_redactRoutes :
    e.presented (c.logging verbose true) address =
      Trace.redacted (e.presented (c.logging verbose false) address) := by
  cases verbose with
  | false => rfl
  | true => exact (e.onChannel c.security address).announced_redacted c true

end Event

namespace Trace

theorem deeds_append (t t' : Trace) : deeds (t ++ t') = deeds t ++ deeds t' :=
  List.filter_append ..

theorem log_append (t t' : Trace) : log (t ++ t') = log t ++ log t' := by
  simp [log]

/-- The same is done in both, and the same is said but for announcements and routes. -/
structure SameDeeds (t t' : Trace) : Prop where
  deeds : t.deeds = t'.deeds
  log : t.log = t'.log

namespace SameDeeds

variable {t t' t'' u u' : Trace}

theorem symm (h : SameDeeds t t') : SameDeeds t' t := ⟨h.deeds.symm, h.log.symm⟩

theorem trans (h : SameDeeds t t') (h' : SameDeeds t' t'') : SameDeeds t t'' :=
  ⟨h.deeds.trans h'.deeds, h.log.trans h'.log⟩

theorem append (h : SameDeeds t t') (hu : SameDeeds u u') : SameDeeds (t ++ u) (t' ++ u') where
  deeds := by rw [deeds_append, deeds_append, h.deeds, hu.deeds]
  log := by rw [log_append, log_append, h.log, hu.log]

/-- What does the same for each event does the same for a trace. -/
theorem flatMap {f : Event → Trace} (hf : ∀ e, SameDeeds (f e) [e]) (t : Trace) :
    SameDeeds (t.flatMap f) t := by
  induction t with
  | nil => exact ⟨rfl, rfl⟩
  | cons e rest ih => exact (hf e).append ih

end SameDeeds

/-- An announcement does nothing, and says nothing else. -/
theorem sameDeeds_announced (c : Channel) (t : Trace) : SameDeeds (announced c t) t :=
  .flatMap (fun e ↦ by cases e <;> exact ⟨rfl, rfl⟩) t

/-- Hiding peers leaves everything but the routes. -/
theorem sameDeeds_redacted (t : Trace) : SameDeeds (redacted t) t := by
  rw [redacted, List.map_eq_flatMap]
  refine .flatMap (fun e ↦ ?_) t
  cases e with
  | noted n => cases n <;> exact ⟨rfl, rfl⟩
  | _ => exact ⟨rfl, rfl⟩

section Presented

variable (c : Channel) (address : String) (redactRoutes verbose : Bool) (t : Trace)

/-- **To announce queries is to put one notice before each invocation.** -/
theorem presented_verbose :
    t.presented (c.logging true redactRoutes) address =
      announced (c.logging true redactRoutes)
        (t.presented (c.logging false redactRoutes) address) := by
  rw [announced, presented, presented, List.flatMap_assoc]
  exact List.flatMap_congr fun e _ ↦ e.presented_verbose c address redactRoutes

/-- **To hide peers is to put one text in the place of each.** -/
theorem presented_redactRoutes :
    t.presented (c.logging verbose true) address =
      redacted (t.presented (c.logging verbose false) address) := by
  rw [redacted, presented, presented, List.map_flatMap]
  exact List.flatMap_congr fun e _ ↦ e.presented_redactRoutes c address verbose

/-- What is done does not depend on the logging. -/
theorem sameDeeds_presented (verbose' redactRoutes' : Bool) :
    SameDeeds (t.presented (c.logging verbose redactRoutes) address)
      (t.presented (c.logging verbose' redactRoutes') address) := by
  -- each is like the way of logging that has neither
  have hquiet : ∀ verbose redactRoutes,
      SameDeeds (t.presented (c.logging verbose redactRoutes) address)
        (t.presented (c.logging false false) address) := by
    intro verbose redactRoutes
    have hopen : SameDeeds (t.presented (c.logging verbose false) address)
        (t.presented (c.logging false false) address) := by
      cases verbose with
      | false => exact ⟨rfl, rfl⟩
      | true => exact presented_verbose c address false t ▸ sameDeeds_announced _ _
    cases redactRoutes with
    | false => exact hopen
    | true => exact .trans (presented_redactRoutes c address verbose t ▸ sameDeeds_redacted _) hopen
  exact (hquiet verbose redactRoutes).trans (hquiet verbose' redactRoutes').symm

end Presented

end Trace

/-! ### Dispatchers -/

namespace Bench

/-- The same has been done on both benches, with the same effect. -/
structure SameDeeds (b b' : Bench) : Prop where
  arrivals : b.dispatcher.arrivals = b'.dispatcher.arrivals
  tally : b.tally = b'.tally
  refusal : b.refusal = b'.refusal
  stopRequested : b.stopRequested = b'.stopRequested
  fallen : b.fallen = b'.fallen
  parked : b.parked = b'.parked
  deferred : b.deferred = b'.deferred
  trace : b.trace.SameDeeds b'.trace

/-- The steps answer the same, do the same, and have the same effect. -/
structure Report.SameDeeds (r r' : Report) : Prop where
  answer : r.answer = r'.answer
  events : r.events.SameDeeds r'.events
  after : r.after.SameDeeds r'.after

variable (b : Bench) (r : Report) (c : Channel) (address : String)
  (verbose redactRoutes verbose' redactRoutes' : Bool)

/-- What the bench does does not depend on the logging. -/
theorem sameDeeds_presented :
    (b.presented (c.logging verbose redactRoutes) address).SameDeeds
      (b.presented (c.logging verbose' redactRoutes') address) where
  arrivals := rfl
  tally := rfl
  refusal := rfl
  stopRequested := rfl
  fallen := rfl
  parked := rfl
  deferred := rfl
  trace := b.trace.sameDeeds_presented c address redactRoutes verbose verbose' redactRoutes'

/-- What the bench reports does not depend on the logging. -/
theorem Report.sameDeeds_presented :
    (r.presented (c.logging verbose redactRoutes) address).SameDeeds
      (r.presented (c.logging verbose' redactRoutes') address) where
  answer := rfl
  events := r.events.sameDeeds_presented c address redactRoutes verbose verbose' redactRoutes'
  after := r.after.sameDeeds_presented c address verbose redactRoutes verbose' redactRoutes'

/-- A history of the dispatcher, with its log as told. -/
theorem reports_logging (refusal : Refusal) (steps : List Step) :
    (fresh (c.logging verbose redactRoutes) refusal).reports steps =
      ((fresh c.plain refusal).reports steps).map
        (·.presented (c.logging verbose redactRoutes) address) := by
  have hplain : (fresh c.plain refusal).channel = (c.logging verbose redactRoutes).plain := rfl
  exact reports_presented address hplain steps

/-- And the state that it leads to, with the replies that were put off sent. -/
theorem flush_run_logging (refusal : Refusal) (steps : List Step) :
    ((fresh (c.logging verbose redactRoutes) refusal).run steps).flush =
      ((fresh c.plain refusal).run steps).flush.presented
        (c.logging verbose redactRoutes) address := by
  have hplain : (fresh c.plain refusal).channel = (c.logging verbose redactRoutes).plain := rfl
  rw [fresh_presented _ address]
  rw [← flush_presented address (((fresh c.plain refusal).channel_run steps).trans hplain)]
  exact congrArg flush (run_presented address hplain steps)

/-- **However it logs, a dispatcher does the same**, step by step and in the end. -/
theorem sameDeeds_logging (refusal : Refusal) (steps : List Step) :
    List.Forall₂ Report.SameDeeds
        ((fresh (c.logging verbose redactRoutes) refusal).reports steps)
        ((fresh (c.logging verbose' redactRoutes') refusal).reports steps) ∧
      ((fresh (c.logging verbose redactRoutes) refusal).run steps).flush.SameDeeds
        ((fresh (c.logging verbose' redactRoutes') refusal).run steps).flush := by
  -- both histories are that of the plain channel, and have no use for an address
  rw [reports_logging c "" verbose, reports_logging c "" verbose', flush_run_logging c "" verbose,
    flush_run_logging c "" verbose']
  refine ⟨?_, sameDeeds_presented ..⟩
  rw [List.forall₂_map_left_iff, List.forall₂_map_right_iff]
  exact List.forall₂_same.2 fun r _ ↦ Report.sameDeeds_presented ..

end Bench

/-! ### Workers -/

namespace Worker.Setup

/-- The worker, with its log as told. -/
def logging (s : Setup) (verbose redactRoutes : Bool) : Setup :=
  { s with settings := { s.settings with verbose, redactRoutes } }

variable (s : Setup) (verbose redactRoutes : Bool)

/-- The run of a worker is presented as its logging says. -/
theorem run_logging :
    (s.logging verbose redactRoutes).run =
      (s.plain.run.1.presented (s.channel.logging verbose redactRoutes) s.endpoint,
        s.plain.run.2.onChannel s.security s.endpoint) :=
  (s.logging verbose redactRoutes).run_presented

theorem final_logging :
    (s.logging verbose redactRoutes).final =
      s.plain.final.presented (s.channel.logging verbose redactRoutes) s.endpoint :=
  (s.logging verbose redactRoutes).final_presented

theorem trace_logging :
    (s.logging verbose redactRoutes).trace =
      s.plain.trace.presented (s.channel.logging verbose redactRoutes) s.endpoint :=
  (s.logging verbose redactRoutes).trace_presented

/-- **However it logs, a worker does the same** and ends the same way. -/
theorem sameDeeds_logging (verbose' redactRoutes' : Bool) :
    (s.logging verbose redactRoutes).exit = (s.logging verbose' redactRoutes').exit ∧
      (s.logging verbose redactRoutes).final.stage =
        (s.logging verbose' redactRoutes').final.stage ∧
      (s.logging verbose redactRoutes).run.1.bench.SameDeeds
        (s.logging verbose' redactRoutes').run.1.bench ∧
      (s.logging verbose redactRoutes).final.bench.SameDeeds
        (s.logging verbose' redactRoutes').final.bench := by
  refine ⟨?_, ?_, ?_, ?_⟩
  · exact (exit_presented _).trans (s.logging verbose' redactRoutes').exit_presented.symm
  · rw [final_logging, final_logging]
    rfl
  · rw [run_logging, run_logging]
    exact Bench.sameDeeds_presented ..
  · rw [final_logging, final_logging]
    exact Bench.sameDeeds_presented ..

end Worker.Setup

/-- **Logging changes nothing but the log.** However a dispatcher is driven by hand, and however a
worker's run goes, let it be logged in two ways that differ in whether queries are announced and
whether peers are hidden. Then every step answers the same, and a worker ends in the same way and in
the same stage; the same calls are made, the same stages entered, the same handlers invoked with the
same tickets and the same replies handed over with the same result, all in the same order; the tally
and the tickets that are kept are the same after every step; and the log is the same without its
announcements and its routes. To announce queries adds a notice right before each invocation and
nothing else. To hide peers changes the routes in the log, each into the one text, and nothing
else. -/
theorem logging_changes_nothing_else :
    (∀ (c : Channel) (refusal : Refusal) (steps : List Bench.Step),
      let bench := fun verbose redactRoutes ↦ Bench.fresh (c.logging verbose redactRoutes) refusal
      let reports := fun verbose redactRoutes ↦ (bench verbose redactRoutes).reports steps
      let final := fun verbose redactRoutes ↦ ((bench verbose redactRoutes).run steps).flush
      (∀ verbose redactRoutes verbose' redactRoutes',
        List.Forall₂ Bench.Report.SameDeeds (reports verbose redactRoutes)
            (reports verbose' redactRoutes') ∧
          (final verbose redactRoutes).SameDeeds (final verbose' redactRoutes')) ∧
      (∀ redactRoutes,
        (reports true redactRoutes).map (·.events) =
            (reports false redactRoutes).map
              (·.events.announced (c.logging true redactRoutes)) ∧
          (final true redactRoutes).trace =
            (final false redactRoutes).trace.announced (c.logging true redactRoutes)) ∧
      ∀ verbose,
        (reports verbose true).map (·.events) = (reports verbose false).map (·.events.redacted) ∧
          (final verbose true).trace = (final verbose false).trace.redacted) ∧
    (∀ s : Worker.Setup,
      (∀ verbose redactRoutes verbose' redactRoutes',
        let t := s.logging verbose redactRoutes
        let t' := s.logging verbose' redactRoutes'
        t.exit = t'.exit ∧ t.final.stage = t'.final.stage ∧
          t.run.1.bench.SameDeeds t'.run.1.bench ∧ t.final.bench.SameDeeds t'.final.bench) ∧
      (∀ redactRoutes,
        (s.logging true redactRoutes).trace =
          (s.logging false redactRoutes).trace.announced (s.channel.logging true redactRoutes)) ∧
      ∀ verbose, (s.logging verbose true).trace = (s.logging verbose false).trace.redacted) ∧
    ∀ n : Notice,
      n.redacted.severity = n.severity ∧ n.redacted.message = n.message ∧
        n.redacted.fields =
          n.fields.map fun f ↦ if f.1 = "route" then (f.1, "[redacted]") else f := by
  refine ⟨fun c refusal steps ↦ ⟨?_, ?_, ?_⟩, fun s ↦ ⟨?_, ?_, ?_⟩, Notice.shown_redacted⟩
  · intro verbose redactRoutes verbose' redactRoutes'
    exact Bench.sameDeeds_logging c verbose redactRoutes verbose' redactRoutes' refusal steps
  · intro redactRoutes
    dsimp only
    rw [Bench.reports_logging c "" true, Bench.reports_logging c "" false,
      Bench.flush_run_logging c "" true, Bench.flush_run_logging c "" false, List.map_map,
      List.map_map]
    exact ⟨List.map_congr_left fun r _ ↦ r.events.presented_verbose c "" redactRoutes,
      Trace.presented_verbose ..⟩
  · intro verbose
    dsimp only
    rw [Bench.reports_logging c "" verbose true, Bench.reports_logging c "" verbose false,
      Bench.flush_run_logging c "" verbose true, Bench.flush_run_logging c "" verbose false,
      List.map_map, List.map_map]
    exact ⟨List.map_congr_left fun r _ ↦ r.events.presented_redactRoutes c "" verbose,
      Trace.presented_redactRoutes ..⟩
  · intro verbose redactRoutes verbose' redactRoutes'
    exact s.sameDeeds_logging verbose redactRoutes verbose' redactRoutes'
  · intro redactRoutes
    rw [s.trace_logging, s.trace_logging, Trace.presented_verbose]
  · intro verbose
    rw [s.trace_logging, s.trace_logging, Trace.presented_redactRoutes]

end QueryDispatch
