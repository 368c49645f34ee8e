import QueryDispatch.Proofs.Worker.Presentation

/-!
# The two channels are served alike

The security of a worker selects the address it serves, and is otherwise only a name that it gives
to what it does. So the same worker on the other channel does the same under the other name and at
the other address, event by event and to the end (`Setup.run_serving`): both runs are ways of
presenting the run of one plain worker, and presentations that differ in name and address only are
the same but for these.

Two things follow. Under a common name and address the two runs cannot be told apart. And each is
what it would be if its own name and address were put in everywhere, so whatever mentions a channel
mentions the worker's own, whoever sent what.

## Main results

* `Worker.Setup.run_serving`: a worker's run on another channel.
* `Worker.Setup.addresses_trace`: a worker connects once, to the address of its channel.
* `Worker.Setup.security_selects_endpoint`: all of this for the two channels.
-/

namespace QueryDispatch

/-! ### Under another name -/

/-- Whether a ticket and its request are of a channel. -/
def Ticket.IsOf (security : Security) (t : Ticket) : Prop :=
  t.security = security ∧ t.request.security = security

theorem Ticket.isOf_onChannel (t : Ticket) (security : Security) :
    (t.onChannel security).IsOf security := ⟨rfl, rfl⟩

/-- What is presented on one channel is on another what is presented there. -/
theorem Notice.presented_onChannel (n : Notice) (c : Channel) (security : Security)
    (address address' : String) :
    (n.presented c address).onChannel security address' =
      n.presented { c with security } address' := by
  rw [presented, presented]
  show _ = if c.redactRoutes then _ else _
  split <;> cases n <;> rfl

/-- A later name takes the place of an earlier one. -/
theorem Notice.onChannel_onChannel (n : Notice) (security security' : Security)
    (address address' : String) :
    (n.onChannel security address).onChannel security' address' =
      n.onChannel security' address' := by
  cases n <;> rfl

/-- What the log shows of a notice, without the name and the address of the channel. -/
def Notice.anonymous (n : Notice) : Logging.Severity × String × List (String × String) :=
  (n.severity, n.message,
    n.fields.map fun f ↦ if f.1 = "security" ∨ f.1 = "endpoint" then (f.1, "") else f)

/-- Without its channel a notice is the same on every one. -/
theorem Notice.anonymous_onChannel (n : Notice) (security : Security) (address : String) :
    (n.onChannel security address).anonymous = n.anonymous := by
  cases n <;> simp [onChannel, anonymous, severity, message, fields]

namespace Event

/-- To present an event and rename it is to present it under the other name. -/
theorem presented_onChannel (e : Event) (c : Channel) (security : Security)
    (address address' : String) :
    (e.presented c address).map (onChannel security address') =
      e.presented { c with security } address' := by
  cases e with
  | called call stage =>
    rw [presented_called, presented_called]
    cases call <;> rfl
  | noted n =>
    rw [presented_noted, presented_noted, ← n.presented_onChannel c security address address']
    rfl
  | invoked handler t =>
    rw [presented_invoked, presented_invoked, List.map_append]
    show _ = (if c.verbose then _ else _) ++ _
    split <;> rfl
  | entered | stopRequested | sent =>
    simp only [presented_entered, presented_stopRequested, presented_sent, List.map_singleton,
      onChannel]

/-- The last channel counts. -/
theorem onChannel_onChannel (e : Event) (security security' : Security)
    (address address' : String) :
    (e.onChannel security address).onChannel security' address' =
      e.onChannel security' address' := by
  cases e with
  | called call stage => cases call <;> rfl
  | noted n => exact congrArg noted (n.onChannel_onChannel security security' address address')
  | _ => rfl

/-- What is invoked under a name is given a ticket of that name. -/
theorem isOf_of_onChannel_eq_invoked {e : Event} {security : Security} {address : String}
    {handler : Handler Nat} {t : Ticket}
    (h : e.onChannel security address = .invoked handler t) : t.IsOf security := by
  cases e with
  | invoked handler' t' =>
    obtain ⟨-, rfl⟩ := Event.invoked.inj h
    exact t'.isOf_onChannel security
  | _ => cases h

end Event

/-- Without its channel a log is the same on every one. -/
theorem Trace.anonymous_onChannel (t : Trace) (security : Security) (address : String) :
    (notices (t.map (·.onChannel security address))).map Notice.anonymous =
      t.notices.map Notice.anonymous := by
  induction t with
  | nil => rfl
  | cons e rest ih =>
    cases e with
    | noted n => exact congrArg₂ List.cons (n.anonymous_onChannel security address) ih
    | _ => exact ih

/-- The bench under another channel's name and address, with all that has happened on it. -/
def Bench.onChannel (b : Bench) (security : Security) (address : String) : Bench :=
  { b with
    dispatcher := { b.dispatcher with channel := { b.channel with security } }
    parked := b.parked.map (·.onChannel security)
    deferred := b.deferred.map (·.onChannel security)
    trace := b.trace.map (·.onChannel security address) }

/-- What is presented on one channel is on another what is presented there. -/
theorem Bench.presented_onChannel (b : Bench) (c : Channel) (security : Security)
    (address address' : String) :
    (b.presented c address).onChannel security address' =
      b.presented { c with security } address' := by
  have htrace : (b.trace.presented c address).map (·.onChannel security address') =
      b.trace.presented { c with security } address' := by
    rw [Trace.presented, List.map_flatMap]
    exact List.flatMap_congr fun e _ ↦ e.presented_onChannel c security address address'
  show Bench.mk _ _ _ _ _ _ ((b.trace.presented c address).map _) = _
  rw [htrace]
  simp only [presented, List.map_map]
  rfl

/-- The last channel counts. -/
theorem Bench.onChannel_onChannel (b : Bench) (security security' : Security)
    (address address' : String) :
    (b.onChannel security address).onChannel security' address' =
      b.onChannel security' address' := by
  simp only [onChannel, List.map_map]
  congr 1
  exact List.map_congr_left fun e _ ↦ e.onChannel_onChannel security security' address address'

theorem Exit.onChannel_onChannel (exit : Exit) (security security' : Security)
    (address address' : String) :
    (exit.onChannel security address).onChannel security' address' =
      exit.onChannel security' address' := by
  cases exit with
  | failed error => cases error <;> rfl
  | _ => rfl

/-! ### Addresses -/

/-- The address that the call connects to. -/
def SocketCall.address? : SocketCall → Option String
  | .connect address => some address
  | _ => none

/-- The addresses connected to, in order. -/
def Trace.addresses (t : Trace) : List String := t.calls.filterMap fun c ↦ c.1.address?

theorem Trace.addresses_append (t t' : Trace) :
    addresses (t ++ t') = addresses t ++ addresses t' := by
  rw [addresses, calls_append, List.filterMap_append]
  rfl

/-- A flush calls on no address. -/
theorem Bench.addresses_flush (b : Bench) : b.flush.trace.addresses = b.trace.addresses := by
  have hflush : Trace.calls b.flushEvents = [] := by
    refine Trace.calls_eq_nil fun e he ↦ ?_
    obtain ⟨number, response, he⟩ := b.mem_flushEvents he
    rcases b.channel.mem_replyEvents he with rfl | ⟨_, _, _, _, rfl⟩ <;> rfl
  rw [trace_flush, Trace.addresses_append, Trace.addresses, Trace.addresses, hflush]
  exact List.append_nil _

namespace Worker

namespace Run

/-- The run under another channel's name and address. -/
def onChannel (r : Run) (security : Security) (address : String) : Run :=
  { r with bench := r.bench.onChannel security address }

theorem presented_onChannel (r : Run) (c : Channel) (security : Security)
    (address address' : String) :
    (r.presented c address).onChannel security address' =
      r.presented { c with security } address' :=
  congrArg (Run.mk · r.stage) (r.bench.presented_onChannel c security address address')

theorem onChannel_onChannel (r : Run) (security security' : Security) (address address' : String) :
    (r.onChannel security address).onChannel security' address' =
      r.onChannel security' address' :=
  congrArg (Run.mk · r.stage) (r.bench.onChannel_onChannel security security' address address')

/-- Serving connects to nothing. -/
theorem addresses_serve (ending : Ending) (items : List Item) {r : Run} (hr : r.stage = .running) :
    (serve ending items r).bench.trace.addresses = r.bench.trace.addresses := by
  obtain ⟨es, htrace, -, n, -, last, hlast, hcalls⟩ := exchanges_serve ending items r hr
  have hserved : Trace.addresses es = [] := by
    rw [Trace.addresses, hcalls, List.filterMap_append]
    have hlast' : last.filterMap (fun c ↦ c.1.address?) = [] := by
      rcases hlast with rfl | rfl <;> rfl
    rw [hlast', List.append_nil]
    refine List.filterMap_eq_nil_iff.2 fun c hc ↦ ?_
    obtain ⟨pair, hpair, hc⟩ := List.mem_flatten.1 hc
    obtain rfl := List.eq_of_mem_replicate hpair
    simp only [List.mem_cons, List.not_mem_nil, or_false] at hc
    rcases hc with rfl | rfl <;> rfl
  rw [htrace, Trace.addresses_append, hserved, List.append_nil]

/-- To finish calls on no address. -/
theorem addresses_finish {r : Run} (hr : r.stage = .running) (refusal : Refusal) :
    (r.finish refusal).bench.trace.addresses = r.bench.trace.addresses := by
  have hclosing : Trace.addresses (closingEvents r.security refusal) = [] := by
    rw [Trace.addresses, calls_closingEvents]
    rfl
  rw [bench_finish hr]
  show Trace.addresses (r.bench.trace ++ _) = _
  rw [Trace.addresses_append, hclosing, List.append_nil]

end Run

namespace Setup

/-- The worker, put on a channel. -/
def serving (s : Setup) (security : Security) : Setup := { s with security }

variable (s : Setup)

/-- **On another channel a worker does the same, under the name and at the address of that
channel.** -/
theorem run_serving (security : Security) :
    (s.serving security).run =
      (s.run.1.onChannel security (s.settings.endpoint security),
        s.run.2.onChannel security (s.settings.endpoint security)) := by
  rw [run_presented, s.run_presented]
  show _ = ((s.plain.run.1.presented s.channel s.endpoint).onChannel _ _,
    (s.plain.run.2.onChannel s.security s.endpoint).onChannel _ _)
  rw [Run.presented_onChannel, Exit.onChannel_onChannel]
  rfl

/-- A worker that serves another security ends as the same worker on that channel. -/
theorem final_serving (security : Security) :
    (s.serving security).final =
      s.final.onChannel security (s.settings.endpoint security) := by
  rw [final_presented, s.final_presented, Run.presented_onChannel]
  rfl

/-- A worker connects once, to the address of its channel. -/
theorem addresses_trace : s.trace.addresses = [s.endpoint] := by
  have hopened : s.opened.bench.trace.addresses = [s.endpoint] := by
    rw [trace_opened, Trace.addresses, calls_opening]
    rfl
  rw [trace]
  show s.run.1.bench.flush.trace.addresses = _
  rw [Bench.addresses_flush]
  -- whatever comes after the opening, a breakdown included, connects to nothing
  rcases hconnect : s.script.connectRefusal with - | cause
  · have hserved : s.served.bench.trace.addresses = [s.endpoint] :=
      (Run.addresses_serve _ _ (stage_opened_of_connected hconnect)).trans hopened
    rw [run_eq_serveToEnd hconnect, Run.serveToEnd]
    show (if s.served.bench.fallen then _ else _ : Run × Exit).1.bench.trace.addresses = _
    split
    · exact hserved
    · exact (Run.addresses_finish (stage_served hconnect) _).trans hserved
  · rw [run_of_refused hconnect, hopened]

/-- A handler is given a ticket of the worker's own channel, whatever was received. -/
theorem isOf_of_invoked {handler : Handler Nat} {t : Ticket} (h : .invoked handler t ∈ s.trace) :
    t.IsOf s.security := by
  have hown : s.final = s.final.onChannel s.security s.endpoint := s.final_serving s.security
  rw [trace, hown] at h
  obtain ⟨e, -, he⟩ := List.mem_map.1 h
  exact Event.isOf_of_onChannel_eq_invoked he

/-- A ticket that is parked is one of the worker's security. -/
theorem isOf_of_parked {t : Ticket} (h : t ∈ s.final.bench.parked) : t.IsOf s.security := by
  have hown : s.final = s.final.onChannel s.security s.endpoint := s.final_serving s.security
  rw [hown] at h
  obtain ⟨t', -, rfl⟩ := List.mem_map.1 h
  exact t'.isOf_onChannel s.security

/-- A ticket that is deferred is one of the worker's security. -/
theorem isOf_of_deferred {t : Ticket} (h : t ∈ s.run.1.bench.deferred) : t.IsOf s.security := by
  have hown := congrArg Prod.fst (s.run_serving s.security)
  rw [show s.run.1 = s.run.1.onChannel s.security s.endpoint from hown] at h
  obtain ⟨t', -, rfl⟩ := List.mem_map.1 h
  exact t'.isOf_onChannel s.security

/-- **Security selects the endpoint only.** Take any worker, with its script, its handlers, its
settings and the faults of its transport, and put it on the one channel and on the other. Under a
common name and address, whichever these are, both runs are the same: in all that happened, in the
stage and the tally, in whether a stop was requested and whether a handler broke down, in the
tickets that were parked and put off, and in how the worker ended; and so they are still once the
replies that were put off have been sent. The log shows the same, but for the name and the address
themselves. In each run all requests and tickets that handlers are
given, and those that they keep, are of the worker's own channel; and it connects once, to the
address that the settings have for the channel. -/
theorem security_selects_endpoint (s : Setup) :
    (∀ (security : Security) (address : String),
      (s.serving .secure).run.1.onChannel security address =
          (s.serving .unsecured).run.1.onChannel security address ∧
        (s.serving .secure).final.onChannel security address =
          (s.serving .unsecured).final.onChannel security address ∧
        (s.serving .secure).exit.onChannel security address =
          (s.serving .unsecured).exit.onChannel security address) ∧
    (s.serving .secure).trace.notices.map Notice.anonymous =
      (s.serving .unsecured).trace.notices.map Notice.anonymous ∧
    ∀ security : Security,
      (∀ handler t, .invoked handler t ∈ (s.serving security).trace → t.IsOf security) ∧
        (∀ t ∈ (s.serving security).final.bench.parked, t.IsOf security) ∧
        (∀ t ∈ (s.serving security).run.1.bench.deferred, t.IsOf security) ∧
        (s.serving security).trace.addresses = [s.settings.endpoint security] := by
  refine ⟨?_, ?_, ?_⟩
  · intro security address
    refine ⟨?_, ?_, ?_⟩
    · rw [run_serving, run_serving, Run.onChannel_onChannel, Run.onChannel_onChannel]
    · rw [final_serving, final_serving, Run.onChannel_onChannel, Run.onChannel_onChannel]
    · rw [exit, exit, run_serving, run_serving, Exit.onChannel_onChannel,
        Exit.onChannel_onChannel]
  · have hlog : ∀ security, (s.serving security).trace.notices.map Notice.anonymous =
        s.trace.notices.map Notice.anonymous := fun security ↦ by
      rw [trace, final_serving]
      exact s.trace.anonymous_onChannel security _
    rw [hlog, hlog]
  · intro security
    exact ⟨fun _ _ ↦ (s.serving security).isOf_of_invoked,
      fun _ ↦ (s.serving security).isOf_of_parked, fun _ ↦ (s.serving security).isOf_of_deferred,
      (s.serving security).addresses_trace⟩

theorem security_selects_endpoint_pinging :
    ∃ handler t, .invoked handler t ∈
        ((pinging { items := [{ readiness := .loaded ping }] }).serving .secure).trace ∧
      t.IsOf .secure := by
  obtain ⟨hinvoked, -⟩ :=
    (security_selects_endpoint (pinging { items := [{ readiness := .loaded ping }] })).2.2 .secure
  have hmem : .invoked (.custom 0)
      { number := 0
        security := .secure
        request :=
          { route := ⟨[1]⟩, command := "ping", id := 7, body := [2], security := .secure } } ∈
        ((pinging { items := [{ readiness := .loaded ping }] }).serving .secure).trace := by decide
  exact ⟨_, _, hmem, hinvoked _ _ hmem⟩

end Setup

end Worker

end QueryDispatch
