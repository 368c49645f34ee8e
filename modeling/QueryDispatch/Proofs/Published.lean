import QueryDispatch.Proofs.Reply.Ledger

/-!
# Published commands reach the node

The commands that clients may rely on, the retired ones, and the methods of the node are listed
apart. They agree: the node's methods are attached to the published commands, in their order, and
each to the command that it spells (`Handler.command_of_mem_nodeMethods`). No two methods spell the
same command (`Method.command_injective`), so a published command reaches the one method that it is
the command of, whatever was bound to it before (`Registry.exists_get?_insertNode`).

What a dispatcher makes of a query follows from what the look-up says. `Bench.Reaches` and
`Bench.Declines` are the two answers that a node's dispatcher has for a query.
-/

namespace QueryDispatch

/-! ### Methods and commands -/

/-- The name of a facet tells it from the others by its first letter. -/
theorem Facet.domain_append_injective {f f' : Facet} {rest rest' : String}
    (h : f.domain ++ rest = f'.domain ++ rest') : f = f' := by
  have hletters := congrArg (fun text ↦ text.toList.head?) h
  cases f <;> cases f' <;> simp [domain] at hletters <;> rfl

/-- **A command is spelled by one method only.** -/
theorem Method.command_injective : Function.Injective Method.command := by
  rintro ⟨facet, name⟩ ⟨facet', name'⟩ h
  have hcommand : facet.domain ++ ("." ++ name) = facet'.domain ++ ("." ++ name') := by
    rw [← String.append_assoc, ← String.append_assoc]
    exact h
  obtain rfl := Facet.domain_append_injective hcommand
  have hname : "." ++ name = "." ++ name' := (String.append_right_inj _).1 hcommand
  rw [(String.append_right_inj _).1 hname]

namespace Handler

/-- The node's methods are attached to the commands they spell. -/
theorem command_of_mem_nodeMethods : ∀ p ∈ nodeMethods, p.2.command = p.1 := by
  decide

/-- The commands of the node are those published, in the same order. -/
theorem map_fst_nodeMethods : nodeMethods.map Prod.fst = Vocabulary.published := rfl

/-- The node is bound to the published commands, in their order. -/
theorem map_fst_nodeBindings {β : Type} :
    (nodeBindings : List (String × Handler β)).map Prod.fst = Vocabulary.published := by
  rw [nodeBindings, interfaceBindings, List.map_map, ← map_fst_nodeMethods]
  rfl

end Handler

namespace Vocabulary

variable {command : String}

/-- A retired command is not published, and what replaces it is. -/
theorem published_of_retired :
    ∀ o ∈ retired, isPublished o.name = false ∧
      ∀ c, o.replacement = some c → isPublished c = true := by
  decide

/-- What is found as retired is not published, and what replaces it is. -/
theorem published_of_obsoleted {o : Obsoleted} (h : obsoleted? command = some o) :
    isPublished command = false ∧
      ∀ c, o.replacement = some c → isPublished c = true := by
  have hname : o.name = command := by simpa using List.find?_some h
  exact hname ▸ published_of_retired o (List.mem_of_find?_eq_some h)

end Vocabulary

/-! ### Looking a command up -/

namespace Registry

variable {β : Type} (g : Registry (Handler β)) {command : String}

/-- The node leaves a command that is not published to whom it was bound. -/
theorem get?_insertNode_of_not_published (h : Vocabulary.isPublished command = false) :
    g.insertNode.get? command = g.get? command := by
  have hnone : (Handler.nodeBindings : List (String × Handler β)).reverse.find?
      (·.1 = command) = none := by
    refine List.find?_eq_none.2 fun b hb hname ↦ ?_
    have hmem : b.1 ∈ Vocabulary.published := by
      rw [← Handler.map_fst_nodeBindings (β := β)]
      exact List.mem_map_of_mem (List.mem_reverse.1 hb)
    rw [of_decide_eq_true hname, ← Vocabulary.isPublished_iff, h] at hmem
    cases hmem
  rw [insertNode, insertInterface, ← Handler.nodeBindings, get?_insertMany, hnone]
  rfl

/-- **A published command reaches the method that it is the command of**, whatever was bound to it
before. -/
theorem exists_get?_insertNode (h : Vocabulary.isPublished command = true) :
    ∃ m : Method, m.command = command ∧ g.insertNode.get? command = some (.node m) := by
  rw [Vocabulary.isPublished_iff, ← Handler.map_fst_nodeBindings (β := β)] at h
  obtain ⟨b, hb, hname⟩ := List.mem_map.1 h
  have hsome : ((Handler.nodeBindings : List (String × Handler β)).reverse.find?
      (·.1 = command)).isSome :=
    List.find?_isSome.2 ⟨b, List.mem_reverse.2 hb, decide_eq_true hname⟩
  obtain ⟨last, hlast⟩ := Option.isSome_iff_exists.1 hsome
  -- whichever binding is the last one, it is of this command, and so of the method that spells it
  have hmem := List.mem_reverse.1 (List.mem_of_find?_eq_some hlast)
  have hlastname : last.1 = command := by simpa using List.find?_some hlast
  obtain ⟨⟨name, m⟩, hp, rfl⟩ := List.mem_map.1 hmem
  refine ⟨m, (Handler.command_of_mem_nodeMethods _ hp).trans hlastname, ?_⟩
  rw [insertNode, insertInterface, ← Handler.nodeBindings, get?_insertMany, hlast]
  rfl

end Registry

/-! ### Queries -/

namespace Bench

/-- The dispatcher gives the query to this method of the node, and to nothing else. -/
def Reaches (b : Bench) (r : Request) (m : Method) : Prop :=
  let report := b.report (.receive (.message r.encode))
  report.answer = .outcome .dispatched ∧
    report.events.filter Event.isInvocation =
      [.invoked (.node m) (b.channel.ticket b.dispatcher.arrivals (r.onChannel b.channel.security))]

/-- The dispatcher replies to the query's sender that its command is unknown, and gives the query to
nothing. -/
def Declines (b : Bench) (r : Request) : Prop :=
  let report := b.report (.receive (.message r.encode))
  let reply : Response := ⟨r.route, r.command, r.id, .notFound, []⟩
  report.answer = .outcome .notFound ∧ report.events.filter Event.isInvocation = [] ∧
    report.events.replies = [(b.dispatcher.arrivals, reply.encode)]

variable {b : Bench} {r : Request}

/-- The report of a received item has the events of its dispatch. -/
theorem events_report_receive (b : Bench) (x : Received) :
    (b.report (.receive x)).events = b.dispatchEvents x :=
  List.append_cancel_left ((b.trace_step (.receive x)).symm.trans (b.trace_dispatch x))

/-- Nothing is invoked by a request to stop. -/
theorem filter_isInvocation_stopEvents (b : Bench) (stops : Bool) :
    (b.stopEvents stops).filter Event.isInvocation = [] :=
  List.filter_eq_nil_iff.2 fun e he ↦ by
    rw [b.eq_stopRequested_of_mem_stopEvents he]
    exact Bool.false_ne_true

/-- Nothing is invoked in a reply. -/
theorem filter_isInvocation_completionEvents (c : Channel) (refusal : Refusal) (number : Nat)
    (completion : Completion) :
    (c.completionEvents refusal number completion).filter Event.isInvocation = [] :=
  List.filter_eq_nil_iff.2 fun e he ↦ by
    obtain ⟨response, -, he⟩ := c.mem_completionEvents he
    rcases c.mem_replyEvents he with rfl | ⟨_, _, _, _, rfl⟩ <;> exact Bool.false_ne_true

/-- Only what the verdict leads to is an invocation. -/
theorem filter_isInvocation_dispatchEvents (b : Bench) (x : Received) :
    (b.dispatchEvents x).filter Event.isInvocation =
      (b.channel.events b.dispatcher.arrivals (b.judge x)).filter Event.isInvocation := by
  rw [dispatchEvents, List.filter_append, List.filter_append, filter_isInvocation_stopEvents,
    filter_isInvocation_completionEvents, List.append_nil, List.append_nil]

/-- A query that was written out is judged by what is bound to its command. -/
theorem judge_encode (b : Bench) (r : Request) :
    b.judge (.message r.encode) =
      match b.channel.registry.get? r.command with
      | none => .unknown (r.onChannel b.channel.security)
      | some handler => .accepted handler (r.onChannel b.channel.security) := by
  rw [judge, Channel.judge, Request.decode_encode]
  rfl

/-- A query whose command is bound to a method of the node reaches that method. -/
theorem reaches_of_get? {m : Method} (h : b.channel.registry.get? r.command = some (.node m)) :
    b.Reaches r m := by
  have hjudge := b.judge_encode r
  rw [h] at hjudge
  refine ⟨?_, ?_⟩
  · show b.answer (.receive (.message r.encode)) = _
    rw [answer, hjudge]
    rfl
  · rw [events_report_receive, filter_isInvocation_dispatchEvents, hjudge, Channel.events]
    split <;> rfl

/-- A query whose command is not bound is declined. -/
theorem declines_of_get? (h : b.channel.registry.get? r.command = none) : b.Declines r := by
  have hjudge := b.judge_encode r
  rw [h] at hjudge
  refine ⟨?_, ?_, ?_⟩
  · show b.answer (.receive (.message r.encode)) = _
    rw [answer, hjudge]
    rfl
  · rw [events_report_receive, filter_isInvocation_dispatchEvents, hjudge]
    rfl
  · rw [events_report_receive, dispatchEvents, hjudge]
    show Trace.replies (_ :: b.channel.replyEvents _ _ _) = _
    rw [Trace.replies, List.filterMap_cons_none rfl]
    exact replies_replyEvents b.channel b.refusal b.dispatcher.arrivals _

/-- A query is given to one method at most. -/
theorem Reaches.eq {m m' : Method} (h : b.Reaches r m) (h' : b.Reaches r m') : m = m' := by
  have hevents := h.2.symm.trans h'.2
  simpa using hevents

/-- A query is not given to a method and declined. -/
theorem Reaches.not_declines {m : Method} (h : b.Reaches r m) : ¬ b.Declines r := fun h' ↦ by
  have hevents := h.2.symm.trans h'.2.1
  cases hevents

end Bench

/-! ### The node's dispatcher -/

namespace Bench

section Node

variable {b : Bench} (hb : b.channel.registry = Registry.empty.insertNode) (r : Request)

include hb

/-- The node's dispatcher declines what is not published. -/
theorem declines_of_not_published (h : Vocabulary.isPublished r.command = false) :
    b.Declines r := by
  refine declines_of_get? ?_
  rw [hb, Registry.get?_insertNode_of_not_published _ h]
  rfl

/-- The node's dispatcher gives a published command to the method that it spells. -/
theorem exists_reaches (h : Vocabulary.isPublished r.command = true) :
    ∃ m : Method, m.command = r.command ∧ b.Reaches r m := by
  obtain ⟨m, hcommand, hget⟩ := (Registry.empty (α := Handler Binding)).exists_get?_insertNode h
  exact ⟨m, hcommand, reaches_of_get? (hb ▸ hget)⟩

/-- It reaches a method if and only if it spells it and is published. -/
theorem reaches_iff (m : Method) :
    b.Reaches r m ↔ m.command = r.command ∧ Vocabulary.isPublished r.command = true := by
  constructor
  · intro h
    rcases hpublished : Vocabulary.isPublished r.command with - | -
    · exact absurd (declines_of_not_published hb r hpublished) h.not_declines
    · obtain ⟨m', hcommand, hreached⟩ := exists_reaches hb r hpublished
      exact ⟨h.eq hreached ▸ hcommand, rfl⟩
  · rintro ⟨hcommand, hpublished⟩
    obtain ⟨m', hcommand', hreached⟩ := exists_reaches hb r hpublished
    obtain rfl := Method.command_injective (hcommand.trans hcommand'.symm)
    exact hreached

/-- A query reaches the node if and only if its command is published. -/
theorem exists_reaches_iff :
    (∃ m, b.Reaches r m) ↔ Vocabulary.isPublished r.command = true := by
  constructor
  · rintro ⟨m, h⟩
    exact ((reaches_iff hb r m).1 h).2
  · intro h
    obtain ⟨m, -, hreached⟩ := exists_reaches hb r h
    exact ⟨m, hreached⟩

/-- The rest is declined. -/
theorem declines_iff : b.Declines r ↔ Vocabulary.isPublished r.command = false := by
  refine ⟨fun h ↦ ?_, declines_of_not_published hb r⟩
  by_contra hpublished
  obtain ⟨m, -, hreached⟩ := exists_reaches hb r (eq_true_of_ne_false hpublished)
  exact hreached.not_declines h

end Node

end Bench

/-- **The node answers exactly the published vocabulary.** To attach the node to a registry gives it
the published commands and leaves every other command to whom it was bound. A dispatcher that has
nothing but the node gives a query to a method of it if and only if the query's command is
published, namely to the method that the command spells; any other query it declines, the retired
ones among them, and what replaces a retired command reaches the node. Different commands reach
different methods, and the commands are attached in the order in which they are published. -/
theorem node_answers_published :
    (∀ (β : Type) (g : Registry (Handler β)) (command : String),
      (Vocabulary.isPublished command = false → g.insertNode.get? command = g.get? command) ∧
      (Vocabulary.isPublished command = true →
        ∃ m : Method, m.command = command ∧ g.insertNode.get? command = some (.node m))) ∧
    (∀ b : Bench, b.channel.registry = Registry.empty.insertNode → ∀ r : Request,
      ((∃ m, b.Reaches r m) ↔ Vocabulary.isPublished r.command = true) ∧
      (∀ m, b.Reaches r m → m.command = r.command) ∧
      (b.Declines r ↔ Vocabulary.isPublished r.command = false) ∧
      (∀ r' m, b.Reaches r m → b.Reaches r' m → r.command = r'.command) ∧
      ∀ o, Vocabulary.obsoleted? r.command = some o →
        b.Declines r ∧ ∀ c, o.replacement = some c →
          ∀ r' : Request, r'.command = c → ∃ m : Method, m.command = c ∧ b.Reaches r' m) ∧
    ∀ β : Type, (Handler.nodeBindings : List (String × Handler β)).map Prod.fst =
      Vocabulary.published := by
  refine ⟨fun β g command ↦ ⟨g.get?_insertNode_of_not_published, g.exists_get?_insertNode⟩,
    fun b hb r ↦ ⟨Bench.exists_reaches_iff hb r, fun m h ↦ ((Bench.reaches_iff hb r m).1 h).1,
      Bench.declines_iff hb r, fun r' m h h' ↦ ?_, fun o ho ↦ ?_⟩,
    fun β ↦ Handler.map_fst_nodeBindings⟩
  · have hcommand := ((Bench.reaches_iff hb r m).1 h).1
    exact hcommand.symm.trans ((Bench.reaches_iff hb r' m).1 h').1
  · obtain ⟨hretired, hreplaced⟩ := Vocabulary.published_of_obsoleted ho
    refine ⟨(Bench.declines_iff hb r).2 hretired, fun c hc r' hr' ↦ ?_⟩
    subst hr'
    exact Bench.exists_reaches hb r' (hreplaced _ hc)

/-- A dispatcher that has nothing but the node. -/
def Channel.nodeOnly : Channel where
  security := .unsecured
  registry := Registry.empty.insertNode

/-- A query for a command, from nobody in particular. -/
def Request.asking (command : String) : Request where
  route := .empty
  command
  id := 7
  body := []
  security := .unsecured

/-- The two broadcasts reach two methods, and the retired one reaches none. -/
theorem node_answers_published_broadcast :
    let b := Bench.fresh .nodeOnly none
    b.Reaches (.asking "blockchain.broadcast") ⟨.blockchain, "broadcast"⟩ ∧
      b.Reaches (.asking "transaction_pool.broadcast") ⟨.transactionPool, "broadcast"⟩ ∧
      b.Declines (.asking "protocol.broadcast_transaction") := by
  intro b
  have hnode := node_answers_published.2.1 b rfl
  obtain ⟨hpublished, hspells, -⟩ := hnode (.asking "blockchain.broadcast")
  obtain ⟨m, hm⟩ := hpublished.2 (by decide)
  obtain ⟨-, -, -, -, hretired⟩ := hnode (.asking "protocol.broadcast_transaction")
  obtain ⟨hdeclined, hreplaced⟩ := hretired _ rfl
  obtain ⟨m', hcommand', hm'⟩ := hreplaced _ rfl (.asking "transaction_pool.broadcast") rfl
  have hcommand : m.command = Method.command ⟨.blockchain, "broadcast"⟩ := hspells m hm
  have hcommand' : m'.command = Method.command ⟨.transactionPool, "broadcast"⟩ := hcommand'
  exact ⟨Method.command_injective hcommand ▸ hm, Method.command_injective hcommand' ▸ hm',
    hdeclined⟩

end QueryDispatch
