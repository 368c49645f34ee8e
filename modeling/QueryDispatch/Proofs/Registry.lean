import Mathlib.Data.List.Dedup
import QueryDispatch.Proofs.Published

/-!
# The last binding of a command counts

Whatever is done to a registry, the registry is that of the list of all bindings made since it was
created, in the order in which they were made (`Registry.run_eq_ofList`). So it is enough to look at
the registry of a list, and there everything follows from two facts: the look-up finds the last
binding of a command (`Registry.get?_ofList_eq_some_iff`), and the entries are in strict order of
their names, which makes the listing of the commands one without repetitions.

`Registry.Reads` says what can be read of a registry in terms of a list of bindings, and commands
are compared there byte for byte.

## Main results

* `Registry.reads_ofList`: what can be read of the registry of a list.
* `Registry.last_binding_counts`: what can be read after any operations, what attaching and loading
  do then, and which handler a dispatcher gives a query to.
-/

namespace QueryDispatch

/-- Texts are compared by comparing their bytes. -/
theorem Wire.utf8_eq_iff {a b : String} : utf8 a = utf8 b ↔ a = b :=
  ⟨utf8_injective, congrArg utf8⟩

namespace Registry

section Bindings

variable {α : Type} {bindings : List (String × α)} {command : String} {handler : α}

/-! ### What can be read -/

/-- No binding is of this command. -/
def Unbound (bindings : List (String × α)) (command : String) : Prop :=
  ∀ b ∈ bindings, Wire.utf8 b.1 ≠ Wire.utf8 command

/-- The last binding of this command is to this handler. -/
def IsLast (bindings : List (String × α)) (command : String) (handler : α) : Prop :=
  ∃ before name after, bindings = before ++ (name, handler) :: after ∧
    Wire.utf8 name = Wire.utf8 command ∧ Unbound after command

/-- The registry reads as the map that these bindings make, the later ones over the earlier. -/
structure Reads (r : Registry α) (bindings : List (String × α)) : Prop where
  get?_eq_some_iff : ∀ command handler,
    r.get? command = some handler ↔ IsLast bindings command handler
  get?_eq_none_iff : ∀ command, r.get? command = none ↔ Unbound bindings command
  contains_iff : ∀ command, r.contains command = true ↔ (r.get? command).isSome = true
  size_eq : r.size = (bindings.map Prod.fst).dedup.length
  isEmpty_iff : r.isEmpty = true ↔ r.size = 0
  sorted_commands : r.commands.Pairwise fun a b ↦ Wire.utf8 a < Wire.utf8 b
  mem_commands_iff : ∀ command, command ∈ r.commands ↔ ¬ Unbound bindings command

/-! ### The listing of the commands -/

/-- A command has a binding if and only if something is found for it. -/
theorem mem_map_fst_iff_isSome_findIn {entries : List (String × α)} :
    command ∈ entries.map Prod.fst ↔ (findIn command entries).isSome = true := by
  induction entries with
  | nil => simp [findIn]
  | cons head rest ih =>
    obtain ⟨name, first⟩ := head
    rw [List.map_cons, List.mem_cons, ih, findIn]
    by_cases hname : name = command
    · simp [hname]
    · simp [hname, Ne.symm hname]

/-- The commands listed are those that are found. -/
theorem mem_commands_iff_isSome (r : Registry α) :
    command ∈ r.commands ↔ (r.get? command).isSome = true :=
  mem_map_fst_iff_isSome_findIn

/-- The commands of a registry are in the order of their bytes. -/
theorem pairwise_commands (r : Registry α) : r.commands.Pairwise precedes :=
  List.pairwise_map.2 r.sorted

/-- No command is listed twice. -/
theorem nodup_commands (r : Registry α) : r.commands.Nodup :=
  r.pairwise_commands.imp fun hlt heq ↦ by
    rw [heq] at hlt
    exact not_precedes_self _ hlt

/-! ### The registry of a list -/

/-- A command is bound if and only if it is among the names of the bindings. -/
theorem not_unbound_iff : ¬ Unbound bindings command ↔ command ∈ bindings.map Prod.fst := by
  unfold Unbound
  push Not
  rw [List.mem_map]
  exact exists_congr fun b ↦ and_congr_right fun _ ↦ Wire.utf8_eq_iff

/-- What is found in the registry of a list is what its last binding of the command says. -/
theorem get?_ofList (bindings : List (String × α)) (command : String) :
    (ofList bindings).get? command = (bindings.reverse.find? (·.1 = command)).map Prod.snd := by
  rw [ofList, get?_insertMany, get?_empty, Option.or_none]

/-- Nothing is found if and only if there is no binding. -/
theorem get?_ofList_eq_none_iff :
    (ofList bindings).get? command = none ↔ Unbound bindings command := by
  rw [get?_ofList, Option.map_eq_none_iff, List.find?_eq_none]
  refine forall_congr' fun b ↦ ?_
  rw [List.mem_reverse, decide_eq_true_eq, ← Wire.utf8_eq_iff]

/-- A handler is found if and only if it is that of the last binding. -/
theorem get?_ofList_eq_some_iff :
    (ofList bindings).get? command = some handler ↔ IsLast bindings command handler := by
  rw [get?_ofList]
  constructor
  · intro h
    obtain ⟨⟨name, _⟩, hfind, rfl⟩ := Option.map_eq_some_iff.1 h
    obtain ⟨hname, after, before, hreverse, hafter⟩ := List.find?_eq_some_iff_append.1 hfind
    refine ⟨before.reverse, name, after.reverse, ?_, ?_, fun b hb ↦ ?_⟩
    · rw [← List.reverse_reverse bindings, hreverse]
      simp
    · exact congrArg Wire.utf8 (of_decide_eq_true hname)
    · have hb' := hafter b (List.mem_reverse.1 hb)
      simpa [Wire.utf8_eq_iff] using hb'
  · rintro ⟨before, name, after, rfl, hname, hafter⟩
    obtain rfl := Wire.utf8_injective hname
    have hnone : after.reverse.find? (·.1 = name) = none := by
      refine List.find?_eq_none.2 fun b hb hb' ↦ ?_
      exact hafter b (List.mem_reverse.1 hb) (congrArg Wire.utf8 (of_decide_eq_true hb'))
    simp [List.find?_append, hnone]

/-- **The registry of a list reads as the map that the list makes.** -/
theorem reads_ofList (bindings : List (String × α)) : (ofList bindings).Reads bindings where
  get?_eq_some_iff _ _ := get?_ofList_eq_some_iff
  get?_eq_none_iff _ := get?_ofList_eq_none_iff
  contains_iff _ := Iff.rfl
  size_eq := by
    have hmem (c : String) :
        c ∈ (ofList bindings).commands ↔ c ∈ (bindings.map Prod.fst).dedup := by
      rw [List.mem_dedup, ← not_unbound_iff, ← get?_ofList_eq_none_iff, mem_commands_iff_isSome,
        Option.isSome_iff_ne_none]
    have hperm := (List.perm_ext_iff_of_nodup (nodup_commands _) (List.nodup_dedup _)).2 hmem
    rw [← hperm.length_eq, commands, List.length_map, size]
  isEmpty_iff := List.isEmpty_iff_length_eq_zero
  sorted_commands := pairwise_commands _
  mem_commands_iff c := by
    rw [mem_commands_iff_isSome, ← get?_ofList_eq_none_iff, Option.isSome_iff_ne_none]

end Bindings

/-! ### What is done to a registry -/

section Operations

variable {β : Type}

/-- What can be done to a registry. -/
inductive Operation (β : Type) where
  | attach (command : String) (handler : Handler β)
  | load (bindings : List (String × Handler β))
  /-- Makes the registry anew from a list. -/
  | create (bindings : List (String × Handler β))
  /-- Gives every published command to a node, by what it answers each method with. -/
  | attachInterface (node : Method → Handler β)

namespace Operation

/-- What the operation makes of a registry. -/
def apply (r : Registry (Handler β)) : Operation β → Registry (Handler β)
  | .attach command handler => (r.exchange command handler).2
  | .load bindings => r.insertMany bindings
  | .create bindings => ofList bindings
  | .attachInterface node => r.insertInterface node

/-- The bindings made since the registry was created, after one operation more. -/
def note (made : List (String × Handler β)) : Operation β → List (String × Handler β)
  | .attach command handler => made ++ [(command, handler)]
  | .load bindings => made ++ bindings
  | .create bindings => bindings
  | .attachInterface node => made ++ Handler.interfaceBindings node

end Operation

/-- The registry that a list of operations leaves, from an empty one. -/
def run (ops : List (Operation β)) : Registry (Handler β) := ops.foldl Operation.apply .empty

/-- The bindings that a list of operations made since the registry was created, in their order. -/
def made (ops : List (Operation β)) : List (String × Handler β) := ops.foldl Operation.note []

/-- Further operations start from the registry that the first ones leave. -/
theorem run_append (ops more : List (Operation β)) :
    run (ops ++ more) = more.foldl Operation.apply (run ops) :=
  List.foldl_append

/-- The registry of a longer list is that of its first part with the rest loaded. -/
theorem ofList_append {α : Type} (xs ys : List (String × α)) :
    ofList (xs ++ ys) = (ofList xs).insertMany ys :=
  insertMany_append _ xs ys

/-- An operation on the registry of a list leaves the registry of another. -/
theorem Operation.apply_ofList (bindings : List (String × Handler β)) (op : Operation β) :
    op.apply (ofList bindings) = ofList (op.note bindings) := by
  cases op with
  | attach command handler => exact (ofList_append bindings [(command, handler)]).symm
  | load more => exact (ofList_append bindings more).symm
  | create anew => rfl
  | attachInterface node => exact (ofList_append bindings (Handler.interfaceBindings node)).symm

/-- **A registry is that of the bindings made since it was created.** -/
theorem run_eq_ofList (ops : List (Operation β)) : run ops = ofList (made ops) := by
  have hrun : ∀ bindings : List (String × Handler β),
      ops.foldl Operation.apply (ofList bindings) = ofList (ops.foldl Operation.note bindings) := by
    induction ops with
    | nil => exact fun _ ↦ rfl
    | cons op rest ih =>
      intro bindings
      rw [List.foldl_cons, List.foldl_cons, op.apply_ofList, ih]
  exact hrun []

/-- To load a list is to attach its bindings one by one. -/
theorem foldl_attach (r : Registry (Handler β)) (bindings : List (String × Handler β)) :
    (bindings.map fun b ↦ Operation.attach b.1 b.2).foldl Operation.apply r =
      r.insertMany bindings := by
  rw [List.foldl_map]
  rfl

end Operations

end Registry

/-! ### Queries -/

namespace Bench

variable {b : Bench} {frames : Frames} {r : Request}

/-- A query goes to the handler its command is bound to, as it was read. -/
theorem invokes_of_get? {handler : Handler Binding}
    (hdecode : Request.decode b.channel.security frames = .ok r)
    (hget : b.channel.registry.get? r.command = some handler) :
    b.judge (.message frames) = .accepted handler r ∧
      (b.report (.receive (.message frames))).events.filter Event.isInvocation =
        [.invoked (handler.map Binding.number) (b.channel.ticket b.dispatcher.arrivals r)] := by
  have hjudge : b.judge (.message frames) = .accepted handler r := by
    simp only [judge, Channel.judge, hdecode, hget]
  refine ⟨hjudge, ?_⟩
  rw [events_report_receive, filter_isInvocation_dispatchEvents, hjudge, Channel.events]
  split <;> rfl

/-- A query whose command is not bound goes to no handler. -/
theorem invokes_none_of_get? (hdecode : Request.decode b.channel.security frames = .ok r)
    (hget : b.channel.registry.get? r.command = none) :
    b.judge (.message frames) = .unknown r ∧
      (b.report (.receive (.message frames))).events.filter Event.isInvocation = [] := by
  have hjudge : b.judge (.message frames) = .unknown r := by
    simp only [judge, Channel.judge, hdecode, hget]
  refine ⟨hjudge, ?_⟩
  rw [events_report_receive, filter_isInvocation_dispatchEvents, hjudge]
  rfl

end Bench

namespace Registry

/-- **A registry is a map in which the last write wins.** After any operations it reads as the map
that the bindings made since it was created make, the later over the earlier. To attach a command
then hands back what was found for it before, and what is found for every other command stays. To
load a list is to load its parts, and to attach its bindings one by one. A dispatcher with this
registry gives a query, as it was read, to the handler of the last binding of its command and to no
other, and to none if there was no such binding. -/
theorem last_binding_counts :
    (∀ (β : Type) (ops : List (Operation β)),
      (run ops).Reads (made ops) ∧
      (∀ command handler,
        ((run ops).exchange command handler).1 = (run ops).get? command ∧
        ((run ops).exchange command handler).2 = run (ops ++ [.attach command handler]) ∧
        ∀ name, name ≠ command →
          (run (ops ++ [.attach command handler])).get? name = (run ops).get? name) ∧
      ∀ xs ys,
        run (ops ++ [.load (xs ++ ys)]) = run (ops ++ [.load xs, .load ys]) ∧
        run (ops ++ [.load xs]) = run (ops ++ xs.map fun b ↦ .attach b.1 b.2)) ∧
    ∀ (ops : List (Operation Binding)) (b : Bench), b.channel.registry = run ops →
      ∀ frames r, Request.decode b.channel.security frames = .ok r →
        (∀ handler, IsLast (made ops) r.command handler →
          b.judge (.message frames) = .accepted handler r ∧
          (b.report (.receive (.message frames))).events.filter Event.isInvocation =
            [.invoked (handler.map Binding.number) (b.channel.ticket b.dispatcher.arrivals r)]) ∧
        (Unbound (made ops) r.command →
          b.judge (.message frames) = .unknown r ∧
          (b.report (.receive (.message frames))).events.filter Event.isInvocation = []) := by
  have hreads : ∀ (β : Type) (ops : List (Operation β)), (run ops).Reads (made ops) :=
    fun β ops ↦ run_eq_ofList ops ▸ reads_ofList _
  refine ⟨fun β ops ↦ ⟨hreads β ops, fun command handler ↦ ?_, fun xs ys ↦ ?_⟩,
    fun ops b hb frames r hdecode ↦ ⟨fun handler hlast ↦ ?_, fun hunbound ↦ ?_⟩⟩
  · have hrun : run (ops ++ [.attach command handler]) = (run ops).insert command handler :=
      run_append ops _
    refine ⟨rfl, hrun.symm, fun name hne ↦ ?_⟩
    rw [hrun, get?_insert, if_neg hne]
  · refine ⟨?_, ?_⟩
    · rw [run_append, run_append]
      exact insertMany_append _ xs ys
    · rw [run_append, run_append, foldl_attach]
      rfl
  · exact Bench.invokes_of_get? hdecode (hb ▸ ((hreads _ ops).get?_eq_some_iff _ _).2 hlast)
  · exact Bench.invokes_none_of_get? hdecode (hb ▸ ((hreads _ ops).get?_eq_none_iff _).2 hunbound)

/-- A command attached, and then loaded with another. -/
def attachedThenLoaded : List (Operation Binding) := [
  .attach "b" (.custom ⟨0, .echo⟩),
  .load [("a", .custom ⟨1, .silent⟩), ("b", .custom ⟨2, .notFound⟩)]]

/-- A later binding in a loaded list counts, and names are not alike in another case. -/
theorem last_binding_counts_attachedThenLoaded :
    let b : Bench := { dispatcher := { channel := {
      security := .unsecured, registry := run attachedThenLoaded } } }
    ((run attachedThenLoaded).exchange "c" (.custom ⟨3, .echo⟩)).2.get? "b" =
        some (.custom ⟨2, .notFound⟩) ∧
      b.judge (.message (Request.asking "b").encode) =
        .accepted (.custom ⟨2, .notFound⟩) (.asking "b") ∧
      b.judge (.message (Request.asking "B").encode) = .unknown (.asking "B") := by
  intro b
  obtain ⟨hmap, hqueries⟩ := last_binding_counts
  obtain ⟨hreads, hattach, -⟩ := hmap Binding attachedThenLoaded
  have hlast : IsLast (made attachedThenLoaded) "b" (.custom ⟨2, .notFound⟩) :=
    ⟨[("b", .custom ⟨0, .echo⟩), ("a", .custom ⟨1, .silent⟩)], "b", [], rfl, rfl, nofun⟩
  have hunbound : Unbound (made attachedThenLoaded) "B" := fun p hp ↦ by
    simp only [made, attachedThenLoaded, List.foldl_cons, List.foldl_nil, Operation.note,
      List.nil_append, List.cons_append, List.mem_cons, List.not_mem_nil, or_false] at hp
    rcases hp with rfl | rfl | rfl <;> decide
  have hother := (hattach "c" (.custom ⟨3, .echo⟩)).2.2 "b" (by decide)
  refine ⟨hother.trans ((hreads.get?_eq_some_iff _ _).2 hlast), ?_, ?_⟩
  · exact ((hqueries attachedThenLoaded b rfl _ (.asking "b") rfl).1 _ hlast).1
  · exact ((hqueries attachedThenLoaded b rfl _ (.asking "B") rfl).2 hunbound).1

end Registry

end QueryDispatch
