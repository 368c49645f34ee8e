import QueryDispatch.Proofs.Hub.Fate
import QueryDispatch.Proofs.Session.Chronicle
import QueryDispatch.Proofs.Session.Moves

/-!
# Nothing unexpected comes of the transport

What is done from outside is chronicled like what workers and handlers do, and so is a session as a
whole: one in which everyone runs after each step, and also one in which services, workers and
handlers move in any order whatever.

What was done on the hub of a session is therefore known, with its answers, and everything that the
transport guarantees applies to it. The account of all replies (`Fated`) becomes an account of what
a worker counts.

## Main results

* `Chronicle.act`, `Chronicle.run`: what is done from outside, and in a list of steps, is as listed.
* `Chronicle.interleave`: and so is what is done in any order.
* `transport_is_uneventful`: nothing unexpected comes of the transport.
-/

namespace QueryDispatch.Session

variable {settings : Settings} {registry : Registry (Handler Binding)} {s : Session} {k : Nat}
  {inHand : List OpenTicket} {handed handed' : Nat → List Frames} {done : List Hub.Operation}

/-! ### Services -/

namespace Recorded

variable (hr : s.Recorded registry inHand handed done)

include hr

/-- **An operation done from outside.** No worker takes note of it, and no service is dropped that
has a name. -/
theorem onHub {o : Hub.Operation} (ho : o.dealer? = none)
    (huneventful : Hub.Moment.Uneventful ⟨s.hub, o, (s.hub.apply o).1⟩)
    (hnamed : ∀ name k, s.services.get? name = some k → o ≠ .unbind k)
    (hhanded : ∀ k, handed' k =
      handed k ++ (Hub.Moment.collected? ⟨s.hub, o, (s.hub.apply o).1⟩ k).toList) :
    (s.onHub (s.hub.apply o).2).Recorded registry inHand handed' (done ++ [o]) where
  hub := hr.run_snoc o
  uneventful := hr.uneventful_snoc huneventful
  collected k := by rw [hr.past_snoc, Hub.Past.collected_snoc, hr.collected, hhanded]
  served name k hk := Hub.isServed_apply (hr.served name k hk) (hnamed name k hk)
  named := hr.named
  distinct := hr.distinct
  members w m hm := by
    have hne : o.dealer? ≠ some m.dealer := by
      rw [ho]
      exact nofun
    rw [hr.past_snoc]
    exact (hr.members w m hm).of_ne hne (List.prefix_refl _)
  harmless := hr.harmless

/-- A service that has no name is dropped. -/
theorem dismiss (hserved : s.hub.isServed k = true)
    (hunnamed : ∀ name, s.services.get? name ≠ some k) :
    (s.onHub (s.hub.unbind k)).Recorded registry inHand handed (done ++ [.unbind k]) := by
  have happly := Hub.apply_unbind_of_isServed hserved
  have hdropped : (s.onHub (s.hub.apply (.unbind k)).2).Recorded registry inHand handed
      (done ++ [.unbind k]) := by
    refine hr.onHub rfl ?_ (fun name j hj heq ↦ ?_) ?_
    · rw [happly]
      exact Hub.Answer.noConfusion
    · cases heq
      exact hunnamed name hj
    · rw [happly]
      exact fun _ ↦ (List.append_nil _).symm
  rw [happly] at hdropped
  exact hdropped

/-- Names are given to services that live, one to each. -/
theorem rename (services : Table Nat)
    (hserved : ∀ name k, services.get? name = some k → s.hub.isServed k = true)
    (hnamed : ∀ name name' k, services.get? name = some k → services.get? name' = some k →
      name = name') :
    ({ s with services } : Session).Recorded registry inHand handed done :=
  ⟨hr.hub, hr.uneventful, hr.collected, hserved, hnamed, hr.distinct, hr.members, hr.harmless⟩

/-- A service that has no name yet gets one. -/
theorem christen (hserved : s.hub.isServed k = true)
    (hunnamed : ∀ name, s.services.get? name ≠ some k) (name : String) :
    ({ s with services := s.services.insert name k } : Session).Recorded registry inHand handed
      done := by
  refine hr.rename _ (fun other j hj ↦ ?_) fun other other' j hj hj' ↦ ?_
  · rw [Table.get?_insert] at hj
    split at hj
    · exact Option.some.inj hj ▸ hserved
    · exact hr.served other j hj
  · rw [Table.get?_insert] at hj hj'
    split at hj <;> split at hj'
    · next hother hother' => exact hother.trans hother'.symm
    · cases hj
      exact absurd hj' (hunnamed other')
    · cases hj'
      exact absurd hj (hunnamed other)
    · exact hr.named other other' j hj hj'

/-- A name is forgotten. -/
theorem forget (name : String) :
    ({ s with services := s.services.erase name } : Session).Recorded registry inHand handed
      done := by
  have hkept : ∀ {other j}, (s.services.erase name).get? other = some j →
      s.services.get? other = some j := by
    intro other j hj
    rw [Table.get?_erase] at hj
    split at hj
    · cases hj
    · exact hj
  exact hr.rename _ (fun other j hj ↦ hr.served other j (hkept hj)) fun other other' j hj hj' ↦
    hr.named other other' j (hkept hj) (hkept hj')

/-- To bind is recorded with its operation. -/
theorem bind (name : String) (security : Security) :
    (s.bind name security).2.Recorded registry inHand handed
      (done ++ s.bindOperations name security) := by
  rw [Session.bind, bindOperations]
  set address := s.settings.endpoint security
  set mark := s.settings.highWaterMark
  have htried (hanswer : (s.hub.apply (.bind address mark)).1 ≠ .absent) :
      (s.onHub (s.hub.apply (.bind address mark)).2).Recorded registry inHand handed
        (done ++ [.bind address mark]) :=
    hr.onHub rfl hanswer (fun _ _ _ ↦ Hub.Operation.noConfusion) fun _ ↦ (List.append_nil _).symm
  rw [Hub.apply] at htried
  rcases hbind : s.hub.bind address mark with (other | -) | ⟨k, hub⟩
  all_goals
    rw [hbind] at htried
    have hbound := htried Hub.Answer.noConfusion
  · exact hbound
  · exact hbound
  · obtain ⟨hk, hhub⟩ := Hub.eq_of_bind hbind
    have hserved : hub.isServed k = true := by
      rw [hk, hhub, Hub.isServed, List.getElem?_concat_length]
      rfl
    -- the service is new, so that it has no name yet
    have hnew : ∀ other, s.services.get? other ≠ some k := fun other hother ↦ by
      obtain ⟨l, hl, -⟩ := (Option.any_eq_true ..).1 (hr.served other k hother)
      exact Nat.ne_of_lt (List.getElem?_eq_some_iff.1 hl).1 hk
    have hnamed := hbound.christen hserved hnew name
    rcases hold : s.services.get? name with - | old
    · exact hnamed
    · have hdropped := hnamed.dismiss (hbound.served name old hold) fun other hother ↦ ?_
      · rw [List.append_assoc] at hdropped
        exact hdropped
      · rw [Table.get?_insert] at hother
        split at hother
        · exact hnew name (hold.trans (Option.some.inj hother ▸ rfl))
        · next hne => exact hne (hr.named other name old hother hold)

/-- To unbind is recorded with its operation. -/
theorem unbind (name : String) :
    (s.unbind name).2.Recorded registry inHand handed
      (done ++ s.serviceOperations name fun k ↦ [.unbind k]) := by
  rw [Session.unbind, serviceOperations]
  rcases hk : s.services.get? name with - | k
  · rw [List.append_nil]
    exact hr
  · refine (hr.forget name).dismiss (hr.served name k hk) fun other hother ↦ ?_
    rw [Table.get?_erase] at hother
    split at hother
    · cases hother
    · next hne => exact hne (hr.named other name k hother hk)

/-- To deliver is recorded with one operation for each message. -/
theorem deliver (hserved : s.hub.isServed k = true) (messages : List Frames) :
    (s.onHub (Session.deliver s.hub k messages).2).Recorded registry inHand handed
      (done ++ messages.map (.deliver k)) := by
  induction messages generalizing s done with
  | nil =>
    rw [List.map_nil, List.append_nil]
    exact hr
  | cons frames rest ih =>
    have happly := Hub.apply_deliver_of_isServed hserved frames
    have hdelivered : (s.onHub (s.hub.apply (.deliver k frames)).2).Recorded registry inHand handed
        (done ++ [.deliver k frames]) := by
      refine hr.onHub rfl ?_ (fun _ _ _ ↦ Hub.Operation.noConfusion) fun j ↦ ?_
      · rw [happly]
        rcases (s.hub.deliver k frames).1 <;> exact Hub.Answer.noConfusion
      · rw [happly]
        rcases (s.hub.deliver k frames).1 <;> exact (List.append_nil _).symm
    have hrest := ih hdelivered (Hub.isServed_apply hserved Hub.Operation.noConfusion)
    rw [List.append_assoc, happly] at hrest
    exact hrest

/-- To collect is recorded with its operation, and what it gives is handed out. -/
theorem collect (hserved : s.hub.isServed k = true) :
    (s.onHub (s.hub.collect k).2).Recorded registry inHand
      (fun j ↦ handed j ++ if k = j then (s.hub.collect k).1.message?.toList else [])
      (done ++ [.collect k]) := by
  have happly := Hub.apply_collect_of_isServed hserved
  have hcollected : (s.onHub (s.hub.apply (.collect k)).2).Recorded registry inHand
      (fun j ↦ handed j ++ if k = j then (s.hub.collect k).1.message?.toList else [])
      (done ++ [.collect k]) := by
    refine hr.onHub rfl ?_ (fun _ _ _ ↦ Hub.Operation.noConfusion) fun j ↦ ?_
    · rw [happly]
      rcases (s.hub.collect k).1 <;> exact Hub.Answer.noConfusion
    · rw [happly, Hub.Moment.collected?_ofCollected]
      split <;> rfl
  rw [happly] at hcollected
  exact hcollected

/-- To drain is recorded with one operation for each reply, and the replies are handed out. -/
theorem drain (hserved : s.hub.isServed k = true) {l : Link} (hl : s.hub.links[k]? = some l)
    {n : Nat} (hn : n ≤ l.replies.length) :
    (s.onHub (Session.drain s.hub k n).2).Recorded registry inHand
      (fun j ↦ handed j ++ if k = j then (Session.drain s.hub k n).1 else [])
      (done ++ List.replicate n (.collect k)) := by
  induction n generalizing s l done handed with
  | zero =>
    simp only [Session.drain, List.replicate, ite_self, List.append_nil]
    exact hr
  | succ n ih =>
    obtain ⟨frames, rest, hreplies⟩ := List.exists_cons_of_length_pos (Nat.zero_lt_of_lt hn)
    set hub := s.hub.updateLink k fun l ↦ { l with replies := rest } with hhub
    have hcollect : s.hub.collect k = (.message frames, hub) := by
      rw [Hub.collect, hl]
      dsimp only
      rw [hreplies]
    have hfirst := hr.collect hserved
    rw [hcollect] at hfirst
    have hserved' : hub.isServed k = true := by
      have hkeeps := Hub.isServed_apply (o := .collect k) hserved Hub.Operation.noConfusion
      rwa [Hub.apply_collect_of_isServed hserved, hcollect] at hkeeps
    have hl' : hub.links[k]? = some { l with replies := rest } := by
      rw [hhub, Hub.getElem?_updateLink, hl, Option.map_some, if_pos rfl]
    rw [hreplies] at hn
    have hrest := ih hfirst hserved' hl' (Nat.le_of_succ_le_succ hn)
    rw [List.append_assoc] at hrest
    have hhanded : (fun j ↦ handed j ++ if k = j then (Session.drain s.hub k (n + 1)).1 else []) =
        fun j ↦ (handed j ++ if k = j then [frames] else []) ++
          if k = j then (Session.drain hub k n).1 else [] := by
      funext j
      rw [Session.drain, hcollect]
      split
      · exact List.append_cons ..
      · rw [List.append_nil, List.append_nil]
    rw [hhanded, Session.drain, hcollect]
    exact hrest

/-! ### Workers -/

/-- **A worker is taken on** whose dealer nobody has, and through whom nothing is kept. -/
theorem enlist {m : Member}
    (hbooked : m.IsBooked registry (({} : Hub).past done) s.hub s.trace 0)
    (hnew : ∀ (v : Nat) (m' : Member), s.workers[v]? = some m' → m'.dealer ≠ m.dealer)
    (hkept : ∀ t ∈ inHand ++ s.kept, t.worker < s.workers.length) (names : Table Nat) :
    ({ s with workers := s.workers ++ [m], names } : Session).Recorded registry inHand handed
      done := by
  have hworker : ∀ {v : Nat} {m' : Member}, (s.workers ++ [m])[v]? = some m' →
      s.workers[v]? = some m' ∨ v = s.workers.length ∧ m' = m := by
    intro v m' hm'
    rw [List.getElem?_append] at hm'
    split at hm'
    · exact .inl hm'
    · next hge =>
      rw [List.getElem?_singleton] at hm'
      split at hm'
      · exact .inr ⟨by omega, (Option.some.inj hm').symm⟩
      · cases hm'
  refine ⟨hr.hub, hr.uneventful, hr.collected, hr.served, hr.named,
    fun v w m₁ m₂ hm₁ hm₂ hne ↦ ?_, fun v m' hm' ↦ ?_, hr.harmless⟩
  · rcases hworker hm₁ with hold₁ | ⟨hv, rfl⟩
    · rcases hworker hm₂ with hold₂ | ⟨-, rfl⟩
      · exact hr.distinct v w m₁ m₂ hold₁ hold₂ hne
      · exact hnew v m₁ hold₁
    · rcases hworker hm₂ with hold₂ | ⟨hw, -⟩
      · exact (hnew w m₂ hold₂).symm
      · exact absurd (hv.trans hw.symm) hne
  · rcases hworker hm' with hold | ⟨rfl, rfl⟩
    · exact hr.members v m' hold
    · have hnone : openThrough (inHand ++ s.kept) s.workers.length = 0 :=
        List.countP_eq_zero.2 fun t ht ↦ by
          rw [beq_iff_eq]
          exact Nat.ne_of_lt (hkept t ht)
      show m'.IsBooked _ _ _ _ (openThrough (inHand ++ s.kept) s.workers.length)
      rw [hnone]
      exact hbooked

/-- To start a worker is recorded with the dealer that it creates. -/
theorem start (hp : s.Placed) (hinHand : inHand = []) (name : String) (security : Security) :
    (s.start name security).Recorded registry inHand handed (done ++ [.create]) := by
  have hcreated : (s.onHub s.hub.newDealer.2).Recorded registry inHand handed (done ++ [.create]) :=
    hr.onHub (o := .create) rfl Hub.Answer.noConfusion (fun _ _ _ ↦ Hub.Operation.noConfusion)
      fun _ ↦ (List.append_nil _).symm
  have hd : s.hub.newDealer.2.dealers[s.hub.dealers.length]? = some {} :=
    List.getElem?_concat_length
  have hunconnected : s.hub.newDealer.2.Unconnected s.hub.dealers.length := fun dealer hdealer ↦ by
    obtain rfl := Option.some.inj (hd.symm.trans hdealer)
    rfl
  have hreceived := (Hub.Conserved.of_leadsTo hcreated.leadsTo).fresh _ hunconnected
  have hreplied := (Hub.Fated.of_leadsTo hcreated.leadsTo).silent _ hunconnected
  have hexits (exit : Exit) (hexit : none = some exit) :
      exit.IsRegular registry s.trace security (s.settings.endpoint security) := nomatch hexit
  refine hcreated.enlist ⟨congrArg _ hd, hexits, ?_, ?_, ?_, rfl⟩ (fun v m hm ↦ ?_)
    (fun t ht ↦ ?_) _
  · rw [hreceived]
    rfl
  · rw [hreceived]
    rfl
  · rw [hreplied]
    rfl
  · exact Nat.ne_of_lt (Hub.lt_length_of_custody? (hr.members v m hm).custody)
  · rw [hinHand] at ht
    obtain ⟨m, hm, -⟩ := hp.tickets t ht
    exact (List.getElem?_eq_some_iff.1 hm).1

/-- To send is recorded with its operations. -/
theorem send (name : String) (messages : List Frames) :
    (s.act (.send name messages)).2.Recorded registry inHand handed
      (done ++ s.actOperations (.send name messages)) := by
  rw [act, withService, actOperations, serviceOperations]
  rcases hk : s.services.get? name with - | k
  · rw [List.append_nil]
    exact hr
  · exact hr.deliver (hr.served name k hk) messages

/-- Replies are taken of the service that the name stands for. -/
theorem withService (name : String) {f : Nat → Answer × Hub} {does : Nat → List Hub.Operation}
    (hf : ∀ k, s.services.get? name = some k → (s.onHub (f k).2).Recorded registry inHand
      (fun j ↦ handed j ++ if k = j then (f k).1.frames else []) (done ++ does k)) :
    (s.withService name f).2.Recorded registry inHand
      (fun j ↦ handed j ++
        if s.services.get? name = some j then (s.withService name f).1.frames else [])
      (done ++ s.serviceOperations name does) := by
  rw [Session.withService, serviceOperations]
  rcases hk : s.services.get? name with - | k
  · simp only [reduceCtorEq, if_false, List.append_nil]
    exact hr
  · simp only [Option.some.injEq]
    exact hf k hk

/-- A request to stop asks nothing of the hub. -/
theorem requestStop (w : Nat) : (s.requestStop w).Recorded registry inHand handed done := by
  refine hr.update ?_ w
  exact fun _ ↦ rfl

/-- To join asks nothing of the hub. -/
theorem join (w : Nat) : (s.join w).2.Recorded registry inHand handed done := by
  refine hr.update ?_ w
  exact fun _ ↦ rfl

/-- What is done on a worker by its name is recorded if it is so for every worker. -/
theorem attend {f : Nat → Answer × Session} (name : String)
    (hf : ∀ w, (f w).2.Recorded registry inHand handed done) :
    (s.attend name f).2.Recorded registry inHand handed done := by
  rw [Session.attend]
  split
  · exact hr
  · split
    · exact hf _
    · exact hr

end Recorded

namespace Chronicle

variable (hc : s.Chronicle settings registry [] handed done)

include hc

/-- To release a ticket is recorded with its operations. -/
theorem release (index : Nat) (behaviour : Behaviour) :
    (s.releaseAt index behaviour).2.Chronicle settings registry [] handed
      (done ++ s.actOperations (.release index behaviour)) := by
  rw [releaseAt, actOperations]
  rcases ht : s.parked[index]? with - | t
  · rw [List.append_nil]
    exact hc
  · obtain ⟨hlt, rfl⟩ := List.getElem?_eq_some_iff.1 ht
    exact hc.decideKept ((List.getElem_cons_eraseIdx_perm hlt).append_right s.deferred) behaviour

/-- To shut a worker down is recorded with its operations. -/
theorem shutdown (name : String) :
    (s.act (.shutdown name)).2.Chronicle settings registry [] handed
      (done ++ s.actOperations (.shutdown name)) := by
  have hrests : s.Chronicle settings registry [] handed (done ++ []) := by
    rw [List.append_nil]
    exact hc
  rw [act, attend, actOperations]
  rcases s.names.get? name with - | w
  · exact hrests
  · dsimp only
    split
    · have hstops := hc.continues.requestStop w
      have hasked : (s.requestStop w).Chronicle settings registry [] handed done :=
        ⟨hstops.sound, hstops.placed, hc.recorded.requestStop w⟩
      have hturned := hasked.turn w
      have hjoined := hturned.continues.join w
      exact ⟨hjoined.sound, hjoined.placed, hturned.recorded.join w⟩
    · exact hrests

/-- **What is done from outside is as listed**, with what it hands out. -/
theorem act (st : Step) :
    (s.act st).2.Chronicle settings registry [] (fun k ↦ handed k ++ s.handed k st)
      (done ++ s.actOperations st) := by
  refine ⟨hc.sound.act st, (account_act hc.sound hc.placed st).1, ?_⟩
  have hr := hc.recorded
  have hquiet (hsource : st.source? = none) (hacted : (s.act st).2.Recorded registry [] handed
      (done ++ s.actOperations st)) : (s.act st).2.Recorded registry []
        (fun k ↦ handed k ++ s.handed k st) (done ++ s.actOperations st) := by
    have hnothing : (fun k ↦ handed k ++ s.handed k st) = handed := by
      funext k
      rw [Session.handed, hsource, Option.bind_none, if_neg nofun, List.append_nil]
    rw [hnothing]
    exact hacted
  cases st with
  | bind name security => exact hquiet rfl (hr.bind name security)
  | unbind name => exact hquiet rfl (hr.unbind name)
  | start name security => exact hquiet rfl (hr.start hc.placed rfl name security)
  | send name messages => exact hquiet rfl (hr.send name messages)
  | drain name =>
    refine hr.withService name fun k hk ↦ ?_
    have hserved := hr.served name k hk
    obtain ⟨l, hl, -⟩ := (Option.any_eq_true ..).1 hserved
    have hqueued : queued s.hub k = l.replies.length := by
      rw [queued, hl]
      rfl
    exact hr.drain hserved hl (Nat.le_of_eq hqueued)
  | collect name => exact hr.withService name fun k hk ↦ hr.collect (hr.served name k hk)
  | stop name =>
    refine hquiet rfl ?_
    rw [actOperations, List.append_nil]
    exact hr.attend name hr.requestStop
  | join name =>
    refine hquiet rfl ?_
    rw [actOperations, List.append_nil]
    exact hr.attend name hr.join
  | shutdown name => exact hquiet rfl (hc.shutdown name).recorded
  | release index behaviour => exact hquiet rfl (hc.release index behaviour).recorded

/-- **A step does what is listed for it.** -/
theorem step (st : Step) :
    (s.step st).Chronicle settings registry [] (fun k ↦ handed k ++ s.handed k st)
      (done ++ s.stepOperations st) := by
  rw [stepOperations, ← List.append_assoc]
  exact (hc.act st).settle

omit hc in
/-- **And so does a list of steps.** -/
theorem run (hc : s.Chronicle settings registry [] handed done) (steps : List Step) :
    (s.run steps).Chronicle settings registry [] (fun k ↦ handed k ++ s.handedAll k steps)
      (done ++ s.operations steps) := by
  induction steps generalizing s handed done with
  | nil =>
    rw [operations, along, List.append_nil]
    simp only [handedAll, List.append_nil]
    exact hc
  | cons st rest ih =>
    have hrest := ih (hc.step st)
    simp only [List.append_assoc] at hrest
    exact hrest

end Chronicle

/-- Nothing is recorded of a fresh session. -/
theorem recorded_fresh (settings : Settings) (registry : Registry (Handler Binding)) :
    (fresh settings registry).Recorded registry [] (fun _ ↦ []) [] where
  hub := rfl
  uneventful _ hm := by cases hm
  collected _ := rfl
  served _ _ hk := by cases hk
  named _ _ _ hk := by cases hk
  distinct _ _ _ _ hm := by cases hm
  members _ _ hm := by cases hm
  harmless _ hn := by cases hn

/-- A fresh session has an empty chronicle. -/
theorem chronicle_fresh (settings : Settings) (registry : Registry (Handler Binding)) :
    (fresh settings registry).Chronicle settings registry [] (fun _ ↦ []) [] where
  sound := sound_fresh settings registry
  placed := placed_run settings registry []
  recorded := recorded_fresh settings registry

/-! ### Interleavings -/

/-- An echo is recorded with its operations. -/
theorem Chronicle.echoAt (hc : s.Chronicle settings registry [] handed done) (index : Nat) :
    (s.echoAt index).Chronicle settings registry [] handed
      (done ++ s.moveOperations (.echo index)) := by
  rw [Session.echoAt, moveOperations]
  rcases ht : s.deferred[index]? with - | t
  · rw [List.append_nil]
    exact hc
  · obtain ⟨hlt, rfl⟩ := List.getElem?_eq_some_iff.1 ht
    have htaken := (List.getElem_cons_eraseIdx_perm hlt).append_left s.parked
    exact hc.decideKept (List.perm_middle.symm.trans htaken) .echo

/-- **Whoever moves does what is listed**, in whatever order they move. -/
theorem Chronicle.interleave (hc : s.Chronicle settings registry [] handed done)
    (moves : List Move) :
    (s.interleave moves).Chronicle settings registry []
      (fun k ↦ handed k ++ s.handedAmong k moves) (done ++ s.interleaveOperations moves) := by
  induction moves generalizing s handed done with
  | nil =>
    rw [interleaveOperations, along, List.append_nil]
    simp only [handedAmong, List.append_nil]
    exact hc
  | cons move rest ih =>
    rw [interleaveOperations, along, ← List.append_assoc]
    cases move with
    | act st =>
      have hrest := ih (hc.act st)
      simp only [List.append_assoc] at hrest ⊢
      exact hrest
    | advance w => exact ih (hc.advance w)
    | echo index => exact ih (hc.echoAt index)

/-! ### Every session -/

/-- **Nothing unexpected comes of the transport**, in whatever order services, workers and handlers
move, and whatever steps are taken from there. (With no moves, these are all sessions in which
everyone runs after each step.)

What is done on the hub is listed, and nothing in the answers is more than a service can bring about
as it comes and goes. So workers end in order, or for want of an address to connect to, or with a
handler that broke down; nothing is logged as a warning, and only a failure to connect as an error.

All that a worker receives is messages, and those it counts as malformed are those that do not
decode. Of the replies sent through it, which it counts, its service took some and has others
queued. The rest found no room, or no service, or were queued as their service went. -/
theorem transport_is_uneventful (settings : Settings) (registry : Registry (Handler Binding))
    (moves : List Move) (steps : List Step) :
    let z := (fresh settings registry).interleave moves
    let s := z.run steps
    let done := (fresh settings registry).interleaveOperations moves ++ z.operations steps
    let p := ({} : Hub).past done
    let taken := fun k ↦ (fresh settings registry).handedAmong k moves ++ z.handedAll k steps
    s.hub = ({} : Hub).run done ∧
    (∀ moment ∈ p, moment.Uneventful) ∧
    (∀ n, .noted n ∈ s.trace → n.severity ≠ .warn ∧
      (n.severity = .error → n.message = "Failed to connect query worker")) ∧
    ∀ (w : Nat) (m : Member), s.workers[w]? = some m →
      (∀ exit, m.exit = some exit → exit.IsRegular registry s.trace m.security m.endpoint) ∧
      m.tally.sendFailures = 0 ∧
      m.tally.received = .ofNat (p.received m.dealer).length ∧
      m.tally.malformed =
        .ofNat ((p.received m.dealer).countP (Request.isUndecodable m.security)) ∧
      m.tally.responsesSent = .ofNat (p.replied m.dealer).length ∧
      (p.replied m.dealer ≠ [] →
        ∃ (k : Nat) (l : Link), s.hub.links[k]? = some l ∧ l.taker = some m.dealer) ∧
      ∀ (k : Nat) (l : Link), s.hub.links[k]? = some l → l.taker = some m.dealer →
        p.queued m.dealer = taken k ++ (p.stranded k ++ l.replies) ∧
        (p.replied m.dealer).length = ((taken k).length + l.replies.length) +
          ((p.overflowed m.dealer).length + (p.orphaned m.dealer).length +
            (p.stranded k).length) := by
  intro z s done p taken
  have hc := ((chronicle_fresh settings registry).interleave moves).run steps
  rw [List.nil_append] at hc
  obtain ⟨-, -, hr⟩ := hc
  have hfated : Hub.Fated p s.hub := .of_leadsTo hr.leadsTo
  refine ⟨hr.hub, hr.uneventful, hr.harmless, fun w m hm ↦ ?_⟩
  have hbooked := hr.members w m hm
  refine ⟨hbooked.exits, hbooked.failures, hbooked.received, hbooked.malformed, hbooked.sent,
    fun hreplied ↦ ?_, fun k l hl htaker ↦ ?_⟩
  · obtain ⟨dealer, hd, -⟩ := Hub.exists_of_custody? hbooked.custody
    refine Hub.exists_taker hr.leadsTo (Hub.phase?_of_getElem? hd) fun hphase ↦ hreplied ?_
    refine hfated.silent m.dealer fun dealer' hd' ↦ ?_
    rw [Option.some.inj (hd'.symm.trans hd), hphase]
  · have haccount := (hfated.tallied k l hl).account m.dealer htaker
    have htaken : p.collected k = taken k := hr.collected k
    rw [htaken] at haccount
    refine ⟨haccount, ?_⟩
    clear_value taken
    rw [hfated.count m.dealer, haccount, List.length_append, List.length_append]
    omega

/-- No more than one message may queue. -/
def narrow : Settings := { highWaterMark := 1 }

/-- A handler that answers, and one that keeps its chance to. -/
def willing : Registry (Handler Binding) :=
  .ofBehaviours false [("ping", .echo), ("park", .park)]

/-- Peer `n` asks. -/
def ask (n : UInt8) (command : String) : List Move :=
  [.act (.send "service" [.query [n] command 7 []]), .advance 0]

/-- Three workers come, and one of them finds a service. Of its four replies one is collected, one
is queued as the service goes, one finds no room, and the last one no service. -/
def rush : List Move :=
  [.act (.bind "service" .unsecured), .act (.start "first" .unsecured),
    .act (.start "second" .unsecured), .act (.start "third" .secure), .advance 0, .advance 1,
    .advance 2] ++ ask 1 "ping" ++ [.act (.collect "service")] ++ ask 2 "ping" ++ ask 3 "ping" ++
    ask 4 "park" ++ [.act (.unbind "service"), .act (.release 0 .echo)]

theorem transport_is_uneventful_rush :
    let z := (fresh narrow willing).interleave rush
    let s := z.run [.stop "first"]
    let done := (fresh narrow willing).interleaveOperations rush ++ z.operations [.stop "first"]
    let p := ({} : Hub).past done
    let taken := fun k ↦
      (fresh narrow willing).handedAmong k rush ++ z.handedAll k [.stop "first"]
    (p.replied 0).length = (1 + 0) + (1 + 1 + 1) ∧
      p.queued 0 = [.reply [1] "ping" 7 []] ++ ([.reply [2] "ping" 7 []] ++ []) ∧
      taken 0 = [.reply [1] "ping" 7 []] ∧
      ∃ m, s.workers[1]? = some m ∧ m.tally.sendFailures = 0 ∧
        Exit.IsRegular willing s.trace m.security m.endpoint (.failed
          (.connect .unsecured narrow.publicEndpoint (.endpointInUse narrow.publicEndpoint))) := by
  have hmain := transport_is_uneventful narrow willing rush [.stop "first"]
  intro z s done p taken
  extract_lets at hmain
  have hfirst : s.workers[0]?.map Member.dealer = some 0 := by decide +kernel
  have hsecond : s.workers[1]?.map Member.exit = some (some (.failed (.connect .unsecured
      narrow.publicEndpoint (.endpointInUse narrow.publicEndpoint)))) := by decide +kernel
  have hlink : s.hub.links[0]?.map Link.face = some (false, some 0, []) := by decide +kernel
  have htaken : taken 0 = [.reply [1] "ping" 7 []] := by decide +kernel
  have hoverflowed : p.overflowed 0 = [.reply [3] "ping" 7 []] := by decide +kernel
  have horphaned : p.orphaned 0 = [.reply [4] "park" 7 []] := by decide +kernel
  have hstranded : p.stranded 0 = [.reply [2] "ping" 7 []] := by decide +kernel
  clear_value taken p done s z
  obtain ⟨-, -, -, hworkers⟩ := hmain
  obtain ⟨m, hm, hdealer⟩ := Option.map_eq_some_iff.1 hfirst
  obtain ⟨m', hm', hexit⟩ := Option.map_eq_some_iff.1 hsecond
  obtain ⟨l, hl, hface⟩ := Option.map_eq_some_iff.1 hlink
  obtain ⟨-, htaker, hreplies⟩ : l.served = false ∧ l.taker = some 0 ∧ l.replies = [] := by
    simpa [Link.face] using hface
  obtain ⟨-, -, -, -, -, -, haccount⟩ := hworkers 0 m hm
  obtain ⟨hexits, hfailures, -⟩ := hworkers 1 m' hm'
  obtain ⟨hqueued, hcount⟩ := haccount 0 l hl (htaker.trans (congrArg some hdealer.symm))
  rw [hdealer, htaken, hreplies, hstranded] at hqueued hcount
  rw [hoverflowed, horphaned] at hcount
  exact ⟨hcount, hqueued, htaken, m', hm', hfailures, hexits _ hexit⟩

end QueryDispatch.Session
