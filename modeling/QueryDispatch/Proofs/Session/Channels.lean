import QueryDispatch.Proofs.Session.Growth
import QueryDispatch.Proofs.Session.PartStep
import QueryDispatch.Proofs.Session.Rounds

/-!
# The channels of a session do not interfere

Between two steps of a session everyone rests, so all there is to a step is what it does itself and
the turns it brings about. Both commute with taking the part of a channel if the step is addressed
to that channel (`step_part`), and both leave the part as it is if the step is addressed to the
other (`part_step_of_ne`), whatever comes of it: the worker of the other channel may stop, its
service may be dropped and bound again, and its handlers may break down.

So what is seen of a channel along any steps is what is seen of it when the steps of the other
channel are left out (`channels_do_not_interfere`). Handlers are shared, and so are the hub and the
turns. Three things are asked: that the endpoints differ, that no handler asks the workers to stop,
which is meant to reach both channels, and that no name is used for both.
-/

namespace QueryDispatch.Session

/-- What there is to see of a channel. -/
@[ext] structure Sight where
  /-- The links of its services by name, with all that is queued. -/
  services : String → Option Link
  /-- Its workers by name: their stage, what they have counted, how they ended, and whether they
  were asked to stop. -/
  workers : String → Option Member
  /-- What has happened on it. -/
  trace : Trace

/-- What there is to see of a channel in a session. -/
def sight (roster : Roster) (c : Security) (s : Session) : Sight where
  services name :=
    if roster.services name = c then (s.services.get? name).bind (s.hub.links[·]?) else none
  workers name := if roster.workers name = c then (s.names.get? name).bind (s.workers[·]?) else none
  trace := s.trace.filter (Event.isOf c)

/-- Whether a step is addressed to a channel. -/
def Step.isOf (roster : Roster) (c : Security) (st : Step) : Bool := roster.channel? st == some c

/-- What each step of a channel answers, what happens on the channel meanwhile, and what there is to
see of it afterwards. -/
def observed (roster : Roster) (c : Security) (s : Session) (steps : List Step) :
    List (Answer × Trace × Sight) :=
  ((steps.zip (s.reports steps)).filter fun p ↦ p.1.isOf roster c).map fun p ↦
    (p.2.answer, p.2.events.filter (Event.isOf c), p.2.after.sight roster c)

/-- Everybody is where they belong and rests. -/
structure Settled (roster : Roster) (s : Session) : Prop where
  manned : s.Manned roster
  rests : ∀ w, s.Rests w
  done : s.deferred = []

variable {settings : Settings} {registry : Registry (Handler Binding)} {roster : Roster}
  {s t : Session} {st : Step} {side c : Security}

/-! ### Whole steps -/

theorem Manned.step (hs : s.Manned roster) (hst : roster.channel? st = some side) :
    (s.step st).Manned roster := (settle_part (c := side) (hs.act hst)).1

/-- A step on a channel leaves the session settled. -/
theorem Settled.step (hs : s.Settled roster) (hst : roster.channel? st = some side) :
    (s.step st).Settled roster where
  manned := hs.manned.step hst
  rests w := rests_step hs.manned.sound st w
  done := deferred_flush _

/-- **A step of the channel is the same step in the part.** -/
theorem step_part (hs : s.Manned roster) (hst : roster.channel? st = some c) :
    (s.step st).part roster c = (s.part roster c).step st := by
  rw [step, step, (settle_part (hs.act hst)).2, act_part hs hst]

/-- **A step of the other channel leaves the part as it is**, whatever comes of it. -/
theorem part_step_of_ne (hs : s.Settled roster) (hst : roster.channel? st = some side)
    (hne : side ≠ c) (hstart : st.isStart = false) :
    (s.step st).part roster c = s.part roster c := by
  -- everyone rests before the step, in the part too, so there are no turns to take
  have hrests : (s.part roster c).settle = s.part roster c := by
    rw [← (settle_part hs.manned).2, settle_of_rests hs.rests hs.done]
  rw [step, (settle_part (hs.manned.act hst)).2, part_act_of_ne hs.manned hst hne hstart, hrests]

/-- A fresh session is manned as the roster says. -/
theorem manned_fresh (roster : Roster)
    (hdistinct : settings.secureEndpoint ≠ settings.publicEndpoint)
    (hlasting : registry.All fun handler ↦ handler.stops = false) :
    (fresh settings registry).Manned roster where
  sound := sound_fresh settings registry
  distinct := hdistinct
  lasting := hlasting
  dealers := rfl
  dealer hm := by cases hm
  endpoint hm := by cases hm
  taker _ _ _ hl := by cases hl
  deferred _ ht := by cases ht
  service _ he := by cases he
  worker hw := by cases hw

/-- A run on the channels keeps the roster. -/
theorem Manned.run (hs : s.Manned roster) {steps : List Step}
    (hsteps : ∀ st ∈ steps, roster.channel? st ≠ none) : (s.run steps).Manned roster := by
  induction steps generalizing s with
  | nil => exact hs
  | cons st rest ih =>
    obtain ⟨side, hst⟩ := Option.ne_none_iff_exists'.1 (hsteps st List.mem_cons_self)
    exact ih (hs.step hst) fun st' hst' ↦ hsteps st' (List.mem_cons_of_mem st hst')

/-- Every session whose steps are addressed to the channels is settled. -/
theorem settled_run (hdistinct : settings.secureEndpoint ≠ settings.publicEndpoint)
    (hlasting : registry.All fun handler ↦ handler.stops = false) {steps : List Step}
    (hsteps : ∀ st ∈ steps, roster.channel? st ≠ none) :
    ((fresh settings registry).run steps).Settled roster := by
  obtain ⟨hrests, hdone⟩ := rests_run settings registry steps
  exact ⟨(manned_fresh roster hdistinct hlasting).run hsteps, hrests, hdone⟩

/-! ### What is seen -/

/-- What there is to see of a channel is in its part. -/
theorem sight_part (hs : s.Manned roster) :
    (s.part roster c).sight roster c = s.sight roster c := by
  have hservices : ∀ name, ((s.part roster c).sight roster c).services name =
      (s.sight roster c).services name := by
    intro name
    show (if roster.services name = c then _ else none) =
      if roster.services name = c then _ else none
    split
    · next hname =>
      rw [get?_services_part hname]
      rcases hk : s.services.get? name with - | k
      · rfl
      · obtain ⟨l, hl, haddress⟩ := hs.exists_link hk
        have hl' : (s.part roster c).hub.links[s.hub.number (s.settings.endpoint c) k]? = some l :=
          Hub.links_part hl (isAt_of_service hs hname haddress)
        rw [Option.map_some, Option.bind_some, Option.bind_some, hl, hl']
    · rfl
  have hworkers : ∀ name, ((s.part roster c).sight roster c).workers name =
      (s.sight roster c).workers name := by
    intro name
    show (if roster.workers name = c then (s.names.get? name).bind _ else none) =
      if roster.workers name = c then (s.names.get? name).bind _ else none
    split
    · next hname =>
      rcases hw : s.names.get? name with - | w
      · rfl
      · obtain ⟨m, hm, hside⟩ := exists_of_side? (hs.worker hw)
        rw [Option.bind_some, Option.bind_some, hm, getElem?_part_of_side hm (hside.trans hname)]
    · rfl
  have htrace : ((s.part roster c).sight roster c).trace = (s.sight roster c).trace := by
    show (s.trace.filter _).filter _ = s.trace.filter _
    rw [List.filter_filter]
    simp only [Bool.and_self]
  exact Sight.ext (funext hservices) (funext hworkers) htrace

/-- Sessions with the same part look the same to the channel. -/
theorem sight_eq (hs : s.Manned roster) (ht : t.Manned roster)
    (h : s.part roster c = t.part roster c) : s.sight roster c = t.sight roster c := by
  rw [← sight_part hs, h, sight_part ht]

/-- Where the parts are the same, a step of the channel answers the same and brings about the same
on the channel. -/
theorem report_eq (hs : s.Manned roster) (ht : t.Manned roster)
    (h : s.part roster c = t.part roster c) (hst : roster.channel? st = some c) :
    (s.report st).answer = (t.report st).answer ∧
      (s.report st).events.filter (Event.isOf c) = (t.report st).events.filter (Event.isOf c) ∧
        (s.step st).part roster c = (t.step st).part roster c := by
  have hanswer : (s.act st).1 = (t.act st).1 := by
    rw [show (s.act st).1 = ((s.part roster c).act st).1 by rw [act_part hs hst], h,
      act_part ht hst]
  have hpart : (s.step st).part roster c = (t.step st).part roster c := by
    rw [step_part hs hst, h, step_part ht hst]
  have htrace : s.trace.filter (Event.isOf c) = t.trace.filter (Event.isOf c) :=
    congrArg Session.trace h
  have htrace' : (s.step st).trace.filter (Event.isOf c) =
      (t.step st).trace.filter (Event.isOf c) := congrArg Session.trace hpart
  rw [trace_step, trace_step, List.filter_append, List.filter_append, htrace] at htrace'
  exact ⟨hanswer, List.append_cancel_left htrace', hpart⟩

/-- What is observed of a run is observed step by step. -/
theorem observed_cons (s : Session) (st : Step) (rest : List Step) :
    s.observed roster c (st :: rest) =
      if st.isOf roster c then
        ((s.report st).answer, (s.report st).events.filter (Event.isOf c),
          (s.step st).sight roster c) :: (s.step st).observed roster c rest
      else (s.step st).observed roster c rest := by
  rw [observed, reports, List.zip_cons_cons, List.filter_cons]
  split <;> rfl

/-- What holds of the steps that may be taken once the other channel has its worker. -/
def Step.Later (roster : Roster) (c : Security) (st : Step) : Prop :=
  roster.channel? st ≠ none ∧ (st.isStart = true → st.isOf roster c = true)

/-- What a step may be later on can be looked up in the roster. -/
instance (roster : Roster) (c : Security) (st : Step) : Decidable (st.Later roster c) :=
  inferInstanceAs (Decidable (_ ∧ _))

/-- **Sessions of which the part of a channel is the same look the same from it**, whether or not
the steps of the other channel are taken. -/
theorem observed_eq (hs : s.Settled roster) (ht : t.Settled roster)
    (h : s.part roster c = t.part roster c) {steps : List Step}
    (hsteps : ∀ st ∈ steps, st.Later roster c) :
    s.observed roster c steps = t.observed roster c (steps.filter (Step.isOf roster c)) ∧
      (s.run steps).sight roster c =
        (t.run (steps.filter (Step.isOf roster c))).sight roster c := by
  induction steps generalizing s t with
  | nil => exact ⟨rfl, sight_eq hs.manned ht.manned h⟩
  | cons st rest ih =>
    obtain ⟨hst, hstart⟩ := hsteps st List.mem_cons_self
    have hrest : ∀ st' ∈ rest, st'.Later roster c :=
      fun st' hst' ↦ hsteps st' (List.mem_cons_of_mem st hst')
    obtain ⟨side, hside⟩ := Option.ne_none_iff_exists'.1 hst
    rcases hof : st.isOf roster c with - | -
    · -- the other channel's step is taken on one side only
      have hne : side ≠ c := by
        rintro rfl
        exact ne_true_of_eq_false hof (beq_iff_eq.2 hside)
      have hnot : st.isStart = false := by
        rcases hst : st.isStart with - | -
        · rfl
        · exact absurd (hstart hst) (ne_true_of_eq_false hof)
      obtain ⟨hobserved, hsight⟩ := ih (hs.step hside) ht
        ((part_step_of_ne hs hside hne hnot).trans h) hrest
      rw [observed_cons, hof, if_neg Bool.false_ne_true,
        List.filter_cons_of_neg (ne_true_of_eq_false hof)]
      exact ⟨hobserved, hsight⟩
    · have hmine : roster.channel? st = some c := eq_of_beq hof
      obtain ⟨hanswer, hevents, hpart⟩ := report_eq hs.manned ht.manned h hmine
      obtain ⟨hobserved, hsight⟩ := ih (hs.step hmine) (ht.step hmine) hpart hrest
      rw [observed_cons, List.filter_cons_of_pos hof, observed_cons, hof, if_pos rfl, if_pos rfl,
        hanswer, hevents, sight_eq (hs.manned.step hmine) (ht.manned.step hmine) hpart, hobserved]
      exact ⟨rfl, hsight⟩

/-- **The channels of a session do not interfere.** Take any session with different endpoints in
which no handler asks for a stop. Once the other channel has its worker, its steps, wherever they
stand among those of a channel, change nothing about that channel: what its own steps answer, the
messages its services get, what happens on it, and the state, the counts and the stop requests of
its workers, after each of its steps and in the end, are those of the session in which the steps of
the other channel are left out. -/
theorem channels_do_not_interfere (settings : Settings) (registry : Registry (Handler Binding))
    (hdistinct : settings.secureEndpoint ≠ settings.publicEndpoint)
    (hlasting : registry.All fun handler ↦ handler.stops = false) (roster : Roster) (c : Security)
    (opening steps : List Step) (hopening : ∀ st ∈ opening, roster.channel? st ≠ none)
    (hsteps : ∀ st ∈ steps, st.Later roster c) :
    let s := (fresh settings registry).run opening
    let own := steps.filter (Step.isOf roster c)
    s.observed roster c steps = s.observed roster c own ∧
      (s.run steps).sight roster c = (s.run own).sight roster c :=
  have hs := settled_run hdistinct hlasting hopening
  observed_eq hs hs rfl hsteps

/-- Handlers that answer at once, answer later, and break down. -/
def moody : Registry (Handler Binding) :=
  .ofBehaviours false [("ping", .echo), ("wait", .later), ("boom", .panic)]

/-- The handlers of the example stop nothing. -/
theorem lasting_moody : moody.All fun handler ↦ handler.stops = false := by
  have hstops : ∀ b ∈ [("ping", Behaviour.echo), ("wait", .later), ("boom", .panic)],
      b.2.stops = false := by decide
  exact Registry.all_ofBehaviours (fun _ ↦ rfl) fun b hb _ ↦ hstops b hb

/-- The vault and its guard are of the secure channel. -/
def household : Roster where
  services name := if name = "vault" then .secure else .unsecured
  workers name := if name = "guard" then .secure else .unsecured

/-- Both channels get a service and a worker. -/
def moving : List Step :=
  [.bind "vault" .secure, .start "guard" .secure, .bind "hall" .unsecured,
    .start "clerk" .unsecured]

/-- The guard breaks down, and the vault is lost and bound again, while the clerk is at work. -/
def burglary : List Step :=
  [.send "vault" [.query [1] "ping" 7 []],
    .send "hall" [.query [2] "wait" 7 [], .query [3] "ping" 7 []],
    .send "vault" [.query [4] "boom" 7 [], .query [1] "ping" 7 []], .drain "hall", .unbind "vault",
    .bind "vault" .secure, .send "hall" [.query [5] "ping" 7 []], .shutdown "guard",
    .collect "hall", .stop "clerk"]

theorem channels_do_not_interfere_burglary :
    let s := (fresh {} moody).run moving
    let own := burglary.filter (Step.isOf household .unsecured)
    s.observed household .unsecured burglary = s.observed household .unsecured own ∧
      (s.observed household .unsecured own).map Prod.fst =
        [.delivered [.accepted, .accepted],
          .drained [.reply [3] "ping" 7 [], .reply [2] "wait" 7 []], .delivered [.accepted],
          .collected (.message (.reply [5] "ping" 7 [])), .done] ∧
      (s.run burglary).workers.map Member.exit = [some .panicked, some .completed] ∧
      (s.run own).workers.map Member.exit = [none, some .completed] := by
  intro s own
  obtain ⟨hobserved, -⟩ := channels_do_not_interfere {} moody (by decide) lasting_moody household
    .unsecured moving burglary (by decide) (by decide)
  exact ⟨hobserved, by decide +kernel, by decide +kernel, by decide +kernel⟩

end QueryDispatch.Session
