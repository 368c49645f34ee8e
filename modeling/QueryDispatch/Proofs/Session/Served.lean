import QueryDispatch.Proofs.Hub.Headroom
import QueryDispatch.Proofs.Session.Rounds

/-!
# Serving both channels

Settings that violate no condition name two endpoints, which are not the same, and a mark that is
not zero. That is all it takes to bind both services and to have the workers of both channels find
them, as long as a queue can be as long as the mark says.

The conditions say nothing of a mark that is too high. Under such a mark nothing can be bound, valid
as the settings are.

## Main results

* `step_bind`, `Vacant.step_start`: what becomes of a session in which a service is bound, or a
  worker started that finds its service.
* `valid_settings_served`: with valid settings both channels are served, each by a worker of its
  own, over queues that are as long as the settings say, or the mark is too high for any queue.
-/

namespace QueryDispatch

/-- There are two channels. -/
theorem Security.eq_or_eq {first second : Security} (hne : first ≠ second) (c : Security) :
    c = first ∨ c = second := by
  match first, second, c, hne with
  | .secure, .unsecured, .secure, _ | .unsecured, .secure, .unsecured, _ => exact .inl rfl
  | .secure, .unsecured, .unsecured, _ | .unsecured, .secure, .secure, _ => exact .inr rfl
  | .secure, .secure, _, hne | .unsecured, .unsecured, _, hne => exact absurd rfl hne

/-- Valid settings give the two channels different endpoints. -/
theorem Settings.endpoint_ne {settings : Settings} {first second : Security}
    (hvalid : settings.violation? = none) (hne : first ≠ second) :
    settings.endpoint first ≠ settings.endpoint second := by
  obtain ⟨-, -, hdiffer, -⟩ := violation?_eq_none_iff.1 hvalid
  match first, second, hne with
  | .secure, .unsecured, _ => exact hdiffer
  | .unsecured, .secure, _ => exact hdiffer.symm
  | .secure, .secure, hne | .unsecured, .unsecured, hne => exact absurd rfl hne

namespace Hub

/-- A mark other than zero is the capacity it asks for. -/
theorem capacity_eq_toNat {mark : UInt64} (hmark : mark ≠ 0) : capacity mark = mark.toNat := by
  have hpos : mark.toNat ≠ 0 := fun hzero ↦ hmark (UInt64.toNat_inj.1 hzero)
  rw [capacity]
  omega

/-- Where a service is bound does not depend on who takes the worker's side. -/
theorem bound?_updateLink (h : Hub) (k : Nat) {f : Link → Link}
    (hserved : ∀ l, (f l).served = l.served) (haddress : ∀ l, (f l).address = l.address)
    (address : String) :
    (h.updateLink k f).bound? address = h.bound? address := by
  have hmodify : ∀ (links : List Link) (k : Nat),
      (links.modify k f).findIdx? (fun l ↦ l.served && l.address == address) =
        links.findIdx? fun l ↦ l.served && l.address == address := by
    intro links
    induction links with
    | nil => rintro (- | k) <;> rfl
    | cons l rest ih =>
      rintro (- | k)
      · rw [List.modify_zero_cons, List.findIdx?_cons, List.findIdx?_cons, hserved, haddress]
      · rw [List.modify_succ_cons, List.findIdx?_cons, List.findIdx?_cons, ih]
  exact hmodify h.links k

/-- What is bound stays bound when there is a link more. -/
theorem bound?_append_of_bound {h : Hub} {k : Nat} {address : String}
    (hbound : h.bound? address = some k) (l : Link) :
    Hub.bound? { h with links := h.links ++ [l] } address = some k := by
  rw [bound?] at hbound ⊢
  rw [List.findIdx?_append, hbound, Option.some_or]

end Hub

namespace Session

variable {settings : Settings} {registry : Registry (Handler Binding)} {s : Session} {name : String}
  {c : Security} {w k : Nat} {m : Member} {l : Link}

/-! ### Binding -/

/-- The binding of a channel's endpoint, as it is made. -/
def offer (settings : Settings) (c : Security) : Link where
  address := settings.endpoint c
  capacity := Hub.capacity settings.highWaterMark

/-- The session with a channel's endpoint bound. -/
def offering (s : Session) (name : String) (c : Security) : Session :=
  { s with
    hub := { s.hub with links := s.hub.links ++ [offer s.settings c] }
    services := s.services.insert name s.hub.links.length }

/-- **A service is bound** where none is, under a new name and before there are any workers. -/
theorem step_bind (hworkers : s.workers = []) (hdeferred : s.deferred = [])
    (hname : s.services.get? name = none)
    (hfree : s.hub.bound? (s.settings.endpoint c) = none)
    (hfits : Hub.capacity s.settings.highWaterMark ≤ Hub.longestQueue) :
    s.act (.bind name c) = (.done, s.offering name c) ∧
      s.step (.bind name c) = s.offering name c := by
  have hact : s.act (.bind name c) = (.done, s.offering name c) := by
    rw [act, Session.bind, Hub.bind_of_free hfree hfits]
    simp only [hname]
    rfl
  have hrests : ∀ v, (s.offering name c).Rests v := fun v ↦ by
    refine rests_of_length_le ?_
    show s.workers.length ≤ v
    rw [hworkers]
    exact Nat.zero_le v
  refine ⟨hact, ?_⟩
  rw [step, hact]
  exact settle_of_rests hrests hdeferred

/-- **Nothing is bound under a mark that is too high.** -/
theorem act_bind_of_oversized (hfree : s.hub.bound? (s.settings.endpoint c) = none)
    (hlong : Hub.longestQueue < s.settings.highWaterMark.toNat) (name : String) :
    s.act (.bind name c) = (.oversized, s) := by
  have hcapacity : Hub.longestQueue < Hub.capacity s.settings.highWaterMark := by
    rw [Hub.capacity]
    omega
  rw [act, Session.bind, Hub.bind, Hub.isBound_eq_false_iff.2 hfree, if_neg Bool.false_ne_true,
    if_pos hcapacity]

/-- The service called `name` is bound at a channel's endpoint, as link `k`, and no worker has come
to it yet. -/
structure Vacant (s : Session) (c : Security) (name : String) (k : Nat) (l : Link) : Prop where
  service : s.services.get? name = some k
  bound : s.hub.bound? (s.settings.endpoint c) = some k
  link : s.hub.links[k]? = some l
  address : l.address = s.settings.endpoint c
  served : l.served = true
  taker : l.taker = none
  requests : l.requests = []
  replies : l.replies = []

/-- A service is vacant when it has been bound. -/
theorem vacant_offering (hfree : s.hub.bound? (s.settings.endpoint c) = none) (name : String) :
    (s.offering name c).Vacant c name s.hub.links.length (offer s.settings c) where
  service := by
    refine (Table.get?_insert ..).trans ?_
    rw [if_pos rfl]
  bound := Hub.bound?_append_self hfree rfl rfl
  link := List.getElem?_concat_length
  address := rfl
  served := rfl
  taker := rfl
  requests := rfl
  replies := rfl

/-- It stays so when another one is bound. -/
theorem Vacant.offering_of_ne (h : s.Vacant c name k l) {other : String} (hne : name ≠ other)
    (d : Security) : (s.offering other d).Vacant c name k l where
  service := by
    refine (Table.get?_insert ..).trans ?_
    rw [if_neg hne]
    exact h.service
  bound := Hub.bound?_append_of_bound h.bound _
  link := getElem?_append_of_eq_some h.link _
  address := h.address
  served := h.served
  taker := h.taker
  requests := h.requests
  replies := h.replies

/-! ### Starting a worker -/

/-- A worker of a channel with its dealer, as it is started. -/
def recruit (s : Session) (c : Security) (d : Nat) : Member where
  dispatcher := { channel := .ofSettings s.settings c s.registry }
  endpoint := s.settings.endpoint c
  dealer := d

/-- The session with a worker of a channel started that has taken link `k`. -/
def engaged (s : Session) (name : String) (c : Security) (k : Nat) : Session :=
  { s with
    hub := {
      links := s.hub.links.modify k fun l ↦ { l with taker := some s.hub.dealers.length }
      dealers := s.hub.dealers ++ [{ phase := .connected k, inbound := some k }] }
    workers := s.workers ++ [{ s.recruit c s.hub.dealers.length with stage := .running }]
    names := s.names.insert name s.workers.length
    trace := s.trace ++ [.noted (.connected c (s.settings.endpoint c))] }

theorem getElem?_start_self (s : Session) (name : String) (c : Security) :
    (s.start name c).workers[s.workers.length]? = some (s.recruit c s.hub.dealers.length) :=
  List.getElem?_concat_length

/-- A worker whose connection is accepted is connected. -/
theorem connect_of_accepted {hub : Hub} (h : s.hub.connect m.dealer m.endpoint = (none, hub)) :
    s.connect w m = ((s.onHub hub).note [.connected m.security m.endpoint]).update w
      (·.change .connected) := by
  rw [connect, h]
  rfl

/-- A worker that is started connects first of all. -/
theorem advance_start (s : Session) (name : String) (c : Security) :
    (s.start name c).advance s.workers.length =
      (s.start name c).connect s.workers.length (s.recruit c s.hub.dealers.length) := by
  rw [advance, getElem?_start_self]
  rfl

/-- It takes the service that is bound at its endpoint. -/
theorem connect_start (hbound : s.hub.bound? (s.settings.endpoint c) = some k)
    (hl : s.hub.links[k]? = some l) (htaker : l.taker = none) (name : String) :
    (s.start name c).connect s.workers.length (s.recruit c s.hub.dealers.length) =
      s.engaged name c k := by
  have hd : (s.start name c).hub.dealers[s.hub.dealers.length]? = some {} :=
    List.getElem?_concat_length
  have hconnect := Hub.connect_of_free (h := (s.start name c).hub) hd rfl hbound hl htaker
  have hworkers : (s.start name c).workers.modify s.workers.length (·.change .connected) =
      s.workers ++ [{ s.recruit c s.hub.dealers.length with stage := .running }] :=
    modify_concat_length ..
  have hdealers : (s.start name c).hub.dealers.modify s.hub.dealers.length
      (fun dealer ↦ { dealer with phase := .connected k, inbound := some k }) =
      s.hub.dealers ++ [{ phase := .connected k, inbound := some k }] := modify_concat_length ..
  rw [connect_of_accepted hconnect, engaged, ← hworkers, ← hdealers]
  rfl

/-- The worker rests. -/
theorem rests_engaged (hl : s.hub.links[k]? = some l) (hserved : l.served = true)
    (hrequests : l.requests = []) (name : String) :
    (s.engaged name c k).Rests s.workers.length := by
  have hworker : (s.engaged name c k).workers[s.workers.length]? = some _ :=
    List.getElem?_concat_length
  have hd : (s.engaged name c k).hub.dealers[s.hub.dealers.length]? = some _ :=
    List.getElem?_concat_length
  have hl' : (s.engaged name c k).hub.links[k]? =
      some { l with taker := some s.hub.dealers.length } := by
    show (s.hub.links.modify k _)[k]? = _
    rw [List.getElem?_modify_eq, hl]
    rfl
  refine rests_of_getElem? hworker fun _ ↦ ⟨Stage.noConfusion, fun _ ↦ ⟨rfl, ?_⟩⟩
  exact ⟨_, k, _, hd, rfl, rfl, hl', hrequests, hserved⟩

/-- Everyone else rests as before. -/
theorem Rests.start {v : Nat} (h : s.Rests v) (hne : v ≠ s.workers.length) (name : String) :
    (s.start name c).Rests v := by
  refine h.of_doing ?_ ?_
  · show (s.workers ++ [_])[v]?.map doing = _
    rcases Nat.lt_or_ge v s.workers.length with hlt | hge
    · rw [List.getElem?_append_left hlt]
    · rw [List.getElem?_eq_none hge, List.getElem?_eq_none]
      rw [List.length_append, List.length_singleton]
      omega
  · rintro e ⟨dealer, j, l, hd, hwaits⟩
    refine ⟨dealer, j, l, ?_, hwaits⟩
    exact getElem?_append_of_eq_some hd _

/-- **A worker is started**, and takes the service at its endpoint. -/
theorem Vacant.step_start (h : s.Vacant c name k l) (hs : s.Sound settings registry)
    (hrests : ∀ v, s.Rests v) (hdeferred : s.deferred = []) (worker : String) :
    s.step (.start worker c) = s.engaged worker c k := by
  have hmember := s.getElem?_start_self worker c
  have hconnect := connect_start h.bound h.link h.taker worker
  have hself := rests_engaged (c := c) h.link h.served h.requests worker
  have hturn : (s.start worker c).turn s.workers.length = s.engaged worker c k := by
    rw [turn, advance_start, hconnect]
    exact advances_of_rests hself _
  have hothers : ∀ v, v ≠ s.workers.length → (s.start worker c).Rests v :=
    fun v hne ↦ (hrests v).start hne worker
  show (s.start worker c).settle = _
  rw [← hturn]
  refine settle_eq_turn (List.getElem?_eq_some_iff.1 hmember).1 hothers (fun v ↦ ?_) ?_
  · rw [hturn]
    by_cases hne : v = s.workers.length
    · subst hne
      exact hself
    · rw [← hconnect]
      exact (hothers v hne).of_spares (hs.start worker c) (dealer_of_getElem? hmember)
        (Done.spares (dealer_of_getElem? hmember) (done_connect (c := c) hmember)) (Ne.symm hne)
  · rw [hturn]
    exact hdeferred

/-- The two serve each other from then on. -/
theorem Vacant.paired (h : s.Vacant c name k l) (worker : String) :
    (s.engaged worker c k).Paired name s.workers.length k
      { s.recruit c s.hub.dealers.length with stage := .running }
      { l with taker := some s.hub.dealers.length } where
  service := h.service
  worker := List.getElem?_concat_length
  link := by
    show (s.hub.links.modify k _)[k]? = _
    rw [List.getElem?_modify_eq, h.link]
    rfl
  taker := rfl
  running := rfl
  exit := rfl
  requests := h.requests
  replies := h.replies

/-- A vacant link serves the dealer that is engaged for it. -/
theorem Vacant.serving (h : s.Vacant c name k l) (worker : String) :
    (s.engaged worker c k).hub.Serving s.hub.dealers.length k
      { l with taker := some s.hub.dealers.length } where
  link := (h.paired worker).link
  served := h.served
  dealer := ⟨_, List.getElem?_concat_length, rfl, rfl⟩

section Other

variable {j : Nat} {d : Security}

theorem getElem?_links_engaged_of_ne (hne : j ≠ k) (worker : String) :
    (s.engaged worker d j).hub.links[k]? = s.hub.links[k]? := List.getElem?_modify_ne _ _ hne

/-- A worker takes one service and leaves the others vacant. -/
theorem Vacant.engaged_of_ne (h : s.Vacant c name k l) (hne : j ≠ k) (worker : String) :
    (s.engaged worker d j).Vacant c name k l where
  service := h.service
  bound := by
    have hsame := s.hub.bound?_updateLink j (f := fun l ↦
      { l with taker := some s.hub.dealers.length }) (fun _ ↦ rfl) (fun _ ↦ rfl)
    exact (hsame _).trans h.bound
  link := (getElem?_links_engaged_of_ne hne worker).trans h.link
  address := h.address
  served := h.served
  taker := h.taker
  requests := h.requests
  replies := h.replies

/-- A pair is left alone by what is engaged elsewhere. -/
theorem Paired.engaged_of_ne (h : s.Paired name w k m l) (hne : j ≠ k) (worker : String) :
    (s.engaged worker d j).Paired name w k m l where
  service := h.service
  worker := getElem?_append_of_eq_some h.worker _
  link := (getElem?_links_engaged_of_ne hne worker).trans h.link
  taker := h.taker
  running := h.running
  exit := h.exit
  requests := h.requests
  replies := h.replies

/-- What a link serves is left alone by what is engaged elsewhere. -/
theorem serving_engaged_of_ne {e : Nat} (h : s.hub.Serving e k l) (hne : j ≠ k)
    (worker : String) : (s.engaged worker d j).hub.Serving e k l := by
  obtain ⟨dealer, hd, hconnected⟩ := h.dealer
  have hd' := getElem?_append_of_eq_some hd [{ phase := .connected j, inbound := some j }]
  exact ⟨(getElem?_links_engaged_of_ne hne worker).trans h.link, h.served, dealer, hd', hconnected⟩

end Other

/-- A channel is served. The service called `name` is bound as link `k` at the channel's endpoint;
worker `w` is of the channel, and its dealer connected to this link, and each of the two queues
holds as many messages as the settings say. -/
structure Staffed (s : Session) (c : Security) (name : String) (w k : Nat) (m : Member)
    (l : Link) : Prop extends s.Paired name w k m l where
  security : m.security = c
  address : l.address = s.settings.endpoint c
  serving : s.hub.Serving m.dealer k l
  requests_fit : ∀ messages, (s.act (.send name messages)).1 =
    .delivered (List.replicate (min messages.length s.settings.highWaterMark.toNat) .accepted ++
      List.replicate (messages.length - s.settings.highWaterMark.toNat) .full)
  replies_fit : ∀ replies : List Frames,
    (s.hub.run (replies.map (.send m.dealer))).queuedReplies k =
      replies.take s.settings.highWaterMark.toNat

/-- A pair on the channel's endpoint, with a mark above zero and everybody at rest, is staffed. -/
theorem Paired.staffed (h : s.Paired name w k m l) (hs : s.Sound settings registry)
    (hrests : ∀ v, s.Rests v) (hsecurity : m.security = c)
    (haddress : l.address = s.settings.endpoint c) (hserving : s.hub.Serving m.dealer k l)
    (hmark : s.settings.highWaterMark ≠ 0) : s.Staffed c name w k m l := by
  have hcapacity : l.capacity = s.settings.highWaterMark.toNat := by
    rw [hs.capacity_eq h.link, ← hs.settings_eq, Hub.capacity_eq_toNat hmark]
  refine ⟨h, hsecurity, haddress, hserving, fun messages ↦ ?_, fun replies ↦ ?_⟩
  · rw [h.act_send hs hrests messages, hcapacity]
  · rw [hserving.run_send, h.replies, hcapacity]
    rfl

/-- **Two workers are started**, and each takes the service of its own channel. -/
theorem staffed_starts (hs : s.Sound settings registry) (hrests : ∀ v, s.Rests v)
    (hdeferred : s.deferred = []) (hmark : s.settings.highWaterMark ≠ 0) {d : Security}
    {name' : String} {j : Nat} {l' : Link} (hc : s.Vacant c name k l) (hd : s.Vacant d name' j l')
    (hne : j ≠ k) (worker worker' : String) :
    (∃ w m l, (s.run [.start worker c, .start worker' d]).Staffed c name w k m l) ∧
      ∃ w m l, (s.run [.start worker c, .start worker' d]).Staffed d name' w j m l := by
  have hfirst := hc.step_start hs hrests hdeferred worker
  have hsound := hs.step (.start worker c)
  have hrests' := rests_step hs (.start worker c)
  rw [hfirst] at hsound hrests'
  have hd' : (s.engaged worker c k).Vacant d name' j l' := hd.engaged_of_ne hne.symm worker
  have hsecond := hd'.step_start hsound hrests' hdeferred worker'
  have hsound' := hsound.step (.start worker' d)
  have hrests'' := rests_step hsound (.start worker' d)
  rw [hsecond] at hsound' hrests''
  rw [run_cons, run_cons, run_nil, hfirst, hsecond]
  have hpaired := (hc.paired worker).engaged_of_ne (d := d) hne worker'
  have hserving := serving_engaged_of_ne (d := d) (hc.serving worker) hne worker'
  have hpaired' := hd'.paired worker'
  have hserving' := hd'.serving worker'
  exact ⟨⟨_, _, _, hpaired.staffed hsound' hrests'' rfl hc.address hserving hmark⟩,
    _, _, _, hpaired'.staffed hsound' hrests'' rfl hd.address hserving' hmark⟩

/-! ### Valid settings -/

section Valid

variable {first second : Security} (registry) (names : Security → String)

/-- **Both services are bound**, whichever comes first. -/
theorem run_binds (hvalid : settings.violation? = none) (hne : first ≠ second)
    (hnames : names first ≠ names second)
    (hfits : Hub.capacity settings.highWaterMark ≤ Hub.longestQueue) :
    let s := fresh settings registry
    let bound := (s.offering (names first) first).offering (names second) second
    let binds := [Step.bind (names first) first, .bind (names second) second]
    (s.reports binds).map Report.answer = [.done, .done] ∧ s.run binds = bound ∧
      bound.Vacant first (names first) 0 (offer settings first) ∧
      bound.Vacant second (names second) 1 (offer settings second) := by
  intro s bound binds
  have hvacant : (s.offering (names first) first).Vacant first (names first) 0
      (offer settings first) := vacant_offering rfl (names first)
  have hname : (s.offering (names first) first).services.get? (names second) = none := by
    refine (Table.get?_insert ..).trans ?_
    rw [if_neg hnames.symm]
    rfl
  have hfree : (s.offering (names first) first).hub.bound? (settings.endpoint second) = none := by
    refine Hub.bound?_eq_none_iff.2 ?_
    rintro k ⟨l, hl, -, haddress⟩
    obtain rfl : l = offer settings first := List.mem_singleton.1 (List.mem_of_getElem? hl)
    exact Settings.endpoint_ne hvalid hne haddress
  obtain ⟨hact, hstep⟩ := step_bind (s := s) (c := first) rfl rfl
    (rfl : s.services.get? (names first) = none) rfl hfits
  obtain ⟨hact', hstep'⟩ := step_bind rfl rfl hname hfree hfits
  refine ⟨?_, ?_, hvacant.offering_of_ne hnames second, vacant_offering hfree (names second)⟩
  · simp only [binds, reports, report, List.map_cons, List.map_nil, hstep, hact, hact']
  · rw [run_cons, run_cons, run_nil, hstep, hstep']

/-- **Both workers take their services**, whichever is started first. -/
theorem staffed_run (hvalid : settings.violation? = none) (hbinds : first ≠ second)
    (hnames : names first ≠ names second)
    (hfits : Hub.capacity settings.highWaterMark ≤ Hub.longestQueue) {hired other : Security}
    (hstarts : hired ≠ other) (workers : Security → String) :
    let s := (fresh settings registry).run
      [.bind (names first) first, .bind (names second) second,
        .start (workers hired) hired, .start (workers other) other]
    (∃ w m l, s.Staffed first (names first) w 0 m l) ∧
      ∃ w m l, s.Staffed second (names second) w 1 m l := by
  intro s
  set binds := [Step.bind (names first) first, .bind (names second) second] with hbinds'
  obtain ⟨-, hrun, hfirst, hsecond⟩ := run_binds registry names hvalid hbinds hnames hfits
  have hsound := sound_run settings registry binds
  obtain ⟨hrests, hdeferred⟩ := rests_run settings registry binds
  obtain ⟨-, -, -, hmark⟩ := Settings.violation?_eq_none_iff.1 hvalid
  rw [hrun] at hsound hrests hdeferred
  have hs : s = (((fresh settings registry).offering (names first) first).offering (names second)
      second).run [.start (workers hired) hired, .start (workers other) other] := by
    rw [← hrun, ← run_append]
    rfl
  rw [hs]
  rcases Security.eq_or_eq hbinds hired with rfl | rfl
  · -- the workers are started in the order of their services
    obtain rfl : other = second := (Security.eq_or_eq hbinds other).resolve_left hstarts.symm
    exact staffed_starts hsound hrests hdeferred hmark hfirst hsecond Nat.one_ne_zero _ _
  · obtain rfl : other = first := (Security.eq_or_eq hbinds other).resolve_right hstarts.symm
    exact (staffed_starts hsound hrests hdeferred hmark hsecond hfirst Nat.zero_ne_one _ _).symm

/-- **Valid settings can be served**, unless the mark is too high. Whichever of the two channels is
bound first, and whichever gets its worker first, both endpoints are bound, with queues that hold
exactly as many messages as the settings say, and each worker connects to the service of its own
channel and not to the other one. Under a mark that is too high for any queue neither channel can be
bound, and the attempt changes nothing, valid as the settings are. -/
theorem valid_settings_served (hvalid : settings.violation? = none) (hbinds : first ≠ second)
    (hnames : names first ≠ names second) {hired other : Security} (hstarts : hired ≠ other)
    (workers : Security → String) :
    let s := fresh settings registry
    let mark := settings.highWaterMark.toNat
    let binds := [Step.bind (names first) first, .bind (names second) second]
    let starts := [Step.start (workers hired) hired, .start (workers other) other]
    (mark ≤ Hub.longestQueue →
      (s.reports binds).map Report.answer = [.done, .done] ∧
      (s.run binds).hub.links =
        [{ address := settings.endpoint first, capacity := mark },
          { address := settings.endpoint second, capacity := mark }] ∧
      (∃ w m l, (s.run (binds ++ starts)).Staffed first (names first) w 0 m l) ∧
      ∃ w m l, (s.run (binds ++ starts)).Staffed second (names second) w 1 m l) ∧
    (Hub.longestQueue < mark →
      ∀ c name, (s.report (.bind name c)).answer = .oversized ∧ s.step (.bind name c) = s) := by
  intro s mark binds starts
  obtain ⟨-, -, -, hmark⟩ := Settings.violation?_eq_none_iff.1 hvalid
  refine ⟨fun hfits ↦ ?_, fun hlong c name ↦ ?_⟩
  · have hcapacity : Hub.capacity settings.highWaterMark = mark := Hub.capacity_eq_toNat hmark
    have hfits' : Hub.capacity settings.highWaterMark ≤ Hub.longestQueue := by rwa [hcapacity]
    obtain ⟨hanswers, hrun, -, -⟩ := run_binds registry names hvalid hbinds hnames hfits'
    refine ⟨hanswers, ?_, staffed_run registry names hvalid hbinds hnames hfits' hstarts workers⟩
    rw [hrun, ← hcapacity]
    rfl
  · have hfree : s.hub.bound? (s.settings.endpoint c) = none := rfl
    have hact : s.act (.bind name c) = (.oversized, s) := act_bind_of_oversized hfree hlong name
    refine ⟨by rw [report, hact], ?_⟩
    rw [step, hact]
    exact settle_of_rests (fun v ↦ rests_of_length_le (Nat.zero_le v)) rfl

/-- The settings are valid with the lowest mark that is too high. -/
theorem valid_settings_unserved :
    let settings : Settings := { highWaterMark := 2305843009213693952 }
    settings.violation? = none ∧
      ((fresh settings .empty).report (.bind "service" .secure)).answer = .oversized := by
  decide +kernel

/-- The public channel is bound first and gets its worker last. -/
theorem valid_settings_served_crosswise :
    let settings : Settings := { highWaterMark := 2 }
    let s := (fresh settings .empty).run [.bind "public" .unsecured, .bind "secure" .secure,
      .start "worker" .secure, .start "worker" .unsecured]
    settings.violation? = none ∧ (∃ w m l, s.Staffed .unsecured "public" w 0 m l) ∧
      ∃ w m l, s.Staffed .secure "secure" w 1 m l := by
  have hvalid : ({ highWaterMark := 2 } : Settings).violation? = none := by decide +kernel
  have hne : Security.unsecured ≠ .secure := Security.noConfusion
  obtain ⟨hserved, -⟩ :=
    valid_settings_served .empty Security.name hvalid hne (by decide) hne.symm fun _ ↦ "worker"
  exact ⟨hvalid, (hserved (by decide)).2.2⟩

end Valid

end Session

end QueryDispatch
