import QueryDispatch.Proofs.Reply.Once

/-!
# What a reply says

A reply is addressed with the first three frames of the message it answers, and its fourth frame
says how the query went. That holds however late the reply is sent, since a ticket keeps the request
it was issued for.

`Cause` lists the reasons there are for a reply to a message, one for each status that a reply can
have, and `exists_cause` says that there are no others. What a reply says is read off its cause.
-/

namespace QueryDispatch

namespace Response

/-- The reply goes back to where the request came from. -/
def Addresses (response : Response) (r : Request) : Prop :=
  response.route = r.route ∧ response.command = r.command ∧ response.id = r.id

/-- Its first frames are those of the request. -/
theorem Addresses.take_encode {response : Response} {r : Request} (h : response.Addresses r) :
    response.encode.take 3 = r.encode.take 3 := by
  obtain ⟨hroute, hcommand, hid⟩ := h
  simp only [Response.encode, Request.encode, hroute, hcommand, hid, List.take_succ_cons,
    List.take_zero]

end Response

/-- The first frame is recovered even of a message that is no query, and what is wrong with such a
message is never that the transport failed. -/
theorem Request.recovered_of_decode_eq_error {security : Security} {frames : Frames}
    {m : MalformedRequest} (h : Request.decode security frames = .error m) :
    m.route.bytes = frames.headD [] ∧ ∀ cause, m.error ≠ .unreadable cause := by
  unfold decode at h
  split at h
  · cases h
    exact ⟨rfl, nofun⟩
  · cases h
    exact ⟨rfl, nofun⟩
  · split at h
    · cases h
      exact ⟨rfl, nofun⟩
    · split at h
      · cases h
        exact ⟨rfl, nofun⟩
      · split at h
        · cases h
          exact ⟨rfl, nofun⟩
        · split at h
          · cases h
          · cases h
            exact ⟨rfl, nofun⟩

/-- A request that cannot be read is answered to the route in its first frame. -/
theorem Request.route_of_decode_eq_error {security : Security} {frames : Frames}
    {m : MalformedRequest} (h : Request.decode security frames = .error m) :
    m.route.bytes = frames.headD [] := (recovered_of_decode_eq_error h).1

/-- The reply says what a behaviour wants it to say. -/
def Behaviour.Says (β : Behaviour) (r : Request) (response : Response) : Prop :=
  match β with
  | .echo | .stopEcho | .later => response.status = .success ∧ response.body = r.body
  | .body bytes => response.status = .success ∧ response.body = bytes
  | .failure code =>
    response.status.code = code ∧ response.body = [] ∧ code ≠ 0 ∧ code ≠ 3 ∧ code ≠ 4
  | .notFound => response.status = .notFound ∧ response.body = []
  | .silent | .park | .stop | .panic => False

/-- A failure is found under its own code. -/
theorem FailureCode.eq_of_ofCode? {code : UInt32} {c : FailureCode}
    (h : FailureCode.ofCode? code = some c) : c.value = code := by
  rw [ofCode?] at h
  split at h
  · cases h
    rfl
  · cases h

/-- No failure has one of the reserved codes. -/
theorem FailureCode.ne_reserved (c : FailureCode) : c.value ≠ 0 ∧ c.value ≠ 3 ∧ c.value ≠ 4 := by
  have h := c.unreserved
  simp only [isReserved, Bool.or_eq_false_iff, beq_eq_false_iff_ne] at h
  exact ⟨h.1.1, h.1.2, h.2⟩

/-- Whatever a behaviour answers is addressed to the request, and says what it is to say. -/
theorem Behaviour.says_of_completion {β : Behaviour} {r : Request} {response : Response}
    (h : β.completion r = .answered response) : response.Addresses r ∧ β.Says r response := by
  cases β with
  | failure code =>
    rw [completion] at h
    split at h
    · next c hcode =>
      cases h
      have hvalue := FailureCode.eq_of_ofCode? hcode
      exact ⟨⟨rfl, rfl, rfl⟩, hvalue, rfl, hvalue ▸ c.ne_reserved⟩
    · cases h
  | echo | stopEcho | body | notFound =>
    cases h
    exact ⟨⟨rfl, rfl, rfl⟩, rfl, rfl⟩
  | _ => cases h

namespace Behaviour.Says

variable {β : Behaviour} {r : Request} {response : Response} (h : β.Says r response)

include h

theorem status_ne_badStream : response.status ≠ .badStream := by
  intro hstatus
  cases β with
  | echo | stopEcho | later | body | notFound =>
    rw [Says, hstatus] at h
    cases h.1
  | failure code =>
    rw [Says, hstatus] at h
    obtain ⟨hcode, -, -, -, hne⟩ := h
    exact hne hcode.symm
  | _ => exact h

theorem body_eq_nil (hstatus : response.status ≠ .success) : response.body = [] := by
  cases β with
  | echo | stopEcho | later | body => exact absurd h.1 hstatus
  | failure code => exact h.2.1
  | notFound => exact h.2
  | _ => exact False.elim h

end Behaviour.Says

/-- Why there is a reply to a message. -/
inductive Cause (c : Channel) (decided : List (Nat × Behaviour)) (n : Nat) (frames : Frames)
    (response : Response) : Prop where
  /-- The message is no query. -/
  | malformed {m : MalformedRequest} (hdecode : Request.decode c.security frames = .error m)
      (hresponse : response = .malformed m)
  /-- There is no handler for the query. -/
  | unknown {r : Request} (hdecode : Request.decode c.security frames = .ok r)
      (hget : c.registry.get? r.command = none) (hresponse : response = .notFound r)
  /-- It was decided to give this reply. -/
  | decided {r : Request} {handler : Handler Binding} {β : Behaviour}
      (hdecode : Request.decode c.security frames = .ok r)
      (hget : c.registry.get? r.command = some handler) (hdecided : (n, β) ∈ decided)
      (haddresses : response.Addresses r) (hsaid : β.Says r response)

/-! ### There are no other replies -/

/-- To flush sends, after all else, the replies that were put off. -/
theorem Bench.replies_flush (b : Bench) :
    b.flush.trace.replies = b.trace.replies ++ b.deferred.map fun t ↦
      (t.number, (Response.success t.request t.request.body).encode) := by
  have hflush : Trace.replies b.flushEvents = b.deferred.map fun t ↦
      (t.number, (Response.success t.request t.request.body).encode) := by
    rw [flushEvents]
    induction b.deferred with
    | nil => rfl
    | cons t rest ih =>
      rw [List.flatMap_cons, Trace.replies_append, replies_replyEvents, ih]
      rfl
  rw [trace_flush, Trace.replies_append, hflush]

namespace Ledger

variable {c : Channel} {b : Bench} {items : List Received} {entries : List Entry} {n : Nat}
  {frames out : Frames} (h : Ledger c b items entries none)

include h

/-- A ticket that is put off was so by a decision to answer later. -/
theorem later_of_mem_deferred {t : Ticket} (ht : t ∈ b.deferred) :
    c.Issued items t ∧ (t.number, .later) ∈ entries.filterMap Entry.decision? := by
  rw [h.deferred] at ht
  obtain ⟨u, hu, hdeferred⟩ := List.mem_filterMap.1 ht
  obtain ⟨r, hr, rfl⟩ := Option.map_eq_some_iff.1 hdeferred
  have hissued := (h.valid u hu).issued (.inr hr)
  refine ⟨hissued, ?_⟩
  obtain ⟨-, x, handler, hx, hjudge⟩ := hissued
  obtain ⟨β, hβ, hcompletion⟩ := (h.valid u hu).of_dispatches hx hjudge
  rw [hcompletion, Behaviour.deferred?_completion] at hr
  split at hr
  · next hlater => exact mem_decisions_iff.2 ⟨u, hu, rfl, hlater ▸ hβ⟩
  · cases hr

/-- **Every reply has its cause**, also those that were put off. -/
theorem exists_cause (hx : items[n]? = some (.message frames))
    (hsent : (n, out) ∈ b.flush.trace.replies) :
    ∃ response, out = response.encode ∧
      Cause c (entries.filterMap Entry.decision?) n frames response := by
  rw [b.replies_flush] at hsent
  rcases List.mem_append.1 hsent with hsent | hsent
  · obtain ⟨x, response, hx', rfl, hreply⟩ := h.exists_of_mem_replies hsent
    obtain rfl := Option.some.inj (hx.symm.trans hx')
    refine ⟨response, rfl, ?_⟩
    rcases hreply with ⟨hnot, hcompletion⟩ | ⟨handler, r, β, hjudge, hdecided, hcompletion⟩
    · rw [Channel.judge] at hcompletion
      rcases hdecode : Request.decode c.security frames with m | r
      · rw [hdecode] at hcompletion
        cases hcompletion
        exact .malformed hdecode rfl
      · rcases hget : c.registry.get? r.command with - | handler
        · simp only [hdecode, hget] at hcompletion
          cases hcompletion
          exact .unknown hdecode hget rfl
        · exact absurd ⟨frames, r, handler, rfl, hdecode, hget⟩ hnot
    · obtain ⟨frames', heq, hdecode, hget⟩ := c.judge_eq_accepted_iff.1 hjudge
      cases heq
      obtain ⟨haddresses, hsaid⟩ := Behaviour.says_of_completion hcompletion
      exact .decided hdecode hget hdecided haddresses hsaid
  · obtain ⟨t, ht, heq⟩ := List.mem_map.1 hsent
    obtain ⟨rfl, rfl⟩ := Prod.mk.inj heq
    obtain ⟨⟨-, x, handler, hx', hjudge⟩, hlater⟩ := h.later_of_mem_deferred ht
    obtain rfl := Option.some.inj (hx.symm.trans hx')
    obtain ⟨frames', heq, hdecode, hget⟩ := c.judge_eq_accepted_iff.1 hjudge
    cases heq
    exact ⟨_, rfl, .decided hdecode hget hlater ⟨rfl, rfl, rfl⟩ ⟨rfl, rfl⟩⟩

end Ledger

/-! ### What a cause makes a reply say -/

namespace Cause

variable {c : Channel} {decided : List (Nat × Behaviour)} {n : Nat} {frames : Frames}
  {response : Response} (h : Cause c decided n frames response)

include h

/-- The reply goes back to the peer that the message came from. -/
theorem route : response.route.bytes = frames.headD [] := by
  cases h with
  | malformed hdecode hresponse =>
    rw [hresponse]
    exact Request.route_of_decode_eq_error hdecode
  | unknown hdecode hget hresponse =>
    obtain ⟨rfl, -⟩ := Request.encode_of_decode hdecode
    rw [hresponse]
    rfl
  | decided hdecode hget hdecided haddresses hsaid =>
    obtain ⟨rfl, -⟩ := Request.encode_of_decode hdecode
    exact congrArg Route.bytes haddresses.1

/-- A reply to a query says that there is no handler, or what was decided. -/
theorem of_decode {r : Request} (hdecode : Request.decode c.security frames = .ok r) :
    c.registry.get? r.command = none ∧ response = .notFound r ∨
      c.registry.get? r.command ≠ none ∧
        ∃ β, (n, β) ∈ decided ∧ response.Addresses r ∧ β.Says r response := by
  cases h with
  | malformed hdecode' =>
    rw [hdecode] at hdecode'
    cases hdecode'
  | unknown hdecode' hget hresponse =>
    rw [hdecode] at hdecode'
    cases hdecode'
    exact .inl ⟨hget, hresponse⟩
  | decided hdecode' hget hdecided haddresses hsaid =>
    rw [hdecode] at hdecode'
    cases hdecode'
    refine .inr ⟨fun hnone ↦ ?_, _, hdecided, haddresses, hsaid⟩
    rw [hnone] at hget
    cases hget

/-- The reply repeats the command and the number of the query. -/
theorem take_encode {r : Request} (hdecode : Request.decode c.security frames = .ok r) :
    response.encode.take 3 = frames.take 3 := by
  rw [← (Request.encode_of_decode hdecode).1]
  rcases h.of_decode hdecode with ⟨-, rfl⟩ | ⟨-, β, -, haddresses, -⟩
  · rfl
  · exact haddresses.take_encode

/-- A reply says that the stream was bad if and only if the request could not be read. -/
theorem status_eq_badStream_iff :
    response.status = .badStream ↔ ∃ m, Request.decode c.security frames = .error m := by
  cases h with
  | malformed hdecode hresponse => exact ⟨fun _ ↦ ⟨_, hdecode⟩, fun _ ↦ by rw [hresponse]; rfl⟩
  | unknown hdecode hget hresponse =>
    rw [hdecode, hresponse]
    exact ⟨fun hstatus ↦ (by cases hstatus), fun ⟨m, hm⟩ ↦ by cases hm⟩
  | decided hdecode hget hdecided haddresses hsaid =>
    rw [hdecode]
    exact ⟨fun hstatus ↦ absurd hstatus hsaid.status_ne_badStream, fun ⟨m, hm⟩ ↦ by cases hm⟩

/-- Only a success has a body. -/
theorem body_eq_nil (hstatus : response.status ≠ .success) : response.body = [] := by
  cases h with
  | malformed hdecode hresponse => rw [hresponse]; rfl
  | unknown hdecode hget hresponse => rw [hresponse]; rfl
  | decided hdecode hget hdecided haddresses hsaid => exact hsaid.body_eq_nil hstatus

end Cause

/-! ### What a reply says -/

/-- **Every reply goes back where the request came from and says what happened.** Whatever is sent
in reply to a message, at once, when its ticket is released or when what was put off is sent, is
four frames that read as a reply. The first is the first of the message, or empty if there was none,
and if the message is a query then so are the next two. The status is `badStream` if and only if the
message is no query, and `notFound` if nobody handles its command; else it is what the behaviour
that was decided for wants it to be, and so is the body. Without success there is no body. -/
theorem Bench.reply_says_what_happened (c : Channel) (refusal : Refusal) (steps : List Bench.Step)
    {n : Nat} {frames out : Frames} (hreceived : (items steps)[n]? = some (.message frames))
    (hsent : (n, out) ∈ ((fresh c refusal).run steps).flush.trace.replies) :
    out.length = 4 ∧ out[0]? = some (frames.headD []) ∧
      ∃ response, Response.decode out = .ok response ∧
        out[3]? = some (Wire.Word.encode response.status.code ++ response.body) ∧
        (response.status = .badStream ↔ ∃ m, Request.decode c.security frames = .error m) ∧
        (response.status ≠ .success → response.body = []) ∧
        ∀ r, Request.decode c.security frames = .ok r →
          out[1]? = frames[1]? ∧ out[2]? = frames[2]? ∧
          (c.registry.get? r.command = none → response.status = .notFound) ∧
          (c.registry.get? r.command ≠ none →
            ∃ β, (n, β) ∈ (fresh c refusal).decisions steps ∧ β.Says r response) := by
  obtain ⟨response, rfl, hcause⟩ := (Ledger.of_run c refusal steps).exists_cause hreceived hsent
  refine ⟨rfl, congrArg some hcause.route, response, response.decode_encode, rfl,
    hcause.status_eq_badStream_iff, hcause.body_eq_nil, fun r hdecode ↦ ?_⟩
  have hframe : ∀ i < 3, response.encode[i]? = frames[i]? := fun i hi ↦ by
    rw [← List.getElem?_take_of_lt hi, hcause.take_encode hdecode, List.getElem?_take_of_lt hi]
  refine ⟨hframe 1 (by decide), hframe 2 (by decide), fun hnone ↦ ?_, fun hsome ↦ ?_⟩
  · rcases hcause.of_decode hdecode with ⟨-, rfl⟩ | ⟨hsome, -⟩
    · rfl
    · exact absurd hnone hsome
  · rcases hcause.of_decode hdecode with ⟨hnone, -⟩ | ⟨-, β, hdecided, -, hsaid⟩
    · exact absurd hnone hsome
    · exact ⟨β, hdecided, hsaid⟩

/-- The reply to the second ping, which was parked before it was answered. -/
theorem Bench.reply_says_what_happened_pings :
    ∃ response, Response.decode (.reply [2] "ping" 8 [5]) =
        .ok response ∧ response.status = .success ∧ response.body = [5] := by
  have hreplies : ((fresh .parking none).run pings).flush.trace.replies =
      [(2, [[], [], [0, 0, 0, 0], [4, 0, 0, 0]]),
        (1, Frames.reply [2] "ping" 8 [5])] := rfl
  have hsent : (1, Frames.reply [2] "ping" 8 [5]) ∈
      ((fresh .parking none).run pings).flush.trace.replies := by
    rw [hreplies]
    exact List.mem_cons_of_mem _ List.mem_cons_self
  obtain ⟨-, -, response, hdecode, -, -, -, hsaid⟩ :=
    reply_says_what_happened .parking none pings (n := 1) rfl hsent
  obtain ⟨-, -, -, hdecided⟩ := hsaid ⟨⟨[2]⟩, "ping", 8, [5], .unsecured⟩ rfl
  have hget : Channel.parking.registry.get? "ping" = some (.custom ⟨0, .park⟩) := rfl
  obtain ⟨β, hmem, hβ⟩ := hdecided (by rw [hget]; exact Option.some_ne_none _)
  have hdecisions : (fresh .parking none).decisions pings =
      [(0, .park), (1, .park), (1, .echo), (0, .park)] := rfl
  obtain rfl | rfl : β = .park ∨ β = .echo := by
    rw [hdecisions] at hmem
    simpa using hmem
  · exact False.elim hβ
  · exact ⟨response, hdecode, hβ⟩

end QueryDispatch
