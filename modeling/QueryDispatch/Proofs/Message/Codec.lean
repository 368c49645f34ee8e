import QueryDispatch.Message.Response
import QueryDispatch.Proofs.Wire.Utf8

/-!
# What is accepted, and what comes back

Requests and responses are read off four frames. Which lists of frames are accepted is said here of
the frames alone, without the reader: how many there are, whether the command is well-formed UTF-8,
and how long the frames are that words are read off. Of a response, the first of these conditions
that fails is reported.

That the conditions suffice rests on each part having a reading on its own: a well-formed command is
the UTF-8 of a text, and any four bytes are a word.

## Main results

* `Request.accepts_exactly_requests`: which frames are accepted, and that reading and writing undo
  each other, up to the channel, of which the frames say nothing.
* `Response.accepts_exactly_responses`: which frames are accepted, what is reported of the others,
  and that reading and writing undo each other. A failure is never read as one of the dispatcher's
  answers.
-/

namespace QueryDispatch

namespace Wire

/-- A text is written in well-formed UTF-8. -/
theorem wellFormed_utf8 (s : String) : WellFormed (utf8 s) := wellFormed_iff.2 ⟨s, ofUtf8?_utf8 s⟩

/-- Well-formed bytes are the encoding of a text. -/
theorem WellFormed.exists_utf8 {bytes : Bytes} (h : WellFormed bytes) : ∃ s, utf8 s = bytes := by
  obtain ⟨s, hs⟩ := wellFormed_iff.1 h
  exact ⟨s, ofUtf8?_eq_some_iff.1 hs⟩

/-- Any four bytes are a word. -/
theorem Word.exists_encode {bytes : Bytes} (h : bytes.length = 4) : ∃ w, encode w = bytes := by
  rcases hw : decode? bytes with - | w
  · exact absurd h (decode?_eq_none_iff.1 hw)
  · exact ⟨w, (decode?_eq_some_iff.1 hw).symm⟩

/-- Four bytes or more are a word and a rest. -/
theorem Word.exists_encode_append {bytes : Bytes} (h : 4 ≤ bytes.length) :
    ∃ w rest, encode w ++ rest = bytes := by
  rcases hw : split? bytes with - | ⟨w, rest⟩
  · exact absurd h (Nat.not_le_of_lt (split?_eq_none_iff.1 hw))
  · exact ⟨w, rest, (split?_eq_some_iff.1 hw).symm⟩

end Wire

/-! ### Requests -/

namespace Request

/-- The frames have the form of a request: there are four, the command is well-formed UTF-8, and the
correlation id has four bytes. -/
def HasForm (frames : Frames) : Prop :=
  ∃ route command id body, frames = [route, command, id, body] ∧ Wire.WellFormed command ∧
    id.length = 4

/-- The frames that have the form of a request are the requests that were written. -/
theorem hasForm_iff {frames : Frames} (security : Security) :
    HasForm frames ↔ ∃ r : Request, r.encode = frames ∧ r.security = security := by
  constructor
  · rintro ⟨route, command, id, body, rfl, hcommand, hid⟩
    obtain ⟨text, rfl⟩ := hcommand.exists_utf8
    obtain ⟨w, rfl⟩ := Wire.Word.exists_encode hid
    exact ⟨⟨⟨route⟩, text, w, body, security⟩, rfl, rfl⟩
  · rintro ⟨r, rfl, -⟩
    exact ⟨_, _, _, _, rfl, Wire.wellFormed_utf8 r.command, Wire.Word.length_encode r.id⟩

/-- Requests that are the same but for their channel. -/
theorem onChannel_eq_iff {r r' : Request} (security : Security) :
    r.onChannel security = r'.onChannel security ↔ r' = r.onChannel r'.security := by
  constructor
  · intro h
    exact (congrArg (onChannel · r'.security) h).symm
  · intro h
    rw [h]
    rfl

/-- **Exactly what was written as a request is read as one.** A message is accepted if and only if
it has the form of a request, on either channel. Whatever is accepted is written back as the frames
it was read off, and is on the channel that it came on. A request is read back as it was written on
its own channel, and on another one with that channel in its place. So two requests are written
alike only if they differ in nothing but their channels. -/
theorem accepts_exactly_requests (security : Security) (frames : Frames) :
    ((∃ r, decode security frames = .ok r) ↔ HasForm frames) ∧
      (∀ r, decode security frames = .ok r ↔ r.encode = frames ∧ r.security = security) ∧
      (∀ r : Request, decode r.security r.encode = .ok r) ∧
      (∀ r : Request, decode security r.encode = .ok (r.onChannel security)) ∧
      ∀ r r' : Request, r.encode = r'.encode ↔ r' = r.onChannel r'.security := by
  refine ⟨?_, fun r ↦ decode_eq_ok_iff, fun r ↦ decode_encode r.security r,
    fun r ↦ decode_encode security r, fun r r' ↦ ⟨fun h ↦ ?_, fun h ↦ ?_⟩⟩
  · rw [hasForm_iff security]
    exact exists_congr fun r ↦ decode_eq_ok_iff
  · -- both are what their frames are read as, on the same channel
    have hread := decode_encode security r
    rw [h, decode_encode] at hread
    exact (onChannel_eq_iff security).1 (Except.ok.inj hread).symm
  · rw [h]
    rfl

end Request

/-! ### Responses -/

namespace Response

/-- The frames have the form of a response: there are four, the command is well-formed UTF-8, the
correlation id has four bytes, and the status has at least four. -/
def HasForm (frames : Frames) : Prop :=
  ∃ route command id payload, frames = [route, command, id, payload] ∧ Wire.WellFormed command ∧
    id.length = 4 ∧ 4 ≤ payload.length

/-- The first thing by which frames fail to have the form of a response. -/
inductive FirstDefect : Frames → DecodeError → Prop where
  | frameCount {frames : Frames} (hcount : frames.length ≠ 4) :
      FirstDefect frames (.frameCount frames.length)
  | command {route command id payload : Bytes} (hcommand : ¬ Wire.WellFormed command) :
      FirstDefect [route, command, id, payload] .invalidCommand
  | correlationId {route command id payload : Bytes} (hcommand : Wire.WellFormed command)
      (hid : id.length ≠ 4) :
      FirstDefect [route, command, id, payload] (.invalidCorrelationId id.length)
  | status {route command id payload : Bytes} (hcommand : Wire.WellFormed command)
      (hid : id.length = 4) (hpayload : payload.length < 4) :
      FirstDefect [route, command, id, payload] (.invalidStatus payload.length)

/-- The frames that have the form of a response are the responses that were written. -/
theorem hasForm_iff {frames : Frames} : HasForm frames ↔ ∃ r : Response, r.encode = frames := by
  constructor
  · rintro ⟨route, command, id, payload, rfl, hcommand, hid, hpayload⟩
    obtain ⟨text, rfl⟩ := hcommand.exists_utf8
    obtain ⟨w, rfl⟩ := Wire.Word.exists_encode hid
    obtain ⟨code, body, rfl⟩ := Wire.Word.exists_encode_append hpayload
    refine ⟨⟨⟨route⟩, text, w, .ofCode code, body⟩, ?_⟩
    simp [encode]
  · rintro ⟨r, rfl⟩
    refine ⟨_, _, _, _, rfl, Wire.wellFormed_utf8 r.command, Wire.Word.length_encode r.id, ?_⟩
    rw [List.length_append, Wire.Word.length_encode]
    exact Nat.le_add_right 4 _

/-- **The first defect is reported, and nothing else.** -/
theorem decode_eq_error_iff {frames : Frames} {e : DecodeError} :
    decode frames = .error e ↔ FirstDefect frames e := by
  constructor
  · intro h
    unfold decode at h
    split at h
    · next route command id payload =>
      split at h
      · next hcommand =>
        cases h
        exact .command (Wire.ofUtf8?_eq_none_iff.1 hcommand)
      · next text hcommand =>
        have hcommand' : Wire.WellFormed command := Wire.wellFormed_iff.2 ⟨text, hcommand⟩
        split at h
        · next hid =>
          cases h
          exact .correlationId hcommand' (Wire.Word.decode?_eq_none_iff.1 hid)
        · next w hid =>
          have hid' : id.length = 4 := by
            rw [Wire.Word.decode?_eq_some_iff.1 hid, Wire.Word.length_encode]
          split at h
          · next hpayload =>
            cases h
            exact .status hcommand' hid' (Wire.Word.split?_eq_none_iff.1 hpayload)
          · cases h
    · next hshape =>
      cases h
      refine .frameCount fun hcount ↦ ?_
      obtain ⟨a, b, c, d, rfl⟩ := List.length_eq_four.1 hcount
      exact hshape a b c d rfl
  · intro h
    cases h with
    | frameCount hcount =>
      unfold decode
      split
      · exact absurd rfl hcount
      · rfl
    | command hcommand => rw [decode, Wire.ofUtf8?_eq_none_iff.2 hcommand]
    | correlationId hcommand hid =>
      obtain ⟨text, rfl⟩ := hcommand.exists_utf8
      rw [decode, Wire.ofUtf8?_utf8, Wire.Word.decode?_eq_none_iff.2 hid]
    | status hcommand hid hpayload =>
      obtain ⟨text, rfl⟩ := hcommand.exists_utf8
      obtain ⟨w, rfl⟩ := Wire.Word.exists_encode hid
      rw [decode, Wire.ofUtf8?_utf8, Wire.Word.decode?_encode,
        Wire.Word.split?_eq_none_iff.2 hpayload]

/-- **Exactly what was written as a response is read as one.** Frames are accepted if and only if
they have the form of a response, and of others the first defect is reported. Whatever is accepted
is written back as the frames it was read off, and every response is read back as it was written.
Codes and statuses are the same thing written twice. The reserved codes are no failure's, and so a
failure is read back as that failure and not as a success, as an unknown command or as a malformed
message. -/
theorem accepts_exactly_responses (frames : Frames) :
    ((∃ r, decode frames = .ok r) ↔ HasForm frames) ∧
      (∀ e, decode frames = .error e ↔ FirstDefect frames e) ∧
      (∀ r, decode frames = .ok r ↔ r.encode = frames) ∧
      (∀ r, decode r.encode = .ok r) ∧
      (∀ code, (Status.ofCode code).code = code) ∧
      (∀ status : Status, .ofCode status.code = status) ∧
      (∀ code, FailureCode.ofCode? code = none ↔ code = 0 ∨ code = 3 ∨ code = 4) ∧
      ∀ (request : Request) (c : FailureCode),
        ∃ r, decode (failure request c).encode = .ok r ∧ r.status.code = c.value ∧
          r.status ≠ .success ∧ r.status ≠ .notFound ∧ r.status ≠ .badStream := by
  refine ⟨?_, fun e ↦ decode_eq_error_iff, fun r ↦ decode_eq_ok_iff, decode_encode,
    Status.code_ofCode, Status.ofCode_code, fun code ↦ ?_, fun request c ↦ ?_⟩
  · rw [hasForm_iff]
    exact exists_congr fun r ↦ decode_eq_ok_iff
  · rw [FailureCode.ofCode?_eq_none_iff, isReserved, Bool.or_eq_true, Bool.or_eq_true, beq_iff_eq,
      beq_iff_eq, beq_iff_eq, or_assoc]
    rfl
  · exact ⟨failure request c, decode_encode _, rfl, Status.noConfusion, Status.noConfusion,
      Status.noConfusion⟩

end Response

end QueryDispatch
