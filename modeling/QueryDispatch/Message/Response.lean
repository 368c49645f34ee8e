import QueryDispatch.Message.Request
import QueryDispatch.Message.Status

/-!
# Responses

A reply repeats the route, command and correlation id of the query it answers, so that the transport
can deliver it and the client can match it. The fourth frame is the status code followed by the
body.

Replies are built from what they answer: from a request, or from the remains of a malformed one.
`decode_eq_ok_iff` states that reading and writing are exact inverses.
-/

namespace QueryDispatch

/-- A reply. -/
structure Response where
  route : Route
  command : String
  id : UInt32
  status : Status
  body : Bytes
  deriving DecidableEq

namespace Response

/-- The query was answered with a body. -/
def success (r : Request) (body : Bytes) : Response :=
  ⟨r.route, r.command, r.id, .success, body⟩

/-- The handler of the query failed. -/
def failure (r : Request) (code : FailureCode) : Response :=
  ⟨r.route, r.command, r.id, .failure code, []⟩

/-- Nobody handles the query's command. -/
def notFound (r : Request) : Response :=
  ⟨r.route, r.command, r.id, .notFound, []⟩

/-- The message is no query; addressed with what was recovered of it. -/
def malformed (m : MalformedRequest) : Response :=
  ⟨m.route, m.command, m.id, .badStream, []⟩

/-- The frames the dispatcher sends. -/
def encode (r : Response) : Frames :=
  [r.route.bytes, Wire.utf8 r.command, Wire.Word.encode r.id,
    Wire.Word.encode r.status.code ++ r.body]

/-- Reads a reply. The number of frames is checked first, then each frame in order. -/
def decode : Frames → Except DecodeError Response
  | [route, commandFrame, idFrame, payload] =>
    match Wire.ofUtf8? commandFrame with
    | none => .error .invalidCommand
    | some command =>
      match Wire.Word.decode? idFrame with
      | none => .error (.invalidCorrelationId idFrame.length)
      | some id =>
        match Wire.Word.split? payload with
        | none => .error (.invalidStatus payload.length)
        | some (code, body) => .ok ⟨⟨route⟩, command, id, .ofCode code, body⟩
  | frames => .error (.frameCount frames.length)

/-- What was written as a response reads back as it. -/
@[simp] theorem decode_encode (r : Response) : decode r.encode = .ok r := by
  simp [decode, encode]

/-- What reads as a response is what the response writes. -/
theorem encode_of_decode {frames : Frames} {r : Response} (h : decode frames = .ok r) :
    r.encode = frames := by
  unfold decode at h
  split at h
  · split at h
    · cases h
    · next hcommand =>
      split at h
      · cases h
      · next hid =>
        split at h
        · cases h
        · next hpayload =>
          cases h
          simp [encode, Wire.ofUtf8?_eq_some_iff.1 hcommand, Wire.Word.decode?_eq_some_iff.1 hid,
            Wire.Word.split?_eq_some_iff.1 hpayload]
  · cases h

/-- **Exactly the encodings are accepted.** -/
theorem decode_eq_ok_iff {frames : Frames} {r : Response} :
    decode frames = .ok r ↔ r.encode = frames :=
  ⟨encode_of_decode, fun h ↦ h ▸ decode_encode r⟩

end Response

end QueryDispatch
