import QueryDispatch.Security
import QueryDispatch.Transport
import QueryDispatch.Wire.Hex
import QueryDispatch.Wire.Word

/-!
# Requests

A query is four frames: the route of the peer, the command in UTF-8, a correlation id of four bytes,
and a body. The channel it arrives on adds whether its clients are authenticated; nothing in the
frames can claim that.

Reading is progressive. A message that is no query still yields what was recovered in frame order
before the first failing check, so that the rejection can be addressed to its sender.

`decode_eq_ok_iff` says that exactly the encodings are accepted, and `decode_encode` that each reads
back as what it encodes. Both rest on the two frame codecs, for UTF-8 and for words, being exact
inverses; the number of frames is settled by the match.
-/

namespace QueryDispatch

/-! ### Routes -/

/-- The transport's name for a peer. It is opaque: it is carried back unchanged on the reply, and
shown in logs as hexadecimal. -/
structure Route where
  bytes : Bytes
  deriving DecidableEq

namespace Route

/-- The route of a message that carried none. -/
def empty : Route := ⟨[]⟩

/-- Whether there is nothing to carry back. -/
def isEmpty (r : Route) : Bool := r.bytes.isEmpty

/-- The text of a route: its hexadecimal digits, or a placeholder where there would be none. -/
def display (r : Route) : String :=
  if r.isEmpty then "[unrouted]" else Wire.Hex.encode r.bytes

/-- A route that is not empty is shown as its hexadecimal. -/
theorem display_of_ne_nil {r : Route} (h : r.bytes ≠ []) : r.display = Wire.Hex.encode r.bytes := by
  simp [display, isEmpty, h]

end Route

/-! ### Requests and what keeps a message from being one -/

/-- Why a list of frames could not be read. -/
inductive DecodeError where
  /-- Too few or too many frames; the number there were. -/
  | frameCount (count : Nat)
  /-- The command is not UTF-8. -/
  | invalidCommand
  /-- The correlation frame is not four bytes; the number there were. -/
  | invalidCorrelationId (length : Nat)
  /-- The status frame is shorter than its code; the number of bytes there were. -/
  | invalidStatus (length : Nat)
  /-- The transport failed before there were any frames. -/
  | unreadable (cause : TransportError)
  deriving DecidableEq

namespace DecodeError

/-- The text of the error, as it is logged. -/
def message : DecodeError → String
  | .frameCount count => "bad frame count: " ++ count.repr
  | .invalidCommand => "command frame is not valid UTF-8"
  | .invalidCorrelationId length => "correlation frame must be 4 bytes, got " ++ length.repr
  | .invalidStatus length => "status frame must be at least 4 bytes, got " ++ length.repr
  | .unreadable cause => "unreadable message: " ++ cause.message

end DecodeError

/-- A query, as a handler sees it. -/
structure Request where
  /-- The peer it came from. -/
  route : Route
  command : String
  /-- The client's own number for the query, copied onto the reply. -/
  id : UInt32
  body : Bytes
  /-- The channel it arrived on. -/
  security : Security
  deriving DecidableEq

/-- What could be recovered of a message that is no query. -/
structure MalformedRequest where
  route : Route := .empty
  command : String := ""
  id : UInt32 := 0
  error : DecodeError
  deriving DecidableEq

namespace MalformedRequest

/-- Nothing is recovered of a message the transport could not deliver. -/
def unreadable (cause : TransportError) : MalformedRequest where
  error := .unreadable cause

end MalformedRequest

namespace Request

/-- The frames a client sends. -/
def encode (r : Request) : Frames :=
  [r.route.bytes, Wire.utf8 r.command, Wire.Word.encode r.id, r.body]

/-- Reads a message from a channel. The checks are made in frame order, and the number of frames is
complained of where the next one is missing, so a longer message recovers at least as much. -/
def decode (security : Security) : Frames → Except MalformedRequest Request
  | [] => .error { error := .frameCount 0 }
  | [route] => .error { route := ⟨route⟩, error := .frameCount 1 }
  | route :: commandFrame :: rest =>
    match Wire.ofUtf8? commandFrame with
    | none => .error { route := ⟨route⟩, error := .invalidCommand }
    | some command =>
      match rest with
      | [] => .error { route := ⟨route⟩, command, error := .frameCount 2 }
      | idFrame :: rest =>
        match Wire.Word.decode? idFrame with
        | none =>
          .error { route := ⟨route⟩, command, error := .invalidCorrelationId idFrame.length }
        | some id =>
          match rest with
          | [body] => .ok { route := ⟨route⟩, command, id, body, security }
          | _ => .error { route := ⟨route⟩, command, id, error := .frameCount (3 + rest.length) }

/-- The message with the security of its channel. -/
def onChannel (r : Request) (security : Security) : Request := { r with security }

/-- What was written as a request reads back as it, on the channel it came by. -/
@[simp] theorem decode_encode (security : Security) (r : Request) :
    decode security r.encode = .ok (r.onChannel security) := by
  simp [decode, encode, onChannel]

/-- What reads as a request is what the request writes, and is on the channel it came by. -/
theorem encode_of_decode {security : Security} {frames : Frames} {r : Request}
    (h : decode security frames = .ok r) : r.encode = frames ∧ r.security = security := by
  unfold decode at h
  split at h
  · cases h
  · cases h
  · split at h
    · cases h
    · next hcommand =>
      split at h
      · cases h
      · split at h
        · cases h
        · next hid =>
          split at h
          · cases h
            simp [encode, Wire.ofUtf8?_eq_some_iff.1 hcommand, Wire.Word.decode?_eq_some_iff.1 hid]
          · cases h

/-- **Exactly the encodings are accepted**, and the security comes from the channel alone. -/
theorem decode_eq_ok_iff {security : Security} {frames : Frames} {r : Request} :
    decode security frames = .ok r ↔ r.encode = frames ∧ r.security = security := by
  constructor
  · exact encode_of_decode
  · rintro ⟨rfl, rfl⟩
    exact decode_encode _ _

end Request

end QueryDispatch
