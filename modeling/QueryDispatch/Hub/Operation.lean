import QueryDispatch.Hub.Dealer
import QueryDispatch.Hub.Service

/-!
# Operations on the in-process transport

Everything that services, dealers and senders can do, as data, so that histories are lists and
statements about all histories are statements about all lists.

An operation names its service or dealer by number. One on something that is not there, or no
longer, is answered with `absent` and changes nothing: whoever holds a service, a dealer or a sender
keeps it there, so outside of such lists it does not come up.
-/

namespace QueryDispatch.Hub

/-- Something done with the transport. -/
inductive Operation where
  | bind (address : String) (mark : UInt64)
  | unbind (service : Nat)
  | deliver (service : Nat) (frames : Frames)
  /-- Looks for a reply, ready to wait. -/
  | collect (service : Nat)
  /-- Looks for a reply that is there now. -/
  | tryCollect (service : Nat)
  /-- Creates a dealer. -/
  | create
  /-- Drops a dealer, but not its senders. -/
  | drop (dealer : Nat)
  | connect (dealer : Nat) (address : String)
  | poll (dealer : Nat)
  | receive (dealer : Nat)
  | disconnect (dealer : Nat)
  /-- Takes a sender from a dealer. -/
  | retain (dealer : Nat)
  /-- Drops a sender of a dealer. -/
  | release (dealer : Nat)
  | send (dealer : Nat) (frames : Frames)
  deriving DecidableEq

/-- What an operation answers. -/
inductive Answer where
  /-- What it names is not there. -/
  | absent
  | bound (service : Nat) (address : String)
  /-- The queue asked for is too long to exist. -/
  | oversized
  | created (dealer : Nat)
  | done
  | refused (cause : TransportError)
  /-- It would have to wait. -/
  | waiting
  | message (frames : Frames)
  /-- Nothing is there now. -/
  | nothing
  /-- Nothing will come any more. -/
  | closed
  deriving DecidableEq

namespace Answer

/-- The answer to what a dealer or a sender tried. -/
def ofRefusal : Refusal → Answer
  | none => .done
  | some cause => .refused cause

/-- The answer to a service that sends. -/
def ofDelivery : Delivery → Answer
  | .accepted => .done
  | .full => .waiting
  | .refused => .refused .serviceStopped

/-- The answer to a service that looks for a reply. -/
def ofCollected : Collected → Answer
  | .message frames => .message frames
  | .waiting => .waiting
  | .closed => .closed

/-- The answer to one who does not wait. -/
def ofCollectedNow : Collected → Answer
  | .message frames => .message frames
  | .waiting | .closed => .nothing

/-- The answer to a dealer that waits for a message. -/
def ofPoll : Poll → Answer
  | .ready => .done
  | .waiting => .waiting
  | .failed cause => .refused cause

/-- The answer to a dealer that receives. -/
def ofReceived : Received → Answer
  | .message frames => .message frames
  | .fault cause => .refused cause

end Answer

/-- Whether a service lives. -/
def isServed (h : Hub) (k : Nat) : Bool := h.links[k]?.any Link.served

/-- Whether a dealer exists apart from its senders. -/
def isAlive (h : Hub) (d : Nat) : Bool := h.dealers[d]?.any Dealer.alive

/-- Whether a sender taken from a dealer exists. -/
def isRetained (h : Hub) (d : Nat) : Bool := h.dealers[d]?.any fun dealer ↦ 0 < dealer.senders

/-- Carries out an operation that is allowed, and otherwise nothing. -/
def guarded (allowed : Bool) (h : Hub) (result : Answer × Hub) : Answer × Hub :=
  if allowed then result else (.absent, h)

/-- Carries out an operation. -/
def apply (h : Hub) : Operation → Answer × Hub
  | .bind address mark =>
    match h.bind address mark with
    | .ok (k, h) => (.bound k address, h)
    | .error (.inUse address) => (.refused (.endpointInUse address), h)
    | .error .oversized => (.oversized, h)
  | .unbind k => guarded (h.isServed k) h (.done, h.unbind k)
  | .deliver k frames => guarded (h.isServed k) h ((h.deliver k frames).map .ofDelivery id)
  | .collect k => guarded (h.isServed k) h ((h.collect k).map .ofCollected id)
  | .tryCollect k => guarded (h.isServed k) h ((h.collect k).map .ofCollectedNow id)
  | .create => h.newDealer.map .created id
  | .drop d => guarded (h.isAlive d) h (.done, h.dropDealer d)
  | .connect d address => guarded (h.isAlive d) h ((h.connect d address).map .ofRefusal id)
  | .poll d => guarded (h.isAlive d) h ((h.poll d).map .ofPoll id)
  | .receive d => guarded (h.isAlive d) h ((h.receive d).map .ofReceived id)
  | .disconnect d => guarded (h.isAlive d) h ((h.disconnect d).map .ofRefusal id)
  | .retain d => guarded (h.isAlive d) h (.done, h.retain d)
  | .release d => guarded (h.isRetained d) h (.done, h.release d)
  | .send d frames =>
    guarded (h.isAlive d || h.isRetained d) h ((h.send d frames).map .ofRefusal id)

/-- The hub after a list of operations. -/
def run (h : Hub) (operations : List Operation) : Hub :=
  operations.foldl (fun h o ↦ (h.apply o).2) h

/-- The answers to a list of operations. -/
def answers (h : Hub) : List Operation → List Answer
  | [] => []
  | o :: rest => (h.apply o).1 :: (h.apply o).2.answers rest

@[simp] theorem run_nil (h : Hub) : h.run [] = h := rfl

/-- A run carries out the first operation first. -/
@[simp] theorem run_cons (h : Hub) (o : Operation) (rest : List Operation) :
    h.run (o :: rest) = (h.apply o).2.run rest := rfl

/-- To carry out two lists is to carry out one after the other. -/
theorem run_append (h : Hub) (xs ys : List Operation) : h.run (xs ++ ys) = (h.run xs).run ys := by
  simp [run]

end QueryDispatch.Hub
