import QueryDispatch.Transport

/-!
# The in-process transport

Services bind addresses and workers connect dealers to them, one dealer to each binding. A binding
is a pair of bounded queues, one in each direction, with two ends: the service, and a worker's side
that waits at the address until a dealer takes it.

## What is kept

A `Link` is one binding, for good: it keeps its number after the service is gone, so that an address
bound again is a different link. A `Dealer` connects once in its life. Whether a link still has
someone to receive requests, or someone who could send replies, is not kept but read off its taker
(`hasReceiver`, `hasSender`).

The address table is not kept either: an address is bound when a live service is bound to it, and
`bind` refuses a second one.
-/

namespace QueryDispatch

/-- One binding of an address: a queue in each direction. -/
structure Link where
  address : String
  /-- How many messages either queue holds at most. -/
  capacity : Nat
  /-- Whether the service lives. -/
  served : Bool := true
  /-- The dealer that took the worker's side, if one did. -/
  taker : Option Nat := none
  /-- Queued for the worker, oldest first. -/
  requests : List Frames := []
  /-- Queued for the service, oldest first. -/
  replies : List Frames := []
  deriving DecidableEq

/-- Whether a reply would be queued now. -/
def Link.hasRoom (l : Link) : Bool := l.served && l.replies.length < l.capacity

/-- The state that a dealer shares with all its senders. -/
inductive Phase where
  | unconnected
  | connected (link : Nat)
  | closed
  deriving DecidableEq

/-- The worker's end of the transport. -/
structure Dealer where
  phase : Phase := .unconnected
  /-- The link whose requests it receives. -/
  inbound : Option Nat := none
  /-- A message taken off the queue to see whether there is one. -/
  pending : Option Frames := none
  /-- Whether the dealer itself, apart from its senders, still exists. -/
  alive : Bool := true
  /-- How many senders taken from it exist apart from it. -/
  senders : Nat := 0
  deriving DecidableEq

/-- All bindings and dealers there ever were, by number. -/
structure Hub where
  links : List Link := []
  dealers : List Dealer := []
  deriving DecidableEq

namespace Hub

/-- Why an address could not be bound. -/
inductive BindError where
  | inUse (address : String)
  /-- No queue can be that long. -/
  | oversized
  deriving DecidableEq

/-- What became of a request handed to a service. -/
inductive Delivery where
  | accepted
  /-- The queue is full; the message was not queued. -/
  | full
  /-- There is no one to receive it. -/
  | refused
  deriving DecidableEq

/-- What a service finds when it looks for a reply. -/
inductive Collected where
  | message (frames : Frames)
  /-- None, but one may come. -/
  | waiting
  /-- None, and none will come. -/
  | closed
  deriving DecidableEq

/-- What a dealer finds when it looks for a request. -/
inductive Poll where
  | ready
  /-- None, but one may come. -/
  | waiting
  | failed (cause : TransportError)
  deriving DecidableEq

/-- Changes one link. -/
def updateLink (h : Hub) (k : Nat) (f : Link → Link) : Hub := { h with links := h.links.modify k f }

/-- Changes one dealer. -/
def updateDealer (h : Hub) (d : Nat) (f : Dealer → Dealer) : Hub :=
  { h with dealers := h.dealers.modify d f }

/-- To update a link changes that link only. -/
theorem getElem?_updateLink (h : Hub) (k : Nat) (f : Link → Link) (j : Nat) :
    (h.updateLink k f).links[j]? = h.links[j]?.map fun l ↦ if k = j then f l else l := by
  simp [updateLink, List.getElem?_modify]

/-- To update a dealer changes that dealer only. -/
theorem getElem?_updateDealer (h : Hub) (d : Nat) (f : Dealer → Dealer) (j : Nat) :
    (h.updateDealer d f).dealers[j]? =
      h.dealers[j]?.map fun dealer ↦ if d = j then f dealer else dealer := by
  simp [updateDealer, List.getElem?_modify]

@[simp] theorem dealers_updateLink (h : Hub) (k : Nat) (f : Link → Link) :
    (h.updateLink k f).dealers = h.dealers := rfl

@[simp] theorem links_updateDealer (h : Hub) (d : Nat) (f : Dealer → Dealer) :
    (h.updateDealer d f).links = h.links := rfl

/-! ### Who is there -/

/-- The live service bound at an address. -/
def bound? (h : Hub) (address : String) : Option Nat :=
  h.links.findIdx? fun l ↦ l.served && l.address == address

/-- Whether a live service is bound at the address. -/
def isBound (h : Hub) (address : String) : Bool := (h.bound? address).isSome

/-- Whether someone can receive the requests of a link: a dealer yet to come, or its taker. -/
def hasReceiver (h : Hub) (k : Nat) (l : Link) : Bool :=
  match l.taker with
  | none => l.served
  | some d => h.dealers[d]?.any fun dealer ↦ dealer.inbound == some k

/-- Whether someone can send replies on a link: a dealer yet to come, or its taker, or a sender
taken from that. -/
def hasSender (h : Hub) (k : Nat) (l : Link) : Bool :=
  match l.taker with
  | none => l.served
  | some d =>
    h.dealers[d]?.any fun dealer ↦
      dealer.phase == .connected k && (dealer.alive || 0 < dealer.senders)

/-- How many messages a dealer has yet to receive. -/
def backlog (h : Hub) (d : Nat) : Nat :=
  match h.dealers[d]? with
  | none => 0
  | some dealer =>
    (if dealer.pending.isSome then 1 else 0) +
      match dealer.inbound.bind (h.links[·]?) with
      | none => 0
      | some l => l.requests.length

end Hub

end QueryDispatch
