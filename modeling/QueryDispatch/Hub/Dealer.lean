import QueryDispatch.Hub.Basic

/-!
# What dealers and their senders do

A dealer connects once in its life, receives what the service it connected to sends, and disconnects
or is dropped. Senders are taken from it and may outlive it. They share its phase: before it
connects they are told so, and once it has disconnected they are told that the session is over.

A dealer never waits to send. A reply that does not fit, or whose service is gone, is dropped, and
the sender is told that all is well.
-/

namespace QueryDispatch.Hub

/-- Creates a dealer, and tells its number. -/
def newDealer (h : Hub) : Nat × Hub :=
  (h.dealers.length, { h with dealers := h.dealers ++ [{}] })

/-- Lets go of the requests a dealer has yet to receive. -/
def abandonRequests (h : Hub) (dealer : Dealer) : Hub :=
  match dealer.inbound with
  | none => h
  | some k => h.updateLink k fun l ↦ { l with requests := [] }

/-- Drops a dealer without disconnecting it: it receives no more, and its senders go on. -/
def dropDealer (h : Hub) (d : Nat) : Hub :=
  match h.dealers[d]? with
  | none => h
  | some dealer =>
    (h.abandonRequests dealer).updateDealer d fun dealer ↦
      { dealer with alive := false, inbound := none, pending := none }

/-- Connects a dealer to the service at an address, if no dealer ever did since it was bound. -/
def connect (h : Hub) (d : Nat) (address : String) : Refusal × Hub :=
  match h.dealers[d]? with
  | none => (some .notConnected, h)
  | some dealer =>
    if dealer.phase ≠ .unconnected then (some .alreadyConnected, h)
    else
      match h.bound? address with
      | none => (some (.endpointNotFound address), h)
      | some k =>
        if (h.links[k]?.bind Link.taker).isSome then (some (.endpointInUse address), h)
        else
          (none, (h.updateLink k fun l ↦ { l with taker := some d }).updateDealer d fun dealer ↦
            { dealer with phase := .connected k, inbound := some k })

/-- Looks whether a dealer has something to receive. A message that is there is taken off the queue
and kept for `receive`. -/
def poll (h : Hub) (d : Nat) : Poll × Hub :=
  match h.dealers[d]? with
  | none => (.failed .notConnected, h)
  | some dealer =>
    if dealer.pending.isSome then (.ready, h)
    else
      match dealer.inbound with
      | none => (.failed .notConnected, h)
      | some k =>
        match h.links[k]? with
        | none => (.failed .serviceStopped, h)
        | some l =>
          match l.requests with
          | frames :: rest =>
            (.ready, (h.updateLink k fun l ↦ { l with requests := rest }).updateDealer d
              fun dealer ↦ { dealer with pending := some frames })
          | [] => (if l.served then .waiting else .failed .serviceStopped, h)

/-- Takes the next message of a dealer: the one kept aside, or the first of the queue. -/
def receive (h : Hub) (d : Nat) : Received × Hub :=
  match h.dealers[d]? with
  | none => (.fault .notConnected, h)
  | some dealer =>
    match dealer.pending with
    | some frames =>
      (.message frames, h.updateDealer d fun dealer ↦ { dealer with pending := none })
    | none =>
      match dealer.inbound with
      | none => (.fault .notConnected, h)
      | some k =>
        match h.links[k]? with
        | none => (.fault .serviceStopped, h)
        | some l =>
          match l.requests with
          | frames :: rest =>
            (.message frames, h.updateLink k fun l ↦ { l with requests := rest })
          | [] => (.fault (if l.served then .wouldBlock else .serviceStopped), h)

/-- Ends a dealer's session. What it has yet to receive is lost. -/
def disconnect (h : Hub) (d : Nat) : Refusal × Hub :=
  match h.dealers[d]? with
  | none => (some .notConnected, h)
  | some dealer =>
    match dealer.phase with
    | .connected _ =>
      (none, (h.abandonRequests dealer).updateDealer d fun dealer ↦
        { dealer with phase := .closed, inbound := none, pending := none })
    | _ => (some .notConnected, h)

/-! ### Senders -/

/-- Takes a sender from a dealer. -/
def retain (h : Hub) (d : Nat) : Hub :=
  h.updateDealer d fun dealer ↦ { dealer with senders := dealer.senders + 1 }

/-- Drops a sender taken from a dealer. -/
def release (h : Hub) (d : Nat) : Hub :=
  h.updateDealer d fun dealer ↦ { dealer with senders := dealer.senders - 1 }

/-- Sends a reply through a dealer or one of its senders. -/
def send (h : Hub) (d : Nat) (frames : Frames) : Refusal × Hub :=
  match h.dealers[d]? with
  | none => (some .notConnected, h)
  | some dealer =>
    match dealer.phase with
    | .unconnected => (some .notConnected, h)
    | .closed => (some .serviceStopped, h)
    | .connected k =>
      (none, h.updateLink k fun l ↦
        if l.hasRoom then { l with replies := l.replies ++ [frames] } else l)

end QueryDispatch.Hub
