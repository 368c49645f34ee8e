import QueryDispatch.Hub.Basic

/-!
# What services do

A service binds an address, sends requests to whichever dealer takes them, and collects replies
until it is dropped.

A service that finds the request queue full would wait. It asks once here and is told that the queue
is `full`, and nothing is queued. When it looks for a reply, `closed` is final, whereas `waiting`
says that there is still someone who could send one.
-/

namespace QueryDispatch.Hub

/-- The longest queue there can be: an eighth of what a machine word can count. -/
def longestQueue : Nat := UInt64.size / 8 - 1

/-- How many messages queue under a high water mark; there is always room for one. -/
def capacity (mark : UInt64) : Nat := max mark.toNat 1

/-- Binds an address, and tells the number of the service. -/
def bind (h : Hub) (address : String) (mark : UInt64) : Except BindError (Nat × Hub) :=
  if h.isBound address then .error (.inUse address)
  else if longestQueue < capacity mark then .error .oversized
  else
    .ok (h.links.length, { h with links := h.links ++ [{ address, capacity := capacity mark }] })

/-- Drops a service. What is queued for it is lost, and so is what is queued for a dealer that can
no longer come; a dealer that is there may still receive what it was sent. -/
def unbind (h : Hub) (k : Nat) : Hub :=
  h.updateLink k fun l ↦
    { l with
      served := false
      replies := []
      requests := if l.taker.isNone then [] else l.requests }

/-- Sends a request from a service. -/
def deliver (h : Hub) (k : Nat) (frames : Frames) : Delivery × Hub :=
  match h.links[k]? with
  | none => (.refused, h)
  | some l =>
    if !h.hasReceiver k l then (.refused, h)
    else if l.capacity ≤ l.requests.length then (.full, h)
    else (.accepted, h.updateLink k fun l ↦ { l with requests := l.requests ++ [frames] })

/-- Takes a reply off the queue of a service. -/
def collect (h : Hub) (k : Nat) : Collected × Hub :=
  match h.links[k]? with
  | none => (.closed, h)
  | some l =>
    match l.replies with
    | frames :: rest => (.message frames, h.updateLink k fun l ↦ { l with replies := rest })
    | [] => (if h.hasSender k l then .waiting else .closed, h)

end QueryDispatch.Hub
