import QueryDispatch.Hub.Operation
import QueryDispatch.Table

/-!
# The address table

A hub has no table of addresses: it finds the service bound at one by looking for it, and whether
the worker's side of a link is still at its address by asking for the taker of the link. Services
and dealers share a table that tells both at once. An entry is the worker's side of a link, until a
dealer takes it, and then an empty slot; a service removes an entry as it is dropped, by its
address.

`Context` is a hub together with this table. Binding and connecting go by the table and look at no
link to decide; all the other operations leave the table alone.
-/

namespace QueryDispatch.Hub

/-- A hub with the table of the addresses bound in it. -/
structure Context where
  hub : Hub := {}
  /-- The link whose worker's side is at an address, or an empty slot once that is taken. -/
  table : Table (Option Nat) := {}

namespace Context

/-- Whether the table has the address. -/
def isBound (c : Context) (address : String) : Bool := (c.table.get? address).isSome

/-- Binds an address, and puts the worker's side of the new link there. -/
def bind (c : Context) (address : String) (mark : UInt64) : Except BindError (Nat × Context) :=
  if c.isBound address then .error (.inUse address)
  else if longestQueue < capacity mark then .error .oversized
  else
    .ok (c.hub.links.length, {
      hub := { c.hub with links := c.hub.links ++ [{ address, capacity := capacity mark }] }
      table := c.table.insert address (some c.hub.links.length) })

/-- Drops a service, and removes what is at its address. -/
def unbind (c : Context) (k : Nat) : Context :=
  match c.hub.links[k]? with
  | none => c
  | some l => { hub := c.hub.unbind k, table := c.table.erase l.address }

/-- Takes the worker's side of a link from an address. -/
def take (c : Context) (address : String) : Except TransportError (Nat × Context) :=
  match c.table.get? address with
  | none => .error (.endpointNotFound address)
  | some none => .error (.endpointInUse address)
  | some (some k) => .ok (k, { c with table := c.table.insert address none })

/-- Connects a dealer with what it takes from an address. -/
def connect (c : Context) (d : Nat) (address : String) : Refusal × Context :=
  match c.hub.dealers[d]? with
  | none => (some .notConnected, c)
  | some dealer =>
    if dealer.phase ≠ .unconnected then (some .alreadyConnected, c)
    else
      match c.take address with
      | .error cause => (some cause, c)
      | .ok (k, c) =>
        let taken := c.hub.updateLink k fun l ↦ { l with taker := some d }
        let hub := taken.updateDealer d fun dealer ↦
          { dealer with phase := .connected k, inbound := some k }
        (none, { c with hub })

/-- Carries out an operation. -/
def apply (c : Context) : Operation → Answer × Context
  | .bind address mark =>
    match c.bind address mark with
    | .ok (k, c) => (.bound k address, c)
    | .error (.inUse address) => (.refused (.endpointInUse address), c)
    | .error .oversized => (.oversized, c)
  | .unbind k => if c.hub.isServed k then (.done, c.unbind k) else (.absent, c)
  | .connect d address =>
    if c.hub.isAlive d then (c.connect d address).map .ofRefusal id else (.absent, c)
  | o => ((c.hub.apply o).1, { c with hub := (c.hub.apply o).2 })

/-- The context after a list of operations. -/
def run (c : Context) (operations : List Operation) : Context :=
  operations.foldl (fun c o ↦ (c.apply o).2) c

/-- The answers to a list of operations. -/
def answers (c : Context) : List Operation → List Answer
  | [] => []
  | o :: rest => (c.apply o).1 :: (c.apply o).2.answers rest

end Context

end QueryDispatch.Hub
