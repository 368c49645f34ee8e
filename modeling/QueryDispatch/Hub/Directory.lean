import QueryDispatch.Hub.Operation
import QueryDispatch.Table

/-!
# Services, dealers and senders by name

A directory gives names to the services, dealers and senders of a hub. Each step is an operation on
what a name stands for. A name given again is taken from what it stood for, which is dropped, since
nothing else keeps it; the new one is there before the old one goes.
-/

namespace QueryDispatch.Hub

/-- A hub with names for what is in use. -/
structure Directory where
  hub : Hub := {}
  services : Table Nat := {}
  dealers : Table Nat := {}
  /-- The dealers that senders were taken from, by the names of the senders. -/
  senders : Table Nat := {}

/-- Something done with the transport, by name. -/
inductive Command where
  | bind (name address : String) (mark : UInt64)
  | isBound (address : String)
  | unbind (name : String)
  | deliver (name : String) (frames : Frames)
  | collect (name : String)
  | tryCollect (name : String)
  | create (name : String)
  | drop (name : String)
  | connect (name address : String)
  | poll (name : String)
  | receive (name : String)
  | disconnect (name : String)
  /-- Takes a sender from the dealer `name` and calls it `sender`. -/
  | retain (name sender : String)
  /-- Drops a sender. -/
  | release (name : String)
  | send (name : String) (frames : Frames)
  deriving DecidableEq

/-- What a command replies. -/
inductive Reply where
  | answer (answer : Answer)
  /-- Whether it is so, or was. -/
  | truth (holds : Bool)
  /-- The name stands for nothing. -/
  | unknownName
  deriving DecidableEq

namespace Directory

/-- Carries out an operation that concerns no name. -/
def operate (s : Directory) (o : Operation) : Reply × Directory :=
  ((.answer (s.hub.apply o).1), { s with hub := (s.hub.apply o).2 })

/-- Carries out an operation on what a name stands for. -/
def operateOn (s : Directory) (names : Table Nat) (name : String) (o : Nat → Operation) :
    Reply × Directory :=
  match names.get? name with
  | none => (.unknownName, s)
  | some n => s.operate (o n)

/-- Carries out an operation if there is something to do it to. -/
def clear (s : Directory) (target : Option Nat) (o : Nat → Operation) : Directory :=
  match target with
  | none => s
  | some n => (s.operate (o n)).2

/-- Carries out a command. -/
def step (s : Directory) : Command → Reply × Directory
  | .bind name address mark =>
    match s.operate (.bind address mark) with
    | (.answer (.bound k a), s) =>
      let cleared := s.clear (s.services.get? name) .unbind
      (.answer (.bound k a), { cleared with services := s.services.insert name k })
    | result => result
  | .isBound address => (.truth (s.hub.isBound address), s)
  | .unbind name =>
    let cleared := s.clear (s.services.get? name) .unbind
    (.truth (s.services.get? name).isSome, { cleared with services := s.services.erase name })
  | .deliver name frames => s.operateOn s.services name (.deliver · frames)
  | .collect name => s.operateOn s.services name .collect
  | .tryCollect name => s.operateOn s.services name .tryCollect
  | .create name =>
    let (d, hub) := s.hub.newDealer
    let cleared := { s with hub }.clear (s.dealers.get? name) .drop
    (.answer .done, { cleared with dealers := s.dealers.insert name d })
  | .drop name =>
    let cleared := s.clear (s.dealers.get? name) .drop
    (.truth (s.dealers.get? name).isSome, { cleared with dealers := s.dealers.erase name })
  | .connect name address => s.operateOn s.dealers name (.connect · address)
  | .poll name => s.operateOn s.dealers name .poll
  | .receive name => s.operateOn s.dealers name .receive
  | .disconnect name => s.operateOn s.dealers name .disconnect
  | .retain name sender =>
    match s.dealers.get? name with
    | none => (.unknownName, s)
    | some d =>
      let retained := (s.operate (.retain d)).2
      let cleared := retained.clear (s.senders.get? sender) .release
      (.answer .done, { cleared with senders := s.senders.insert sender d })
  | .release name =>
    let cleared := s.clear (s.senders.get? name) .release
    (.truth (s.senders.get? name).isSome, { cleared with senders := s.senders.erase name })
  | .send name frames => s.operateOn s.senders name (.send · frames)

/-- The replies to a list of commands. -/
def replies (s : Directory) : List Command → List Reply
  | [] => []
  | c :: rest => (s.step c).1 :: (s.step c).2.replies rest

end Directory

end QueryDispatch.Hub
