import QueryDispatch.Message.Response
import QueryDispatch.Registry
import QueryDispatch.Vocabulary

/-!
# Handlers

A command is answered by a method of the node or by a handler of the embedder's own. A handler gets
the request and the one chance to answer it, and it need not answer at once, or at all.

What a handler does is split in two: whether it asks the workers to stop, and what becomes of its
chance to answer. `Completion` lists the ways the second can end. At most one of them sends
anything, and each concerns the handler's own request only, so a reply is always built from the
request it answers.
-/

namespace QueryDispatch

/-- What answers a command: a method of the node, or a handler of the embedder's own. -/
inductive Handler (β : Type) where
  | node (method : Method)
  | custom (handler : β)
  deriving DecidableEq

namespace Handler

variable {β γ : Type}

/-- Replaces the embedder's handler and leaves the node's alone. -/
def map (f : β → γ) : Handler β → Handler γ
  | .node method => .node method
  | .custom handler => .custom (f handler)

open Vocabulary in
/-- The methods the node answers queries with, each with the command it is attached to, in the order
in which they are attached. -/
def nodeMethods : List (String × Method) := [
  (Address.subscribe2, ⟨.address, "subscribe2"⟩),
  (Address.unsubscribe2, ⟨.address, "unsubscribe2"⟩),
  (Blockchain.fetchBlockHeader, ⟨.blockchain, "fetch_block_header"⟩),
  (Blockchain.fetchBlockHeight, ⟨.blockchain, "fetch_block_height"⟩),
  (Blockchain.fetchBlockTransactionHashes, ⟨.blockchain, "fetch_block_transaction_hashes"⟩),
  (Blockchain.fetchLastHeight, ⟨.blockchain, "fetch_last_height"⟩),
  (Blockchain.fetchTransaction, ⟨.blockchain, "fetch_transaction"⟩),
  (Blockchain.fetchTransactionIndex, ⟨.blockchain, "fetch_transaction_index"⟩),
  (Blockchain.fetchSpend, ⟨.blockchain, "fetch_spend"⟩),
  (Blockchain.fetchHistory2, ⟨.blockchain, "fetch_history2"⟩),
  (Blockchain.fetchStealth2, ⟨.blockchain, "fetch_stealth2"⟩),
  (Blockchain.fetchStealthTransaction, ⟨.blockchain, "fetch_stealth_transaction"⟩),
  (Blockchain.broadcast, ⟨.blockchain, "broadcast"⟩),
  (Blockchain.validate, ⟨.blockchain, "validate"⟩),
  (TransactionPool.fetchTransaction, ⟨.transactionPool, "fetch_transaction"⟩),
  (TransactionPool.broadcast, ⟨.transactionPool, "broadcast"⟩),
  (TransactionPool.validate2, ⟨.transactionPool, "validate2"⟩),
  (Protocol.totalConnections, ⟨.protocol, "total_connections"⟩)]

/-- The bindings of the published vocabulary to a node, by what it answers each method with. -/
def interfaceBindings (node : Method → Handler β) : List (String × Handler β) :=
  nodeMethods.map fun (command, m) ↦ (command, node m)

/-- The bindings of the published vocabulary to the node's methods. -/
def nodeBindings : List (String × Handler β) := interfaceBindings .node

end Handler

/-- Gives every published command to a node. -/
def Registry.insertInterface {β : Type} (r : Registry (Handler β)) (node : Method → Handler β) :
    Registry (Handler β) := r.insertMany (Handler.interfaceBindings node)

/-- Gives every published command to the node. -/
def Registry.insertNode {β : Type} (r : Registry (Handler β)) : Registry (Handler β) :=
  r.insertInterface .node

/-! ### What a handler does with its chance to answer -/

/-- What becomes of the chance to answer a message. -/
inductive Completion where
  /-- Given up without a word. -/
  | dropped
  /-- Used for this reply. -/
  | answered (response : Response)
  /-- Set aside until someone decides. -/
  | parked (request : Request)
  /-- Put off until the workers rest. -/
  | deferred (request : Request)
  /-- Lost with the handler, which broke down and takes its worker along. -/
  | panicked
  deriving DecidableEq

/-- What a handler of the embedder's does. -/
inductive Behaviour where
  /-- Sends the request's own body back. -/
  | echo
  | body (bytes : Bytes)
  /-- Fails with a code; a reserved one cannot be sent, so there is no reply. -/
  | failure (code : UInt32)
  | notFound
  | silent
  | park
  /-- Echoes, but later. -/
  | later
  /-- Asks the workers to stop, and gives no reply. -/
  | stop
  /-- Asks the workers to stop, then echoes. -/
  | stopEcho
  | panic
  deriving DecidableEq

namespace Behaviour

/-- Whether the workers are asked to stop. -/
def stops : Behaviour → Bool
  | .stop | .stopEcho => true
  | _ => false

/-- What becomes of the chance to answer a request. -/
def completion (b : Behaviour) (r : Request) : Completion :=
  match b with
  | .echo | .stopEcho => .answered (.success r r.body)
  | .body bytes => .answered (.success r bytes)
  | .failure code =>
    match FailureCode.ofCode? code with
    | some c => .answered (.failure r c)
    | none => .dropped
  | .notFound => .answered (.notFound r)
  | .silent | .stop => .dropped
  | .park => .parked r
  | .later => .deferred r
  | .panic => .panicked

end Behaviour

/-- A handler of the embedder's, by its place in the list of bindings. -/
structure Binding where
  number : Nat
  behaviour : Behaviour
  deriving DecidableEq

namespace Handler

/-- Whether the workers are asked to stop; the node never asks that. -/
def stops : Handler Binding → Bool
  | .node _ => false
  | .custom b => b.behaviour.stops

/-- What becomes of the chance to answer a request; the node answers every request at once. -/
def completion (h : Handler Binding) (r : Request) : Completion :=
  match h with
  | .node m => .answered (.success r (Wire.utf8 m.label))
  | .custom b => b.behaviour.completion r

end Handler

/-- The registry of a list of handlers, each known by its place in the list. The node, if it is to
answer at all, is attached first, so the list prevails. -/
def Registry.ofBehaviours (withNode : Bool) (bindings : List (String × Behaviour)) :
    Registry (Handler Binding) :=
  let base : Registry (Handler Binding) := if withNode then Registry.empty.insertNode else .empty
  base.insertMany (bindings.zipIdx.map fun (b, number) ↦ (b.1, .custom ⟨number, b.2⟩))

end QueryDispatch
