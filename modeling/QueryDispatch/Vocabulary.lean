/-!
# The published vocabulary

The commands a node answers, and those it has stopped answering. Commands are a contract with
clients: they are compared letter by letter and never renamed. `published` lists them by their
constants; which method of the node answers each is said by the bindings in `Handler`, with the same
constants, and a method spells one command (`Method.command`).

A retired command is never given to another handler; it keeps its name here, with what to use
instead.
-/

namespace QueryDispatch

/-- A part of the node that answers queries. -/
inductive Facet where
  | address
  | blockchain
  | transactionPool
  | protocol
  deriving DecidableEq

namespace Facet

/-- The first part of the facet's commands. -/
def domain : Facet → String
  | .address => "address"
  | .blockchain => "blockchain"
  | .transactionPool => "transaction_pool"
  | .protocol => "protocol"

/-- The name of the facet's interface. -/
def interfaceName : Facet → String
  | .address => "AddressInterface"
  | .blockchain => "BlockchainInterface"
  | .transactionPool => "TransactionPoolInterface"
  | .protocol => "ProtocolInterface"

end Facet

/-- A method of the node. -/
structure Method where
  facet : Facet
  name : String
  deriving DecidableEq

namespace Method

/-- The command that the method spells. -/
def command (m : Method) : String := m.facet.domain ++ "." ++ m.name

/-- The method's full name on the node. -/
def label (m : Method) : String := m.facet.interfaceName ++ "::" ++ m.name

end Method

namespace Vocabulary

/-! ### Commands -/

namespace Address

/-- To subscribe to an address, in the second version. -/
def subscribe2 : String := "address.subscribe2"

/-- To end such a subscription. -/
def unsubscribe2 : String := "address.unsubscribe2"

end Address

namespace Blockchain

/-- To fetch the header of a block. -/
def fetchBlockHeader : String := "blockchain.fetch_block_header"

/-- To fetch the height of a block. -/
def fetchBlockHeight : String := "blockchain.fetch_block_height"

/-- To fetch the hashes of a block's transactions. -/
def fetchBlockTransactionHashes : String := "blockchain.fetch_block_transaction_hashes"

/-- To fetch the height of the chain. -/
def fetchLastHeight : String := "blockchain.fetch_last_height"

/-- To fetch a transaction of the chain. -/
def fetchTransaction : String := "blockchain.fetch_transaction"

/-- To fetch the index of a transaction. -/
def fetchTransactionIndex : String := "blockchain.fetch_transaction_index"

/-- To fetch the spend of an output. -/
def fetchSpend : String := "blockchain.fetch_spend"

/-- To fetch a history, in the second version; the first had its hashes in another byte order. -/
def fetchHistory2 : String := "blockchain.fetch_history2"

/-- To fetch stealth data, in the second version; the first had its hashes in another byte order. -/
def fetchStealth2 : String := "blockchain.fetch_stealth2"

/-- To fetch the transactions of stealth data. -/
def fetchStealthTransaction : String := "blockchain.fetch_stealth_transaction"

/-- To broadcast, for the chain. -/
def broadcast : String := "blockchain.broadcast"

/-- To validate, for the chain. -/
def validate : String := "blockchain.validate"

end Blockchain

namespace TransactionPool

/-- To fetch a transaction of the pool. -/
def fetchTransaction : String := "transaction_pool.fetch_transaction"

/-- To broadcast a transaction, for the pool. -/
def broadcast : String := "transaction_pool.broadcast"

/-- To validate, for the pool, in the second version; the first returned unconfirmed outputs. -/
def validate2 : String := "transaction_pool.validate2"

end TransactionPool

namespace Protocol

/-- To ask for the total of connections. -/
def totalConnections : String := "protocol.total_connections"

end Protocol

/-- The commands clients may rely on, in the order they are attached. -/
def published : List String := [
  Address.subscribe2,
  Address.unsubscribe2,
  Blockchain.fetchBlockHeader,
  Blockchain.fetchBlockHeight,
  Blockchain.fetchBlockTransactionHashes,
  Blockchain.fetchLastHeight,
  Blockchain.fetchTransaction,
  Blockchain.fetchTransactionIndex,
  Blockchain.fetchSpend,
  Blockchain.fetchHistory2,
  Blockchain.fetchStealth2,
  Blockchain.fetchStealthTransaction,
  Blockchain.broadcast,
  Blockchain.validate,
  TransactionPool.fetchTransaction,
  TransactionPool.broadcast,
  TransactionPool.validate2,
  Protocol.totalConnections]

/-- Whether clients may rely on the command. -/
def isPublished (command : String) : Bool := published.contains command

/-- A command clients may still send and no handler answers. -/
structure Obsoleted where
  name : String
  /-- The published command that covers its use now, if there is one. -/
  replacement : Option String
  reason : String
  deriving DecidableEq

/-- The retired commands. -/
def retired : List Obsoleted := [
  ⟨"address.renew", some Address.subscribe2, "subscribe2 also renews"⟩,
  ⟨"address.subscribe", some Address.subscribe2, "superseded"⟩,
  ⟨"address.fetch_history", some Blockchain.fetchHistory2,
    "unconfirmed transactions are no longer indexed"⟩,
  ⟨"blockchain.fetch_stealth", some Blockchain.fetchStealth2, "hash byte order changed"⟩,
  ⟨"blockchain.fetch_history", some Blockchain.fetchHistory2, "hash byte order changed"⟩,
  ⟨"transaction_pool.validate", some TransactionPool.validate2, "returned unconfirmed outputs"⟩,
  ⟨"protocol.broadcast_transaction", some TransactionPool.broadcast, "renamed"⟩]

/-- The retirement of a command, if it was retired. -/
def obsoleted? (command : String) : Option Obsoleted := retired.find? (·.name == command)

/-- A command is published if and only if it is in the list. -/
theorem isPublished_iff {command : String} : isPublished command = true ↔ command ∈ published :=
  List.contains_iff_mem

end Vocabulary

end QueryDispatch
