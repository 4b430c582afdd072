/-!
# Transaction modes

- `TransactionMode` is how far a transport ties receiving and sending together; the modes are
  ordered by their strength.
-/

namespace Messaging

/-- How far a transport ties receiving and sending together. -/
inductive TransactionMode where
  /-- A received message is gone, whatever becomes of it. -/
  | none
  /-- A message whose processing fails is received again. -/
  | receiveOnly
  /-- Sends take effect together with the receive. -/
  | sendsAtomicWithReceive
  /-- Sends, receive and other resources commit together. -/
  | transactionScope
deriving DecidableEq, Repr, Inhabited

namespace TransactionMode

/-- The place of a mode in the order of strength. -/
def strength : TransactionMode → Nat
  | none => 0
  | receiveOnly => 1
  | sendsAtomicWithReceive => 2
  | transactionScope => 3

/-- The modes from weak to strong. -/
def all : List TransactionMode := [none, receiveOnly, sendsAtomicWithReceive, transactionScope]

/-- The text of a mode. -/
def text : TransactionMode → String
  | none => "None"
  | receiveOnly => "ReceiveOnly"
  | sendsAtomicWithReceive => "SendsAtomicWithReceive"
  | transactionScope => "TransactionScope"

/-- The name of a mode in settings. -/
def name : TransactionMode → String
  | none => "none"
  | receiveOnly => "receive_only"
  | sendsAtomicWithReceive => "sends_atomic_with_receive"
  | transactionScope => "transaction_scope"

/-- The mode with a name. -/
def ofName? (name : String) : Option TransactionMode := all.find? (·.name = name)

/-- The weaker of two modes. -/
def weaker (a b : TransactionMode) : TransactionMode := if b.strength < a.strength then b else a

end TransactionMode

end Messaging
