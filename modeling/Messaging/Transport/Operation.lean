import Messaging.Delivery
import Messaging.Message
import Messaging.Routing.Route

/-!
# Transport operations

- `Operation` is an outgoing message bound to one route.
- `Batch` is what a dispatcher is handed in one call: the operations to single addresses and those
  to subscribers, each in the order in which they were added.
-/

namespace Messaging

/-- An outgoing message bound to one route. -/
structure Operation where
  /-- The message. -/
  message : Message
  /-- Its route. -/
  route : Route
  /-- The requirements on its delivery. -/
  constraints : List Constraint := []
  /-- Whether it is dispatched apart from the receive that caused it. -/
  isolated : Bool := false
deriving DecidableEq

/-- An operation with what it is addressed to. -/
structure Delivery where
  /-- The address or the message type. -/
  target : String
  /-- The message. -/
  message : Message
  /-- The requirements on its delivery. -/
  constraints : List Constraint
  /-- Whether it is dispatched apart from the receive that caused it. -/
  isolated : Bool
deriving DecidableEq

/-- The operations of one dispatch. -/
structure Batch where
  /-- Operations to single addresses. -/
  unicast : List Delivery := []
  /-- Operations to the subscribers of a type. -/
  multicast : List Delivery := []
deriving DecidableEq, Inhabited

namespace Batch

/-- The batch with one operation more. -/
def push (batch : Batch) (operation : Operation) : Batch :=
  let delivery (target : String) : Delivery :=
    ⟨target, operation.message, operation.constraints, operation.isolated⟩
  match operation.route with
  | .unicast address => { batch with unicast := batch.unicast ++ [delivery address] }
  | .multicast messageType => { batch with multicast := batch.multicast ++ [delivery messageType] }

/-- The batch of a list of operations. -/
def ofList (operations : List Operation) : Batch := operations.foldl push {}

/-- How many operations a batch holds. -/
def size (batch : Batch) : Nat := batch.unicast.length + batch.multicast.length

/-- Whether a batch holds no operation. -/
def isEmpty (batch : Batch) : Bool := batch.unicast.isEmpty && batch.multicast.isEmpty

/-- The operations of a batch: first those to single addresses, then those to subscribers. -/
def toList (batch : Batch) : List Operation :=
  batch.unicast.map (fun d => ⟨d.message, .unicast d.target, d.constraints, d.isolated⟩) ++
    batch.multicast.map (fun d => ⟨d.message, .multicast d.target, d.constraints, d.isolated⟩)

/-- A batch with one operation more holds this one and those before. -/
theorem mem_toList_push {batch : Batch} {operation other : Operation} :
    other ∈ (batch.push operation).toList ↔ other ∈ batch.toList ∨ other = operation := by
  obtain ⟨message, route, constraints, isolated⟩ := operation
  cases route with
  | unicast address => simp [push, toList, or_assoc, or_comm]
  | multicast messageType => simp [push, toList, or_assoc]

/-- The batch of a list holds the operations of the list. -/
theorem mem_toList_ofList {operations : List Operation} {operation : Operation} :
    operation ∈ (ofList operations).toList ↔ operation ∈ operations := by
  suffices h : ∀ batch : Batch, operation ∈ (operations.foldl push batch).toList ↔
      operation ∈ batch.toList ∨ operation ∈ operations by
    rw [ofList, h]
    simp [toList]
  induction operations with
  | nil => simp
  | cons first rest ih =>
    intro batch
    rw [List.foldl_cons, ih, mem_toList_push, List.mem_cons, or_assoc]

end Batch

end Messaging
