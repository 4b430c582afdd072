import Messaging.Text.LowerCase
import Messaging.Transport.Definition
import Messaging.World.Site

/-!
# Scripted surroundings

Ways out, storages and transports that refuse what a script tells them to.

- `DispatchScript.recorder` keeps the batches that it does not refuse.
- `StorageScript.storage` is the storage in memory behind scripted faults.
- `TransportScript.transport` writes down what it is asked to do.
-/

namespace Messaging.Scripted

/-! ### Ways out -/

/-- Which batches are refused. -/
structure DispatchScript where
  /-- The refused calls, counted from one. -/
  failCalls : List Nat := []
  /-- The addresses that no message may go to. -/
  failTo : List String := []
  /-- Whether every batch is refused. -/
  failAll : Bool := false
  /-- Why batches are refused. -/
  error : TransportError := .dispatch "broker unreachable"

/-- Why a batch is refused. -/
def DispatchScript.refuse (script : DispatchScript) (call : Nat) (batch : Batch) :
    Option TransportError :=
  if script.failAll || script.failCalls.contains call
      || batch.unicast.any fun delivery => script.failTo.contains delivery.target
  then some script.error
  else none

/-- The recorder of a script. -/
def DispatchScript.recorder (script : DispatchScript) : Recorder := { refuse := script.refuse }

/-! ### Storages -/

/-- Which calls of a storage fail. -/
structure StorageScript where
  /-- The timeouts that are stored first. -/
  stored : List Timeout := []
  /-- The failing calls of each method, counted from one. -/
  failCalls : Storage.Method → List Nat := fun _ => []
  /-- The methods that always fail. -/
  failAll : List Storage.Method := []
  /-- Why calls fail. -/
  error : StorageError := .unavailable "connection refused"
  /-- The calls of `remove` that do nothing. -/
  lose : List Nat := []
  /-- The answers to the first queries. -/
  chunks : List Chunk := []

/-- The storage of a script. -/
def StorageScript.storage (script : StorageScript) : Storage where
  store := script.stored.foldl (fun store timeout => (store.add timeout).toOption.getD store) {}
  refuse method call :=
    if script.failAll.contains method || (script.failCalls method).contains call
    then some script.error
    else none
  loses call := script.lose.contains call
  scripted call := if call = 0 then none else script.chunks[call - 1]?

/-! ### Transports -/

/-- What a transport offers and what it refuses. -/
structure TransportScript where
  /-- What it offers. -/
  capabilities : Capabilities
  /-- The machine that its instances are bound to. -/
  machine : Option String := none
  /-- Whether addresses are written in lower case. -/
  lowercase : Bool := false
  /-- Whether addresses are compared without case and surrounding blanks. -/
  canonical : Bool := false
  /-- Why it provides nothing. -/
  initFails : Option String := none
  /-- Why the check of its sending side fails. -/
  sendCheck : Option String := none
  /-- Why the check of its receiving side fails. -/
  receiveCheck : Option String := none
  /-- Whether it has native subscriptions. -/
  subscribes : Bool := false
  /-- Why subscriptions are refused. -/
  subscriptionsFail : Option TransportError := none
  /-- Whether it does not receive. -/
  sendOnly : Bool := false
  /-- Why queues are not created. -/
  queuesFail : Option TransportError := none
  /-- The pumps that cannot be set up. -/
  failInit : List Nat := []
  /-- The pumps that do not start. -/
  failStart : List Nat := []
  /-- The pumps that do not stop. -/
  failStop : List Nat := []

namespace TransportScript

/-- The name of the property that holds the machine of an instance. -/
def machineKey : String := "machine"

/-- The address of a queue. -/
def address (script : TransportScript) (logical : LogicalAddress) : String :=
  let text := if script.lowercase then Text.lowerCase logical.text else logical.text
  match logical.owner.properties.get? machineKey with
  | some machine => text ++ "@" ++ machine
  | none => text

/-- Refuses for a reason, if there is one. -/
def refusal {α : Type} : Option α → Except α Unit
  | some error => .error error
  | none => .ok ()

/-- The refusal of a numbered pump. -/
def pumpRefusal (action : String) (pumps : List Nat) (index : Nat) : Option TransportError :=
  if pumps.contains index then some (.receive (action ++ " " ++ toString index)) else none

/-- Writes down and refuses for a reason, if there is one. -/
def noting (entry : List (String × Json)) (error : Option TransportError) :
    Act (Except TransportError Unit) := do
  Act.note (.ofMembers entry)
  pure (refusal error)

/-- Writes down that a side of the transport is connected. -/
def noteConnection (side : String) : Option String → Act Unit
  | some connection => Act.note (.string ("connect " ++ side ++ " " ++ connection))
  | none => pure ()

/-- The concurrency of a pump in writing. -/
def concurrencyEntry : Concurrency → Json
  | some n => .ofNat n
  | none => .string "default"

/-- A numbered pump. -/
def pump (script : TransportScript) (index : Nat) : Pump where
  init _ settings := Life.act <| noting
    [("init", .string settings.inputQueue), ("error_queue", .string settings.errorQueue),
      ("purge", .bool settings.purge), ("mode", .string settings.mode.name)]
    (pumpRefusal "fail_init" script.failInit index)
  start queue concurrency := Life.act <| noting
    [("start", .string queue), ("concurrency", concurrencyEntry concurrency)]
    (pumpRefusal "fail_start" script.failStart index)
  stop queue := Life.act <| noting [("stop", .string queue)]
    (pumpRefusal "fail_stop" script.failStop index)

/-- The queues of an endpoint. -/
def createQueues (script : TransportScript) (bindings : Bindings) (identity : String) :
    Act (Except TransportError Unit) :=
  noting [("queues", .ofMembers [("receiving", .ofStrings bindings.receiving),
      ("sending", .ofStrings bindings.sending)]), ("identity", .string identity)]
    script.queuesFail

/-- A change of a subscription. -/
def changeSubscription (script : TransportScript) (verb messageType : String) (scope : ScopeId) :
    Act (Except TransportError Unit) := do
  let depth ← Act.ask (.scopeDepth scope)
  noting [(verb, .string messageType), ("depth", .ofNat depth)] script.subscriptionsFail

/-- What the transport provides. -/
def provide (script : TransportScript) : Infrastructure where
  capabilities := script.capabilities
  connectSend connection := do
    noteConnection "send" connection
    pure { check := script.sendCheck }
  connectReceive :=
    if script.sendOnly then none
    else some fun connection => do
      noteConnection "receive" connection
      pure {
        check := script.receiveCheck, pump := script.pump, createQueues := script.createQueues }
  subscriptions :=
    if script.subscribes then some {
      subscribe := script.changeSubscription "subscribe"
      unsubscribe := script.changeSubscription "unsubscribe" }
    else none

/-- The transport of a script. -/
def transport (script : TransportScript) : Transport where
  name := "fake"
  bindLocal owner :=
    match script.machine with
    | some machine => owner.setProperty machineKey machine
    | none => owner
  address := script.address
  canonical address :=
    if script.canonical then Text.lowerCase (Text.trim address) else address
  provide _ :=
    match script.initFails with
    | some reason => .error (.invalidSetting "transport" reason)
    | none => .ok script.provide

/-- A transport with the same offer that implements nothing optional. -/
def plainTransport (script : TransportScript) : Transport where
  name := "plain"
  address := LogicalAddress.text
  provide _ := .ok { capabilities := script.capabilities, connectSend := fun _ => pure {} }

end TransportScript

end Messaging.Scripted
