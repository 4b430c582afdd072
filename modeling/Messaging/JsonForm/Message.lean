import Messaging.Event
import Messaging.JsonForm.Failure
import Messaging.JsonForm.Time
import Messaging.Memory.Broker
import Messaging.Timeout.Basic

/-!
# Messages in JSON forms

- Header values that are times may stand relative to the clock. A body stands as text, as repeated
  texts, or as digits in base sixteen.
- The functions `read…` read messages and what holds messages, the functions `of…` write them.
-/

namespace Messaging.JsonForm

open Time (Instant)

/-! ### Reading -/

/-- Reads headers. -/
def readHeaders (value : Json) : Reading Headers := do
  let entries ← (asMembers value).mapM fun (key, value) => do
    if (asText value).startsWith "<now" then do
      let t ← readTime value
      pure (key, Time.Wire.write t)
    else pure (key, asText value)
  pure (Table.ofList entries)

/-- The value of a digit in base sixteen. -/
def hexValue (c : Char) : Nat :=
  if c.isDigit then c.toNat - '0'.toNat else c.toLower.toNat - 'a'.toNat + 10

/-- The bytes of digits in base sixteen. -/
def readHex : List Char → Body
  | high :: low :: rest => (hexValue high * 16 + hexValue low).toUInt8 :: readHex rest
  | _ => []

/-- Reads a body from the members of its message. -/
def readBody (value : Json) : Body :=
  match value.get? "body_hex", value.get? "body_repeat" with
  | some (.string digits), _ => readHex digits.toList
  | _, some (.array parts) =>
    parts.flatMap fun part =>
      (List.replicate (asNat (item part 1)) (Body.ofText (asText (item part 0)))).flatten
  | _, _ => Body.ofText (asText (value.getD "body"))

/-- Reads a message. -/
def readMessage (value : Json) : Reading Message := do
  pure ⟨asText (value.getD "id"), ← readHeaders (value.getD "headers"), readBody value⟩

/-- Reads a message in a queue. -/
def readQueued (value : Json) : Reading Queued := do
  let message ← readMessage value
  pure ⟨message, ← readTime? (value.getD "discard_after")⟩

/-- Reads a delivery constraint. -/
def readConstraint (value : Json) : Reading Constraint :=
  match asTagged value with
  | ("delay_ms", n) => pure (.delayBy (.ofMillis (asNat n)))
  | ("discard_ms", n) => pure (.discardAfter (.ofMillis (asNat n)))
  | (_, t) => do pure (.notBefore (← readTime t))

/-- Reads delivery constraints. -/
def readConstraints (value : Json) : Reading (List Constraint) :=
  (asItems value).mapM readConstraint

/-- Reads a route. -/
def readRoute (value : Json) : Route :=
  match asTagged value with
  | ("multicast", messageType) => .multicast (asText messageType)
  | (_, address) => .unicast (asText address)

/-- Reads routes. -/
def readRoutes (value : Json) : List Route := (asItems value).map readRoute

/-- Reads an operation. -/
def readOperation (value : Json) : Reading Operation := do
  pure {
    message := ← readMessage (value.getD "message")
    route := readRoute (value.getD "strategy")
    constraints := ← readConstraints (value.getD "constraints")
    isolated := asFlag (value.getD "isolated") }

/-- Reads operations. -/
def readOperations (value : Json) : Reading (List Operation) := (asItems value).mapM readOperation

/-- Reads a timeout. -/
def readTimeout (value : Json) : Reading Timeout := do
  let due ← readTime (value.getD "time")
  pure {
    id := asText (value.getD "id")
    destination := (asText? (value.getD "destination")).getD "Sales"
    body := readBody value
    due
    headers := ← readHeaders (value.getD "headers")
    owner := (asText? (value.getD "owner")).getD "Sales" }

/-! ### Writing -/

/-- The headers whose values are shown as times. -/
def timeHeaders : List String := [Header.timeSent, Header.timeOfFailure, Header.timeoutExpire]

/-- The value of a header. -/
def headerText (now : Instant) (key text : String) : String :=
  if timeHeaders.contains key then
    match Time.Wire.read text with
    | .ok t => if isNear now t then relativeText now t else text
    | .error _ => text
  else text

/-- Headers. -/
def ofHeaders (now : Instant) (headers : Headers) : Json :=
  .object (headers.toList.map fun (key, text) => (key, .string (headerText now key text)))

/-- The digits of a byte in base sixteen. -/
def hexDigits (b : UInt8) : List Char := (Nat.toDigits 16 b.toNat).leftpad 2 '0'

/-- A body. -/
def ofBody (body : Body) : Json :=
  match body.text? with
  | some text => .string text
  | none => .ofMembers [("hex", .string (String.ofList (body.flatMap hexDigits)))]

/-- The members of a message. -/
def messageMembers (now : Instant) (message : Message) : List (String × Json) :=
  [("id", .string message.id), ("headers", ofHeaders now message.headers),
    ("body", ofBody message.body)]

/-- A message. -/
def ofMessage (now : Instant) (message : Message) : Json := .ofMembers (messageMembers now message)

/-- A message in a queue. -/
def ofQueued (now : Instant) (queued : Queued) : Json :=
  .ofMembers (messageMembers now queued.message ++
    match queued.discardAfter with
    | some t => [("discard_after", ofTime now t)]
    | none => [])

/-- A delivery constraint. -/
def ofConstraint (now : Instant) : Constraint → Json
  | .delayBy span => .ofMembers [("delay_ms", .ofNat span.millis)]
  | .discardAfter span => .ofMembers [("discard_ms", .ofNat span.millis)]
  | .notBefore t => .ofMembers [("at", ofTime now t)]

/-- Delivery constraints. -/
def ofConstraints (now : Instant) (constraints : List Constraint) : Json :=
  .array (constraints.map (ofConstraint now))

/-- Routes. -/
def ofRoutes (routes : List Route) : Json := .ofStrings (routes.map Route.text)

/-- An operation with its target under a name. -/
def ofDelivery (now : Instant) (target : String) (delivery : Delivery) : Json :=
  .ofMembers ([(target, .string delivery.target)] ++ messageMembers now delivery.message ++
    (if delivery.constraints.isEmpty then []
      else [("constraints", ofConstraints now delivery.constraints)]) ++
    (if delivery.isolated then [("isolated", .bool true)] else []))

/-- The members of a batch. -/
def batchMembers (now : Instant) (batch : Batch) : List (String × Json) :=
  [("unicast", .array (batch.unicast.map (ofDelivery now "to"))),
    ("multicast", .array (batch.multicast.map (ofDelivery now "type")))]

/-- A batch. -/
def ofBatch (now : Instant) (batch : Batch) : Json := .ofMembers (batchMembers now batch)

/-- A timeout. -/
def ofTimeout (now : Instant) (timeout : Timeout) : Json :=
  .ofMembers [("id", .string timeout.id), ("destination", .string timeout.destination),
    ("body", ofBody timeout.body), ("time", ofTime now timeout.due),
    ("headers", ofHeaders now timeout.headers), ("owner", .string timeout.owner)]

/-- Whether a timeout is listed before another: by due time, then destination, then key. -/
def listedBefore (a b : Timeout) : Bool :=
  a.due < b.due || (a.due = b.due && (a.destination < b.destination
    || (a.destination = b.destination && a.id ≤ b.id)))

/-- All timeouts of a storage. -/
def ofStore (now : Instant) (store : TimeoutStore) : Json :=
  .array ((store.toList.mergeSort listedBefore).map (ofTimeout now))

/-- The answer to a storage query. -/
def ofChunk (now : Instant) (chunk : Chunk) : Json :=
  .ofMembers [("due", .array (chunk.due.map fun entry =>
      .array [.string entry.id, ofTime now entry.due])),
    ("next", ofTime now chunk.next)]

/-- An event, with the id that its accessor gives. -/
def ofEvent (now : Instant) (event : Event) : Json :=
  let members :=
    match event with
    | .retried messageId attempt failure =>
      [("type", Json.string "first_level_retry_attempted"), ("message_id", .string messageId),
        ("retry_attempt", .ofNat attempt.toNat), ("failure", ofInfo failure)]
    | .movedToErrorQueue messageId errorQueue headers body failure time =>
      [("type", .string "message_sent_to_error_queue"), ("message_id", .string messageId),
        ("error_queue", .string errorQueue), ("headers", ofHeaders now headers),
        ("body", ofBody body), ("failure", ofInfo failure), ("at", ofTime now time)]
  .ofMembers (members ++ [("id_accessor", .string event.messageId)])

end Messaging.JsonForm
