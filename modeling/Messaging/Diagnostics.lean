import Messaging.Endpoint.Running
import Messaging.Text.Quoted

/-!
# Descriptions for diagnostics

Every part of an endpoint has a one-line description for logs: its name with the fields that tell it
from others of its kind.
-/

namespace Messaging

open Text (quote describeFields describeList describeOption describeWrapped)

/-- A described truth value. -/
def describeBool (b : Bool) : String := if b then "true" else "false"

/-- A described list of texts. -/
def describeTexts (texts : List String) : String := describeList (texts.map quote)

/-- A described scope. -/
def Scopes.describe (scopes : Scopes) (id : ScopeId) : String :=
  describeFields "ContextBag" [("local_values", toString (scopes.localSize id)),
    ("depth", toString (scopes.depth id))]

/-- A described list of staged operations. -/
def describeStaged (operations : List Operation) : String :=
  describeFields "PendingTransportOperations" [("operations", toString operations.length)]

/-- A described step. -/
def EndpointStep.describe (step : EndpointStep) : String :=
  describeFields "StepRegistration" [("id", quote step.id), ("context", quote step.kind.typeName),
    ("insert_before", describeTexts step.before), ("insert_after", describeTexts step.after)]

/-- A described set of steps. -/
def EndpointSteps.describe (set : EndpointSteps) : String :=
  describeFields "PipelineModifications" [("name", quote set.name),
    ("steps", describeList (set.steps.map EndpointStep.describe)),
    ("replacements", toString set.replacements.length)]

/-- A described pipeline for contexts of a kind. -/
def describePipeline (kind : ContextKind) (pipeline : Chain kind.Context) : String :=
  describeFields "Pipeline" [("name", quote pipeline.name), ("context", quote kind.typeName),
    ("step_ids", describeTexts pipeline.stepIds)]

/-- A described set of built pipelines. -/
def EndpointCache.describe (cache : EndpointCache) : String :=
  describeFields "PipelineCache" [("pipelines", toString cache.size)]

/-- Described ways to send messages. -/
def Operations.describe (operations : Operations) : String :=
  describeFields "MessageOperations" [("endpoint_name", quote operations.endpointName),
    ("local_address", describeOption (operations.localAddress.map quote))]

/-- A described handler. -/
def Handler.describe (handler : Handler) : String :=
  describeWrapped "BoxHandler" (quote handler.name)

/-- Described handlers of message types. -/
def describeHandlers (handlers : Incoming.Handlers) : String :=
  let entry (messageType : String) (list : List Handler) : String :=
    quote messageType ++ ": " ++ describeList (list.map Handler.describe)
  "\x7b" ++ String.intercalate ", " (handlers.toList.map fun e => entry e.1 e.2) ++ "\x7d"

/-- A described invocation, as the handler sees it. -/
def HandlerContext.describe (context : HandlerContext) : String :=
  describeFields "InvokeHandlerContext" [("message_id", quote context.messageId),
    ("message_type", quote context.message.messageType),
    ("handler", describeWrapped "BoxHandler" (quote context.handlerName)),
    ("dispatch_aborted", describeBool context.stopped)]

/-- A described kind of routing. -/
def RoutingKind.describe : RoutingKind → String
  | unicast => "Unicast"
  | multicast => "Multicast"

/-- A described routing policy. -/
def RoutingPolicy.describe (policy : RoutingPolicy) : String :=
  describeFields "OutboundRoutingPolicy" [("sends", policy.sends.describe),
    ("publishes", policy.publishes.describe), ("replies", policy.replies.describe)]

/-- A described resolver. -/
def Resolver.describe (resolver : Resolver) : String :=
  let route (entry : String × String) : String := quote entry.1 ++ ": " ++ quote entry.2
  describeFields "RoutingResolver" [
    ("routes", "\x7b" ++ String.intercalate ", " (resolver.routes.toList.map route) ++ "\x7d"),
    ("local_address", describeOption (resolver.localAddress.map quote)),
    ("policy", resolver.policy.describe),
    ("has_subscribers", describeBool resolver.subscribers.isSome)]

/-- The described critical errors of an endpoint, of which a number were raised. -/
def describeCritical (raised : Nat) : String :=
  describeFields "CriticalError" [("raised", toString raised)]

/-- A described channel of events. -/
def Broadcast.describe {α : Type} (channel : Broadcast α) : String :=
  describeFields "BusNotifications" [("receiver_count", toString channel.positions.length)]

/-- A described cleaner of a number of failure counters. -/
def describeCleaner (interval : Time.Span) (counters : Nat) : String :=
  describeFields "FailureStorageCleaner" [("interval", interval.describe),
    ("storages", toString counters)]

/-- A described state of a circuit breaker. -/
def Breaker.State.describe : Breaker.State → String
  | disarmed => "Disarmed"
  | armed since failures =>
    describeFields "Armed" [("since", toString since), ("failures", toString failures)]
  | triggered => "Triggered"

/-- A described circuit breaker. -/
def Breaker.describe (breaker : Breaker) : String :=
  describeFields "RepeatedFailuresOverTimeCircuitBreaker" [("name", quote breaker.name),
    ("time_to_wait", breaker.wait.describe), ("state", breaker.state.describe)]

/-- The parts whose description shows nothing but their name. -/
def bareDescriptions : List String :=
  ["BoxTimeoutStorage", "BoxDispatcher", "BoxMessagePump", "BoxSubscriptionManager"].map
    fun name => describeFields name [] true

/-- A described configuration of an endpoint. -/
def EndpointParts.describe (parts : EndpointParts) (endpointName transportName : String) : String :=
  describeFields "EndpointConfiguration" [("endpoint", quote endpointName),
    ("transport", quote transportName),
    ("handlers", describeFields "HandlerRegistry" [("handlers", describeHandlers parts.handlers)]),
    ("has_timeout_storage", describeBool parts.hasStorage)] true

/-- A described running endpoint. -/
def Running.describe (running : Running) : String :=
  describeFields "RunningEndpoint" [("endpoint", quote running.settings.endpointName),
    ("input_queues", describeTexts running.inputQueues), ("poller", describeBool running.polls)]

end Messaging
