import Messaging.Binary64.Basic
import Messaging.Binary64.Shortest
import Messaging.Config.Basic
import Messaging.Config.File
import Messaging.Delivery
import Messaging.Diagnostics
import Messaging.Effect.Basic
import Messaging.Effect.Lifecycle
import Messaging.Effect.Program
import Messaging.Endpoint.Assembly
import Messaging.Endpoint.Running
import Messaging.Endpoint.Settings
import Messaging.Event
import Messaging.Exercise.Basic
import Messaging.Exercise.Descriptions
import Messaging.Exercise.Endpoints
import Messaging.Exercise.Pipelines
import Messaging.Exercise.Queues
import Messaging.Exercise.Recovery
import Messaging.Exercise.Sending
import Messaging.Exercise.Timeouts
import Messaging.Failure
import Messaging.Header
import Messaging.Host.Basic
import Messaging.Host.Receive
import Messaging.Host.Run
import Messaging.Incoming.Context
import Messaging.Incoming.Stages
import Messaging.Intent
import Messaging.Json.Basic
import Messaging.Json.Printer
import Messaging.Json.Reader
import Messaging.Json.Schema
import Messaging.JsonForm.Basic
import Messaging.JsonForm.Endpoint
import Messaging.JsonForm.Failure
import Messaging.JsonForm.Ids
import Messaging.JsonForm.Message
import Messaging.JsonForm.Record
import Messaging.JsonForm.Script
import Messaging.JsonForm.Settings
import Messaging.JsonForm.Time
import Messaging.Memory.Broker
import Messaging.Memory.Transport
import Messaging.Message
import Messaging.Outgoing.Context
import Messaging.Outgoing.Operations
import Messaging.Outgoing.Stages
import Messaging.Pipeline.Cache
import Messaging.Pipeline.Chain
import Messaging.Pipeline.Kind
import Messaging.Pipeline.Order
import Messaging.Pipeline.Outcome
import Messaging.Pipeline.Steps
import Messaging.Proofs.Addressing
import Messaging.Proofs.Advance
import Messaging.Proofs.Attempt
import Messaging.Proofs.Batching
import Messaging.Proofs.Bearing
import Messaging.Proofs.Canonical
import Messaging.Proofs.Carrying
import Messaging.Proofs.Chronicle
import Messaging.Proofs.Circles
import Messaging.Proofs.Confining
import Messaging.Proofs.Conversing
import Messaging.Proofs.Correlating
import Messaging.Proofs.Counting
import Messaging.Proofs.Course
import Messaging.Proofs.Dates
import Messaging.Proofs.Deferring
import Messaging.Proofs.Describing
import Messaging.Proofs.Destinations
import Messaging.Proofs.Dispatching
import Messaging.Proofs.Drafts
import Messaging.Proofs.Expiring
import Messaging.Proofs.Filing
import Messaging.Proofs.Flights
import Messaging.Proofs.Forwarding
import Messaging.Proofs.HandOff
import Messaging.Proofs.Handling
import Messaging.Proofs.Instants
import Messaging.Proofs.Interleaving
import Messaging.Proofs.Issuing
import Messaging.Proofs.JsonText
import Messaging.Proofs.Launching
import Messaging.Proofs.Ledger
import Messaging.Proofs.Moving
import Messaging.Proofs.Nesting
import Messaging.Proofs.Outages
import Messaging.Proofs.Permits
import Messaging.Proofs.Polling
import Messaging.Proofs.Precedence
import Messaging.Proofs.Publishing
import Messaging.Proofs.Pumping
import Messaging.Proofs.Punctuality
import Messaging.Proofs.Querying
import Messaging.Proofs.Redelivery
import Messaging.Proofs.Registering
import Messaging.Proofs.Remaining
import Messaging.Proofs.Removing
import Messaging.Proofs.Replacing
import Messaging.Proofs.Requests
import Messaging.Proofs.Retries
import Messaging.Proofs.Returning
import Messaging.Proofs.RoundTrip
import Messaging.Proofs.Scene
import Messaging.Proofs.Scoping
import Messaging.Proofs.Scripts
import Messaging.Proofs.Sending
import Messaging.Proofs.Service
import Messaging.Proofs.Shadowing
import Messaging.Proofs.Spinning
import Messaging.Proofs.Stacking
import Messaging.Proofs.Staging
import Messaging.Proofs.Starting
import Messaging.Proofs.StepOrder
import Messaging.Proofs.Streaks
import Messaging.Proofs.Subscriber
import Messaging.Proofs.Subscribing
import Messaging.Proofs.Succession
import Messaging.Proofs.TimeoutManager
import Messaging.Proofs.Transparency
import Messaging.Proofs.Unpacking
import Messaging.Proofs.Unwinding
import Messaging.Proofs.Waking
import Messaging.Proofs.WireTimes
import Messaging.Proofs.Wishes
import Messaging.Proofs.Wrapping
import Messaging.Recovery.Counter
import Messaging.Recovery.Faults
import Messaging.Recovery.Retries
import Messaging.Routing.Address
import Messaging.Routing.Resolver
import Messaging.Routing.Route
import Messaging.Scope
import Messaging.Scripted.Entry
import Messaging.Scripted.Handlers
import Messaging.Scripted.Messages
import Messaging.Scripted.Segments
import Messaging.Scripted.Steps
import Messaging.Scripted.Surroundings
import Messaging.Serializer
import Messaging.Table
import Messaging.Text.Blank
import Messaging.Text.CaseTable
import Messaging.Text.HiddenTable
import Messaging.Text.LowerCase
import Messaging.Text.Quoted
import Messaging.Text.Utf8
import Messaging.Time.Calendar
import Messaging.Time.Instant
import Messaging.Time.Rfc3339
import Messaging.Time.Scan
import Messaging.Time.Span
import Messaging.Time.Wire
import Messaging.Timeout.Basic
import Messaging.Timeout.Breaker
import Messaging.Timeout.Deferral
import Messaging.Timeout.Poller
import Messaging.Timeout.Satellites
import Messaging.Toml.Basic
import Messaging.Toml.Reader
import Messaging.Transport.Capabilities
import Messaging.Transport.Definition
import Messaging.Transport.Mode
import Messaging.Transport.Operation
import Messaging.Transport.Queues
import Messaging.World.Basic
import Messaging.World.Record
import Messaging.World.Site
