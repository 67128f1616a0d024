import PreviewHub.Decimal.Shortest
import PreviewHub.Json.Basic
import PreviewHub.Json.Order
import PreviewHub.Json.Printer
import PreviewHub.Json.Reader
import PreviewHub.Json.Typed
import PreviewHub.Text.Runs
import PreviewHub.Text.Hidden
import PreviewHub.Text.Quoted
import PreviewHub.Text.Split
import PreviewHub.Error
import PreviewHub.Message
import PreviewHub.Log
import PreviewHub.Origin.Ipv4
import PreviewHub.Origin.Ipv6
import PreviewHub.Origin.Punycode
import PreviewHub.Origin.Label.Allowed
import PreviewHub.Origin.Label.Mark
import PreviewHub.Origin.Label.Composition
import PreviewHub.Origin.Label.Joining
import PreviewHub.Origin.Label.Mapping
import PreviewHub.Origin.Label.Direction
import PreviewHub.Origin.Label.Basic
import PreviewHub.Origin.Domain
import PreviewHub.Origin.Host
import PreviewHub.Origin.Basic
import PreviewHub.Channel
import PreviewHub.Preview.Id
import PreviewHub.Preview.Local
import PreviewHub.Preview.Registry
import PreviewHub.Request.Pending
import PreviewHub.Bus.Notice
import PreviewHub.Bus.Basic
import PreviewHub.Bus.Machine
import PreviewHub.Watch.Poller
import PreviewHub.Watch.Session
import PreviewHub.Hub.Options
import PreviewHub.Hub.State
import PreviewHub.Hub.Task
import PreviewHub.Hub.Operations
import PreviewHub.Hub.Machine
import PreviewHub.Scenario.Participant
import PreviewHub.Scenario.Step
import PreviewHub.Scenario.Stage
import PreviewHub.Scenario.Play
import PreviewHub.Scenario.Emission
import PreviewHub.Proofs.Phase
import PreviewHub.Proofs.RequestMachines
import PreviewHub.Proofs.RequestNumbers
import PreviewHub.Proofs.Registry
import PreviewHub.Proofs.RegistryLookup
import PreviewHub.Proofs.RegistryHistory
import PreviewHub.Proofs.Trace
import PreviewHub.Proofs.Connections
import PreviewHub.Proofs.Accounting
import PreviewHub.Proofs.Watching
import PreviewHub.Proofs.InFlight
import PreviewHub.Proofs.RequestOutcome
import PreviewHub.Proofs.Polling
import PreviewHub.Proofs.Progress
import PreviewHub.Proofs.Routine
import PreviewHub.Proofs.Inbound
import PreviewHub.Proofs.Occasions
import PreviewHub.Proofs.Lifecycle
import PreviewHub.Proofs.Confinement
import PreviewHub.Proofs.InboundStream
import PreviewHub.Proofs.ForeignEvents
import PreviewHub.Proofs.Turns
import PreviewHub.Proofs.Outstanding
import PreviewHub.Proofs.Subscriptions
import PreviewHub.Proofs.Emissions
import PreviewHub.Proofs.Hearing
import PreviewHub.Proofs.Spreading
import PreviewHub.Proofs.SubscriberOrder
import PreviewHub.Proofs.PrintedJson
import PreviewHub.Proofs.ReadJson
import PreviewHub.Proofs.HubBus
import PreviewHub.Proofs.SubscriberIsolation
import PreviewHub.Proofs.WireMessages
import PreviewHub.Proofs.Publication
import PreviewHub.Proofs.Mirror
import PreviewHub.Proofs.Undisturbed
import PreviewHub.Proofs.Teardown
import PreviewHub.Proofs.Nesting
import PreviewHub.Proofs.ReentrantTeardown
import PreviewHub.Proofs.FanOut
import PreviewHub.Proofs.SingleSends
import PreviewHub.Proofs.PollPass
import PreviewHub.Proofs.PollInstants
import PreviewHub.Proofs.PollCalendar
import PreviewHub.Proofs.PollSchedule
import PreviewHub.Proofs.Punycode
import PreviewHub.Proofs.ComposedText
import PreviewHub.Proofs.MappedText
import PreviewHub.Proofs.HostNames
import PreviewHub.Proofs.HostAddresses
import PreviewHub.Proofs.LongLabels
import PreviewHub.Proofs.CanonicalOrigins
import PreviewHub.Proofs.LocalSites
import PreviewHub.Proofs.FailedPosts
import PreviewHub.Proofs.LocalPasses
