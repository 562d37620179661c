import ChannelMux.Failure
import ChannelMux.Text.CaseMapping
import ChannelMux.Text.Case
import ChannelMux.Text.Printable
import ChannelMux.Text.Bytes
import ChannelMux.Text.Utf8
import ChannelMux.EventStream
import ChannelMux.Text.Quote
import ChannelMux.Text.Decimal
import ChannelMux.Text.Real
import ChannelMux.Text.Duration
import ChannelMux.Text.Base64
import ChannelMux.Options
import ChannelMux.Descriptor
import ChannelMux.Header
import ChannelMux.Text.Hex
import ChannelMux.Lifecycle.State
import ChannelMux.Method
import ChannelMux.Message
import ChannelMux.Text.Printf
import ChannelMux.Log
import ChannelMux.Http.Status
import ChannelMux.Http.Response
import ChannelMux.Route
import ChannelMux.Net.Address
import ChannelMux.Net.Url
import ChannelMux.Lifecycle.Cycle
import ChannelMux.Lifecycle.Threads
import ChannelMux.Mailbox
import ChannelMux.Mailbox.Readers
import ChannelMux.Net.Host
import ChannelMux.Http.Engine
import ChannelMux.Http.Request
import ChannelMux.Http.SelfClose
import ChannelMux.Socket.Listener
import ChannelMux.Socket.Node
import ChannelMux.Socket.Serving
import ChannelMux.Socket.Requests
import ChannelMux.Direct.Pair
import ChannelMux.World.Basic
import ChannelMux.World.Create
import ChannelMux.World.Life
import ChannelMux.World.Post
import ChannelMux.Session.Ports
import ChannelMux.Session.Step
import ChannelMux.Session.Run
import ChannelMux.Yaml.Reader
import ChannelMux.Yaml.Token
import ChannelMux.Yaml.Token.Scalar
import ChannelMux.Yaml.Token.Stream
import ChannelMux.Yaml.Event
import ChannelMux.Yaml.Tag
import ChannelMux.Yaml.Node
import ChannelMux.Settings.Basic
import ChannelMux.Yaml.Target
import ChannelMux.Settings.Decode
import ChannelMux.Settings.Validate
import ChannelMux.Settings.Load
import ChannelMux.Command
import ChannelMux.Main
import ChannelMux.Proofs.ThreadSteps
import ChannelMux.Proofs.LifecycleWalk
import ChannelMux.Http.Exchange
import ChannelMux.Http.Traffic
import ChannelMux.Http.Upload
import ChannelMux.Proofs.ExchangeShape
import ChannelMux.Proofs.RequestTable
import ChannelMux.Proofs.TrafficSound
import ChannelMux.Proofs.RequestGuarantees
import ChannelMux.Proofs.BodyEnding
import ChannelMux.Proofs.CancelHistory
import ChannelMux.Proofs.OptionOrder
import ChannelMux.Proofs.DescriptorText
import ChannelMux.Proofs.RouteSnapshot
import ChannelMux.Proofs.RouteLookup
import ChannelMux.Proofs.WorldShape
import ChannelMux.Proofs.ActEffects
import ChannelMux.Proofs.ServerRoutes
import ChannelMux.Proofs.ControlBody
import ChannelMux.Proofs.ByteTextReading
import ChannelMux.Proofs.NumberText
import ChannelMux.Proofs.SettingsChannels
import ChannelMux.Lifecycle.Shutdown
import ChannelMux.Proofs.ShutdownOnce
import ChannelMux.Proofs.IssuedRequest
import ChannelMux.Proofs.HookPairing
import ChannelMux.Proofs.ReceiveOrder
import ChannelMux.Proofs.Generations
import ChannelMux.Proofs.SelfCloseOnce
import ChannelMux.Proofs.ScheduledCloses
import ChannelMux.Proofs.GeneratedNames
import ChannelMux.World.Closing
import ChannelMux.Proofs.SubtreeClose
import ChannelMux.World.Registry
import ChannelMux.Proofs.NameReservations
import ChannelMux.Proofs.RegistryOfWorld
import ChannelMux.Proofs.OptionLookup
import ChannelMux.Proofs.OverrideLaws
import ChannelMux.Proofs.SizeReading
import ChannelMux.Proofs.DescriptorReading
import ChannelMux.Proofs.OpenedDescriptor
import ChannelMux.Proofs.EventStreamReading
import ChannelMux.Proofs.ServedResponses
import ChannelMux.Proofs.Activations
import ChannelMux.Proofs.DirectPairs
import ChannelMux.Proofs.HeaderOrder
import ChannelMux.Http.Slots
import ChannelMux.Proofs.SlotCeiling
import ChannelMux.Socket.Sessions
import ChannelMux.Proofs.Broadcasts
import ChannelMux.Socket.Client
import ChannelMux.Proofs.ClientHandshake
import ChannelMux.Proofs.LoggerText
import ChannelMux.Http.BodyFeed
import ChannelMux.Proofs.BodyWakeups
import ChannelMux.Lifecycle.Fanout
import ChannelMux.Proofs.GuardedDelivery
import ChannelMux.Proofs.RequestShapes
import ChannelMux.Proofs.RequestTranscripts
