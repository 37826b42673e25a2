import GatewayBridge.Go.Base64
import GatewayBridge.Go.Strconv
import GatewayBridge.Go.Hex
import GatewayBridge.Go.Float
import GatewayBridge.Go.Narrow
import GatewayBridge.Go.Decimal
import GatewayBridge.Go.Json
import GatewayBridge.Go.Calendar
import GatewayBridge.Go.TimeFormat
import GatewayBridge.Go.TimeGrammar
import GatewayBridge.Process.Pool
import GatewayBridge.Process.Trace
import GatewayBridge.Process.Account
import GatewayBridge.Process.Emits
import GatewayBridge.Process.Worker
import GatewayBridge.Process.Server
import GatewayBridge.Process.Component
import GatewayBridge.Lora.Packets
import GatewayBridge.Semtech.Wire
import GatewayBridge.Semtech.Convert
import GatewayBridge.Semtech.DataRate
import GatewayBridge.Semtech.Grammar
import GatewayBridge.Semtech.Transmit
import GatewayBridge.Semtech.Registry
import GatewayBridge.Semtech.Eviction
import GatewayBridge.Semtech.Callbacks
import GatewayBridge.Semtech.Backend
import GatewayBridge.Semtech.Uplink
import GatewayBridge.Semtech.Frequency
import GatewayBridge.Semtech.Status
import GatewayBridge.Semtech.Times
import GatewayBridge.Semtech.SendLoop
import GatewayBridge.Semtech.Lifecycle
import GatewayBridge.Process.History
import GatewayBridge.Semtech.Routing
import GatewayBridge.Semtech.Newest
import GatewayBridge.Semtech.Shutdown
import GatewayBridge.Process.Lock
import GatewayBridge.Ttn.Downlink
import GatewayBridge.Ttn.Publish
import GatewayBridge.Ttn.Timestamps
import GatewayBridge.Ttn.Backend
import GatewayBridge.Ttn.Sessions
import GatewayBridge.Ttn.Identity
import GatewayBridge.Ttn.Composition
import GatewayBridge.Metrics.Average
import GatewayBridge.Ttn.RateLimit
import GatewayBridge.Ttn.Subscription
import GatewayBridge.Cmd.Relay
import GatewayBridge.Cmd.Publish
import GatewayBridge.Cmd.Uplinks
import GatewayBridge.Cmd.Statuses
import GatewayBridge.Cmd.Downlinks
import GatewayBridge.Cmd.Streams
import GatewayBridge.Router.Outbound
import GatewayBridge.Router.Stopping
import GatewayBridge.Router.Inbound
import GatewayBridge.Cmd.Network
import GatewayBridge.Mqtt.Backend
import GatewayBridge.Mqtt.Reconnect
import GatewayBridge.Mqtt.Downlink
