import FugleMarketdata.Lib.StepMachine
import FugleMarketdata.Lib.IndexMap
import FugleMarketdata.Models.Message
import FugleMarketdata.Models.Subscription
import FugleMarketdata.Websocket.Event
import FugleMarketdata.Websocket.Reconnection
import FugleMarketdata.Websocket.StreamQueue
import FugleMarketdata.Websocket.StreamRun
import FugleMarketdata.Websocket.SubscriptionManager
import FugleMarketdata.Websocket.Protocol
import FugleMarketdata.Websocket.Link
import FugleMarketdata.Websocket.AtomicLink
import FugleMarketdata.Websocket.Replay
import FugleMarketdata.Websocket.EventOrder
import FugleMarketdata.Websocket.Tracking
import FugleMarketdata.Websocket.ReconnectLoop
import FugleMarketdata.Websocket.Supervisor
import FugleMarketdata.Websocket.DispatchTask
import FugleMarketdata.Websocket.WillReconnect
import FugleMarketdata.Lib.Pipe
import FugleMarketdata.Lib.Backoff
import FugleMarketdata.Websocket.WriteQueue
import FugleMarketdata.Websocket.WriterTask
import FugleMarketdata.Websocket.OwnerLoop
import FugleMarketdata.Websocket.Shutdown
import FugleMarketdata.Websocket.SupervisorStop
import FugleMarketdata.Websocket.SyncConnect
import FugleMarketdata.Websocket.ConnectRace
import FugleMarketdata.Websocket.QueueCalls
import FugleMarketdata.Websocket.Accounting
import FugleMarketdata.Lib.Trace
import FugleMarketdata.Websocket.QueueBlocks
import FugleMarketdata.Websocket.Windows
import FugleMarketdata.Lib.Gate
import FugleMarketdata.Websocket.Admission
import FugleMarketdata.Lib.TimedWait
import FugleMarketdata.Websocket.Login
import FugleMarketdata.Websocket.Latency
import FugleMarketdata.Websocket.ReadLoops
import FugleMarketdata.Websocket.Liveness
import FugleMarketdata.Websocket.DispatchWait
import FugleMarketdata.Websocket.OpenReconnected
import FugleMarketdata.Websocket.StartWriter
import FugleMarketdata.Websocket.AioConnect
import FugleMarketdata.Websocket.AioOrder
import FugleMarketdata.Websocket.Outbound
import FugleMarketdata.Websocket.OutboundReports
import FugleMarketdata.Websocket.AioRace
import FugleMarketdata.Errors
import FugleMarketdata.Websocket.ReconnectBackoff
import FugleMarketdata.Rest.Retry
import FugleMarketdata.Websocket.Silence
import FugleMarketdata.Websocket.LatencyCalls
import FugleMarketdata.Websocket.ManagerRuns
import FugleMarketdata.Lib.Grouping
import FugleMarketdata.Websocket.Resubscribe
import FugleMarketdata.Websocket.AckKeys
import FugleMarketdata.Websocket.DropTrail
import FugleMarketdata.Websocket.DropReports
import FugleMarketdata.Websocket.AioPlaces
import FugleMarketdata.Websocket.ConnectWait
import FugleMarketdata.Websocket.ConnectWaitOrder
import FugleMarketdata.Websocket.WaitReplay
import FugleMarketdata.Websocket.WaitConnected
import FugleMarketdata.Lib.Cutting
import FugleMarketdata.Models.Symbols
import FugleMarketdata.Urls
import FugleMarketdata.Lib.Escaping
import FugleMarketdata.Rest.EndpointUrl
import FugleMarketdata.Websocket.ReconnectConflict
import FugleMarketdata.Lib.Monitor
import FugleMarketdata.Py.Handoff
import FugleMarketdata.Py.HandoffActs
import FugleMarketdata.Py.HandoffWakes
import FugleMarketdata.Py.HandoffBooks
import FugleMarketdata.Websocket.StreamConsumers
import FugleMarketdata.Websocket.ConsumerAccounts
import FugleMarketdata.Models.Credentials
import FugleMarketdata.Lib.Registers
import FugleMarketdata.Rest.Response
import FugleMarketdata.Rest.Client
import FugleMarketdata.Rest.ClientRuns
import FugleMarketdata.Rest.Requests
import FugleMarketdata.Websocket.Credentials
import FugleMarketdata.Lib.Slots
import FugleMarketdata.Rest.Params
import FugleMarketdata.Rest.ObjectForm
import FugleMarketdata.Rest.Fields
import FugleMarketdata.Rest.Builders
