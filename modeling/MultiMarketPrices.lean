import MultiMarketPrices.Core.Runs
import MultiMarketPrices.Core.PendingChanges
import MultiMarketPrices.WebSockets.Session
import MultiMarketPrices.WebSockets.Link
import MultiMarketPrices.WebSockets.ExchangeAgreement
import MultiMarketPrices.WebSockets.Reconnect
import MultiMarketPrices.Core.DeferringMachine
import MultiMarketPrices.Core.Json
import MultiMarketPrices.PlatformComm.PartitionFsm
import MultiMarketPrices.PlatformComm.Gateway
import MultiMarketPrices.PlatformComm.Downloads
import MultiMarketPrices.PlatformComm.Ownership
import MultiMarketPrices.PlatformComm.DeferredCommands
import MultiMarketPrices.PlatformComm.Groups
import MultiMarketPrices.Binance.Keys
import MultiMarketPrices.Binance.System
import MultiMarketPrices.Binance.KeyEncoding
import MultiMarketPrices.Binance.Frames
import MultiMarketPrices.Binance.LiveStreams
import MultiMarketPrices.Binance.Recovery
import MultiMarketPrices.PlatformComm.Bookings
import MultiMarketPrices.PlatformComm.PassedOn
import MultiMarketPrices.Binance.Revocation
import MultiMarketPrices.RestApi.Client
import MultiMarketPrices.RestApi.Pipeline
import MultiMarketPrices.RestApi.Teardown
import MultiMarketPrices.Binance.Status
import MultiMarketPrices.PlatformComm.SyncLog
import MultiMarketPrices.Binance.FanOut
import MultiMarketPrices.WebSockets.SingleWrite
import MultiMarketPrices.Core.Finmaps
import MultiMarketPrices.Routers.PubSub
import MultiMarketPrices.Routers.Subscriptions
import MultiMarketPrices.Routers.RequestRouter
import MultiMarketPrices.Routers.ServedInOrder
import MultiMarketPrices.Routers.RequestLifetime
import MultiMarketPrices.Routers.Unanswered
import MultiMarketPrices.Core.Numerals
import MultiMarketPrices.MiddleWare.Interface
import MultiMarketPrices.MiddleWare.Correlation
import MultiMarketPrices.MiddleWare.Headers
import MultiMarketPrices.MiddleWare.Answers
import MultiMarketPrices.Binance.Snapshots
import MultiMarketPrices.Binance.Requests
import MultiMarketPrices.PlatformComm.CommandKeys
import MultiMarketPrices.Binance.ControlKeys
import MultiMarketPrices.Binance.Malformed
import MultiMarketPrices.Binance.Instruments
import MultiMarketPrices.ConfigLib.Config
import MultiMarketPrices.ConfigLib.Sections
import MultiMarketPrices.ConfigLib.Startup
import MultiMarketPrices.Routers.Responders
import MultiMarketPrices.WebSockets.Bookkeeping
import MultiMarketPrices.Core.FlatJson
import MultiMarketPrices.SDPMock.Network
import MultiMarketPrices.SDPMock.Delivery
import MultiMarketPrices.SDPMock.Settlement
import MultiMarketPrices.Core.Outputs
import MultiMarketPrices.Binance.Desk
import MultiMarketPrices.Binance.Feed
import MultiMarketPrices.MiddleWare.Wire
import MultiMarketPrices.MiddleWare.Consumption
import MultiMarketPrices.ConfigLib.Watcher
import MultiMarketPrices.MiddleWare.Killing
import MultiMarketPrices.MiddleWare.Lifecycle
import MultiMarketPrices.MiddleWare.Script
import MultiMarketPrices.MiddleWare.Shutdown
import MultiMarketPrices.Binance.Subscriber
import MultiMarketPrices.Core.Tickets
import MultiMarketPrices.RestApi.Invocations
import MultiMarketPrices.RestApi.Progress
import MultiMarketPrices.Binance.SnapshotAnswers
import MultiMarketPrices.Binance.Startup
import MultiMarketPrices.WebSockets.Settling
