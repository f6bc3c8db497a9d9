import PtchanGateway.TextDigits
import PtchanGateway.TextCalendar
import PtchanGateway.TextRfc3339
import PtchanGateway.TextRust
import PtchanGateway.JsonValue
import PtchanGateway.QueueOrder
import PtchanGateway.RunSystem
import PtchanGateway.Contract
import PtchanGateway.Config
import PtchanGateway.Store
import PtchanGateway.StoreFacts
import PtchanGateway.StoreScheduler
import PtchanGateway.Delivery
import PtchanGateway.DeliverySteps
import PtchanGateway.DeliveryDurability
import PtchanGateway.DeliveryCounts
import PtchanGateway.DeliveryDuplicates
import PtchanGateway.DeliverySpacing
import PtchanGateway.DeliveryFairness
import PtchanGateway.DeliveryWakeup
import PtchanGateway.DeliveryIsolation
import PtchanGateway.JsonText
import PtchanGateway.Upstream
import PtchanGateway.Event
import PtchanGateway.ConfigFacts
import PtchanGateway.Ingest
import PtchanGateway.Privacy
import PtchanGateway.RateLimit
import PtchanGateway.Ptchan
import PtchanGateway.Runtime
import PtchanGateway.Mediation
import PtchanGateway.Signing
import PtchanGateway.TextGo
import PtchanGateway.JsonGo
import PtchanGateway.Sdk
import PtchanGateway.SdkSigning
import PtchanGateway.SdkPosts
import PtchanGateway.SdkUpstream
import PtchanGateway.SdkEvents
import PtchanGateway.SdkThreads
import PtchanGateway.Authorization
import PtchanGateway.Session
import PtchanGateway.Socket
import PtchanGateway.SocketBackoff
import PtchanGateway.SocketReadiness
import PtchanGateway.StoredPayloads
import PtchanGateway.ConfigLookups
import PtchanGateway.ThreadSelection
import PtchanGateway.Attribution
import PtchanGateway.Freshness
import PtchanGateway.ReplyRetry
import PtchanGateway.SessionMerge
import PtchanGateway.Unwinding
import PtchanGateway.RateLimitIsolation
import PtchanGateway.DurationRanges
import PtchanGateway.Metering
import PtchanGateway.RateLimitBounds
import PtchanGateway.Telemetry
import PtchanGateway.Startup
import PtchanGateway.StoredTimes
import PtchanGateway.Retention
import PtchanGateway.Redaction
import PtchanGateway.Deduplication
import PtchanGateway.Fingerprints
import PtchanGateway.FormNames
import PtchanGateway.SecretRequests
import PtchanGateway.SocketTraffic
import PtchanGateway.Gateway
import PtchanGateway.GatewaySteps
import PtchanGateway.GatewayPosts
import PtchanGateway.Shutdown
import PtchanGateway.JsonSchema
import PtchanGateway.ContractSchemas
import PtchanGateway.ContractAnswers
import PtchanGateway.ReplyBodies
import PtchanGateway.SdkCalls
import PtchanGateway.RemoteCalls
