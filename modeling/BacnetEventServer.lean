import BacnetEventServer.Numeric
import BacnetEventServer.Json
import BacnetEventServer.Types
import BacnetEventServer.Parse
import BacnetEventServer.Decoder
import BacnetEventServer.Cache
import BacnetEventServer.Server
import BacnetEventServer.ServerInvariant
import BacnetEventServer.Cov
import BacnetEventServer.Pipeline
import BacnetEventServer.Delivery
import BacnetEventServer.Registry
import BacnetEventServer.Recovery
import BacnetEventServer.Kinds
import BacnetEventServer.RoundTrip
import BacnetEventServer.KurrentDb
import BacnetEventServer.CatchUp
import BacnetEventServer.Logging
import BacnetEventServer.LogRotation
import BacnetEventServer.Timestamp
import BacnetEventServer.Calendar
import BacnetEventServer.Iso8601
import BacnetEventServer.JsonEscape
import BacnetEventServer.SubscriptionTable
import BacnetEventServer.HealthApi
import BacnetEventServer.ConnectionString
import BacnetEventServer.ConnectionStatus
import BacnetEventServer.Metrics
import BacnetEventServer.Config
import BacnetEventServer.CacheKeys
import BacnetEventServer.HttpApi
import BacnetEventServer.GatewayRun
import BacnetEventServer.LogLevel
import BacnetEventServer.CacheBacking
import BacnetEventServer.Restart
