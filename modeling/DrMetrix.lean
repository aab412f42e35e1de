import DrMetrix.Lib.Transition
import DrMetrix.Lib.Population
import DrMetrix.Lib.Async
import DrMetrix.Lib.Stages
import DrMetrix.Lib.Qualified
import DrMetrix.Lib.FloatLiteral
import DrMetrix.Prometheus.Registry
import DrMetrix.Prometheus.Metric
import DrMetrix.Core.CollectLoop
import DrMetrix.Core.Pacing
import DrMetrix.Core.Replay
import DrMetrix.Axum.HttpMetrics
import DrMetrix.Axum.Layer
import DrMetrix.Axum.Accounting
import DrMetrix.Axum.InFlight
import DrMetrix.Axum.Recording
import DrMetrix.Axum.Cardinality
import DrMetrix.Axum.ContentLength
import DrMetrix.Axum.Readiness
import DrMetrix.Axum.State
import DrMetrix.Axum.HandleOwnership
import DrMetrix.Axum.ActiveCount
import DrMetrix.Axum.AddCollector
import DrMetrix.Axum.Builder
import DrMetrix.Redis.InfoParser
import DrMetrix.Redis.InfoRendering
import DrMetrix.Redis.InfoComposition
import DrMetrix.Redis.Metrics
import DrMetrix.Redis.Snapshot
import DrMetrix.Mongo.Bson
import DrMetrix.Mongo.Metrics
import DrMetrix.Mongo.Encoding
import DrMetrix.Mongo.MemoryOverflow
import DrMetrix.Mongo.History
import DrMetrix.Postgres.Json
import DrMetrix.Postgres.Metrics
import DrMetrix.Postgres.Snapshot
import DrMetrix.Postgres.Adapters
import DrMetrix.Postgres.Collection
import DrMetrix.Postgres.Interchange
import DrMetrix.Collectors.Exporter
import DrMetrix.Collectors.ConstLabels
import DrMetrix.Collectors.Names
import DrMetrix.Collectors.Interruption
import DrMetrix.Collectors.Reported
import DrMetrix.Core.Observations
import DrMetrix.Lib.Buckets
import DrMetrix.Lib.Ledger
import DrMetrix.Prometheus.Ledger
import DrMetrix.Axum.Latency
import DrMetrix.Axum.Exposition
import DrMetrix.Axum.Scrapes
import DrMetrix.Collectors.Observations
import DrMetrix.Lib.Script
import DrMetrix.Core.Requests
import DrMetrix.Collectors.Requests
import DrMetrix.Core.Freshness
import DrMetrix.Lib.Admission
import DrMetrix.Collectors.Racing
import DrMetrix.Axum.Application
import DrMetrix.Axum.Supervision
import DrMetrix.Axum.Shutdown
import DrMetrix.Collectors.Survival
