import PlanterTelemetry.Library.Table
import PlanterTelemetry.Contract
import PlanterTelemetry.Library.Autocommit
import PlanterTelemetry.Ingestion.Core
import PlanterTelemetry.Analytics.Model
import PlanterTelemetry.Ingestion.Db
import PlanterTelemetry.Ingestion.Handle
import PlanterTelemetry.Ingestion.Confluence
import PlanterTelemetry.Ingestion.AckWindow
import PlanterTelemetry.Analytics.Config
import PlanterTelemetry.Analytics.Db
import PlanterTelemetry.Analytics.Service
import PlanterTelemetry.Analytics.View
import PlanterTelemetry.Analytics.Window
import PlanterTelemetry.Analytics.Forecast
import PlanterTelemetry.Analytics.Pass
import PlanterTelemetry.Analytics.Turn
import PlanterTelemetry.Analytics.Resume
import PlanterTelemetry.Analytics.GoneDark
import PlanterTelemetry.Analytics.SkippedPass
import PlanterTelemetry.Analytics.Alerts
import PlanterTelemetry.Analytics.AlertReadback
import PlanterTelemetry.Analytics.Estimator
import PlanterTelemetry.Analytics.Contamination
import PlanterTelemetry.Analytics.Outcome
import PlanterTelemetry.Analytics.Crossing
import PlanterTelemetry.Analytics.Record
import PlanterTelemetry.Analytics.NewestSegment
import PlanterTelemetry.Analytics.Overflow
import PlanterTelemetry.Analytics.LinearDepletion
import PlanterTelemetry.Analytics.Acceptance
import PlanterTelemetry.Analytics.TimeMap
import PlanterTelemetry.Analytics.Zone
import PlanterTelemetry.Ingestion.Registry
import PlanterTelemetry.Simulator.Dynamics
import PlanterTelemetry.Library.Decimal
import PlanterTelemetry.Library.Merge
import PlanterTelemetry.Simulator.Stream
import PlanterTelemetry.Simulator.Fleet
import PlanterTelemetry.Simulator.Refills
import PlanterTelemetry.Library.Json.Read
import PlanterTelemetry.Library.Json.Write
import PlanterTelemetry.Isoformat
import PlanterTelemetry.Library.Base64
import PlanterTelemetry.Cli.Records
import PlanterTelemetry.Cli.Replay
import PlanterTelemetry.Cli.Capture
import PlanterTelemetry.Cli.Pacing
import PlanterTelemetry.Analytics.Equivariance
import PlanterTelemetry.Analytics.Quantization
import PlanterTelemetry.Analytics.Truncation
import PlanterTelemetry.Analytics.Silence
import PlanterTelemetry.Analytics.Cap
import PlanterTelemetry.Analytics.LateReading
import PlanterTelemetry.Library.Fifo
import PlanterTelemetry.Simulator.Deferral
import PlanterTelemetry.Ingestion.Counting
import PlanterTelemetry.Simulator.Agreement
import PlanterTelemetry.JsonReader
import PlanterTelemetry.Ingestion.Topic
import PlanterTelemetry.Library.Query
import PlanterTelemetry.Migrations.ForecastsLatest
import PlanterTelemetry.Configparser
import PlanterTelemetry.Migrate
import PlanterTelemetry.Ingestion.Health
import PlanterTelemetry.Ingestion.Ledger
import PlanterTelemetry.Ingestion.Provenance
import PlanterTelemetry.Analytics.Run
import PlanterTelemetry.Analytics.Delivery
import PlanterTelemetry.Analytics.Health
import PlanterTelemetry.Analytics.Snapshot
import PlanterTelemetry.Analytics.Sources
import PlanterTelemetry.Analytics.Watermark
import PlanterTelemetry.Deployment
import PlanterTelemetry.Cli.Clock
import PlanterTelemetry.Cli.Idempotence
import PlanterTelemetry.Ingestion.Liveness
import PlanterTelemetry.Jsonlog
import PlanterTelemetry.Library.Trace
import PlanterTelemetry.Simulator.Pipeline
