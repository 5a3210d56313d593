import DpostV2.Lib.Python
import DpostV2.Lib.Lower
import DpostV2.Lib.Separated
import DpostV2.Lib.PurePath
import DpostV2.Lib.Lexical
import DpostV2.Lib.Fs
import DpostV2.Lib.Effect
import DpostV2.Lib.Transaction
import DpostV2.Lib.Prog
import DpostV2.Lib.Raises
import DpostV2.Lib.Interleaving
import DpostV2.Lib.DateTime
import DpostV2.Lib.Since
import DpostV2.Lib.FileName
import DpostV2.Lib.Float
import DpostV2.Contracts.Context
import DpostV2.Ingestion.Candidate
import DpostV2.Ingestion.Pipeline
import DpostV2.Ingestion.Engine
import DpostV2.Ingestion.Transitions
import DpostV2.Ingestion.FailurePolicies
import DpostV2.Ingestion.State
import DpostV2.Ingestion.ForcePath
import DpostV2.Ingestion.MovePlan
import DpostV2.Ingestion.RetryPlanner
import DpostV2.Ingestion.PersistRetry
import DpostV2.Ingestion.Stages
import DpostV2.Ingestion.Route
import DpostV2.Ingestion.PersistEffects
import DpostV2.Ingestion.Safety
import DpostV2.Ingestion.Moves
import DpostV2.Ingestion.Deferred
import DpostV2.Runtime.Session
import DpostV2.Runtime.SessionRuns
import DpostV2.Runtime.App
import DpostV2.Runtime.Dedup
import DpostV2.Runtime.Closing
import DpostV2.Runtime.Accounting
import DpostV2.Runtime.Records
import DpostV2.Runtime.Engine
import DpostV2.Runtime.Tracking
import DpostV2.Runtime.EventContract
import DpostV2.Runtime.Gates
import DpostV2.Runtime.Debounce
import DpostV2.Runtime.Restart
import DpostV2.Runtime.Overwrite
import DpostV2.Storage.RecordStore
import DpostV2.Storage.Races
import DpostV2.Storage.Monotonic
import DpostV2.Storage.Alone
import DpostV2.Storage.FileOps
import DpostV2.Storage.Connection
import DpostV2.Storage.Failures
import DpostV2.Records.LocalRecord
import DpostV2.Records.History
import DpostV2.Records.Service
import DpostV2.Records.RoundTrip
import DpostV2.Records.Resave
import DpostV2.Records.Update
import DpostV2.Records.Unsync
import DpostV2.Plugins.Selection
import DpostV2.Plugins.Host
import DpostV2.Plugins.Contract
import DpostV2.Plugins.Discovery
import DpostV2.Plugins.Catalog
import DpostV2.Plugins.CatalogVersion
import DpostV2.Plugins.Partition
import DpostV2.Plugins.Lifecycle
import DpostV2.Devices.UtmZwick
import DpostV2.Startup.SettingsSchema
import DpostV2.Startup.Settings
import DpostV2.Startup.SettingsService
import DpostV2.Startup.SettingsCache
import DpostV2.Startup.SettingsOutcome
import DpostV2.Startup.Precedence
import DpostV2.Startup.Provenance
import DpostV2.Startup.Bootstrap
import DpostV2.Startup.Cleanup
import DpostV2.Startup.Composition
import DpostV2.Startup.Release
import DpostV2.Startup.Shutdown
import DpostV2.Devices.Psa.Once
import DpostV2.Runtime.Pace
import DpostV2.Ingestion.Artifacts
import DpostV2.Devices.Psa.Order
import DpostV2.Runtime.ProcessorChoice
import DpostV2.Lib.Changes
import DpostV2.Devices.Psa.Confined
import DpostV2.Domain.Outcome
import DpostV2.Domain.Batch
import DpostV2.Lib.BestMatch
import DpostV2.Lib.Regex
import DpostV2.Domain.Rules
import DpostV2.Lib.Words
import DpostV2.Domain.Text
import DpostV2.Storage.StagingDirs
import DpostV2.Lib.Items
import DpostV2.Observability.Logging
import DpostV2.Devices.Psa.Sequence
import DpostV2.Lib.Split
import DpostV2.Domain.Identifiers
import DpostV2.Domain.Naming
import DpostV2.Startup.RawSettings
import DpostV2.Startup.SettingsCanonical
import DpostV2.Lib.Assoc
import DpostV2.Lib.Durable
import DpostV2.Watchdog.LocalRecord
import DpostV2.Watchdog.Ledger
import DpostV2.Watchdog.LedgerRuns
import DpostV2.Watchdog.LedgerSync
import DpostV2.Lib.Splits
import DpostV2.Watchdog.Kinexus.Processor
import DpostV2.Watchdog.Kinexus.Invariants
import DpostV2.Watchdog.Kinexus.Pairing
import DpostV2.Watchdog.Kinexus.Staging
import DpostV2.Watchdog.StagePairs
import DpostV2.Watchdog.Kinexus.Recovery
import DpostV2.Watchdog.ModifiedEventGate
import DpostV2.Watchdog.StabilityTracker
import DpostV2.Lib.Pattern
import DpostV2.Watchdog.FileNames
import DpostV2.Watchdog.Rename
