import Tarka.Auth.TenantBinding
import Tarka.Case.MakerChecker
import Tarka.Case.OfflineParity
import Tarka.Compiler.Literals
import Tarka.Compiler.Suggestion
import Tarka.Compiler.WellFormed
import Tarka.Consortium.LostUpdate
import Tarka.Decision.DecisionLog
import Tarka.Decision.DraftCycles
import Tarka.Decision.EnforcementRuns
import Tarka.Decision.ObserveLock
import Tarka.Decision.TenantFiles
import Tarka.Decision.TickNames
import Tarka.Engine.ReloadSafety
import Tarka.Graph.AtomParity
import Tarka.Graph.HopReplay
import Tarka.Ingest.Consumer
import Tarka.Ingest.Idempotency
import Tarka.Messaging.FailedPublish
import Tarka.Messaging.ReplayOrder
import Tarka.Orchestrator.LifecycleRuns
import Tarka.Orchestrator.OperationalSignals
import Tarka.Orchestrator.OutboxClaims
import Tarka.Orchestrator.OutboxRetries
import Tarka.Py.Verifier
import Tarka.Replay.Gate
import Tarka.Replay.Parity
import Tarka.Rules.HotReload
import Tarka.Rules.PackCache
import Tarka.Rules.PackParity
import Tarka.Rules.SignalResolution
import Tarka.Shared.AggregateWindows
import Tarka.Shared.CircuitBreaker
import Tarka.Shared.ListRefinement
import Tarka.Shared.SlidingWindows
