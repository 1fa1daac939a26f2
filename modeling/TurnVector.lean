import TurnVector.Authority.Readers
import TurnVector.Canonical.RoundTrip
import TurnVector.Core.Fairness
import TurnVector.Drivers.LockStep
import TurnVector.CompileLimits
import TurnVector.Authority.Coherence
import TurnVector.Authority.TraceabilityLedger
import TurnVector.Authority.Enforcement
import TurnVector.Authority.Digests
import TurnVector.DataPlane.Limits
import TurnVector.DataPlane.Termination
import TurnVector.CrossEngine.AttemptFile
import TurnVector.CrossEngine.Product
import TurnVector.CrossEngine.Accounted
import TurnVector.GatewayValidation.Judge
import TurnVector.CrossEngine.Reduction
import TurnVector.LaneController.LateSelection
import TurnVector.Core.Choice
import TurnVector.Lanes.Expectation
import TurnVector.Lanes.Suite
import TurnVector.Lanes.Thresholds
import TurnVector.Lanes.Pairing
import TurnVector.Lanes.OracleAgreement
import TurnVector.Lanes.MlxCorrectness
import TurnVector.Authority.StagedGrammar
import TurnVector.Authority.StagedLanguage
import TurnVector.CrossEngine.Manifest
import TurnVector.CrossEngine.Lifecycle.Session
import TurnVector.Lanes.ArtifactIds
import TurnVector.Lanes.CoreJudge
import TurnVector.Performance.Contract
import TurnVector.Performance.Evidence
import TurnVector.Performance.ExactMatch
import TurnVector.CrossEngine.Baseline
import TurnVector.CrossEngine.Promotion
import TurnVector.CrossEngine.Atomic
import TurnVector.Authority.PrettyObject
import TurnVector.Authority.Keys
import TurnVector.Authority.Duplicates
import TurnVector.Authority.DuplicateStage
import TurnVector.Runner.Ledgers
import TurnVector.Authority.Caps
import TurnVector.Lanes.Escapes
import TurnVector.Lanes.RequestServing
import TurnVector.Runner.Metrics
import TurnVector.Obligations.Discipline
import TurnVector.Obligations.Exact
import TurnVector.CrossEngine.Trial
import TurnVector.CrossEngine.MultiModel
import TurnVector.CrossEngine.Prefix
import TurnVector.CrossEngine.Comparison
import TurnVector.CrossEngine.Mtp
import TurnVector.Checksums
import TurnVector.CrossEngine.Jsonl
import TurnVector.GatewayValidation.Jsonl
import TurnVector.Ranks
import TurnVector.Performance.Percentiles
import TurnVector.Git.Drain
import TurnVector.Guards.Escape
import TurnVector.CrossEngine.Sse.Grammar
