import Voly.Plan.Gate
import Voly.Plan.Honesty
import Voly.Plan.RunBound
import Voly.Plan.ParkedRun
import Voly.Plan.Atomic
import Voly.Plan.Validation
import Voly.Plan.ApprovalRace
import Voly.Plan.RoundTrip
import Voly.Executor.Restore
import Voly.Gateway.Paths
import Voly.Gateway.Attribution
import Voly.Gateway.CacheSound
import Voly.Plan.Budget
import Voly.A2A.RunLaw
import Voly.A2A.CwdLock
import Voly.Gateway.RateLimit
import Voly.Gateway.Billing
import Voly.Gateway.CacheMap
import Voly.Capability.Evidence
import Voly.Workflow.ReviewContract
import Voly.Capability.SnapshotText
import Voly.Capability.RemoteSync
import Voly.Worker.AguiSession
import Voly.Worker.Dispatch
import Voly.Hooks.FailClosed
import Voly.Hooks.Authorization
import Voly.Learning.Gating
import Voly.Sensing.CrashSafe
import Voly.Worker.SeedRace
import Voly.Evaluation.Verdicts
import Voly.Memory.Lossless
import Voly.Dspy.Versions
import Voly.Inference.Answers
import Voly.Registry.Consistent
import Voly.Memory.Refines
import Voly.Worker.ReadsLast
import Voly.Telemetry.Survive
import Voly.Evidence.Kept
import Voly.Web.Closed
import Voly.Web.Stream
import Voly.Catalog.Synced
import Voly.Catalog.Merge
import Voly.Sdk.Workflow
import Voly.A2A.Federation
import Voly.A2A.LeadLaw
import Voly.A2A.JudgeLaw
import Voly.Gateway.EmptyContent
import Voly.Evaluation.Judge
import Voly.Evaluation.Replay
import Voly.Runner.Closing
import Voly.Runtime.Tracker
import Voly.Runner.Fallback
import Voly.Executor.DiffExact
import Voly.Executor.FileBlocks
import Voly.Executor.PathJail
import Voly.Runner.WorkReport
import Voly.Telemetry.Rates
import Voly.Memory.Retrieval
import Voly.Capability.Agreement
import Voly.Capability.Variant
import Voly.Worker.TaskFields
import Voly.Decisions.Settled
import Voly.A2A.Environments
import Voly.Executor.MultiAgent
import Voly.Plan.GeneratedFiles
