/-
Evidence records: what is known about a run, the JSON form of a record, and
building one from a result.
-/
import Voly.Evaluation.Engine
import Voly.Python.JsonFields

namespace Voly.Evidence

open Python

structure BaselineCheck where
  name : String
  command : String
  status : String
  argv : List String := []
  exitCode : Option Int := none
  durationMs : Rat := 0
  failureKind : String := ""
  outputExcerpt : String := ""

structure RepositoryBaseline where
  capturedAt : String
  health : String
  stack : List String := []
  testFrameworks : List String := []
  packageManagers : List String := []
  checks : List BaselineCheck := []
  notes : List String := []

structure ExecutionBundle where
  agent : String
  executor : String
  model : String := ""
  provider : String := ""
  runtimeVersion : String := ""
  skills : List (Dict Json) := []
  evalPolicyId : String := "executor-basic"
  evalPolicyVersion : String := "1"

structure EvidenceOutcome where
  success : Bool
  state : String
  failureClass : String := ""
  errorClass : String := ""
  penalizeAgent : Bool := false
  costUsd : Rat := 0
  durationMs : Rat := 0
  retries : Int := 0
  filesChanged : Int := 0

structure HumanFeedback where
  kind : String
  recordedAt : String
  source : String := "explicit"
  comment : String := ""
  deriving DecidableEq

structure TimedCheck extends EvalCheckResult where
  durationMs : Rat := 0

structure StoredReport where
  policyId : String
  policyVersion : String
  state : String
  startedAt : String
  completedAt : String
  checks : List TimedCheck := []
  schemaVersion : Int := 1
  deterministicOnly : Bool := true

def evidenceSchemaVersion : Int := 3

structure EvidenceRecord where
  taskId : String
  createdAt : String
  taskType : String
  taskFingerprint : String
  baseline : RepositoryBaseline
  execution : ExecutionBundle
  outcome : EvidenceOutcome
  evaluation : Option StoredReport := none
  humanFeedback : List HumanFeedback := []
  actionReport : Option (Dict Json) := none
  schemaVersion : Int := evidenceSchemaVersion

def BaselineCheck.toDict (check : BaselineCheck) : Dict Json := [
  ("name", .str check.name),
  ("command", .str check.command),
  ("status", .str check.status),
  ("argv", .ofStrings check.argv),
  ("exit_code", .orNull (fun n : Int => .num n) check.exitCode),
  ("duration_ms", .num check.durationMs),
  ("failure_kind", .str check.failureKind),
  ("output_excerpt", .str check.outputExcerpt)]

/-- `BaselineCheck(**item)`. -/
def BaselineCheck.fromDict (data : Dict Json) : Option BaselineCheck :=
  if onlyKeys data ["name", "command", "status", "argv", "exit_code",
      "duration_ms", "failure_kind", "output_excerpt"] then do
    let name ← argument data "name" Json.text?
    let command ← argument data "command" Json.text?
    let status ← argument data "status" Json.text?
    let argv ← argumentOr data "argv" Json.texts? []
    let exitCode ←
      argumentOr data "exit_code" (Json.orNull? Json.integer?) none
    let durationMs ← argumentOr data "duration_ms" Json.number? 0
    let failureKind ← argumentOr data "failure_kind" Json.text? ""
    let outputExcerpt ← argumentOr data "output_excerpt" Json.text? ""
    some { name, command, status, argv, exitCode, durationMs, failureKind,
           outputExcerpt }
  else none

def RepositoryBaseline.toDict (baseline : RepositoryBaseline) : Dict Json := [
  ("captured_at", .str baseline.capturedAt),
  ("health", .str baseline.health),
  ("stack", .ofStrings baseline.stack),
  ("test_frameworks", .ofStrings baseline.testFrameworks),
  ("package_managers", .ofStrings baseline.packageManagers),
  ("checks", .arr (baseline.checks.map fun check => .obj check.toDict)),
  ("notes", .ofStrings baseline.notes)]

/-- `RepositoryBaseline(checks=checks, **baseline_data)`. -/
def RepositoryBaseline.fromDict (data : Dict Json) :
    Option RepositoryBaseline :=
  if onlyKeys data ["captured_at", "health", "stack", "test_frameworks",
      "package_managers", "checks", "notes"] then do
    let items ← objectsAt data "checks"
    let checks ← items.mapM BaselineCheck.fromDict
    let capturedAt ← argument data "captured_at" Json.text?
    let health ← argument data "health" Json.text?
    let stack ← argumentOr data "stack" Json.texts? []
    let testFrameworks ← argumentOr data "test_frameworks" Json.texts? []
    let packageManagers ← argumentOr data "package_managers" Json.texts? []
    let notes ← argumentOr data "notes" Json.texts? []
    some { capturedAt, health, stack, testFrameworks, packageManagers, checks,
           notes }
  else none

def ExecutionBundle.toDict (execution : ExecutionBundle) : Dict Json := [
  ("agent", .str execution.agent),
  ("executor", .str execution.executor),
  ("model", .str execution.model),
  ("provider", .str execution.provider),
  ("runtime_version", .str execution.runtimeVersion),
  ("skills", .arr (execution.skills.map Json.obj)),
  ("eval_policy_id", .str execution.evalPolicyId),
  ("eval_policy_version", .str execution.evalPolicyVersion)]

/-- `ExecutionBundle(**data)`. -/
def ExecutionBundle.fromDict (data : Dict Json) : Option ExecutionBundle :=
  if onlyKeys data ["agent", "executor", "model", "provider",
      "runtime_version", "skills", "eval_policy_id", "eval_policy_version"]
  then do
    let agent ← argument data "agent" Json.text?
    let executor ← argument data "executor" Json.text?
    let model ← argumentOr data "model" Json.text? ""
    let provider ← argumentOr data "provider" Json.text? ""
    let runtimeVersion ← argumentOr data "runtime_version" Json.text? ""
    let skills ← argumentOr data "skills" Json.objects? []
    let evalPolicyId ←
      argumentOr data "eval_policy_id" Json.text? "executor-basic"
    let evalPolicyVersion ←
      argumentOr data "eval_policy_version" Json.text? "1"
    some { agent, executor, model, provider, runtimeVersion, skills,
           evalPolicyId, evalPolicyVersion }
  else none

def EvidenceOutcome.toDict (outcome : EvidenceOutcome) : Dict Json := [
  ("success", .bool outcome.success),
  ("state", .str outcome.state),
  ("failure_class", .str outcome.failureClass),
  ("error_class", .str outcome.errorClass),
  ("penalize_agent", .bool outcome.penalizeAgent),
  ("cost_usd", .num outcome.costUsd),
  ("duration_ms", .num outcome.durationMs),
  ("retries", .num outcome.retries),
  ("files_changed", .num outcome.filesChanged)]

/-- `EvidenceOutcome(**data)`. -/
def EvidenceOutcome.fromDict (data : Dict Json) : Option EvidenceOutcome :=
  if onlyKeys data ["success", "state", "failure_class", "error_class",
      "penalize_agent", "cost_usd", "duration_ms", "retries",
      "files_changed"] then do
    let success ← argument data "success" Json.flag?
    let state ← argument data "state" Json.text?
    let failureClass ← argumentOr data "failure_class" Json.text? ""
    let errorClass ← argumentOr data "error_class" Json.text? ""
    let penalizeAgent ← argumentOr data "penalize_agent" Json.flag? false
    let costUsd ← argumentOr data "cost_usd" Json.number? 0
    let durationMs ← argumentOr data "duration_ms" Json.number? 0
    let retries ← argumentOr data "retries" Json.integer? 0
    let filesChanged ← argumentOr data "files_changed" Json.integer? 0
    some { success, state, failureClass, errorClass, penalizeAgent, costUsd,
           durationMs, retries, filesChanged }
  else none

def HumanFeedback.toDict (feedback : HumanFeedback) : Dict Json := [
  ("kind", .str feedback.kind),
  ("recorded_at", .str feedback.recordedAt),
  ("source", .str feedback.source),
  ("comment", .str feedback.comment)]

/-- `HumanFeedback(**item)`. -/
def HumanFeedback.fromDict (data : Dict Json) : Option HumanFeedback :=
  if onlyKeys data ["kind", "recorded_at", "source", "comment"] then do
    let kind ← argument data "kind" Json.text?
    let recordedAt ← argument data "recorded_at" Json.text?
    let source ← argumentOr data "source" Json.text? "explicit"
    let comment ← argumentOr data "comment" Json.text? ""
    some { kind, recordedAt, source, comment }
  else none

def TimedCheck.toDict (check : TimedCheck) : Dict Json := [
  ("id", .str check.id),
  ("evaluator", .str check.evaluator),
  ("status", .str check.status),
  ("required", .bool check.required),
  ("message", .str check.message),
  ("duration_ms", .num check.durationMs),
  ("detail", .obj check.detail)]

def TimedCheck.fromDict (data : Dict Json) : Option TimedCheck := do
  let durationMs ← numberAt data "duration_ms"
  let detail ← objectAt data "detail"
  some {
    id := textAt data "id" "unknown"
    evaluator := textAt data "evaluator" "unknown"
    status := textAt data "status" "error"
    required := flagAt data "required" true
    message := textAt data "message" ""
    durationMs
    detail }

def StoredReport.toDict (report : StoredReport) : Dict Json := [
  ("policy_id", .str report.policyId),
  ("policy_version", .str report.policyVersion),
  ("state", .str report.state),
  ("started_at", .str report.startedAt),
  ("completed_at", .str report.completedAt),
  ("checks", .arr (report.checks.map fun check => .obj check.toDict)),
  ("schema_version", .num report.schemaVersion),
  ("deterministic_only", .bool report.deterministicOnly)]

def StoredReport.fromDict (data : Dict Json) : Option StoredReport := do
  let items ← objectsAt data "checks"
  let checks ← items.mapM TimedCheck.fromDict
  let schemaVersion ← integerAt data "schema_version" 1
  some {
    policyId := textAt data "policy_id" "unknown"
    policyVersion := textAt data "policy_version" "1"
    state := textAt data "state" "partial_success"
    startedAt := textAt data "started_at" ""
    completedAt := textAt data "completed_at" ""
    checks
    schemaVersion
    deterministicOnly := flagAt data "deterministic_only" true }

def EvidenceRecord.toDict (record : EvidenceRecord) : Dict Json := [
  ("task_id", .str record.taskId),
  ("created_at", .str record.createdAt),
  ("task_type", .str record.taskType),
  ("task_fingerprint", .str record.taskFingerprint),
  ("baseline", .obj record.baseline.toDict),
  ("execution", .obj record.execution.toDict),
  ("outcome", .obj record.outcome.toDict),
  ("evaluation", .orNull (fun report : StoredReport => .obj report.toDict)
    record.evaluation),
  ("human_feedback",
    .arr (record.humanFeedback.map fun feedback => .obj feedback.toDict)),
  ("action_report", .orNull Json.obj record.actionReport),
  ("schema_version", .num record.schemaVersion)]

def EvidenceRecord.fromDict (data : Dict Json) : Option EvidenceRecord := do
  let baselineData ← objectAt data "baseline"
  let baseline ← RepositoryBaseline.fromDict baselineData
  let items ← objectsAt data "human_feedback"
  let humanFeedback ← items.mapM HumanFeedback.fromDict
  let taskId ← argument data "task_id" Json.text?
  let executionData ← objectAt data "execution"
  let execution ← ExecutionBundle.fromDict executionData
  let outcomeData ← objectAt data "outcome"
  let outcome ← EvidenceOutcome.fromDict outcomeData
  let evaluation ← match data.get? "evaluation" with
    | some (.obj report) => (StoredReport.fromDict report).map some
    | _ => some none
  let schemaVersion ←
    integerAt data "schema_version" evidenceSchemaVersion
  some {
    taskId
    createdAt := textAt data "created_at" ""
    taskType := textAt data "task_type" "unknown"
    taskFingerprint := textAt data "task_fingerprint" ""
    baseline
    execution
    outcome
    evaluation
    humanFeedback
    actionReport := (data.get? "action_report").bind Json.object?
    schemaVersion }

structure RootCause where
  failureClass : String
  state : String
  penalizeAgent : Bool

def classifyRootCause (success : Bool) (errorClass error : String)
    (baseline : RepositoryBaseline) : RootCause :=
  if success then ⟨"", "execution_success", false⟩
  else
    let normalized := lower (strip errorClass)
    if normalized = "billing" then ⟨"provider_failure", "hard_failure", false⟩
    else if normalized = "not_available" then
      ⟨"tool_failure", "hard_failure", false⟩
    else if normalized = "timeout" then
      ⟨"tool_failure", "soft_failure", false⟩
    else if contains (lower error) "safety:" then
      ⟨"policy_violation", "policy_violation", false⟩
    else if baseline.health = "environment_failure" then
      ⟨"environment_failure", "environment_failure", false⟩
    else if baseline.health = "preexisting_failure" then
      ⟨"repository_failure", "environment_failure", false⟩
    else ⟨"agent_failure", "hard_failure", true⟩

/-- What a record is built from: the run, its result, and what the clock and
the hash give. -/
structure BuildInputs where
  taskId : String
  createdAt : String
  taskType : String
  taskFingerprint : String
  agent : String
  executor : String
  runtimeVersion : String
  success : Bool
  error : String := ""
  model : String := ""
  provider : String := ""
  durationMs : Rat := 0
  filesChanged : Nat := 0
  baseline : RepositoryBaseline
  errorClass : String := ""
  retryCount : Int := 0
  totalCostUsd : Rat := 0
  evalPolicyId : String := "executor-basic"
  evalPolicyVersion : String := "1"
  skills : List (Dict Json) := []
  evaluation : Option StoredReport := none

namespace BuildInputs

variable (inputs : BuildInputs)

def rootCause : RootCause :=
  classifyRootCause inputs.success inputs.errorClass inputs.error
    inputs.baseline

/-- `build_evidence_record`. -/
def record : EvidenceRecord where
  taskId := inputs.taskId
  createdAt := inputs.createdAt
  taskType := orElse inputs.taskType "unknown"
  taskFingerprint := inputs.taskFingerprint
  baseline := inputs.baseline
  execution :=
    { agent := inputs.agent
      executor := inputs.executor
      model := inputs.model
      provider := inputs.provider
      runtimeVersion := inputs.runtimeVersion
      skills := inputs.skills
      evalPolicyId := inputs.evalPolicyId
      evalPolicyVersion := inputs.evalPolicyVersion }
  outcome :=
    { success := inputs.success
      state := match inputs.evaluation with
        | some report =>
            if inputs.success then report.state
            else inputs.rootCause.state
        | none => inputs.rootCause.state
      failureClass := inputs.rootCause.failureClass
      errorClass := inputs.errorClass
      penalizeAgent := inputs.rootCause.penalizeAgent
      costUsd := inputs.totalCostUsd
      durationMs := inputs.durationMs
      retries := inputs.retryCount
      filesChanged := inputs.filesChanged }
  evaluation := inputs.evaluation

end BuildInputs

def StoredReport.untimed (report : StoredReport) : EvalReport where
  policyId := report.policyId
  policyVersion := report.policyVersion
  state := report.state
  checks := report.checks.map TimedCheck.toEvalCheckResult
  deterministicOnly := report.deterministicOnly

/-- `apply_human_feedback`: whether the report changed, and the report. -/
def StoredReport.apply (report : StoredReport) (kind now : String) :
    Bool × StoredReport :=
  let applied := applyHumanFeedback report.untimed kind
  (applied.1,
    { report with
      state := applied.2.state
      completedAt := if applied.1 then now else report.completedAt
      checks := report.checks.map fun check =>
        { check with
          toEvalCheckResult := check.toEvalCheckResult.revise kind } })

def EvidenceRecord.addFeedback (record : EvidenceRecord)
    (feedback : HumanFeedback) (now : String) : EvidenceRecord :=
  let record :=
    { record with humanFeedback := record.humanFeedback ++ [feedback] }
  match record.evaluation with
  | none => record
  | some report =>
      let applied := report.apply feedback.kind now
      { record with
        evaluation := some applied.2
        outcome :=
          if applied.1 then { record.outcome with state := applied.2.state }
          else record.outcome }

end Voly.Evidence
