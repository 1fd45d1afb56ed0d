/-
The evaluation of a run: the checks of each requirement, the state of the
report, and human feedback.
-/
import Voly.Python.Json

namespace Voly

open Python

structure EvalRequirement where
  id : String
  evaluator : String
  required : Bool := true
  deriving DecidableEq

structure EvalPolicy where
  id : String
  version : String
  taskTypes : List String
  requirements : List EvalRequirement

structure EvalCheckResult where
  id : String
  evaluator : String
  status : String
  required : Bool := true
  message : String := ""
  detail : Dict Json := []

structure EvalReport where
  policyId : String
  policyVersion : String
  state : String
  checks : List EvalCheckResult := []
  deterministicOnly : Bool := true

structure EvalFinding where
  ok : Bool
  message : String
  detail : Dict Json := []

structure BaselineCheck where
  name : String
  status : String
  argv : List String

inductive ScanStatus where
  | passed
  | failed
  | skipped
  deriving DecidableEq

def ScanStatus.text : ScanStatus → String
  | .passed => "passed"
  | .failed => "failed"
  | .skipped => "skipped"

/-- The judge is not configured, raises, or answers with a status of its
own. -/
inductive JudgeCall where
  | absent
  | raises
  | answers (status message : String) (detail : Dict Json)

/-- The run and what the evaluators see around it. -/
structure EvalRun where
  success : Bool
  safetyViolation : String := ""
  safetySoft : Bool := false
  fileChanges : EvalFinding
  trajectory : EvalFinding
  markdownLinks : EvalFinding
  testArtifacts : EvalFinding
  securityScan : ScanStatus × String × Dict Json
  baseline : List BaselineCheck := []
  replay : List String → EvalFinding
  judge : JudgeCall := .absent

namespace EvalRequirement

variable (requirement : EvalRequirement)

def result (status message : String) (detail : Dict Json := []) :
    EvalCheckResult where
  id := requirement.id
  evaluator := requirement.evaluator
  status := status
  required := requirement.required
  message := message
  detail := detail

/-- The result of a finding. -/
def found (finding : EvalFinding) : EvalCheckResult :=
  requirement.result (if finding.ok then "passed" else "failed")
    finding.message finding.detail

def replayed (run : EvalRun) (original : BaselineCheck) : EvalCheckResult :=
  let check :=
    if original.status ≠ "passed" then
      requirement.result "skipped" ("baseline status was " ++ original.status)
        [("baseline_status", .str original.status)]
    else if original.argv.isEmpty then
      requirement.result "skipped" "legacy baseline has no exact argv"
    else requirement.found (run.replay original.argv)
  { check with id := requirement.id ++ ":" ++ original.name }

def judgedBy : JudgeCall → EvalCheckResult
  | .absent => requirement.result "skipped" "LLM judge is not configured"
  | .raises => requirement.result "skipped" "LLM judge evaluator failed"
      [("failure_kind", .str "evaluator_exception")]
  | .answers status message detail => requirement.result status message detail

/-- The checks that a requirement adds to the report. -/
def evaluate (run : EvalRun) : List EvalCheckResult :=
  match requirement.evaluator with
  | "executor_success" =>
      [requirement.found ⟨run.success,
        if run.success then "executor reported success"
        else "executor failed", []⟩]
  | "safety_policy" =>
      let hard := run.safetyViolation != "" && !run.safetySoft
      [requirement.found ⟨!hard,
        orElse run.safetyViolation "no safety-policy violation",
        [("soft_rollback", .bool run.safetySoft)]⟩]
  | "file_changes" => [requirement.found run.fileChanges]
  | "trajectory_policy" => [requirement.found run.trajectory]
  | "baseline_replay" =>
      if run.baseline.isEmpty then
        [requirement.result "skipped"
          "no deterministic baseline commands to replay"]
      else run.baseline.map (requirement.replayed run)
  | "markdown_links" => [requirement.found run.markdownLinks]
  | "test_artifacts" => [requirement.found run.testArtifacts]
  | "changed_security_scan" =>
      [requirement.result run.securityScan.1.text run.securityScan.2.1
        run.securityScan.2.2]
  | "human_review" =>
      [requirement.result "pending" "explicit human review required"]
  | "llm_judge" => [requirement.judgedBy run.judge]
  | evaluator =>
      [requirement.result "error" ("unknown evaluator: " ++ evaluator)]

/-- The loop ends after the check of an executor that failed. -/
def stops (run : EvalRun) : Bool :=
  requirement.evaluator = "executor_success" && !run.success

end EvalRequirement

def finalState (checks : List EvalCheckResult) : String :=
  let required := checks.filter (·.required)
  if required.any fun check => ["failed", "error"].contains check.status then
    "soft_failure"
  else if required.isEmpty || required.any fun check =>
      ["pending", "skipped"].contains check.status then
    "partial_success"
  else "verified_success"

/-- The loop of `evaluate_run`. -/
def evaluateRequirements (run : EvalRun) :
    List EvalRequirement → List EvalCheckResult
  | [] => []
  | requirement :: rest =>
      requirement.evaluate run ++
        if requirement.stops run then [] else evaluateRequirements run rest

def evaluateRun (policy : EvalPolicy) (run : EvalRun) : EvalReport :=
  let checks := evaluateRequirements run policy.requirements
  { policyId := policy.id
    policyVersion := policy.version
    state := finalState checks
    checks
    deterministicOnly := !checks.any fun check =>
      check.evaluator = "llm_judge" }

/-- The events that a judge's check has gathered, if they are a list. -/
def calibrationEvents (detail : Dict Json) : Option (List Json) :=
  match detail.get? "calibration_events" with
  | none => some []
  | some (.arr events) => some events
  | some _ => none

def label (passed : Bool) : Json := .str (if passed then "pass" else "fail")

namespace EvalCheckResult

variable (check : EvalCheckResult)

def judged : Bool :=
  check.evaluator = "llm_judge" && ["passed", "failed"].contains check.status

/-- Feedback adds an event to the check. -/
def calibrates : Bool :=
  check.judged && (calibrationEvents check.detail).isSome

/-- A judge's check gathers an event that compares it with the feedback. -/
def calibrate (kind : String) : EvalCheckResult :=
  match calibrationEvents check.detail with
  | none => check
  | some events =>
      let accepted := decide (kind = "accepted")
      let passed := decide (check.status = "passed")
      let event : Json := .obj [("human_label", label accepted),
        ("judge_label", label passed), ("agreement", .bool (accepted == passed)),
        ("feedback_kind", .str kind)]
      { check with detail :=
          check.detail.set "calibration_events" (.arr (events ++ [event])) }

/-- What feedback does to a check. -/
def revise (kind : String) : EvalCheckResult :=
  if check.evaluator = "human_review" then
    { check with
        status := if kind = "accepted" then "passed" else "failed"
        message := "explicit human feedback: " ++ kind
        detail := [("kind", .str kind)] }
  else if check.judged then check.calibrate kind
  else check

section

variable (kind : String)

@[simp] theorem calibrate_evaluator :
    (check.calibrate kind).evaluator = check.evaluator := by
  unfold calibrate
  split <;> rfl

@[simp] theorem calibrate_required :
    (check.calibrate kind).required = check.required := by
  unfold calibrate
  split <;> rfl

@[simp] theorem calibrate_status :
    (check.calibrate kind).status = check.status := by
  unfold calibrate
  split <;> rfl

@[simp] theorem revise_evaluator :
    (check.revise kind).evaluator = check.evaluator := by
  by_cases hreview : check.evaluator = "human_review"
  · simp [revise, hreview]
  · by_cases hjudged : check.judged = true
    · simp [revise, hreview, hjudged]
    · simp [revise, hreview, hjudged]

@[simp] theorem revise_required :
    (check.revise kind).required = check.required := by
  by_cases hreview : check.evaluator = "human_review"
  · simp [revise, hreview]
  · by_cases hjudged : check.judged = true
    · simp [revise, hreview, hjudged]
    · simp [revise, hreview, hjudged]

theorem revise_status (h : check.evaluator ≠ "human_review") :
    (check.revise kind).status = check.status := by
  by_cases hjudged : check.judged = true
  · simp [revise, h, hjudged]
  · simp [revise, h, hjudged]

theorem revise_review (h : check.evaluator = "human_review") :
    (check.revise kind).status =
      if kind = "accepted" then "passed" else "failed" := by
  simp [revise, h]

end

end EvalCheckResult

/-- Whether the report changed, and the report. -/
def applyHumanFeedback (report : EvalReport) (kind : String) :
    Bool × EvalReport :=
  let changed := report.checks.any fun check =>
    check.evaluator = "human_review" || check.calibrates
  let checks := report.checks.map (·.revise kind)
  (changed, { report with
    checks, state := if changed then finalState checks else report.state })

end Voly
