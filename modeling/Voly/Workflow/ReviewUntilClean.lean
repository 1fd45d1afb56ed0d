/-
The bounded repair loop: a developer works, a reviewer judges, and findings
start the next lap.
-/
import Voly.Interaction.System
import Voly.Python.Number
import Voly.Telemetry.Cost

namespace Voly.Workflow

open Python Interaction Telemetry

inductive ReviewVerdict where
  | clean
  | blocking
deriving DecidableEq

/-- `str.lower()` for ASCII words: besides the capitals the Kelvin sign gives
one. -/
def lowerLetter (c : Char) : Char :=
  if c = Char.ofNat 8490 then 'k' else c.toLower

/-- `ReviewVerdict(str(value or "").lower())`; only a string spells a
verdict. -/
def verdictOf (value : Option Doc) : Option ReviewVerdict :=
  match value with
  | some (.str s) =>
      let word := String.ofList (s.toList.map lowerLetter)
      if word = "clean" then some .clean
      else if word = "blocking" then some .blocking
      else none
  | _ => none

/-- What stands between three backticks, perhaps with `json`, and three
backticks. -/
def unfenced (raw : List Char) : List Char :=
  let fence := ['`', '`', '`']
  if fence.isPrefixOf raw && fence.isSuffixOf raw && 6 ≤ raw.length then
    let inner := (raw.drop 3).take (raw.length - 6)
    let inner :=
      if "json".toList.isPrefixOf inner then inner.drop 4 else inner
    (strip (String.ofList inner)).toList
  else raw

section Parse

variable (str : Doc → String)

/-- `str(item).strip()`, with `str` for what is no string. -/
def findingText (item : Doc) : String :=
  match item with
  | .str s => strip s
  | item => strip (str item)

/-- `parse_review_verdict`; the error is the text of the `ValueError`. -/
def parseReviewVerdict (content : String) :
    Except String (ReviewVerdict × List String) :=
  match (loads (unfenced (strip content).toList)).filter Doc.proper with
  | none => .error "reviewer returned invalid JSON"
  | some (.dict items) =>
      let data := Doc.dict items
      match verdictOf (truthyField data "verdict") with
      | none => .error "reviewer verdict must be clean or blocking"
      | some verdict =>
          match (truthyField data "findings").getD (.list []) with
          | .list rawFindings =>
              let findings :=
                (rawFindings.map (findingText str)).filter (· ≠ "")
              if verdict = .blocking ∧ findings = [] then
                .error "blocking verdict requires at least one finding"
              else if verdict = .clean ∧ findings ≠ [] then
                .error "clean verdict cannot include blocking findings"
              else .ok (verdict, findings)
          | _ => .error "reviewer findings must be a list"
  | some _ => .error "reviewer verdict must be a JSON object"

variable {str}

theorem clean_iff_no_findings {content : String} {verdict : ReviewVerdict}
    {findings : List String}
    (h : parseReviewVerdict str content = .ok (verdict, findings)) :
    verdict = .clean ↔ findings = [] := by
  unfold parseReviewVerdict at h
  split at h
  · cases h
  · dsimp only at h
    split at h
    · cases h
    · next word _ =>
        split at h
        · next rawFindings _ =>
            generalize (rawFindings.map (findingText str)).filter (· ≠ "") =
              kept at h
            split at h
            · cases h
            · next hblocking =>
                split at h
                · cases h
                · next hclean =>
                    cases h
                    cases verdict with
                    | clean => simpa using hclean
                    | blocking => simpa using hblocking
        · cases h
  · cases h

end Parse

inductive ReviewStopReason where
  | clean
  | maxRounds
  | deadline
  | executorFailed
  | reviewFailed
  | spendLimit
  | cancelled
deriving DecidableEq

structure WorkReport where
  filesChanged : List String := []
  filesCreated : List String := []
  filesDeleted : List String := []

/-- A `RunnerResult` with the fields of its `ExecutorResult` that are read. -/
structure RunnerResult where
  success : Bool
  budgetExceeded : Bool := false
  taskId : String := ""
  executor : String := ""
  output : String := ""
  error : String := ""
  costUsd : Rat := 0
  durationMs : Rat := 0
  report : Option WorkReport := none

/-- A chat response.  A cost is what `float(raw or 0.0)` gives, if anything. -/
structure Review where
  provider : String := ""
  model : String := ""
  content : String := ""
  costUsd : Option (Option Rat) := none
  cost : Option (Option Rat) := none
  error : String := ""
  spendLimited : Bool := false

structure WorkerCall where
  task : String
  executor : String
  cwd : String
  maxTurns : Int
  timeout : Int
  parentTaskId : String

structure ReviewCall where
  prompt : String
  system : String
  model : String
  provider : String
  maxTokens : Nat

/-- What the clock is read for: the start, what is left of `total`, a duration.
-/
inductive ClockUse where
  | start
  | remaining (since total : Rat)
  | duration

inductive ReviewOp where
  | clock (use : ClockUse)
  | cancellationRequested
  | worker (call : WorkerCall)
  | gitDiffEvidence (cwd : String) (files : List String)
  | review (call : ReviewCall)

abbrev ReviewReply : ReviewOp → Type
  | .clock _ => Rat
  | .cancellationRequested => Bool
  | .worker _ => RunnerResult
  | .gitDiffEvidence _ _ => String
  | .review _ => Review

abbrev ReviewScript := Script ReviewOp ReviewReply Unit String

structure ReviewLap where
  number : Nat
  developerTaskId : String := ""
  developerExecutor : String := ""
  developerOutput : String := ""
  filesTouched : List String := []
  reviewerProvider : String := ""
  reviewerModel : String := ""
  reviewerOutput : String := ""
  verdict : Option ReviewVerdict := none
  findings : List String := []
  developerCostUsd : Rat := 0
  reviewerCostUsd : Rat := 0
  costUsd : Rat := 0
  developerDurationMs : Rat := 0
  reviewerDurationMs : Rat := 0
  durationMs : Rat := 0
  error : String := ""

structure ReviewLoopResult where
  success : Bool
  stopReason : ReviewStopReason
  laps : List ReviewLap
  error : String := ""
  workflowId : String := ""

namespace ReviewLoopResult

variable (result : ReviewLoopResult)

def totalCostUsd : Rat :=
  roundTo 6 (result.laps.map ReviewLap.costUsd).sum

def durationMs : Rat :=
  roundTo 1 (result.laps.map ReviewLap.durationMs).sum

end ReviewLoopResult

/-- A run's arguments; `roleModel` is the reviewer's route, `tracked` that there
is a tracker. -/
structure ReviewConfig where
  task : String
  cwd : String
  executor : String := "claude-code"
  maxRounds : Int := 3
  deadlineSeconds : Rat := 900
  executorTimeout : Int := 300
  maxTurns : Int := 30
  reviewerModel : String := ""
  reviewerProvider : String := ""
  roleModel : String × String := ("", "")
  tracked : Bool := false
  workflowId : String := ""

section Parts

variable (config : ReviewConfig)

def reviewerRoute : String × String :=
  if config.reviewerModel ≠ "" ∧ config.reviewerProvider ≠ "" then
    (config.reviewerModel, config.reviewerProvider)
  else
    (orElse config.reviewerModel config.roleModel.1,
      orElse config.reviewerProvider config.roleModel.2)

def cancelledNow : ReviewScript Bool :=
  if config.tracked ∧ config.workflowId ≠ "" then
    Script.ask ReviewOp.cancellationRequested
  else pure false

def remainingSeconds (started : Rat) : ReviewScript Rat := do
  let now ← Script.ask (ReviewOp.clock (.remaining started config.deadlineSeconds))
  pure (config.deadlineSeconds - (now - started))

def elapsedMs (started : Rat) : ReviewScript Rat := do
  let now ← Script.ask (ReviewOp.clock .duration)
  pure (max 0 ((now - started) * 1000))

def lapFromRun (number : Nat) (run : RunnerResult) : ReviewLap where
  number := number
  developerTaskId := run.taskId
  developerExecutor := run.executor
  developerOutput := run.output
  filesTouched :=
    match run.report with
    | none => []
    | some report =>
        (report.filesChanged ++ report.filesCreated ++
          report.filesDeleted).eraseDups
  developerCostUsd := run.costUsd
  costUsd := run.costUsd
  developerDurationMs := run.durationMs

def developerTask (task : String) (number : Nat) (findings : List String) :
    String :=
  if number = 1 then task
  else
    "Continue the original task and repair every blocking review finding.\n\n"
      ++ "## Original task\n" ++ task ++ "\n\n"
      ++ "## Blocking findings from the previous review\n"
      ++ "\n".intercalate (findings.map fun finding => "- " ++ finding)
      ++ "\n\n"
      ++ "Inspect the current working tree, make the fixes, and run focused "
      ++ "checks. Do not revert unrelated user changes."

def reviewSystemPrompt : String :=
  "You are an independent code reviewer. Review only correctness, security, "
    ++ "regressions, and missing verification that can block completion. "
    ++ "Return strict JSON only: \x7b\"verdict\":\"clean|blocking\","
    ++ "\"findings\":[\"specific actionable finding\"],\"summary\":\"short\""
    ++ "\x7d. Use verdict clean only when there are no blocking findings."

def reviewPrompt (task : String) (lap : ReviewLap) (evidence : String) :
    String :=
  "## Original task\n" ++ task ++ "\n\n"
    ++ "## Developer report\n" ++ slice 4000 lap.developerOutput ++ "\n\n"
    ++ "## Files touched\n"
    ++ String.ofList ((Doc.list (lap.filesTouched.map Doc.str)).write true)
    ++ "\n\n" ++ orElse evidence "No git diff evidence was available."

def reviewCost (review : Review) : Rat :=
  ((review.costUsd.orElse fun _ => review.cost).getD (some 0)).getD 0

def workerTimeout (remaining : Rat) : Int :=
  max 1 (min config.executorTimeout remaining.ceil)

end Parts

/-- How a lap leaves the loop, or that its findings start the next one. -/
inductive LapEnd where
  | ended (success : Bool) (reason : ReviewStopReason)
      (lap : Option ReviewLap) (error : String)
  | blocked (lap : ReviewLap)

section Loop

variable (str : Doc → String) (config : ReviewConfig)

/-- The review of a lap that is added to the laps already. -/
def judge (lap : ReviewLap) (review : Review) : LapEnd :=
  if review.error ≠ "" then
    .ended false
      (if review.spendLimited then .spendLimit else .reviewFailed)
      (some { lap with error := review.error }) review.error
  else
    match parseReviewVerdict str lap.reviewerOutput with
    | .error error =>
        .ended false .reviewFailed (some { lap with error }) error
    | .ok (verdict, findings) =>
        let lap := { lap with verdict := some verdict, findings }
        match verdict with
        | .clean => .ended true .clean (some lap) ""
        | .blocking => .blocked lap

/-- The lap from the developer's result on. -/
def reviewPart (started lapStarted : Rat) (lap : ReviewLap) :
    ReviewScript LapEnd := do
  let remaining ← remainingSeconds config started
  if remaining ≤ 0 then
    let duration ← elapsedMs lapStarted
    pure (.ended false .deadline
      (some { lap with durationMs := duration }) "")
  else if ← cancelledNow config then
    pure (.ended false .cancelled (some lap) "")
  else
    let reviewStarted ← Script.ask (ReviewOp.clock .duration)
    let evidence ← Script.ask (ReviewOp.gitDiffEvidence config.cwd lap.filesTouched)
    let route := reviewerRoute config
    let review ← Script.ask (ReviewOp.review {
      prompt := reviewPrompt config.task lap evidence
      system := reviewSystemPrompt
      model := route.1
      provider := route.2
      maxTokens := 4096 })
    let reviewerDuration ← elapsedMs reviewStarted
    let duration ← elapsedMs lapStarted
    pure (judge str
      { lap with
        reviewerProvider := orElse review.provider route.2
        reviewerModel := orElse review.model route.1
        reviewerOutput := review.content
        reviewerCostUsd := reviewCost review
        costUsd := lap.costUsd + reviewCost review
        reviewerDurationMs := reviewerDuration
        durationMs := duration } review)

/-- One pass of the loop's body. -/
def reviewLap (started : Rat) (number : Nat) (findings : List String) :
    ReviewScript LapEnd := do
  if ← cancelledNow config then
    pure (.ended false .cancelled none "")
  else
    let remaining ← remainingSeconds config started
    if remaining ≤ 0 then
      pure (.ended false .deadline none "")
    else
      let lapStarted ← Script.ask (ReviewOp.clock .duration)
      let run ← Script.ask (ReviewOp.worker {
        task := developerTask config.task number findings
        executor := config.executor
        cwd := config.cwd
        maxTurns := config.maxTurns
        timeout := workerTimeout config remaining
        parentTaskId := config.workflowId })
      let lap := lapFromRun number run
      if run.success then
        reviewPart str config started lapStarted lap
      else
        let error := orElse run.error "developer executor failed"
        let duration ← elapsedMs lapStarted
        pure (.ended false
          (if run.budgetExceeded then .spendLimit else .executorFailed)
          (some { lap with error, durationMs := duration }) error)

/-- The loop, with the number of passes that are left. -/
def reviewLoop (started : Rat) :
    Nat → Nat → List ReviewLap → List String → ReviewScript ReviewLoopResult
  | 0, _, laps, _ => pure {
      success := false
      stopReason := .maxRounds
      laps := laps
      workflowId := config.workflowId }
  | left + 1, number, laps, findings => do
      match ← reviewLap str config started number findings with
      | .ended success reason lap error => pure {
          success, error
          stopReason := reason
          laps := laps ++ lap.toList
          workflowId := config.workflowId }
      | .blocked lap =>
          reviewLoop started left (number + 1) (laps ++ [lap]) lap.findings

/-- The checks before anything is asked. -/
def checkArguments : Except String Unit :=
  if strip config.task = "" then .error "task must not be empty"
  else if strip config.cwd = "" then .error "cwd must not be empty"
  else if ¬(1 ≤ config.maxRounds ∧ config.maxRounds ≤ 20) then
    .error "max_rounds must be between 1 and 20"
  else if config.deadlineSeconds ≤ 0 then
    .error "deadline_seconds must be positive"
  else .ok ()

/-- `ReviewUntilClean.run`. -/
def reviewUntilClean : ReviewScript ReviewLoopResult := do
  Script.run fun s => (checkArguments config, s)
  let started ← Script.ask (ReviewOp.clock .start)
  reviewLoop str config started config.maxRounds.toNat 1 [] []

end Loop

end Voly.Workflow
