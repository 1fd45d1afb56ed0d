/-
The plan runner: attempts, chat waves, the retry and on-fail policy, the run
loop, resume and cancel.
-/
import Voly.Plan.Verify

namespace Voly

open Python Interaction StepStatus

structure RunnerConfig where
  mode : String := "shadow"
  maxStepRetries : Int := 1
  defaultOnVerifyFail : String := "stop"
  commandTimeoutSeconds : Rat := 120
  sdkEnabled : Bool := true
  maxParallelNodes : Int := 3
  staleRunningSeconds : Int := 900
  defaultCwd : String := ""

def RunnerConfig.maxRetries (config : RunnerConfig) : Nat :=
  config.maxStepRetries.toNat

/-- `(default_on_verify_fail or "stop").lower()`. -/
def RunnerConfig.onFail (config : RunnerConfig) : String :=
  lower (orElse config.defaultOnVerifyFail "stop")

def RunnerConfig.maxParallel (config : RunnerConfig) : Nat :=
  if config.sdkEnabled then (max 1 config.maxParallelNodes).toNat else 1

/-- `(mode or config.mode or "shadow").lower()`, with `off` read as
`shadow`. -/
def RunnerConfig.runMode (config : RunnerConfig) (mode : String) : String :=
  let runMode := lower (orElse mode (orElse config.mode "shadow"))
  if runMode = "off" then "shadow" else runMode

def dependencyContextChars : Nat := 4000

def dependencyBlocks (plan : Plan) (step : PlanStep) : List String :=
  step.dependsOn.filterMap fun depId =>
    match plan.getStep? depId with
    | none => none
    | some dep =>
        if dep.output = "" then none
        else some ("### " ++ depId ++ "\n" ++
          slice dependencyContextChars dep.output)

def withDependencyContext (plan : Plan) (step : PlanStep)
    (instruction : String) : String :=
  if dependencyBlocks plan step = [] then instruction
  else
    "Context from completed steps:\n\n" ++
      "\n\n".intercalate (dependencyBlocks plan step) ++
      "\n\n---\n\n" ++ instruction

def instructionFor (plan : Plan) (step : PlanStep) : String :=
  let task := strip (orElse step.task plan.task)
  withDependencyContext plan step <|
    if task = "" then
      "Perform role=" ++ step.role ++ " for plan " ++ plan.planId
    else task

/-- `git_porcelain(plan.cwd) if plan.cwd else {}`. -/
def gitSnapshot : PlanScript (Dict String) := do
  let plan ← Script.read
  if plan.cwd = "" then pure [] else Script.askOk (PlanOp.git plan.cwd) id

/-- What a call's end means: an exception is a failure, a chat reports no files.
-/
def outcomeOf (mode : StepMode) (reply : CallReply) : CallOutcome :=
  match reply.outcome with
  | .error message => { success := false, error := message }
  | .ok outcome =>
      if mode = .executor then outcome else { outcome with files := [] }

/-- The writes of a finished call to its own step: cost, duration, output. -/
def PlanStep.recordCall (reply : CallReply) (outcome : CallOutcome)
    (step : PlanStep) : PlanStep :=
  { step with
    costUsd := reply.costUsd.getD step.costUsd
    durationMs := reply.durationMs.getD step.durationMs
    output := slice 50000 outcome.output }

def PlanStep.reportFiles (files : List String) (step : PlanStep) : PlanStep :=
  { step with
    filesTouched := if files = [] then step.filesTouched else files }

/-- Without recorded files, the paths that git shows as changed. -/
def PlanStep.diffFiles (gitBefore gitAfter : Dict String) (step : PlanStep) :
    PlanStep :=
  { step with
    filesTouched :=
      if step.filesTouched = [] then sorted (changedPaths gitBefore gitAfter)
      else step.filesTouched }

/-- The direct write of shadow mode. -/
def PlanStep.softOpen (step : PlanStep) : PlanStep :=
  { step with status := verified }

def PlanStep.continueError (step : PlanStep) : PlanStep :=
  { step with error := slice 2000 (orElse step.error "continue after fail") }

def stepContext (config : RunnerConfig) (plan : Plan) (step : PlanStep)
    (gitBefore gitAfter : Dict String) : VerifyContext :=
  { cwd := plan.cwd
    output := step.output
    filesTouched := step.filesTouched
    gitBefore
    gitAfter
    commandTimeout := config.commandTimeoutSeconds }

/-- Park the step if a check is out-of-band, else verify it; shadow mode opens
the gate. -/
def verify (config : RunnerConfig) (stepId runMode : String)
    (gitBefore gitAfter : Dict String) : PlanScript Bool := do
  let step ← getStep stepId
  let plan ← Script.read
  let ctx := stepContext config plan step gitBefore gitAfter
  if step.awaitsExternal then do
    let _ ← verifyStep stepId ctx false
    pure false
  else do
    let (step, results) ← completeVerification stepId ctx false
    if allPassed results ∨ results = [] then
      pure (decide (step.status = verified))
    else if runMode = "shadow" then do
      Script.update fun plan =>
        recomputePlanStatus (plan.modifyStep stepId PlanStep.softOpen)
      pure true
    else pure false

/-- The shared tail of an attempt whose call succeeded. -/
def settle (config : RunnerConfig) (stepId runMode output : String)
    (filesTouched : List String) (gitBefore gitAfter : Dict String) :
    PlanScript Bool := do
  let _ ← Script.run
    (markExecutionFinished stepId true "" output (some filesTouched) 0)
  let _ ← Script.run (advanceAfterDone stepId 0)
  let step ← getStep stepId
  if step.status = verified then pure true
  else if step.status = verifying then
    verify config stepId runMode gitBefore gitAfter
  else pure (decide (step.status ∈ [verified, skipped]))

/-- `_run_one_step` once git was read after the call. -/
def concludeCall (config : RunnerConfig) (stepId runMode : String)
    (gitBefore gitAfter : Dict String) (outcome : CallOutcome) :
    PlanScript Bool := do
  Script.update fun plan =>
    plan.modifyStep stepId (PlanStep.diffFiles gitBefore gitAfter)
  if outcome.success then do
    let step ← getStep stepId
    settle config stepId runMode outcome.output step.filesTouched gitBefore
      gitAfter
  else do
    let _ ← enterStatus stepId failed
      (orElse outcome.error "step execution failed") false
    pure false

/-- `_run_one_step` from the end of the call on. -/
def afterCall (config : RunnerConfig) (stepId runMode : String)
    (gitBefore : Dict String) (mode : StepMode) (reply : CallReply) :
    PlanScript Bool := do
  let outcome := outcomeOf mode reply
  Script.update fun plan =>
    plan.modifyStep stepId (PlanStep.recordCall reply outcome)
  Script.update fun plan =>
    plan.modifyStep stepId (PlanStep.reportFiles outcome.files)
  let gitAfter ← gitSnapshot
  concludeCall config stepId runMode gitBefore gitAfter outcome

/-- `_run_one_step` from the first git status on.  A business step is driven
by the decision service only. -/
def callStep (config : RunnerConfig) (stepId runMode : String)
    (step : PlanStep) (plan : Plan) (gitBefore : Dict String) :
    PlanScript Bool := do
  if step.mode = .business then do
    let _ ← enterStatus stepId failed
      "mode=business steps must run via DecisionService, not PlanRunner" false
    pure false
  else do
    Script.ask (PlanOp.callStart step plan (instructionFor plan step))
    let reply ← Script.ask (PlanOp.callEnd stepId)
    afterCall config stepId runMode gitBefore step.mode reply

/-- `_run_one_step` on a step that is `running`. -/
def attempt (config : RunnerConfig) (stepId runMode : String) :
    PlanScript Bool := do
  let plan ← Script.read
  let step ← getStep stepId
  let gitBefore ← gitSnapshot
  callStep config stepId runMode step plan gitBefore

/-- Execute and verify one step.  True if it ends verified or skipped. -/
def runOneStep (config : RunnerConfig) (stepId runMode : String)
    (alreadyRunning : Bool) : PlanScript Bool := do
  let _ ← getStep stepId
  if alreadyRunning then attempt config stepId runMode
  else do
    let _ ← enterStatus stepId running "" false
    storeSave
    attempt config stepId runMode

/-- Enter `running` with each step of the wave. -/
def enterRunning : List String → PlanScript Unit
  | [] => pure ()
  | stepId :: rest => do
      let _ ← enterStatus stepId running "" false
      enterRunning rest

/-- The worker threads of a wave, moved by the scheduler. -/
def waveCalls : Nat → List String → List String → Dict CallOutcome →
    PlanScript (Dict CallOutcome)
  | 0, _, _, bodies => pure bodies
  | n + 1, waiting, calling, bodies => do
      let choice ← Script.ask (PlanOp.pick (waiting.length + calling.length))
      let i := choice % (waiting.length + calling.length)
      match waiting[i]?, calling[i - waiting.length]? with
      | some stepId, _ => do
          let plan ← Script.read
          let step ← getStep stepId
          Script.ask (PlanOp.callStart step plan (instructionFor plan step))
          waveCalls n (waiting.erase stepId) (calling ++ [stepId]) bodies
      | none, some stepId => do
          let reply ← Script.ask (PlanOp.callEnd stepId)
          let outcome := outcomeOf .chat reply
          Script.update fun plan =>
            plan.modifyStep stepId (PlanStep.recordCall reply outcome)
          waveCalls n waiting (calling.erase stepId)
            (bodies.set stepId outcome)
      | none, none => pure bodies

/-- The main-thread tail of a wave member: no git evidence, no touched
files. -/
def finalizeChatStep (config : RunnerConfig) (stepId runMode : String)
    (success : Bool) (error : String) : PlanScript Bool := do
  let step ← getStep stepId
  if success then
    settle config stepId runMode step.output [] [] []
  else do
    let _ ← enterStatus stepId failed
      (orElse error "step execution failed") false
    pure false

def finalizeWave (config : RunnerConfig) (runMode : String)
    (bodies : Dict CallOutcome) :
    List String → PlanScript (List (String × Bool))
  | [] => pure []
  | stepId :: rest => do
      let body := (bodies.get? stepId).getD { success := false }
      let ok ← finalizeChatStep config stepId runMode body.success body.error
      let outcomes ← finalizeWave config runMode bodies rest
      pure ((stepId, ok) :: outcomes)

def runChatWave (config : RunnerConfig) (stepIds : List String)
    (runMode : String) : PlanScript (List (String × Bool)) := do
  enterRunning stepIds
  storeSave
  let bodies ← waveCalls (2 * stepIds.length) stepIds [] []
  finalizeWave config runMode bodies stepIds

/-- Reload the status and adopt an abort; an unreadable store is no abort. -/
def externalAbortRequested : PlanScript Bool := do
  let plan ← Script.read
  let fresh ← (storeLoad plan.planId).handle fun _ => pure none
  match fresh with
  | none => pure false
  | some fresh =>
      if fresh.status = .aborted then do
        Script.update fun plan =>
          { plan with
            status := .aborted
            error := orElse fresh.error plan.error }
        pure true
      else pure false

def checkAbortAndSave : PlanScript Bool := do
  let aborted ← externalAbortRequested
  storeSave
  pure aborted

/-- Retries made so far, by step id. -/
abbrev Retries := String → Nat

/-- The end of the on-fail policy: soft-open or stop. -/
def failOrContinue (stepId onFail : String) : PlanScript Bool := do
  let step ← getStep stepId
  if onFail = "continue" ∧ step.status = failed then do
    let _ ← enterStatus stepId verified "" true
    Script.update fun plan =>
      plan.modifyStep stepId PlanStep.continueError
    storeSave
    pure true
  else do
    Script.update fun plan =>
      { plan with
        status := .failed
        error := orElse step.error ("step " ++ stepId ++ " failed") }
    pure false

/-- Retry, soft-fail or stop after one step's attempt.  False is a stop. -/
def handleStepOutcome (config : RunnerConfig) (stepId : String) (ok : Bool)
    (runMode : String) (retries : Retries) :
    PlanScript (Bool × Retries) := do
  if ok then pure (true, retries)
  else do
    let step ← getStep stepId
    if step.status ≠ failed then pure (true, retries)
    else if config.onFail = "retry" ∧ retries stepId < config.maxRetries then do
      let retries := Function.update retries stepId (retries stepId + 1)
      let _ ← enterStatus stepId running "" false
      let ok2 ← runOneStep config stepId runMode true
      let aborted ← checkAbortAndSave
      if aborted then pure (false, retries)
      else if ok2 then pure (true, retries)
      else do
        let goOn ← failOrContinue stepId config.onFail
        pure (goOn, retries)
    else do
      let goOn ← failOrContinue stepId config.onFail
      pure (goOn, retries)

/-- Apply the policy to the wave members in order, up to the first stop. -/
def handleWave (config : RunnerConfig) (runMode : String) :
    List (String × Bool) → Retries → PlanScript (Bool × Retries)
  | [], retries => pure (true, retries)
  | (stepId, ok) :: rest, retries => do
      let (goOn, retries) ← handleStepOutcome config stepId ok runMode retries
      if goOn then handleWave config runMode rest retries
      else pure (false, retries)

/-- Where the loop was left: one constructor for each `break`, the exception
handler, and the fuel of this model. -/
inductive LoopExit where
  | aborted | timedOut | allTerminal | inFlight | blocked | drained | stopped
  | crashed | outOfFuel
deriving DecidableEq, Repr

/-- A workflow-level timeout and how it is printed. -/
structure Timeout where
  seconds : Rat
  text : String

/-- The chat steps among the runnable ones. -/
def chatIds (plan : Plan) (runnable : List String) : List String :=
  runnable.filter fun stepId => (plan.getStep? stepId).any fun step =>
    step.mode = .chat

/-- What the loop runs next: a wave, or one step. -/
def nextUnit (config : RunnerConfig) (plan : Plan) (runnable : List String) :
    List String × Bool :=
  let chat := chatIds plan runnable
  if 1 < chat.length ∧ 1 < config.maxParallel then
    (chat.take config.maxParallel, true)
  else (runnable.take 1, false)

/-- The branch of the loop where nothing is runnable. -/
def leaveLoop : PlanScript LoopExit := do
  let plan ← Script.read
  if allStepsTerminal plan then do
    Script.update recomputePlanStatus
    pure .allTerminal
  else if plan.steps.any fun step => inFlight step.status then do
    Script.update recomputePlanStatus
    pure .inFlight
  else if plan.steps.any fun step => step.status = pending then do
    Script.update fun plan =>
      { plan with
        status := .failed
        error := orElse plan.error "blocked: unmet verified dependencies" }
    pure .blocked
  else do
    Script.update recomputePlanStatus
    pure .drained

def attemptUnit (config : RunnerConfig) (runMode : String) :
    List String × Bool → PlanScript (List (String × Bool))
  | (wave, true) => runChatWave config wave runMode
  | ([], false) => pure []
  | (stepId :: _, false) => do
      let ok ← runOneStep config stepId runMode false
      pure [(stepId, ok)]

/-- Run the unit, look for an abort (`none`) before saving, apply the policy. -/
def runUnit (config : RunnerConfig) (runMode : String)
    (unit : List String × Bool) (retries : Retries) :
    PlanScript (Option (Bool × Retries)) := do
  let outcomes ← attemptUnit config runMode unit
  let aborted ← checkAbortAndSave
  if aborted then pure none
  else do
    let result ← handleWave config runMode outcomes retries
    pure (some result)

/-- Has the run been going for longer than the timeout? -/
def timeoutReached (timeout : Option Timeout) (t0 : Rat) :
    PlanScript Bool := do
  match timeout with
  | none => pure false
  | some limit =>
      let now ← Script.ask PlanOp.monotonic
      pure (decide (limit.seconds < now - t0))

/-- `while True`, with fuel. -/
def runLoop (config : RunnerConfig) (runMode : String)
    (timeout : Option Timeout) (t0 : Rat) :
    Nat → Retries → PlanScript LoopExit
  | 0, _ => pure .outOfFuel
  | n + 1, retries => do
      let plan ← Script.read
      if plan.status = .aborted then pure .aborted
      else do
        let aborted ← externalAbortRequested
        if aborted then pure .aborted
        else do
          let timedOut ← timeoutReached timeout t0
          if timedOut then pure .timedOut
          else do
            let runnable ← Script.run fun plan => (runnableSteps plan, plan)
            if runnable = [] then leaveLoop
            else do
              let plan ← Script.read
              let result ←
                runUnit config runMode (nextUnit config plan runnable) retries
              match result with
              | none => pure .aborted
              | some (false, _) => pure .stopped
              | some (true, retries) =>
                  runLoop config runMode timeout t0 n retries

/-- Steps left in `running` past the threshold are failed. -/
def recoverSteps (now threshold : Rat) : List PlanStep → PlanScript Unit
  | [] => pure ()
  | step :: rest => do
      if step.status = running ∧ step.startedAt ≠ 0 ∧
          threshold < now - step.startedAt then do
        let stuckFor := (now - step.startedAt).floor
        let _ ← enterStatus step.id failed
          ("stale: stuck in running for over " ++ toString stuckFor ++
            "s (process likely crashed)") false
        recoverSteps now threshold rest
      else recoverSteps now threshold rest

def recoverStaleRunningSteps (config : RunnerConfig) : PlanScript Unit := do
  if config.staleRunningSeconds ≤ 0 then pure ()
  else do
    let now ← Script.ask PlanOp.time
    let plan ← Script.read
    recoverSteps now config.staleRunningSeconds plan.steps

/-- The plan status after the loop. -/
def finalStatus (plan : Plan) : Plan :=
  let plan := recomputePlanStatus plan
  if plan.status ∈ [.completed, .failed, .aborted] then plan
  else if allStepsTerminal plan ∧
      plan.steps.any (fun step => step.status = verified) then
    { plan with status := .completed }
  else if anyStepFailed plan then { plan with status := .failed }
  else plan

structure PlanRunResult where
  plan : Plan
  success : Bool
  taskId : String
  durationMs : Rat
  error : String
  /-- Not part of the source's result: where the loop was left, and the plan
  as the loop left it. -/
  exit : LoopExit
  left : Plan

def ensureTaskId : PlanScript Unit := do
  let plan ← Script.read
  if plan.taskId = "" then do
    let taskId ← Script.ask PlanOp.newTaskId
    Script.update fun plan => { plan with taskId }
  else pure ()

/-- `run` up to its first save. -/
def openRun (config : RunnerConfig) (cwd : String) : PlanScript Unit := do
  Script.update fun plan =>
    { plan with cwd := orElse cwd (orElse plan.cwd config.defaultCwd) }
  ensureTaskId
  Script.run fun plan => (validate plan, plan)
  recoverStaleRunningSteps config
  Script.update fun plan => { plan with status := .running }
  storeSave

/-- The loop, with the exceptions that end it caught. -/
def guardedLoop (config : RunnerConfig) (runMode : String)
    (timeout : Option Timeout) (t0 : Rat) : PlanScript LoopExit := do
  let plan ← Script.read
  (runLoop config runMode timeout t0 (plan.steps.length + 1)
    fun _ => 0).handle fun e => do
      Script.update fun plan =>
        { plan with status := .failed, error := slice 2000 e.text }
      pure .crashed

def timeoutError (timeout : Option Timeout) (exit : LoopExit) (plan : Plan) :
    Plan :=
  match timeout with
  | none => plan
  | some limit =>
      if exit = .timedOut ∧
          plan.status ∉ [.completed, .failed, .aborted] then
        { plan with
          error := "workflow-level timeout after " ++ limit.text ++ "s" }
      else plan

/-- `run` from the end of the loop on. -/
def closeRun (timeout : Option Timeout) (t0 : Rat) (exit : LoopExit) :
    PlanScript PlanRunResult := do
  let left ← Script.read
  Script.update (timeoutError timeout exit)
  Script.update finalStatus
  storeSave
  let plan ← Script.read
  let t1 ← Script.ask PlanOp.monotonic
  pure
    { plan
      success := plan.status = .completed
      taskId := plan.taskId
      durationMs := (t1 - t0) * 1000
      error := plan.error
      exit
      left }

/-- Execute all steps until completed, failed or aborted. -/
def run (config : RunnerConfig) (mode cwd : String)
    (timeout : Option Timeout) : PlanScript PlanRunResult := do
  let t0 ← Script.ask PlanOp.monotonic
  openRun config cwd
  let exit ← guardedLoop config (config.runMode mode) timeout t0
  closeRun timeout t0 exit

/-- Reload a persisted plan and continue running it.  The plan object of the
call does not exist before the load. -/
def resume (config : RunnerConfig) (planId mode : String)
    (timeout : Option Timeout) :
    Prog PlanOp PlanReply (Except PyError (PlanRunResult × Plan)) :=
  (storeLoad planId ()).bind fun out =>
    match out.1 with
    | .error e => .done (.error e)
    | .ok none => .done (.error (.fileNotFound planId))
    | .ok (some plan) =>
        (run config mode plan.cwd timeout plan).bind fun out =>
          match out with
          | (.ok result, plan) => .done (.ok (result, plan))
          | (.error e, _) => .done (.error e)

/-- Mark a persisted plan aborted. -/
def cancel (planId error : String) :
    Prog PlanOp PlanReply (Except PyError Plan) :=
  (storeLoad planId ()).bind fun out =>
    match out.1 with
    | .error e => .done (.error e)
    | .ok none => .done (.error (.fileNotFound planId))
    | .ok (some plan) =>
        (storeSave (abort plan error)).bind fun out =>
          match out with
          | (.ok (), plan) => .done (.ok plan)
          | (.error e, _) => .done (.error e)

end Voly
