/-
The plan engine: validation, topological order, the dependency gate and the
status changes.  No agent I/O and no verifiers here.
-/
import Voly.Plan.Types
import Voly.Graph.Kahn

namespace Voly

open Python StepStatus

/-- `_validate_step` over the steps.  Unknown statuses and modes cannot occur.
-/
def validateSteps : List PlanStep → List String → Except PyError Unit
  | [], _ => .ok ()
  | step :: rest, seen =>
      if strip step.id = "" then .error (.validation "step id is required")
      else if step.id ∈ seen then
        .error (.validation ("duplicate step id: " ++ quoted step.id))
      else validateSteps rest (seen ++ [step.id])

/-- The check of one `depends_on` list. -/
def validateDependsOn (ids : List String) (stepId : String) :
    List String → Except PyError Unit
  | [] => .ok ()
  | dep :: rest =>
      if dep ∉ ids then
        .error (.validation ("step " ++ quoted stepId ++
          " depends on unknown step " ++ quoted dep))
      else if dep = stepId then
        .error (.validation ("step " ++ quoted stepId ++
          " depends on itself"))
      else validateDependsOn ids stepId rest

def validateDependencies (ids : List String) :
    List PlanStep → Except PyError Unit
  | [] => .ok ()
  | step :: rest =>
      match validateDependsOn ids step.id step.dependsOn with
      | .error e => .error e
      | .ok () => validateDependencies ids rest

def Plan.nodes (plan : Plan) : List (String × List String) :=
  plan.steps.map fun step => (step.id, step.dependsOn)

/-- The first dependency that no step has, with the step that lists it. -/
def Plan.unknownDependency? (plan : Plan) : Option (String × String) :=
  (plan.steps.flatMap fun step =>
    step.dependsOn.map fun dep => (step.id, dep)).find? fun edge =>
      edge.2 ∉ plan.ids

/-- Step ids in dependency order (Kahn).  Raises on cycles. -/
def topoOrder (plan : Plan) : Except PyError (List String) :=
  match plan.unknownDependency? with
  | some (stepId, dep) =>
      .error (.validation ("step " ++ quoted stepId ++
        " depends on unknown step " ++ quoted dep))
  | none =>
      let sorted := Kahn.sort plan.nodes
      if sorted.1.length ≠ plan.ids.length then
        let stuck := plan.ids.eraseDups.filter fun i => 0 < sorted.2 i
        .error (.validation ("plan has a dependency cycle involving: " ++
          quotedList stuck))
      else .ok sorted.1

/-- Raise if the plan document is invalid. -/
def validate (plan : Plan) : Except PyError Unit :=
  if strip plan.planId = "" then
    .error (.validation "plan_id is required")
  else if plan.steps = [] then
    .error (.validation "plan must have at least one step")
  else
    match validateSteps plan.steps [] with
    | .error e => .error e
    | .ok () =>
        match validateDependencies plan.ids plan.steps with
        | .error e => .error e
        | .ok () =>
            match topoOrder plan with
            | .error e => .error e
            | .ok _ => .ok ()

/-- Dependency ids of a step that are not yet `verified`. -/
def unmetOf (plan : Plan) (step : PlanStep) : List String :=
  step.dependsOn.filter fun dep =>
    match plan.stepMap? dep with
    | none => true
    | some depStep => depStep.status ≠ verified

/-- May the step enter `running`? -/
def canStart (plan : Plan) (stepId : String) : Except PyError Bool :=
  match plan.getStep stepId with
  | .error e => .error e
  | .ok step =>
      .ok (decide (step.status ∈ [pending, failed]) && unmetOf plan step = [])

/-- Ids that currently pass `can_start`, in topological order. -/
def runnableSteps (plan : Plan) : Except PyError (List String) :=
  match topoOrder plan with
  | .error e => .error e
  | .ok order =>
      .ok (order.filter fun stepId =>
        match canStart plan stepId with
        | .ok startable => startable
        | .error _ => false)

def isTerminalStep (status : StepStatus) : Bool :=
  status ∈ [verified, skipped]

def allStepsTerminal (plan : Plan) : Bool :=
  plan.steps.all fun step => isTerminalStep step.status

def anyStepFailed (plan : Plan) : Bool :=
  plan.steps.any fun step => step.status = failed

/-- A step is `running`, `done` or `verifying`. -/
def inFlight (status : StepStatus) : Bool :=
  status ∈ [running, done, verifying]

def statusFor (statuses : List StepStatus) : PlanStatus :=
  if statuses = [] then .pending
  else if statuses.all (fun s => s ∈ [verified, skipped]) then
    if statuses.any (fun s => s = verified) then .completed else .failed
  else if statuses.any inFlight then .running
  else if statuses.any (fun s => s = failed) &&
      !statuses.any (fun s => s ∈ [running, done, verifying, pending]) &&
      !statuses.any (fun s => s = pending) then .failed
  else if statuses.any (fun s => s = failed) then .running
  else if statuses.all (fun s => s = pending) then .pending
  else .running

def recomputePlanStatus (plan : Plan) : Plan :=
  if plan.status = .aborted then plan
  else { plan with status := statusFor plan.statuses }

def abort (plan : Plan) (error : String) : Plan :=
  { plan with
    status := .aborted
    error := slice 2000 (orElse error "aborted") }

/-- Why a status change is refused, if it is. -/
def refusal (plan : Plan) (step : PlanStep) (toStatus : StepStatus)
    (allowSkip force : Bool) : Option PyError :=
  let illegal := fun reason =>
    some (PyError.illegalTransition step.id step.status toStatus.text reason)
  if toStatus = skipped ∧ !allowSkip ∧ !force then
    illegal "skip not allowed (allow_skip=False)"
  else if !force ∧ !isLegalTransition step.status toStatus then illegal ""
  else if toStatus = running ∧ !force ∧ unmetOf plan step ≠ [] then
    illegal ("unmet dependencies (not verified): " ++
      quotedList (unmetOf plan step))
  else if toStatus = running ∧ !force ∧ step.status ∉ [pending, failed] then
    illegal "only pending/failed may start"
  else if toStatus = verified ∧ step.status = done ∧ step.acceptance ≠ [] ∧
      !force then
    illegal "step has acceptance checks; use done → verifying first"
  else if toStatus = verifying ∧ step.status = done ∧ step.acceptance = [] ∧
      !force then
    illegal "no acceptance checks; use done → verified"
  else none

/-- The writes of a status change to the step. -/
def PlanStep.enter (toStatus : StepStatus) (error : String) (now : Rat)
    (step : PlanStep) : PlanStep :=
  { step with
    status := toStatus
    startedAt := if toStatus = running then now else step.startedAt
    error :=
      if toStatus = failed then
        slice 2000 (orElse error (orElse step.error "failed"))
      else if error ≠ "" then slice 2000 error
      else if toStatus ∈ [running, pending, verified, done, skipped] then ""
      else step.error }

/-- The plan after a status change. -/
def Plan.entered (plan : Plan) (stepId : String) (toStatus : StepStatus)
    (error : String) (now : Rat) : Plan :=
  recomputePlanStatus (plan.modifyStep stepId (PlanStep.enter toStatus error now))

/-- Apply a status change.  `now` is what `time.time()` returns. -/
def transition (stepId : String) (toStatus : StepStatus) (error : String)
    (allowSkip force : Bool) (now : Rat) :
    Mutation PyError Plan PlanStep := fun plan =>
  match plan.getStep stepId with
  | .error e => (.error e, plan)
  | .ok step =>
      match refusal plan step toStatus allowSkip force with
      | some e => (.error e, plan)
      | none =>
          (.ok (step.enter toStatus error now),
            plan.entered stepId toStatus error now)

/-- `transition` on a status text, which may name no status. -/
def transitionTo (stepId toStatus : String) (error : String)
    (allowSkip force : Bool) (now : Rat) :
    Mutation PyError Plan PlanStep := fun plan =>
  match plan.getStep stepId with
  | .error e => (.error e, plan)
  | .ok step =>
      match StepStatus.ofText? toStatus with
      | none =>
          (.error (.illegalTransition stepId step.status toStatus
            "unknown target status"), plan)
      | some status =>
          transition stepId status error allowSkip force now plan

/-- The evidence that `mark_execution_finished` writes. -/
def PlanStep.finish (output : String) (filesTouched : Option (List String))
    (step : PlanStep) : PlanStep :=
  { step with
    output := if output = "" then step.output else slice 50000 output
    filesTouched := filesTouched.getD step.filesTouched }

/-- `running → done` or `running → failed`, with the evidence written first. -/
def markExecutionFinished (stepId : String) (success : Bool)
    (error output : String) (filesTouched : Option (List String))
    (now : Rat) : Mutation PyError Plan PlanStep := do
  let plan ← Mutation.read
  let _ ← Mutation.lift (plan.getStep stepId)
  Mutation.update fun plan =>
    plan.modifyStep stepId (PlanStep.finish output filesTouched)
  if success then transition stepId done "" false false now
  else
    transition stepId failed (orElse error "execution failed") false false now

/-- From `done`: `verifying` if there are checks, else `verified`. -/
def advanceAfterDone (stepId : String) (now : Rat) :
    Mutation PyError Plan PlanStep := fun plan =>
  match plan.getStep stepId with
  | .error e => (.error e, plan)
  | .ok step =>
      let target := if step.acceptance = [] then verified else verifying
      if step.status ≠ done then
        (.error (.illegalTransition stepId step.status target.text
          "advance_after_done requires status=done"), plan)
      else transition stepId target "" false false now plan

/-- Build a plan and optionally validate its structure. -/
def createPlan (planId : String) (steps : List PlanStep)
    (taskId cwd task : String) (checked : Bool) : Except PyError Plan :=
  let plan : Plan := { planId, steps, taskId, cwd, task }
  if checked then
    match validate plan with
    | .error e => .error e
    | .ok () => .ok (recomputePlanStatus plan)
  else .ok plan

end Voly
