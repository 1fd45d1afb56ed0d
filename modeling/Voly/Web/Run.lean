/-
POST /api/run: the dispatch, the call in the thread pool, and the generator that
streams to the client.
-/
import Voly.Runtime.Records

namespace Voly.Web

open Python Interaction Voly.Runtime

inductive RunWorkflow
  | unset
  | reviewUntilClean
deriving DecidableEq, Repr

/-- The fields of a request that the dispatch and the calls read. -/
structure RunRequest where
  task : String
  executor : String := "pipeline"
  cwd : String := ""
  dryRun : Bool := false
  workflow : RunWorkflow := .unset
deriving DecidableEq, Repr

/-- What the dispatch looks up, unless that raises. -/
structure DispatchChecks where
  defaultCwd : String := ""
  projectCwd : String := ""
  found : Option (Bool × Bool) := none
deriving DecidableEq, Repr

/-- The request that is run, and the executor that the client is told. -/
def smartDispatch (req : RunRequest) (checks : DispatchChecks) :
    RunRequest × String :=
  match req.workflow with
  | .reviewUntilClean =>
      (req, if req.executor = "pipeline" then "claude-code" else req.executor)
  | .unset =>
      if req.executor = "pipeline" then
        let effectiveCwd :=
          orElse req.cwd (orElse checks.defaultCwd checks.projectCwd)
        match checks.found with
        | none => (req, req.executor)
        | some (true, _) => ({ req with cwd := effectiveCwd }, "pipeline")
        | some (false, true) =>
            ({ req with executor := "claude-code", cwd := effectiveCwd },
              "claude-code")
        | some (false, false) => (req, "pipeline")
      else (req, req.executor)

/-- `RunTracker.start`. -/
def trackerStart (now : Rat) (taskId task : String) (roles : List String)
    (planId : String := "") (graphNodes : List (Dict String) := [])
    (graphEdges : List (Dict String) := []) : Runtime.RunRecord where
  taskId := taskId
  task := slice 500 task
  startedAt := now
  heartbeatAt := now
  totalRoles := roles.length
  currentRole := roles.headD ""
  roles := roles
  planId := planId
  graphNodes := graphNodes
  graphEdges := graphEdges

def initialRoles (req : RunRequest) (told : String) : List String :=
  match req.workflow with
  | .reviewUntilClean => ["developer", "reviewer"]
  | .unset => [orElse told (orElse req.executor "pipeline")]

def prepareRun (now : Rat) (runId : String) (req : RunRequest)
    (checks : DispatchChecks) : RunRequest × Runtime.RunRecord :=
  let dispatched := smartDispatch req checks
  (dispatched.1,
    trackerStart now runId dispatched.1.task
      (initialRoles dispatched.1 dispatched.2) ""
      [[("id", "dispatch"), ("role", "dispatch"), ("status", "running")]])

/-- The call ends with a result, perhaps without a JSON form, or an exception.
-/
inductive CallOutcome
  | returned (success : Bool) (error : String) (encodes : Bool)
  | raised (error : String)
deriving DecidableEq, Repr

def statusOf (success : Bool) : RunStatus :=
  if success then .completed else .failed

def CallOutcome.earned : CallOutcome → RunStatus
  | .returned success _ _ => statusOf success
  | .raised _ => .failed

/-- A call of the tracker between its start and its finish. -/
inductive Progress
  | graphUpdate (node : Option (Dict String)) (edges : Option (List (Dict String)))
  | heartbeat (currentRole : String) (doneRoles : Nat)
      (stepStatuses : Option (List (Dict String)))
  | workflowUpdate (change : WorkflowChange)
deriving DecidableEq, Repr

def Progress.update : Progress → Update
  | .graphUpdate node edges => .graphUpdate node edges
  | .heartbeat currentRole doneRoles stepStatuses =>
      .heartbeat currentRole doneRoles stepStatuses
  | .workflowUpdate change => .workflowUpdate change

/-- What the call does to the record of the run. -/
inductive TrackerCall
  | start (task : String) (roles : List String) (planId : String)
      (graphNodes graphEdges : List (Dict String))
  | progress (call : Progress)
  | finish (status : RunStatus) (error : String)
      (stepStatuses : Option (List (Dict String)))
deriving DecidableEq, Repr

def TrackerCall.apply (now : Rat) (rec : Runtime.RunRecord) :
    TrackerCall → Runtime.RunRecord
  | .start task roles planId graphNodes graphEdges =>
      trackerStart now rec.taskId task roles planId graphNodes graphEdges
  | .progress call => call.update.apply now rec
  | .finish status error stepStatuses =>
      (Update.finish status error stepStatuses).apply now rec

/-- A chain of agents: its roles and plan, and its last status, unless it
raises. -/
structure Team where
  roles : List String
  planId : String := ""
  graphNodes : List (Dict String) := []
  graphEdges : List (Dict String) := []
  status : Option RunStatus := none
  stepStatuses : Option (List (Dict String)) := none
deriving DecidableEq, Repr

/-- How a call goes: its record, its notes, the chain of the pipeline, and its
end. -/
structure Conduct where
  tracked : Bool := false
  executor : String := "claude-code"
  team : Option Team := none
  progress : List Progress := []
  outcome : CallOutcome
deriving DecidableEq, Repr

structure WorkerCall where
  writes : List TrackerCall
  outcome : CallOutcome
deriving DecidableEq, Repr

/-- `_pipeline_run`: only a chain of agents tracks the run. -/
def pipelineRun (req : RunRequest) (conduct : Conduct) : WorkerCall where
  writes :=
    match conduct.tracked, conduct.team with
    | true, some team =>
        .start req.task team.roles team.planId team.graphNodes
            team.graphEdges ::
          (conduct.progress.map .progress ++
            (team.status.map fun status =>
              .finish status "" team.stepStatuses).toList)
    | _, _ => []
  outcome := conduct.outcome

def CallOutcome.finish : CallOutcome → List TrackerCall
  | .returned success error _ =>
      [.finish (statusOf success) (if success then "" else error) none]
  | .raised _ => []

def executorRun (req : RunRequest) (conduct : Conduct) : WorkerCall where
  writes :=
    if conduct.tracked then
      .start req.task [conduct.executor] "" [] [] ::
        (conduct.progress.map .progress ++ conduct.outcome.finish)
    else []
  outcome := conduct.outcome

/-- `_review_workflow_run`: a loop that returns has tracked the run. -/
def reviewWorkflowRun (req : RunRequest) (conduct : Conduct) : WorkerCall :=
  if req.dryRun then
    ⟨[], .raised "review-until-clean does not support dry_run"⟩
  else
    { writes :=
        match conduct.outcome, conduct.tracked with
        | .raised _, false => []
        | outcome, _ =>
            .start req.task ["developer", "reviewer"] "" [] [] ::
              (conduct.progress.map .progress ++ outcome.finish)
      outcome := conduct.outcome }

def launchRun (req : RunRequest) (conduct : Conduct) : WorkerCall :=
  match req.workflow with
  | .reviewUntilClean => reviewWorkflowRun req conduct
  | .unset =>
      if req.executor = "pipeline" then pipelineRun req conduct
      else executorRun req conduct

/-- At a yield, in `asyncio.wait`, or ended, with the call's end taken up or
not. -/
inductive Generator
  | starting
  | waiting
  | beating
  | done
  | failing
  | exhausted
  | abandoned
deriving DecidableEq, Repr

inductive Worker
  | idle
  | working (left : List TrackerCall)
  | finished
deriving DecidableEq, Repr

structure RunWorld where
  record : Runtime.RunRecord
  generator : Generator := .starting
  worker : Worker := .idle
deriving DecidableEq, Repr

/-- The client takes an event or is gone; the wait ends; the worker writes the
record, or finishes. -/
inductive WebEvent
  | resume
  | cancel
  | wake (disconnected : Bool) (now : Rat)
  | write (now : Rat)
  | finish
deriving DecidableEq, Repr

/-- The tracker's `finish`, with an error. -/
def RunRecord.closed (rec : Runtime.RunRecord) (now : Rat) (status : RunStatus)
    (error : String) : Runtime.RunRecord :=
  (Update.finish status error none).apply now rec

/-- `finish_run` and the event of the result; what raises there closes the
record as failed. -/
def RunWorld.takeUp (world : RunWorld) (now : Rat) : CallOutcome → RunWorld
  | .returned success error encodes =>
      let record := RunRecord.closed world.record now (statusOf success) error
      if encodes then { world with record, generator := .done }
      else
        { world with
          record := RunRecord.closed record now .failed
            "Object is not JSON serializable"
          generator := .failing }
  | .raised error =>
      { world with
        record := RunRecord.closed world.record now .failed error
        generator := .failing }

/-- One event of `run_task`. -/
def webStep (call : WorkerCall) (world : RunWorld) :
    WebEvent → Option RunWorld
  | .resume =>
      match world.generator with
      | .starting =>
          some { world with
            generator := .waiting, worker := .working call.writes }
      | .beating => some { world with generator := .waiting }
      | .done | .failing => some { world with generator := .exhausted }
      | .waiting | .exhausted | .abandoned => none
  | .cancel =>
      match world.generator with
      | .starting | .waiting | .beating =>
          some { world with generator := .abandoned }
      | .done | .failing => some { world with generator := .exhausted }
      | .exhausted | .abandoned => none
  | .wake disconnected now =>
      match world.generator, world.worker with
      | .waiting, .finished => some (world.takeUp now call.outcome)
      | .waiting, _ =>
          if disconnected then some { world with generator := .abandoned }
          else some { world with generator := .beating }
      | _, _ => none
  | .write now =>
      match world.worker with
      | .working (write :: left) =>
          some { world with
            record := write.apply now world.record, worker := .working left }
      | _ => none
  | .finish =>
      match world.worker with
      | .working [] => some { world with worker := .finished }
      | _ => none

def Generator.ended : Generator → Bool
  | .exhausted | .abandoned => true
  | .starting | .waiting | .beating | .done | .failing => false

end Voly.Web
