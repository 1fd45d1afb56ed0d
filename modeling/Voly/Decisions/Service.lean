/-
The decision service: business decisions over the plan state machine.
-/
import Voly.Plan.Verify
import Voly.Plan.Document
import Voly.Interaction.Coupling

namespace Voly

open Python Interaction StepStatus

structure ServiceConfig where
  learningEnabled : Bool := false

/-- What the service reads of a result; the `action_report` may raise. -/
structure ActionResult where
  success : Bool
  error : String := ""
  report : Except PyError (Dict Json) := .ok []

/-- The effects of the decision service. -/
inductive DecisionOp where
  | plan (op : PlanOp)
  | buildExecutor (kind : String)
  | runExecutor (payload : Dict Json)
  | learn (plan : Plan)
  | emitTaskEvent (plan : Plan)
  | saveEvidence (plan : Plan) (result : ActionResult)

@[reducible] def DecisionReply : DecisionOp → Type
  | .plan op => PlanReply op
  | .buildExecutor _ => Except PyError Unit
  | .runExecutor _ => Except PyError ActionResult
  | .learn _ => Except PyError Unit
  | .emitTaskEvent _ => Except PyError Unit
  | .saveEvidence _ _ => Except PyError Unit

abbrev DecisionScript := Script DecisionOp DecisionReply Plan PyError

def onPlanOps {A : Type} (x : PlanScript A) : DecisionScript A :=
  fun s => (x s).embed DecisionOp.plan fun _ r => r

def loadDecision (planId : String) :
    Prog DecisionOp DecisionReply (Except PyError (Option Plan) × Unit) :=
  (storeLoad planId ()).embed DecisionOp.plan fun _ r => r

/-- `str(plan.metadata.get("decision") or "pending")`. -/
def Plan.decision (plan : Plan) : String :=
  Json.text (plan.metadata.get? "decision") "pending"

/-- `str(plan.metadata.get("execution") or "pending")`. -/
def Plan.execution (plan : Plan) : String :=
  Json.text (plan.metadata.get? "execution") "pending"

/-- `dict(metadata.get(key) or {})` of a value that is an object if any. -/
def Dict.object (d : Dict Json) (key : String) : Dict Json :=
  match d.truthy? key with
  | some (.obj items) => items
  | _ => []

/-- `plan.metadata.get("kind") != "business_decision"`. -/
def Plan.isBusinessDecision (plan : Plan) : Bool :=
  Json.text (plan.metadata.get? "kind") "" = "business_decision"

def Plan.note (plan : Plan) (key : String) (value : Json) : Plan :=
  { plan with metadata := plan.metadata.set key value }

namespace DecisionService

structure DecisionResult where
  plan : Plan
  decision : String
  changed : Bool

def learn (config : Option ServiceConfig) : DecisionScript Unit := do
  let plan ← Script.read
  if config.any fun config => config.learningEnabled then
    Script.askOk (DecisionOp.learn plan) id
  else pure ()

def emitTaskEvent : DecisionScript Unit := do
  let plan ← Script.read
  Script.askOk (DecisionOp.emitTaskEvent plan) id

def saveEvidence (result : ActionResult) : DecisionScript Unit := do
  let plan ← Script.read
  Script.askOk (DecisionOp.saveEvidence plan result) id

def desiredDecision (decision : String) : String :=
  if decision = "approve" then "approved" else "rejected"

def recordDecision (decision comment : String) (now : Rat) (plan : Plan) :
    Plan :=
  ((plan.note "decision" (.str (desiredDecision decision))).note
    "decision_comment" (.str (slice 2000 comment))).note "decided_at" (.num now)

def takeDecision (decision comment : String) : PlanScript Unit := do
  let step ← getStep "approve-option"
  let _ ← enterStatus step.id (if decision = "approve" then verified else failed)
    (if decision = "reject" then "rejected by human" else "") false
  let now ← Script.ask PlanOp.time
  Script.update (recordDecision decision comment now)
  Script.update fun plan =>
    if decision = "reject" then { plan with status := .failed } else plan
  storeSave

def decideLoaded (config : Option ServiceConfig) (decision comment : String) :
    DecisionScript DecisionResult := do
  let plan ← Script.read
  if plan.decision = desiredDecision decision then
    pure ⟨plan, desiredDecision decision, false⟩
  else if plan.decision ≠ "pending" then
    Script.raise (.conflict ("decision already recorded as " ++ plan.decision))
  else do
    onPlanOps (takeDecision decision comment)
    learn config
    if decision = "reject" ∧ config.isSome then emitTaskEvent else pure ()
    let plan ← Script.read
    pure ⟨plan, desiredDecision decision, true⟩

def decide (config : Option ServiceConfig) (planId decision comment : String) :
    Prog DecisionOp DecisionReply (Except PyError DecisionResult) :=
  if decision ∉ ["approve", "reject"] then
    .done (.error (.value "decision must be approve or reject"))
  else
    (loadDecision planId).bind fun out =>
      match out.1 with
      | .error e => .done (.error e)
      | .ok none => .done (.error (.fileNotFound planId))
      | .ok (some plan) =>
          if plan.isBusinessDecision then
            (decideLoaded config decision comment plan).bind fun out =>
              .done out.1
          else .done (.error (.fileNotFound planId))

/-- The action with its kind, if the kind is a known one. -/
def actionSpec (plan : Plan) : Except PyError (String × Dict Json) :=
  let action := Dict.object plan.metadata "action_spec"
  let kind := Json.text (action.get? "kind") ""
  if kind ∈ ["http_call", "notify"] then .ok (kind, action.erase "kind")
  else
    .error (.value "approved action_spec.kind must be http_call or notify")

def claimAction : PlanScript Unit := do
  let step ← getStep "execute-action"
  let _ ← enterStatus step.id running "" false
  Script.update fun plan => plan.note "execution" (.str "running")
  storeSave

/-- The status changes and the state that the action's result calls for. -/
def finishAction (result : ActionResult) : PlanScript Unit := do
  if result.success then do
    let _ ← enterStatus "execute-action" done "" false
    let _ ← enterStatus "execute-action" verifying "" false
    let _ ← enterStatus "execute-action" verified "" false
    Script.update fun plan =>
      ({ plan with status := .completed } : Plan).note "execution"
        (.str "completed")
  else do
    let _ ← enterStatus "execute-action" failed result.error false
    Script.update fun plan =>
      ({ plan with status := .failed } : Plan).note "execution"
        (.str "failed")

def recordAction (result : ActionResult) : PlanScript Unit := do
  finishAction result
  let now ← Script.ask PlanOp.time
  Script.update fun plan => plan.note "executed_at" (.num now)
  let report ← Script.run fun plan => (result.report, plan)
  Script.update fun plan => plan.note "action_report" (.obj report)
  storeSave

/-- `execute` from the claim on. -/
def performAction (config : Option ServiceConfig) (given : Bool)
    (kind : String) (payload : Dict Json) : DecisionScript Plan := do
  onPlanOps claimAction
  if given then pure ()
  else Script.askOk (DecisionOp.buildExecutor kind) id
  let result ← Script.askOk (DecisionOp.runExecutor payload) id
  onPlanOps (recordAction result)
  if config.isSome then do
    saveEvidence result
    emitTaskEvent
  else pure ()
  learn config
  Script.read

/-- `execute` from the loaded plan on; `given` says whether the caller passes
an executor. -/
def executeLoaded (config : Option ServiceConfig) (given : Bool) :
    DecisionScript Plan := do
  let plan ← Script.read
  if plan.decision ≠ "approved" then
    Script.raise (.conflict "decision must be approved before execution")
  else if plan.execution = "completed" then pure plan
  else if plan.execution ≠ "pending" then
    Script.raise (.conflict ("action execution already " ++ plan.execution))
  else do
    let action ← Script.run fun plan => (actionSpec plan, plan)
    if config.isNone ∧ given = false then
      Script.raise (.value "business executor config is required")
    else performAction config given action.1 action.2

def execute (config : Option ServiceConfig) (planId : String) (given : Bool) :
    Prog DecisionOp DecisionReply (Except PyError Plan) :=
  (loadDecision planId).bind fun out =>
    match out.1 with
    | .error e => .done (.error e)
    | .ok none => .done (.error (.fileNotFound planId))
    | .ok (some plan) =>
        if plan.isBusinessDecision then
          (executeLoaded config given plan).bind fun out => .done out.1
        else .done (.error (.fileNotFound planId))

end DecisionService

end Voly
