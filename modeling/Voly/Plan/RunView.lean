/-
What the store and the agents see of one plan run, and the protocol it keeps.
-/
import Voly.Plan.Runner
import Voly.Plan.Validate

namespace Voly

open Python Interaction StepStatus

def CallReply.success (reply : CallReply) : Bool :=
  (outcomeOf .chat reply).success

theorem outcomeOf_success (mode : StepMode) (reply : CallReply) :
    (outcomeOf mode reply).success = reply.success := by
  unfold CallReply.success outcomeOf
  cases reply.outcome with
  | error message => rfl
  | ok outcome => cases mode <;> rfl

namespace Exchange

/-- The start or the end of a call of the step. -/
def callOf (stepId : String) (exchange : Exchange) : Prop :=
  match exchange.op with
  | .callStart step _ _ => step.id = stepId
  | .callEnd other => other = stepId
  | _ => False

/-- The git status that the exchange read, if it read one. -/
def snapshot : Option Exchange → Dict String
  | some ⟨.git _, .ok status⟩ => status
  | _ => []

@[simp] theorem snapshot_none : snapshot none = [] := rfl

def showsAbort (exchange : Exchange) : Bool :=
  match exchange with
  | ⟨.load _, .ok (some plan)⟩ => plan.status = .aborted
  | _ => false

/-- Neither a save nor the start or the end of a call. -/
def silent (exchange : Exchange) : Prop :=
  match exchange.op with
  | .save _ => False
  | .callStart _ _ _ => False
  | .callEnd _ => False
  | _ => True

end Exchange

/-- The last call's step, its end, and the git status right before and after. -/
def LastCall (log : List Exchange) (stepId : String) (started : PlanStep)
    (reply : CallReply) (gitBefore gitAfter : Dict String) : Prop :=
  ∃ after within before plan instruction,
    log = after ++ ⟨.callEnd stepId, reply⟩ :: within ++
      ⟨.callStart started plan instruction, ()⟩ :: before ∧
    started.id = stepId ∧
    (∀ exchange ∈ after ++ within, ¬ exchange.callOf stepId) ∧
    gitBefore = Exchange.snapshot before.head? ∧
    gitAfter = Exchange.snapshot after.getLast?

/-- One attempt with the verification that followed it. -/
structure Evidence where
  started : PlanStep
  reply : CallReply
  gitBefore : Dict String
  gitAfter : Dict String
  ctx : VerifyContext
  evals : List (AcceptanceCheck × Surroundings)
  results : List VerifyResult

/-- The exchanges of a verification, latest first. -/
def inspections (ctx : VerifyContext)
    (evals : List (AcceptanceCheck × Surroundings)) : List Exchange :=
  (evals.map fun eval => ⟨.inspect eval.1 ctx, eval.2⟩).reverse

namespace Evidence

/-- What the attempt left: its output, the git status around it, and the files
reported, or else changed. -/
structure OfAttempt (evidence : Evidence) : Prop where
  success : evidence.reply.success = true
  output : evidence.ctx.output =
    slice 50000 (outcomeOf evidence.started.mode evidence.reply).output
  gitBefore : evidence.ctx.gitBefore = evidence.gitBefore
  gitAfter : evidence.ctx.gitAfter = evidence.gitAfter
  reported : (outcomeOf evidence.started.mode evidence.reply).files ≠ [] →
    evidence.ctx.filesTouched =
      (outcomeOf evidence.started.mode evidence.reply).files
  changed : (outcomeOf evidence.started.mode evidence.reply).files = [] →
    evidence.started.filesTouched = [] →
    evidence.ctx.filesTouched =
      sorted (changedPaths evidence.gitBefore evidence.gitAfter)

/-- Every check was evaluated and is ok, and the step keeps the verdicts. -/
structure Recorded (evidence : Evidence) (step : PlanStep) : Prop where
  checks : evidence.evals.map Prod.fst = evidence.started.acceptance
  evaluated : Evaluated evidence.ctx evidence.evals evidence.results
  passed : ∀ result ∈ evidence.results, result.ok = true
  logged : evidence.results ≠ [] →
    step.verifyLog = evidence.results.map VerifyResult.toDict
  output : step.output = evidence.ctx.output
  filesTouched : step.filesTouched = evidence.ctx.filesTouched

/-- For the step the log ends with this attempt and its verification. -/
def LastIn (evidence : Evidence) (log : List Exchange) (stepId : String) :
    Prop :=
  ∃ later earlier,
    log = later ++ inspections evidence.ctx evidence.evals ++ earlier ∧
    (∀ exchange ∈ later, ¬ exchange.callOf stepId) ∧
    LastCall earlier stepId evidence.started evidence.reply
      evidence.gitBefore evidence.gitAfter

end Evidence

/-- The step was verified by its last attempt. -/
def Passed (log : List Exchange) (step : PlanStep) : Prop :=
  ∃ evidence : Evidence, evidence.LastIn log step.id ∧ evidence.OfAttempt ∧
    evidence.Recorded step ∧ evidence.started.acceptance = step.acceptance

theorem Evidence.LastIn.cons {evidence : Evidence} {log : List Exchange}
    {stepId : String} (h : evidence.LastIn log stepId) {exchange : Exchange}
    (hother : ¬ exchange.callOf stepId) :
    evidence.LastIn (exchange :: log) stepId := by
  obtain ⟨later, earlier, hlog, hlater, hcall⟩ := h
  refine ⟨exchange :: later, earlier, by simp [hlog], ?_, hcall⟩
  intro e he
  rcases List.mem_cons.mp he with rfl | he
  · exact hother
  · exact hlater e he

theorem Passed.cons {log : List Exchange} {step : PlanStep}
    (h : Passed log step) {exchange : Exchange}
    (hother : ¬ exchange.callOf step.id) : Passed (exchange :: log) step := by
  obtain ⟨evidence, hlast, hrest⟩ := h
  exact ⟨evidence, hlast.cons hother, hrest⟩

/-- The call stays the last; the next exchange fixes its git status. -/
theorem LastCall.cons {log : List Exchange} {stepId : String}
    {started : PlanStep} {reply : CallReply} {gitBefore gitAfter : Dict String}
    (h : LastCall log stepId started reply gitBefore gitAfter)
    {exchange : Exchange} (hother : ¬ exchange.callOf stepId)
    (hgit : Exchange.snapshot (some exchange) = []) :
    LastCall (exchange :: log) stepId started reply gitBefore gitAfter := by
  obtain ⟨after, within, before, plan, instruction, hlog, hid, hquiet, hbefore,
    hafter⟩ := h
  refine ⟨exchange :: after, within, before, plan, instruction, by simp [hlog],
    hid, ?_, hbefore, ?_⟩
  · intro e he
    rcases List.mem_cons.mp he with rfl | he
    · exact hother
    · exact hquiet e he
  · cases after with
    | nil => simpa [hgit] using hafter
    | cons head tail => simpa using hafter

/-- The steps that `plan'` shows running and `plan` does not. -/
def claims (plan plan' : Plan) : List String :=
  (plan'.steps.filter fun step =>
    step.status = running ∧ plan.statusOf step.id ≠ some running).map
      PlanStep.id

/-- What was seen of a run so far. -/
structure RunView where
  /-- The plan as it was started or last shown. -/
  plan : Plan
  /-- The run has loaded a persisted abort. -/
  aborted : Bool := false
  /-- A save of the run has failed. -/
  broken : Bool := false
  /-- The run has saved its plan before. -/
  entered : Bool := false
  /-- The steps with a call in progress. -/
  live : List String := []
  /-- A call has started since the last save. -/
  opened : Bool := false
  /-- The steps that the run has claimed in a save. -/
  begun : List String := []
  /-- The steps with a call that ended without success. -/
  failed : List String := []
  log : List Exchange := []

namespace RunView

def next (view : RunView) (op : PlanOp) (reply : PlanReply op) : RunView :=
  let seen := { view with log := ⟨op, reply⟩ :: view.log }
  match op, reply with
  | .load planId, reply =>
      { seen with
        aborted := view.aborted ||
          Exchange.showsAbort ⟨.load planId, reply⟩ }
  | .save plan, reply =>
      { seen with
        plan, opened := false, entered := true
        broken := view.broken || !reply.isOk
        begun := claims view.plan plan ++ view.begun }
  | .callStart step plan _, _ =>
      { seen with plan, opened := true, live := view.live ++ [step.id] }
  | .callEnd stepId, reply =>
      { seen with
        live := view.live.erase stepId
        failed :=
          if reply.success then view.failed else stepId :: view.failed }
  | _, _ => seen

/-- The view after a log, latest first, of a run started on a plan. -/
def after (plan : Plan) (log : List Exchange) : RunView :=
  log.foldr (fun exchange view => view.next exchange.op exchange.reply)
    { plan }

end RunView

def PlanStep.gated (step : PlanStep) : Bool :=
  step.awaitsExternal || step.mode = .business

section Protocol

variable (config : RunnerConfig) (runMode : String) (view : RunView)

/-- The call ended without success, or it was a business step that was claimed.
-/
def RunView.SawFailure (stepId : String) (step : PlanStep) : Prop :=
  stepId ∈ view.failed ∨ step.mode = .business ∧ stepId ∈ view.begun

/-- How a run may come to verify a step. -/
inductive Opened (step : PlanStep) : Prop
  | passed (ungated : step.gated = false) (passed : Passed view.log step)
  | soft (ungated : step.gated = false) (mode : runMode = "shadow")
  | forced (policy : config.onFail = "continue")
      (failed : step.gated = true → view.SawFailure step.id step)

/-- The static part of a step. -/
structure SameShape (step step' : PlanStep) : Prop where
  id : step'.id = step.id
  mode : step'.mode = step.mode
  dependsOn : step'.dependsOn = step.dependsOn
  acceptance : step'.acceptance = step.acceptance

/-- What a run may do to a step between two points where it is seen. -/
structure Worked (plan : Plan) (step step' : PlanStep) : Prop where
  shape : SameShape step step'
  before : step.status ∈ [pending, failed, running]
  now : step'.status ∈ [running, done, verifying, failed, verified]
  gate : DepsVerified plan step' ∨
    step.status = running ∧ step'.status = failed
  claimed : step.status = running ∨ step'.status = running ∨
    step'.id ∈ view.begun
  opened : step'.status = verified → Opened config runMode view step'

/-- A run is aborted only after loading an abort, and stays so unless a save
fails. -/
structure AbortKnown (plan : Plan) : Prop where
  shown : plan.status = .aborted → view.aborted = true
  adopted : view.aborted = true → view.broken = true ∨ plan.status = .aborted

/-- What a run may have done to the plan since it was last seen. -/
structure Evolves (plan : Plan) : Prop where
  planId : plan.planId = view.plan.planId
  ids : plan.ids = view.plan.ids
  aborted : AbortKnown view plan
  steps : ∀ stepId step step', view.plan.getStep? stepId = some step →
    plan.getStep? stepId = some step' →
    step' = step ∨ Worked config runMode view plan step step'

/-- The step is running, was claimed before, and shares the run with chats only.
-/
structure MayCall (step : PlanStep) (plan : Plan) (instruction : String) :
    Prop where
  wellFormed : WellFormed plan
  evolves : Evolves config runMode view plan
  present : view.aborted = false
  found : plan.getStep? step.id = some step
  status : step.status = running
  mode : step.mode ≠ .business
  instruction : instruction = instructionFor plan step
  single : step.id ∉ view.live
  claimed : step.id ∈ view.begun
  together : ∀ other ∈ view.live, step.mode = .chat ∧
    ∃ otherStep, plan.getStep? other = some otherStep ∧ otherStep.mode = .chat

/-- The questions a run may ask. -/
def runProtocol : Protocol PlanOp PlanReply RunView where
  allows view op :=
    match op with
    | .load planId => planId = view.plan.planId ∧ view.entered = true
    | .save plan =>
        WellFormed plan ∧ Evolves config runMode view plan ∧ view.live = []
    | .callStart step plan instruction =>
        MayCall config runMode view step plan instruction
    | .callEnd stepId => stepId ∈ view.live
    | _ => True
  relies _ _ _ := True
  next := RunView.next

end Protocol

end Voly
