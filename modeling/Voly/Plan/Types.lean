/-
Plan documents: statuses, checks, steps and plans, the legal status changes, and
the exceptions.
-/
import Voly.Python.Json

namespace Voly

open Python

inductive StepStatus where
  | pending | running | done | verifying | verified | failed | skipped
deriving DecidableEq, Repr

namespace StepStatus

def text : StepStatus → String
  | pending => "pending"
  | running => "running"
  | done => "done"
  | verifying => "verifying"
  | verified => "verified"
  | failed => "failed"
  | skipped => "skipped"

/-- The member of `STEP_STATUSES` that a status text names. -/
def ofText? (s : String) : Option StepStatus :=
  [pending, running, done, verifying, verified, failed, skipped].find?
    fun status => status.text = s

end StepStatus

/-- The (from, to) pairs allowed by the engine.  Gate logic is separate. -/
def legalTransitions : List (StepStatus × StepStatus) :=
  [(.pending, .running), (.pending, .skipped),
    (.running, .done), (.running, .failed),
    (.done, .verifying), (.done, .verified),
    (.verifying, .verified), (.verifying, .failed),
    (.failed, .running), (.failed, .skipped), (.failed, .pending)]

def isLegalTransition (fromStatus toStatus : StepStatus) : Bool :=
  (fromStatus, toStatus) ∈ legalTransitions

inductive PlanStatus where
  | pending | running | completed | failed | aborted
deriving DecidableEq, Repr

inductive StepMode where
  | chat | executor | business
deriving DecidableEq, Repr

def StepMode.text : StepMode → String
  | .chat => "chat"
  | .executor => "executor"
  | .business => "business"

/-- What a call of the plan subsystem raises. -/
inductive PyError where
  | illegalTransition (stepId : String) (fromStatus : StepStatus)
      (toStatus : String) (reason : String)
  | validation (message : String)
  | approval (message : String)
  | conflict (message : String)
  | value (message : String)
  | fileNotFound (planId : String)
  | other (message : String)
deriving DecidableEq, Repr

/-- `str(exc)`. -/
def PyError.text : PyError → String
  | .illegalTransition stepId fromStatus toStatus reason =>
      let message := "illegal transition step=" ++ quoted stepId ++ ": " ++
        quoted fromStatus.text ++ " → " ++ quoted toStatus
      if reason = "" then message else message ++ " (" ++ reason ++ ")"
  | .validation message => message
  | .approval message => message
  | .conflict message => message
  | .value message => message
  | .fileNotFound planId => planId
  | .other message => message

structure AcceptanceCheck where
  type : String
  paths : List String := []
  run : String := ""
  expectExit : Int := 0
  pattern : String := ""
  maxLines : Int := 0
  approvedMaxLines : Int := 0
  excludePatterns : List String := []
deriving DecidableEq, Repr

structure PlanStep where
  id : String
  role : String := "developer"
  mode : StepMode := .chat
  status : StepStatus := .pending
  dependsOn : List String := []
  acceptance : List AcceptanceCheck := []
  task : String := ""
  successCriteria : String := ""
  error : String := ""
  output : String := ""
  verifyLog : List (Dict Json) := []
  filesTouched : List String := []
  executor : String := ""
  model : String := ""
  provider : String := ""
  tier : String := ""
  costUsd : Rat := 0
  durationMs : Rat := 0
  startedAt : Rat := 0

def schemaVersion : Int := 1

structure Plan where
  planId : String
  taskId : String := ""
  cwd : String := ""
  status : PlanStatus := .pending
  schemaVersion : Int := Voly.schemaVersion
  steps : List PlanStep := []
  task : String := ""
  createdAt : Rat := 0
  updatedAt : Rat := 0
  error : String := ""
  metadata : Dict Json := []

namespace Plan

def getStep? (plan : Plan) (stepId : String) : Option PlanStep :=
  plan.steps.find? fun step => step.id = stepId

/-- `get_step` as called, raising on an unknown id. -/
def getStep (plan : Plan) (stepId : String) : Except PyError PlanStep :=
  match plan.getStep? stepId with
  | some step => .ok step
  | none => .error (.validation ("unknown step id: " ++ quoted stepId))

/-- `step_map().get(id)`: of several steps with one id the last is kept. -/
def stepMap? (plan : Plan) (stepId : String) : Option PlanStep :=
  plan.steps.reverse.find? fun step => step.id = stepId

/-- Write to the step object that `get_step` returns. -/
def modifySteps (stepId : String) (f : PlanStep → PlanStep) :
    List PlanStep → List PlanStep
  | [] => []
  | step :: rest =>
      if step.id = stepId then f step :: rest
      else step :: modifySteps stepId f rest

def modifyStep (plan : Plan) (stepId : String) (f : PlanStep → PlanStep) :
    Plan :=
  { plan with steps := modifySteps stepId f plan.steps }

def ids (plan : Plan) : List String := plan.steps.map PlanStep.id

def statuses (plan : Plan) : List StepStatus := plan.steps.map PlanStep.status

/-- The status of a step, if the plan has it. -/
def statusOf (plan : Plan) (stepId : String) : Option StepStatus :=
  (plan.getStep? stepId).map PlanStep.status

variable (plan : Plan) {stepId : String}

section

variable {step : PlanStep} (h : plan.getStep? stepId = some step)
include h

theorem getStep?_id : step.id = stepId := by
  have := List.find?_some h
  simpa using this

theorem getStep?_mem : step ∈ plan.steps :=
  List.mem_of_find?_eq_some h

theorem getStep_ok :
    plan.getStep stepId = .ok step := by
  rw [getStep, h]

end

theorem getStep_eq_ok {step : PlanStep}
    (h : plan.getStep stepId = .ok step) :
    plan.getStep? stepId = some step := by
  rw [getStep] at h
  split at h
  case h_1 found heq => rw [heq, Except.ok.inj h]
  case h_2 => cases h

theorem getStep_error {e : PyError} (h : plan.getStep stepId = .error e) :
    plan.getStep? stepId = none := by
  rw [getStep] at h
  split at h
  case h_1 => cases h
  case h_2 heq => exact heq

theorem exists_getStep? (h : stepId ∈ plan.ids) :
    ∃ step, plan.getStep? stepId = some step := by
  obtain ⟨step, hstep, rfl⟩ := List.mem_map.mp h
  have hsome : (plan.getStep? step.id).isSome := by
    rw [getStep?, List.find?_isSome]
    exact ⟨step, hstep, by simp⟩
  exact Option.isSome_iff_exists.mp hsome

theorem getStep?_of_mem (hnodup : plan.ids.Nodup) {step : PlanStep}
    (h : step ∈ plan.steps) : plan.getStep? step.id = some step := by
  unfold ids at hnodup
  unfold getStep?
  generalize plan.steps = steps at hnodup h
  induction steps with
  | nil => cases h
  | cons head tail ih =>
      simp only [List.map_cons, List.nodup_cons] at hnodup
      rcases List.mem_cons.mp h with rfl | htail
      · simp
      · have hne : head.id ≠ step.id := by
          intro heq
          apply hnodup.1
          rw [heq]
          exact List.mem_map_of_mem htail
        simp [hne, ih hnodup.2 htail]

theorem statuses_eq (hnodup : plan.ids.Nodup) :
    plan.statuses.map some = plan.ids.map plan.statusOf := by
  unfold statuses ids
  rw [List.map_map, List.map_map]
  apply List.map_congr_left
  intro step hstep
  simp [statusOf, plan.getStep?_of_mem hnodup hstep]

theorem stepMap?_eq_getStep? (hnodup : plan.ids.Nodup) :
    plan.stepMap? stepId = plan.getStep? stepId := by
  cases hget : plan.getStep? stepId with
  | none =>
      rw [stepMap?, List.find?_eq_none]
      rw [getStep?, List.find?_eq_none] at hget
      intro step hstep
      exact hget step (List.mem_reverse.mp hstep)
  | some step =>
      have hmem := plan.getStep?_mem hget
      have hsome : (plan.stepMap? stepId).isSome := by
        rw [stepMap?, List.find?_isSome]
        exact ⟨step, List.mem_reverse.mpr hmem,
          by simpa using plan.getStep?_id hget⟩
      obtain ⟨found, hfound⟩ := Option.isSome_iff_exists.mp hsome
      have hfmem : found ∈ plan.steps :=
        List.mem_reverse.mp (List.mem_of_find?_eq_some hfound)
      have hfid : found.id = stepId := by
        simpa using List.find?_some hfound
      have := plan.getStep?_of_mem hnodup hfmem
      rw [hfid, hget] at this
      rw [hfound, ← Option.some.inj this]

section

variable (f : PlanStep → PlanStep) (hf : ∀ step, (f step).id = step.id)
include hf

@[simp] theorem ids_modifyStep :
    (plan.modifyStep stepId f).ids = plan.ids := by
  simp only [ids, modifyStep]
  induction plan.steps with
  | nil => rfl
  | cons head tail ih =>
      rw [modifySteps]
      split
      · simp [hf]
      · simp [ih]

theorem getStep?_modifyStep (other : String) :
    (plan.modifyStep stepId f).getStep? other =
      if other = stepId then (plan.getStep? other).map f
      else plan.getStep? other := by
  simp only [getStep?, modifyStep]
  induction plan.steps with
  | nil => simp [modifySteps]
  | cons head tail ih =>
      rw [modifySteps]
      by_cases hh : head.id = stepId
      · by_cases ho : other = stepId
        · simp [hh, ho, hf]
        · simp [hh, ho, hf, Ne.symm ho]
      · by_cases ho : other = stepId
        · subst ho
          simp [hh, ih]
        · by_cases hho : head.id = other
          · simp [hho, ho]
          · simp [hh, hho, ih, ho]

theorem modifyStep_getStep?_self {step : PlanStep}
    (h : plan.getStep? stepId = some step) :
    (plan.modifyStep stepId f).getStep? stepId = some (f step) := by
  rw [plan.getStep?_modifyStep f hf, if_pos rfl, h]
  rfl

end

end Plan

end Voly
