/-
What the engine's status changes do to a plan: the inversion of `transition` and
its effects.
-/
import Voly.Plan.Engine

namespace Voly

open Python StepStatus

section Recompute

variable (plan : Plan)

@[simp] theorem recomputePlanStatus_steps :
    (recomputePlanStatus plan).steps = plan.steps := by
  unfold recomputePlanStatus
  split <;> rfl

@[simp] theorem recomputePlanStatus_planId :
    (recomputePlanStatus plan).planId = plan.planId := by
  unfold recomputePlanStatus
  split <;> rfl

@[simp] theorem recomputePlanStatus_cwd :
    (recomputePlanStatus plan).cwd = plan.cwd := by
  unfold recomputePlanStatus
  split <;> rfl

@[simp] theorem recomputePlanStatus_ids :
    (recomputePlanStatus plan).ids = plan.ids := by
  simp [Plan.ids]

@[simp] theorem recomputePlanStatus_getStep? (stepId : String) :
    (recomputePlanStatus plan).getStep? stepId = plan.getStep? stepId := by
  simp [Plan.getStep?]

theorem statusFor_ne_aborted (statuses : List StepStatus) :
    statusFor statuses ≠ .aborted := by
  unfold statusFor
  repeat' split
  all_goals decide

@[simp] theorem recomputePlanStatus_aborted :
    (recomputePlanStatus plan).status = .aborted ↔ plan.status = .aborted := by
  unfold recomputePlanStatus
  split
  · exact Iff.rfl
  · rename_i h
    simp [h, statusFor_ne_aborted]

theorem recomputePlanStatus_status : (recomputePlanStatus plan).status =
    if plan.status = .aborted then .aborted
    else statusFor plan.statuses := by
  unfold recomputePlanStatus
  split
  case isTrue habort => exact habort
  case isFalse => rfl

def StatusCurrent (plan : Plan) : Prop :=
  plan.status = .aborted ∨ plan.status = statusFor plan.statuses

theorem recomputePlanStatus_current :
    StatusCurrent (recomputePlanStatus plan) := by
  unfold StatusCurrent
  unfold recomputePlanStatus
  split
  · exact Or.inl ‹_›
  · exact Or.inr rfl

end Recompute

/-- Every dependency of the step is `verified` in the plan. -/
def DepsVerified (plan : Plan) (step : PlanStep) : Prop :=
  ∀ dep ∈ step.dependsOn, plan.statusOf dep = some verified

theorem unmetOf_eq_nil {plan : Plan} (hnodup : plan.ids.Nodup)
    (step : PlanStep) : unmetOf plan step = [] ↔ DepsVerified plan step := by
  unfold unmetOf DepsVerified
  rw [List.filter_eq_nil_iff]
  refine forall₂_congr fun dep _ => ?_
  rw [plan.stepMap?_eq_getStep? hnodup, Plan.statusOf]
  cases plan.getStep? dep with
  | none => simp
  | some depStep => simp

/-- What a status change that is not forced guarantees. -/
structure Admits (plan : Plan) (step : PlanStep) (toStatus : StepStatus) :
    Prop where
  legal : isLegalTransition step.status toStatus = true
  gate : toStatus = running → unmetOf plan step = []
  auto : toStatus = verified → step.status = done → step.acceptance = []
  checked : toStatus = verifying → step.status = done → step.acceptance ≠ []

section

variable {plan : Plan} {step : PlanStep} {toStatus : StepStatus}
  {allowSkip : Bool}

theorem admits_of_refusal
    (h : refusal plan step toStatus allowSkip false = none) :
    Admits plan step toStatus := by
  unfold refusal at h
  simp only [Bool.not_false, true_and, and_true] at h
  split at h
  case isTrue => cases h
  case isFalse =>
    split at h
    case isTrue => cases h
    case isFalse hlegal =>
      split at h
      case isTrue => cases h
      case isFalse hgate =>
        split at h
        case isTrue => cases h
        case isFalse =>
          split at h
          case isTrue => cases h
          case isFalse hauto =>
            split at h
            case isTrue => cases h
            case isFalse hchecked =>
              refine ⟨by simpa using hlegal, ?_, ?_, ?_⟩
              · intro hto
                by_contra hunmet
                exact hgate ⟨hto, hunmet⟩
              · intro hto hdone
                by_contra hacc
                exact hauto ⟨hto, hdone, hacc⟩
              · intro hto hdone hacc
                exact hchecked ⟨hto, hdone, hacc⟩

theorem refusal_of_admits (h : Admits plan step toStatus)
    (hskip : toStatus ≠ skipped) :
    refusal plan step toStatus allowSkip false = none := by
  have hstart : toStatus = running → step.status ∈ [pending, failed] := by
    intro hto
    have hlegal := h.legal
    subst hto
    revert hlegal
    cases step.status <;> decide
  unfold refusal
  simp only [Bool.not_false, true_and, and_true]
  rw [if_neg (fun hc => hskip hc.1), if_neg (by simp [h.legal]),
    if_neg (fun hc => hc.2 (h.gate hc.1)),
    if_neg (fun hc => hc.2 (hstart hc.1)),
    if_neg (fun hc => hc.2.2 (h.auto hc.1 hc.2.1)),
    if_neg (fun hc => h.checked hc.1 hc.2.1 hc.2.2)]

end

namespace Admits

variable {plan : Plan} {step : PlanStep} {toStatus : StepStatus}

theorem from_ne_verified (h : Admits plan step toStatus) :
    step.status ≠ verified := by
  intro hfrom
  have hlegal := h.legal
  rw [hfrom] at hlegal
  revert hlegal
  cases toStatus <;> decide

/-- `done`, `verifying` and `verified` are entered from a started step. -/
theorem from_started (h : Admits plan step toStatus)
    (hto : toStatus ∈ [done, verifying, verified]) :
    step.status ∈ [running, done, verifying] := by
  have hlegal := h.legal
  revert hlegal hto
  cases toStatus <;> cases step.status <;> decide

theorem to_verified (h : Admits plan step verified) :
    step.status = verifying ∨ step.status = done ∧ step.acceptance = [] := by
  have hlegal := h.legal
  have hauto := h.auto rfl
  cases hstatus : step.status with
  | verifying => exact Or.inl rfl
  | done => exact Or.inr ⟨rfl, hauto hstatus⟩
  | pending | running | verified | failed | skipped =>
      rw [hstatus] at hlegal
      exact absurd hlegal (by decide)

end Admits

section Enter

variable (toStatus : StepStatus) (error : String) (now : Rat)
  (step : PlanStep)

@[simp] theorem enter_id : (step.enter toStatus error now).id = step.id := rfl

@[simp] theorem enter_status :
    (step.enter toStatus error now).status = toStatus := rfl

end Enter

section Entered

variable (plan : Plan) (stepId : String) (toStatus : StepStatus)
  (error : String) (now : Rat)

@[simp] theorem entered_planId :
    (plan.entered stepId toStatus error now).planId = plan.planId := by
  simp [Plan.entered, Plan.modifyStep]

@[simp] theorem entered_cwd :
    (plan.entered stepId toStatus error now).cwd = plan.cwd := by
  simp [Plan.entered, Plan.modifyStep]

@[simp] theorem entered_ids :
    (plan.entered stepId toStatus error now).ids = plan.ids := by
  simp only [Plan.entered, recomputePlanStatus_ids]
  exact plan.ids_modifyStep _ (enter_id toStatus error now)

theorem entered_getStep? (other : String) :
    (plan.entered stepId toStatus error now).getStep? other =
      if other = stepId then
        (plan.getStep? other).map (PlanStep.enter toStatus error now)
      else plan.getStep? other := by
  simp only [Plan.entered, recomputePlanStatus_getStep?]
  exact plan.getStep?_modifyStep _ (enter_id toStatus error now) other

theorem entered_current :
    StatusCurrent (plan.entered stepId toStatus error now) :=
  recomputePlanStatus_current _

end Entered

/-- `transition` raises and changes nothing, or the step enters the status. -/
theorem transition_cases (stepId : String) (toStatus : StepStatus)
    (error : String) (allowSkip force : Bool) (now : Rat) (plan : Plan) :
    (∃ e, transition stepId toStatus error allowSkip force now plan =
        (.error e, plan)) ∨
      ∃ step, plan.getStep? stepId = some step ∧
        refusal plan step toStatus allowSkip force = none ∧
        transition stepId toStatus error allowSkip force now plan =
          (.ok (step.enter toStatus error now),
            plan.entered stepId toStatus error now) := by
  unfold transition
  cases hget : plan.getStep stepId with
  | error e => exact Or.inl ⟨e, rfl⟩
  | ok step =>
      simp only
      split
      case h_1 e _ => exact Or.inl ⟨e, rfl⟩
      case h_2 hnone =>
        exact Or.inr ⟨step, plan.getStep_eq_ok hget, hnone, rfl⟩

section

variable {plan : Plan} {stepId : String} {step : PlanStep}

theorem markExecutionFinished_eq (hget : plan.getStep? stepId = some step)
    (error output : String) (files : Option (List String)) (now : Rat) :
    markExecutionFinished stepId true error output files now plan =
      transition stepId done "" false false now
        (plan.modifyStep stepId (PlanStep.finish output files)) := by
  unfold markExecutionFinished
  simp only [Mutation.bind_apply, Mutation.read_apply, Mutation.lift_apply,
    plan.getStep_ok hget, Mutation.update_apply, if_true]

theorem advanceAfterDone_eq (hget : plan.getStep? stepId = some step)
    (hdone : step.status = done) (now : Rat) :
    advanceAfterDone stepId now plan =
      transition stepId
        (if step.acceptance = [] then verified else verifying) "" false false
        now plan := by
  unfold advanceAfterDone
  rw [plan.getStep_ok hget]
  simp only [hdone, ne_eq, not_true_eq_false, if_false]

theorem transition_of_admits {toStatus : StepStatus}
    (hget : plan.getStep? stepId = some step) (h : Admits plan step toStatus)
    (hskip : toStatus ≠ skipped) (error : String) (now : Rat) :
    transition stepId toStatus error false false now plan =
      (.ok (step.enter toStatus error now),
        plan.entered stepId toStatus error now) := by
  unfold transition
  rw [plan.getStep_ok hget]
  simp only [refusal_of_admits h hskip]

end

end Voly
