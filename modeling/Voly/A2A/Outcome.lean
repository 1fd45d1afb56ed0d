/-
How a multi-agent run ended: which roles count, the three outcomes, and the end
of a role's step.
-/
import Voly.A2A.Tandem

namespace Voly.A2A

open Python Interaction StepStatus

def assignmentActive (a : Assignment) : Bool :=
  if a.planStatus ∈ ["skipped", "blocked"] then false
  else if startsWith a.error "skipped:" then false
  else true

def implementRoles : List String := ["developer", "bugfixer"]

/-- The telemetry status of a run; `partly` is the status "partial". -/
inductive Outcome where
  | completed | partly | failed
deriving DecidableEq

/-- `(pipeline_success, telemetry_status)`.  A run that requires code is not
completed without an implementing role that wrote some. -/
def evaluateMultiagentOutcome (assignments : List Assignment)
    (requiresCodeGen : Bool) : Bool × Outcome :=
  if assignments = [] then (false, .failed)
  else
    let active := assignments.filter assignmentActive
    if active = [] then (false, .failed)
    else if !(active.any fun a => a.ok) then (false, .failed)
    else
      let impl := assignments.filter fun a =>
        a.mode = "executor" || a.role ∈ implementRoles
      if requiresCodeGen ∧ impl ≠ [] ∧ !impl.any implHasCode then
        (false, .partly)
      else if active.all fun a => a.ok then (true, .completed)
      else (false, .partly)

theorem active_of_completed {assignments : List Assignment}
    {requiresCodeGen : Bool}
    (h : (evaluateMultiagentOutcome assignments requiresCodeGen).2 =
      .completed) {a : Assignment} (ha : a ∈ assignments)
    (hactive : assignmentActive a = true) : a.ok = true := by
  unfold evaluateMultiagentOutcome at h
  dsimp only at h
  split_ifs at h with _ _ _ _ hall
  exact List.all_eq_true.mp hall a (List.mem_filter.mpr ⟨ha, hactive⟩)

theorem active_of_clear {a : Assignment} (hclear : a.Clear)
    (herror : Unmasked a.error) : assignmentActive a = true := by
  have hstatus : a.planStatus ∉ ["skipped", "blocked"] := by
    intro hin
    apply hclear
    simp only [List.mem_cons, List.not_mem_nil, or_false] at hin ⊢
    exact hin.symm
  unfold assignmentActive
  rw [if_neg hstatus, herror]
  rfl

/-- What a finished role takes over from its step. -/
structure Concluded (clean : Prop) (a : Assignment) (step : PlanStep)
    (b : Assignment) : Prop where
  idx : b.idx = a.idx
  clear : b.Clear
  error : clean → Unmasked b.error
  verified : b.ok = true → step.status = verified

section StepEnd

variable {calm clean : Prop} {config : RunConfig} {cfg : PlanConfig}
  {plan : Plan} {step : PlanStep} {a : Assignment} {planMode : String}
  {priors : List Assignment} {gitBefore : Dict String}

theorem sync_error (h : clean → Unmasked a.error)
    (hstep : clean → Unmasked step.error) :
    clean → Unmasked (syncAssignmentPlanFields a step).error :=
  fun hclean => unmasked_orElse (h hclean) (hstep hclean)

theorem ended_clear {status : StepStatus} (h : status ∈ [verified, failed]) :
    status.text ∉ ["blocked", "skipped"] := by
  revert h
  cases status <;> decide

/-- A verified role keeps its outcome, and one whose step failed is not ok. -/
theorem concluded_applyVerdict (hstatus : step.status ∈ [verified, failed])
    (herror : clean → Unmasked a.error)
    (hstep : clean → Unmasked step.error) :
    Concluded clean a step
      (applyVerdict planMode step (syncAssignmentPlanFields a step)) := by
  have hsync := sync_error herror hstep
  have hdefault : Unmasked "plan verification failed" := by
    unfold Unmasked
    decide
  have hclear : (syncAssignmentPlanFields a step).Clear :=
    ended_clear hstatus
  unfold applyVerdict
  split
  · exact ⟨rfl, hclear, fun hclean => unmasked_orElse (hsync hclean)
      (unmasked_orElse (hstep hclean) hdefault), fun hok => nomatch hok⟩
  · next hunfailed =>
      have hverified : step.status = verified := by
        simp only [List.mem_cons, List.not_mem_nil, or_false] at hstatus
        exact hstatus.resolve_right hunfailed
      split
      · exact ⟨rfl, hclear, hsync, fun _ => hverified⟩
      · exact ⟨rfl, hclear, hsync, fun _ => hverified⟩

theorem concluded_failed (hstatus : step.status = failed)
    (hok : a.ok = false) (herror : clean → Unmasked a.error)
    (hstep : clean → Unmasked step.error) :
    Concluded clean a step (syncAssignmentPlanFields a step) := by
  refine ⟨rfl, ?_, sync_error herror hstep, fun hkept => ?_⟩
  · exact ended_clear (by rw [hstatus]; decide)
  · rw [show (syncAssignmentPlanFields a step).ok = a.ok from rfl, hok] at hkept
    cases hkept

/-- What the end of a role leaves. -/
abbrev Ended (clean : Prop) (a : Assignment) (plan : Plan) (step : PlanStep)
    (b : Assignment) (plan' : Plan) : Prop :=
  ∃ step', Reworked clean (assignmentStepId a.idx a.role) plan plan' step
    step' ∧ Concluded clean a step' b

section

variable (hget : plan.getStep? (assignmentStepId a.idx a.role) = some step)
  (hstatus : step.status = running) (hstep : clean → Unmasked step.error)
  (herror : clean → Unmasked a.error)
  (hpath : calm → storePath plan.planId = .ok ())
include hget hstatus hstep herror hpath

theorem gives_ended_failed (hok : a.ok = false) :
    Script.Gives (stepProtocol calm clean) calm
      (finishStep config cfg planMode a priors false gitBefore)
      (fun b plan' _ => Ended clean a plan step b plan') plan () := by
  apply Script.Gives.mono (gives_finishStep_failed hget hstatus hstep herror
    hpath)
  rintro b plan' _ ⟨step', hwork, hfailed, rfl⟩
  exact ⟨step', hwork, concluded_failed hfailed hok herror hwork.error⟩

theorem gives_ended_through
    (htypes : ∀ check ∈ step.acceptance, check.type ∈ roleCheckTypes) :
    Script.Gives (stepProtocol calm clean) calm
      (finishStep config cfg planMode a priors true gitBefore)
      (fun b plan' _ => Ended clean a plan step b plan') plan () := by
  apply Script.Gives.mono (gives_finishStep_through hget hstatus
    (fun _ => htypes) hstep hpath)
  rintro b plan' _ ⟨step', hwork, hjudged, _, rfl⟩
  exact ⟨step', hwork, concluded_applyVerdict hjudged.1 herror hwork.error⟩

end

end StepEnd

end Voly.A2A
