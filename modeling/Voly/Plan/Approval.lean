/-
The human-review approval gate: what a decision loads and writes, and the
protocol it keeps.
-/
import Voly.Plan.RunView
import Voly.Plan.Reload

namespace Voly

open Python Interaction StepStatus

/-- The step status that a decision asks for. -/
def desiredStatus (decision : String) : StepStatus :=
  if decision = "approve" then verified else failed

/-- The only entry that a decided step keeps in its `verify_log`. -/
def reviewVerdict (decision comment : String) : Dict Json :=
  [("type", .str "human_review"),
    ("ok", .bool (decision = "approve")),
    ("message", .str ("human decision: " ++ decision ++
      (if comment = "" then "" else " — " ++ comment))),
    ("detail", .obj [("comment", .str (slice 2000 comment))])]

def PlanStep.logDecision (decision comment : String) (step : PlanStep) :
    PlanStep :=
  { step with verifyLog := [reviewVerdict decision comment] }

/-- The plan after a decision on a step that awaits one. -/
def Plan.decided (plan : Plan) (stepId decision comment : String) : Plan :=
  (plan.entered stepId (desiredStatus decision)
    (if decision = "reject" then "rejected by human" else "") 0).modifyStep
      stepId (PlanStep.logDecision decision comment)

namespace Approval

structure ApprovalResult where
  plan : Plan
  decision : String
  changed : Bool

def requireHumanReviewStep (plan : Plan) (stepId : String) :
    Except PyError PlanStep :=
  match plan.getStep stepId with
  | .error e => .error e
  | .ok step =>
      if step.hasHumanReview then .ok step
      else
        .error (.approval ("step " ++ quoted stepId ++ " on plan " ++
          quoted plan.planId ++ " has no human_review acceptance check"))

def desiredLabel (decision : String) : String :=
  if decision = "approve" then "approved" else "rejected"

/-- `decide` from the loaded plan on. -/
def review (stepId decision comment : String) :
    PlanScript ApprovalResult := do
  let step ← Script.run fun plan => (requireHumanReviewStep plan stepId, plan)
  let plan ← Script.read
  if step.status = desiredStatus decision then
    pure ⟨plan, desiredLabel decision, false⟩
  else if step.status ≠ verifying then
    Script.raise (.conflict ("step " ++ quoted stepId ++ " is " ++
      quoted step.status.text ++ ", not awaiting review " ++
      "(already decided the other way, or not yet reached verifying)"))
  else do
    let _ ← Script.run (transition stepId (desiredStatus decision)
      (if decision = "reject" then "rejected by human" else "") false false 0)
    Script.update fun plan =>
      plan.modifyStep stepId (PlanStep.logDecision decision comment)
    storeSave
    let plan ← Script.read
    pure ⟨plan, desiredLabel decision, true⟩

/-- Approve or reject a step that awaits a human review. -/
def decide (planId stepId decision comment : String) :
    Prog PlanOp PlanReply (Except PyError ApprovalResult) :=
  if decision ∉ ["approve", "reject"] then
    .done (.error (.value "decision must be 'approve' or 'reject'"))
  else
    (storeLoad planId ()).bind fun out =>
      match out.1 with
      | .error e => .done (.error e)
      | .ok none => .done (.error (.fileNotFound planId))
      | .ok (some plan) =>
          (review stepId decision comment plan).bind fun out => .done out.1

section Review

variable {plan : Plan} {stepId : String} (decision comment : String)

theorem requireHumanReviewStep_ok {step : PlanStep}
    (h : requireHumanReviewStep plan stepId = .ok step) :
    plan.getStep? stepId = some step ∧ step.hasHumanReview = true := by
  unfold requireHumanReviewStep at h
  cases hget : plan.getStep stepId with
  | error e =>
      rw [hget] at h
      cases h
  | ok found =>
      rw [hget] at h
      dsimp only at h
      split at h
      case isTrue hreview =>
        cases h
        exact ⟨plan.getStep_eq_ok hget, hreview⟩
      case isFalse => cases h

theorem desiredStatus_mem : desiredStatus decision ∈ [verified, failed] := by
  unfold desiredStatus
  split <;> decide

theorem desiredStatus_ne_verifying : desiredStatus decision ≠ verifying := by
  unfold desiredStatus
  split <;> decide

theorem admits_review {step : PlanStep} (hstatus : step.status = verifying) :
    Admits plan step (desiredStatus decision) := by
  refine ⟨?_, ?_, ?_, ?_⟩
  · rw [hstatus]
    unfold desiredStatus
    split <;> decide
  · intro hto
    exact absurd (hto ▸ desiredStatus_mem decision) (by decide)
  · intro _ hdone
    rw [hstatus] at hdone
    cases hdone
  · intro hto
    exact absurd hto (desiredStatus_ne_verifying decision)

theorem transition_review {step : PlanStep}
    (hget : plan.getStep? stepId = some step)
    (hstatus : step.status = verifying) (error : String) (now : Rat) :
    transition stepId (desiredStatus decision) error false false now plan =
      (.ok (step.enter (desiredStatus decision) error now),
        plan.entered stepId (desiredStatus decision) error now) := by
  apply transition_of_admits hget (admits_review decision hstatus)
  intro hto
  exact absurd (hto ▸ desiredStatus_mem decision) (by decide)

/-- The loaded plan and the plan that a decision saves. -/
structure Decides (loaded : Plan) (stepId decision comment : String)
    (saved : Plan) : Prop where
  awaiting : ∃ step, loaded.getStep? stepId = some step ∧
    step.hasHumanReview = true ∧ step.status = verifying
  written : ∃ now, saved = (loaded.decided stepId decision comment).stamped now

theorem wp_review {G : Type} {P : Protocol PlanOp PlanReply G} {g : G}
    {Q : Except PyError ApprovalResult → Plan → G → Prop}
    (herror : ∀ e, Q (.error e) plan g)
    (hsame : ∀ step, plan.getStep? stepId = some step →
      step.hasHumanReview = true → step.status = desiredStatus decision →
      Q (.ok ⟨plan, desiredLabel decision, false⟩) plan g)
    (htime : P.allows g .time)
    (hrefused : ∀ now e, Q (.error e)
      ((plan.decided stepId decision comment).stamped now)
      (P.next g .time now))
    (hallow : ∀ now saved, Decides plan stepId decision comment saved →
      P.allows (P.next g .time now) (.save saved))
    (hreply : ∀ now saved reply, Decides plan stepId decision comment saved →
      P.relies (P.next g .time now) (.save saved) reply →
      Q (reply.map fun _ => ⟨saved, desiredLabel decision, true⟩) saved
        (P.next (P.next g .time now) (.save saved) reply)) :
    Script.wp P (review stepId decision comment) Q plan g := by
  unfold review
  rw [Script.wp_run_bind]
  cases hrequire : requireHumanReviewStep plan stepId with
  | error e => exact herror e
  | ok step =>
      obtain ⟨hget, hreview⟩ := requireHumanReviewStep_ok hrequire
      dsimp only
      rw [Script.wp_read_bind]
      split
      case isTrue hstatus => exact hsame step hget hreview hstatus
      case isFalse =>
        split
        case isTrue => exact herror _
        case isFalse hnot =>
          have hstatus : step.status = verifying := not_not.mp hnot
          rw [Script.wp_run_bind, transition_review decision hget hstatus]
          dsimp only
          rw [Script.wp_update_bind, Script.wp_bind]
          have hdecides : ∀ now, Decides plan stepId decision comment
              ((plan.decided stepId decision comment).stamped now) :=
            fun now => ⟨⟨step, hget, hreview, hstatus⟩, now, rfl⟩
          apply wp_save htime
          · intro now e _
            exact hrefused now e
          · intro now _
            exact hallow now _ (hdecides now)
          · intro now reply _ hrelies
            have hdone := hreply now _ reply (hdecides now) hrelies
            cases reply with
            | error e => exact hdone
            | ok u => exact hdone

end Review

section Written

variable {loaded saved : Plan} {stepId decision comment : String}

theorem decided_getStep? (plan : Plan) (other : String) :
    (plan.decided stepId decision comment).getStep? other =
      if other = stepId then
        (plan.getStep? other).map fun step =>
          (step.enter (desiredStatus decision)
            (if decision = "reject" then "rejected by human" else "")
              0).logDecision decision comment
      else plan.getStep? other := by
  rw [Plan.decided, Plan.getStep?_modifyStep]
  · rw [entered_getStep?]
    split
    · rw [Option.map_map]
      rfl
    · rfl
  · exact fun _ => rfl

section

variable (h : Decides loaded stepId decision comment saved)
include h

theorem Decides.planId :
    saved.planId = loaded.planId := by
  obtain ⟨now, rfl⟩ := h.written
  exact entered_planId _ _ _ _ _

theorem Decides.getStep? (other : String) : saved.getStep? other =
      (loaded.decided stepId decision comment).getStep? other := by
  obtain ⟨now, rfl⟩ := h.written
  rfl

theorem Decides.statusOf :
    saved.statusOf stepId = some (desiredStatus decision) := by
  obtain ⟨step, hget, _, _⟩ := h.awaiting
  rw [Plan.statusOf, h.getStep?, decided_getStep?, if_pos rfl, hget]
  rfl

end

end Written

/-- What was seen of a decision: the plan it loaded, and the one it saved. -/
structure DecideView where
  loaded : Option Plan := none
  saved : Option Plan := none

def DecideView.next (view : DecideView) (op : PlanOp) (reply : PlanReply op) :
    DecideView :=
  match op, reply with
  | .load _, .ok (some plan) => { view with loaded := some plan }
  | .save plan, _ => { view with saved := some plan }
  | _, _ => view

def decideProtocol (planId stepId decision comment : String) :
    Protocol PlanOp PlanReply DecideView where
  allows view op :=
    match op with
    | .load other => other = planId ∧ view.saved = none
    | .time => True
    | .save plan => view.saved = none ∧ ∃ loaded, view.loaded = some loaded ∧
        Decides loaded stepId decision comment plan
    | _ => False
  relies _ _ _ := True
  next := DecideView.next

/-- What the result of a decision says about its save. -/
def Told (stepId decision : String)
    (out : Except PyError ApprovalResult) (view : DecideView) : Prop :=
  ∀ result, out = .ok result →
    result.decision = desiredLabel decision ∧
    (result.changed = true → view.saved = some result.plan) ∧
    (result.changed = false →
      view.saved = none ∧ view.loaded = some result.plan ∧
        result.plan.statusOf stepId = some (desiredStatus decision))

theorem wp_decide (planId stepId decision comment : String) :
    (decide planId stepId decision comment).wp
      (decideProtocol planId stepId decision comment)
      (Told stepId decision) {} := by
  unfold decide
  split
  case isTrue =>
    intro result hresult
    cases hresult
  case isFalse =>
    rw [Prog.wp_bind, Script.wp_started]
    apply wp_storeLoad
    · intro e result hresult
      cases hresult
    · exact fun _ => ⟨rfl, rfl⟩
    · rintro (e | _ | loaded) _ _
      · intro result hresult
        cases hresult
      · intro result hresult
        cases hresult
      · dsimp only
        rw [Prog.wp_bind, Script.wp_started]
        apply wp_review
        · intro e result hresult
          cases hresult
        · intro step hget _ hstatus result hresult
          cases hresult
          refine ⟨rfl, fun hchanged => (by cases hchanged), fun _ => ?_⟩
          refine ⟨rfl, rfl, ?_⟩
          rw [Plan.statusOf, hget, Option.map_some, hstatus]
        · trivial
        · intro now e result hresult
          cases hresult
        · intro now saved hdecides
          exact ⟨rfl, loaded, rfl, hdecides⟩
        · intro now saved reply _ _ result hresult
          cases reply with
          | error e => cases hresult
          | ok u =>
              cases hresult
              exact ⟨rfl, fun _ => rfl, fun hchanged => (by cases hchanged)⟩

end Approval

end Voly
