/-
The parts of a plan run that work on single steps, and what holds of all of
them.
-/
import Voly.Plan.Runner

namespace Voly

open Python Interaction StepStatus

@[simp] theorem recomputePlanStatus_error (plan : Plan) :
    (recomputePlanStatus plan).error = plan.error := by
  unfold recomputePlanStatus
  split <;> rfl

/-- The plan was changed in the statuses, logs and outputs of its steps only. -/
structure SameAccount (before after : Plan) : Prop where
  ids : after.ids = before.ids
  costs : ∀ stepId, (after.getStep? stepId).map PlanStep.costUsd =
    (before.getStep? stepId).map PlanStep.costUsd
  error : after.error = before.error

section SameAccount

variable {plan before middle after : Plan} {stepId : String}

theorem SameAccount.of_steps (hsteps : after.steps = before.steps)
    (herror : after.error = before.error) : SameAccount before after where
  ids := by simp only [Plan.ids, hsteps]
  costs stepId := by simp only [Plan.getStep?, hsteps]
  error := herror

theorem SameAccount.refl : SameAccount plan plan := .of_steps rfl rfl

theorem SameAccount.trans (h : SameAccount before middle)
    (h' : SameAccount middle after) : SameAccount before after where
  ids := h'.ids.trans h.ids
  costs stepId := (h'.costs stepId).trans (h.costs stepId)
  error := h'.error.trans h.error

theorem SameAccount.modifyStep (f : PlanStep → PlanStep)
    (hid : ∀ step, (f step).id = step.id)
    (hcost : ∀ step, (f step).costUsd = step.costUsd) :
    SameAccount plan (plan.modifyStep stepId f) where
  ids := plan.ids_modifyStep f hid
  costs other := by
    rw [plan.getStep?_modifyStep f hid]
    split
    · cases plan.getStep? other with
      | none => rfl
      | some step => exact congrArg some (hcost step)
    · rfl
  error := rfl

theorem SameAccount.recompute :
    SameAccount plan (recomputePlanStatus plan) :=
  .of_steps (recomputePlanStatus_steps plan) (recomputePlanStatus_error plan)

theorem SameAccount.transition (toStatus : StepStatus) (error : String)
    (allowSkip force : Bool) (now : Rat) : SameAccount plan
      (transition stepId toStatus error allowSkip force now plan).2 := by
  rcases transition_cases stepId toStatus error allowSkip force now plan with
    ⟨e, he⟩ | ⟨step, _, _, hok⟩
  · rw [he]
    exact SameAccount.refl
  · rw [hok]
    exact (SameAccount.modifyStep (PlanStep.enter toStatus error now)
      (fun _ => rfl) fun _ => rfl).trans SameAccount.recompute

theorem SameAccount.finish (error output : String)
    (files : Option (List String)) (now : Rat) : SameAccount plan
      (markExecutionFinished stepId true error output files now plan).2 := by
  cases hget : plan.getStep? stepId with
  | none =>
      have hsame : (markExecutionFinished stepId true error output files now
          plan).2 = plan := by
        simp [markExecutionFinished, Mutation.bind_apply, Plan.getStep, hget]
      rw [hsame]
      exact SameAccount.refl
  | some step =>
      rw [markExecutionFinished_eq hget]
      exact (SameAccount.modifyStep (PlanStep.finish output files)
        (fun _ => rfl) fun _ => rfl).trans (SameAccount.transition _ _ _ _ _)

theorem SameAccount.advance (now : Rat) :
    SameAccount plan (advanceAfterDone stepId now plan).2 := by
  unfold advanceAfterDone
  cases plan.getStep stepId with
  | error e => exact SameAccount.refl
  | ok step =>
      dsimp only
      split
      · exact SameAccount.refl
      · exact SameAccount.transition _ _ _ _ _

end SameAccount

/-- A question about the surroundings of the run. -/
def Aside : PlanOp → Prop
  | .time => True
  | .monotonic => True
  | .newTaskId => True
  | .git _ => True
  | .inspect _ _ => True
  | _ => False

/-- What holds whatever a script asks aside and changes of statuses, logs,
outputs. -/
structure Overlooks (P : ∀ {A : Type}, PlanScript A → Prop) : Prop where
  bind : ∀ {A B : Type} {x : PlanScript A} {f : A → PlanScript B}, P x →
    (∀ a, P (f a)) → P (x >>= f)
  ask : ∀ {op : PlanOp}, Aside op → P (Script.ask op)
  run : ∀ {A : Type} {x : Plan → Except PyError A × Plan},
    (∀ plan, SameAccount plan (x plan).2) → P (Script.run x)

namespace Overlooks

variable {P : ∀ {A : Type}, PlanScript A → Prop} {A : Type}
  {config : RunnerConfig} {runMode stepId : String}

theorem ite {c : Prop} [Decidable c] {x y : PlanScript A} (hx : P x)
    (hy : P y) : P (if c then x else y) := by
  split
  · exact hx
  · exact hy

variable (h : Overlooks P)
include h

theorem look (f : Plan → Except PyError A) :
    P (Script.run fun plan => (f plan, plan)) := h.run fun _ => .refl

theorem pure (a : A) : P (Pure.pure a : PlanScript A) := h.look fun _ => .ok a

theorem read : P (Script.read : PlanScript Plan) := h.look .ok

theorem askOk {op : PlanOp} (hop : Aside op)
    (get : PlanReply op → Except PyError A) : P (Script.askOk op get) :=
  h.bind (h.ask hop) fun r => h.look fun _ => get r

theorem write {f : Plan → Plan} (hsteps : ∀ plan, (f plan).steps = plan.steps)
    (herror : ∀ plan, (f plan).error = plan.error) : P (Script.update f) :=
  @run _ h _ (fun plan => (.ok (), f plan))
    fun plan => .of_steps (hsteps plan) (herror plan)

theorem modifyStep (f : PlanStep → PlanStep)
    (hid : ∀ step, (f step).id = step.id)
    (hcost : ∀ step, (f step).costUsd = step.costUsd) :
    P (Script.update fun plan => plan.modifyStep stepId f) :=
  @run _ h _ (fun plan => (.ok (), plan.modifyStep stepId f))
    fun _ => .modifyStep f hid hcost

theorem getStep : P (getStep stepId) := h.look _

theorem enterStatus (toStatus : StepStatus) (error : String) (force : Bool) :
    P (enterStatus stepId toStatus error force) := by
  have hrun : ∀ now, P (Script.run
      (transition stepId toStatus error false force now)) :=
    fun _ => h.run fun _ => .transition _ _ _ _ _
  unfold Voly.enterStatus
  dsimp only
  split
  · exact h.bind (h.ask trivial) hrun
  · exact hrun 0

theorem failed (error : String) : P (do
    let _ ← Voly.enterStatus stepId failed error false
    Pure.pure false) :=
  h.bind (h.enterStatus _ _ _) fun _ => h.pure false

theorem storeSave (hsave : ∀ plan, P (Script.askOk (PlanOp.save plan) id)) :
    P storeSave := by
  refine h.bind (h.ask trivial) fun now => ?_
  refine h.bind (h.write (fun _ => rfl) fun _ => rfl) fun _ => ?_
  refine h.bind h.read fun plan => ?_
  exact h.bind (h.look _) fun _ => hsave plan

theorem gitSnapshot : P gitSnapshot :=
  h.bind h.read fun _ => ite (h.pure []) (h.askOk (by trivial) _)

section

variable (ctx : VerifyContext) (stopOnFail : Bool)

theorem runAcceptance (checks : List AcceptanceCheck) :
    P (runAcceptance ctx stopOnFail checks) := by
  induction checks with
  | nil => exact h.pure []
  | cons check rest ih =>
      refine h.bind (h.ask trivial) fun world => ?_
      refine h.bind (h.look _) fun result => ?_
      exact ite (h.pure _) (h.bind ih fun _ => h.pure _)

theorem verifyStep : P (verifyStep stepId ctx stopOnFail) := by
  refine h.bind h.getStep fun step => ?_
  apply ite (h.pure [])
  refine h.bind h.read fun plan => ?_
  refine h.bind (h.runAcceptance _ _ _) fun results => ?_
  exact h.bind (h.modifyStep _ (fun _ => rfl) fun _ => rfl) fun _ => h.pure _

theorem completeVerification :
    P (completeVerification stepId ctx stopOnFail) := by
  refine h.bind h.getStep fun step => ?_
  apply ite
  · exact h.look _
  · refine h.bind (h.verifyStep _ _) fun results => ?_
    have hend : ∀ _ : PlanStep, P (do
        let step ← Voly.getStep stepId
        Pure.pure (step, results)) :=
      fun _ => h.bind h.getStep fun _ => h.pure _
    exact ite (h.bind (h.enterStatus _ _ _) hend)
      (h.bind (h.enterStatus _ _ _) hend)

end

section

variable (gitBefore gitAfter : Dict String)

theorem verify : P (verify config stepId runMode gitBefore gitAfter) := by
  refine h.bind h.getStep fun step => ?_
  refine h.bind h.read fun plan => ?_
  apply ite
  · exact h.bind (h.verifyStep _ _) fun _ => h.pure false
  · refine h.bind (h.completeVerification _ _) fun verdict => ?_
    apply ite (h.pure _)
    apply ite _ (h.pure false)
    refine h.bind (@run _ h _ (fun plan => (.ok (),
      recomputePlanStatus (plan.modifyStep stepId PlanStep.softOpen)))
      fun plan => ?_) fun _ => h.pure true
    exact (SameAccount.modifyStep PlanStep.softOpen (fun _ => rfl)
      fun _ => rfl).trans .recompute

theorem settle (output : String) (files : List String) :
    P (settle config stepId runMode output files gitBefore gitAfter) := by
  refine h.bind (h.run fun _ => .finish _ _ _ _) fun _ => ?_
  refine h.bind (h.run fun _ => .advance _) fun _ => ?_
  refine h.bind h.getStep fun step => ?_
  apply ite (h.pure true)
  exact ite (h.verify _ _) (h.pure _)

theorem concludeCall (outcome : CallOutcome) :
    P (concludeCall config stepId runMode gitBefore gitAfter outcome) := by
  refine h.bind (h.modifyStep _ (fun _ => rfl) fun _ => rfl) fun _ => ?_
  exact ite (h.bind h.getStep fun step => h.settle _ _ _ _) (h.failed _)

end

theorem enterRunning (stepIds : List String) : P (enterRunning stepIds) := by
  induction stepIds with
  | nil => exact h.pure ()
  | cons stepId rest ih => exact h.bind (h.enterStatus _ _ _) fun _ => ih

theorem finalizeWave (bodies : Dict CallOutcome) (stepIds : List String) :
    P (finalizeWave config runMode bodies stepIds) := by
  induction stepIds with
  | nil => exact h.pure []
  | cons stepId rest ih =>
      refine h.bind ?_ fun ok => h.bind ih fun _ => h.pure _
      refine h.bind h.getStep fun step => ?_
      exact ite (h.settle _ _ _ _) (h.failed _)

theorem timeoutReached (timeout : Option Timeout) (t0 : Rat) :
    P (timeoutReached timeout t0) := by
  cases timeout with
  | none => exact h.pure false
  | some limit => exact h.bind (h.ask trivial) fun _ => h.pure _

theorem recoverSteps (now threshold : Rat) (steps : List PlanStep) :
    P (recoverSteps now threshold steps) := by
  induction steps with
  | nil => exact h.pure ()
  | cons step rest ih =>
      exact ite (h.bind (h.enterStatus _ _ _) fun _ => ih) ih

theorem recoverStaleRunningSteps : P (recoverStaleRunningSteps config) := by
  apply ite (h.pure ())
  refine h.bind (h.ask trivial) fun now => ?_
  exact h.bind h.read fun plan => h.recoverSteps _ _ _

theorem ensureTaskId : P ensureTaskId := by
  refine h.bind h.read fun plan => ?_
  apply ite _ (h.pure ())
  exact h.bind (h.ask trivial) fun _ =>
    h.write (fun _ => rfl) fun _ => rfl

/-- `openRun` up to its save. -/
theorem openRun (hsave : ∀ plan, P (Script.askOk (PlanOp.save plan) id))
    (cwd : String) : P (openRun config cwd) := by
  refine h.bind (h.write (fun _ => rfl) fun _ => rfl) fun _ => ?_
  refine h.bind h.ensureTaskId fun _ => ?_
  refine h.bind (h.look _) fun _ => ?_
  refine h.bind h.recoverStaleRunningSteps fun _ => ?_
  exact h.bind (h.write (fun _ => rfl) fun _ => rfl) fun _ =>
    h.storeSave hsave

end Overlooks

end Voly
