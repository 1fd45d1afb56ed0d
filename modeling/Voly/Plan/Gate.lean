/-
The dependency gate under engine calls: a call is a data write and at most one
admitted status change.
-/
import Voly.Plan.Verify
import Voly.Plan.Validate

namespace Voly

open Python Interaction StepStatus

inductive EngineCall where
  | transition (stepId toStatus error : String) (allowSkip : Bool) (now : Rat)
  | markExecutionFinished (stepId : String) (success : Bool)
      (error output : String) (filesTouched : Option (List String)) (now : Rat)
  | advanceAfterDone (stepId : String) (now : Rat)
  | completeVerification (stepId : String) (ctx : VerifyContext)
      (stopOnFail : Bool) (surroundings : Nat → PlanOracle)

/-- Whether the call returned, and the plan it leaves. -/
def outcome {A : Type} (out : Except PyError A × Plan) : Bool × Plan :=
  (out.1.toBool, out.2)

def EngineCall.exec : EngineCall → Plan → Bool × Plan
  | .transition stepId toStatus error allowSkip now, plan =>
      outcome (transitionTo stepId toStatus error allowSkip false now plan)
  | .markExecutionFinished stepId success error output files now, plan =>
      outcome (Voly.markExecutionFinished stepId success error output files
        now plan)
  | .advanceAfterDone stepId now, plan =>
      outcome (Voly.advanceAfterDone stepId now plan)
  | .completeVerification stepId ctx stopOnFail surroundings, plan =>
      outcome ((Voly.completeVerification stepId ctx stopOnFail plan).exec
        echo surroundings 0 ()).1

def runCalls (calls : List EngineCall) (plan : Plan) : Plan :=
  calls.foldl (fun plan call => (call.exec plan).2) plan

def anyReturned : List EngineCall → Plan → Bool
  | [], _ => false
  | call :: rest, plan =>
      (call.exec plan).1 || anyReturned rest (call.exec plan).2

def PlanStep.gate (step : PlanStep) :
    StepStatus × List String × List AcceptanceCheck :=
  (step.status, step.dependsOn, step.acceptance)

/-- A write that the gate does not see. -/
structure Quiet (plan plan' : Plan) : Prop where
  status : plan'.status = plan.status
  ids : plan'.ids = plan.ids
  gate : ∀ stepId, (plan'.getStep? stepId).map PlanStep.gate =
    (plan.getStep? stepId).map PlanStep.gate

/-- What an engine call does to the plan, with the flag of its return. -/
inductive EngineMove (plan : Plan) : Bool → Plan → Prop
  | raised {plan'} (quiet : Quiet plan plan') : EngineMove plan false plan'
  | moved {plan'} (quiet : Quiet plan plan') {stepId : String}
      {step : PlanStep} (found : plan'.getStep? stepId = some step)
      {toStatus : StepStatus} (admits : Admits plan' step toStatus)
      (error : String) (now : Rat) :
      EngineMove plan true (plan'.entered stepId toStatus error now)

theorem quiet_rfl (plan : Plan) : Quiet plan plan :=
  ⟨rfl, rfl, fun _ => rfl⟩

theorem quiet_modifyStep (plan : Plan) (stepId : String)
    (f : PlanStep → PlanStep) (hid : ∀ step, (f step).id = step.id)
    (hgate : ∀ step, (f step).gate = step.gate) :
    Quiet plan (plan.modifyStep stepId f) where
  status := rfl
  ids := plan.ids_modifyStep f hid
  gate := by
    intro other
    rw [plan.getStep?_modifyStep f hid]
    split
    · cases plan.getStep? other with
      | none => rfl
      | some step => simp [hgate]
    · rfl

theorem move_of_transition {plan plan' : Plan} (hquiet : Quiet plan plan')
    (stepId : String) (toStatus : StepStatus) (error : String)
    (allowSkip : Bool) (now : Rat) :
    EngineMove plan
      (outcome (transition stepId toStatus error allowSkip false now plan')).1
      (outcome (transition stepId toStatus error allowSkip false now plan')).2 := by
  rcases transition_cases stepId toStatus error allowSkip false now plan' with
    ⟨e, he⟩ | ⟨step, hget, hrefusal, hok⟩
  · rw [he]
    exact .raised hquiet
  · rw [hok]
    exact .moved hquiet hget (admits_of_refusal hrefusal) error now

theorem markExecutionFinished_move (stepId : String) (success : Bool)
    (error output : String) (files : Option (List String)) (now : Rat)
    (plan : Plan) :
    EngineMove plan
      (outcome (markExecutionFinished stepId success error output files now
        plan)).1
      (outcome (markExecutionFinished stepId success error output files now
        plan)).2 := by
  unfold markExecutionFinished
  simp only [Mutation.bind_apply, Mutation.read_apply, Mutation.lift_apply]
  cases hget : plan.getStep stepId with
  | error e => exact .raised (quiet_rfl plan)
  | ok step =>
      simp only [Mutation.update_apply]
      split
      · exact move_of_transition (quiet_modifyStep plan stepId
          (PlanStep.finish output files) (fun _ => rfl) fun _ => rfl) ..
      · exact move_of_transition (quiet_modifyStep plan stepId
          (PlanStep.finish output files) (fun _ => rfl) fun _ => rfl) ..

theorem advanceAfterDone_move (stepId : String) (now : Rat) (plan : Plan) :
    EngineMove plan (outcome (advanceAfterDone stepId now plan)).1
      (outcome (advanceAfterDone stepId now plan)).2 := by
  unfold advanceAfterDone
  split
  · exact .raised (quiet_rfl plan)
  · simp only
    split
    · exact .raised (quiet_rfl plan)
    · exact move_of_transition (quiet_rfl plan) ..

theorem completeVerification_move (stepId : String) (ctx : VerifyContext)
    (stopOnFail : Bool) (surroundings : Nat → PlanOracle) (plan : Plan) :
    EngineMove plan
      (EngineCall.exec
        (.completeVerification stepId ctx stopOnFail surroundings) plan).1
      (EngineCall.exec
        (.completeVerification stepId ctx stopOnFail surroundings) plan).2 := by
  refine Prog.exec_of_free (fun out =>
    EngineMove plan (outcome out).1 (outcome out).2) _ ?_
  change Script.wp Protocol.free (completeVerification stepId ctx stopOnFail)
    (fun out s _ => EngineMove plan (outcome (out, s)).1 (outcome (out, s)).2)
    plan ()
  cases hget : plan.getStep? stepId with
  | none =>
      unfold completeVerification getStep
      rw [Script.wp_run_bind, Plan.getStep, hget]
      exact .raised (quiet_rfl plan)
  | some step =>
      refine wp_completeVerification (fun _ _ _ => trivial) hget ?_ ?_ ?_ ?_
      · intro _ e
        exact .raised (quiet_rfl plan)
      · intro _ evals e _
        exact .raised (quiet_rfl plan)
      · intro hstatus _
        exact .moved (quiet_rfl plan) hget
          (admits_verdict hstatus (by decide)) "" 0
      · intro hstatus _ evals results _ _ _ _ toStatus error hto
        have hquiet := quiet_modifyStep plan stepId
          (PlanStep.logVerdicts results) (fun _ => rfl) fun _ => rfl
        have hstill : (step.logVerdicts results).status = verifying := hstatus
        have hmem : toStatus ∈ [verified, failed] := by
          rcases hto with ⟨rfl, _⟩ | ⟨rfl, _⟩ <;> decide
        exact .moved hquiet
          (plan.modifyStep_getStep?_self (PlanStep.logVerdicts results)
            (fun _ => rfl) hget)
          (admits_verdict hstill hmem) error 0

theorem engineCall_move (call : EngineCall) (plan : Plan) :
    EngineMove plan (call.exec plan).1 (call.exec plan).2 := by
  cases call with
  | transition stepId toStatus error allowSkip now =>
      simp only [EngineCall.exec]
      unfold transitionTo
      split
      · exact .raised (quiet_rfl plan)
      · split
        · exact .raised (quiet_rfl plan)
        · exact move_of_transition (quiet_rfl plan) ..
  | markExecutionFinished stepId success error output files now =>
      exact markExecutionFinished_move ..
  | advanceAfterDone stepId now => exact advanceAfterDone_move ..
  | completeVerification stepId ctx stopOnFail surroundings =>
      exact completeVerification_move ..

/-- Started steps have all their dependencies verified. -/
structure GateInvariant (plan : Plan) : Prop where
  nodup : plan.ids.Nodup
  gate : ∀ stepId step, plan.getStep? stepId = some step →
    step.status ∈ [running, done, verifying, verified] →
    DepsVerified plan step

/-- What a single call may do to the status of a step. -/
structure Lawful (plan plan' : Plan) : Prop where
  keeps : ∀ stepId, plan.statusOf stepId = some verified →
    plan'.statusOf stepId = some verified
  checked : ∀ stepId step step', plan.getStep? stepId = some step →
    plan'.getStep? stepId = some step' → step'.acceptance ≠ [] →
    step'.status = verified → step.status ∈ [verifying, verified]

section Quiet

variable {plan plan' : Plan}

theorem Quiet.statusOf (h : Quiet plan plan') (stepId : String) :
    plan'.statusOf stepId = plan.statusOf stepId := by
  have := congrArg (Option.map Prod.fst) (h.gate stepId)
  simpa [Plan.statusOf, Function.comp_def, PlanStep.gate] using this

theorem Quiet.getStep? (h : Quiet plan plan') {stepId : String} {step' : PlanStep}
    (hget : plan'.getStep? stepId = some step') :
    ∃ step, plan.getStep? stepId = some step ∧ step.gate = step'.gate := by
  have := h.gate stepId
  rw [hget] at this
  simpa [eq_comm] using this

theorem Quiet.gateInvariant (h : Quiet plan plan')
    (hinv : GateInvariant plan) :
    GateInvariant plan' where
  nodup := by rw [h.ids]; exact hinv.nodup
  gate := by
    intro stepId step' hget hstarted dep hdep
    obtain ⟨step, hstep, hgate⟩ := h.getStep? hget
    simp only [PlanStep.gate, Prod.mk.injEq] at hgate
    rw [h.statusOf]
    apply hinv.gate stepId step hstep
    · rw [hgate.1]
      exact hstarted
    · rw [hgate.2.1]
      exact hdep

theorem Quiet.lawful (h : Quiet plan plan') : Lawful plan plan' where
  keeps := by
    intro stepId hver
    rw [h.statusOf]
    exact hver
  checked := by
    intro stepId step step' hstep hget _ hver
    obtain ⟨found, hfound, hgate⟩ := h.getStep? hget
    rw [hstep] at hfound
    cases hfound
    simp only [PlanStep.gate, Prod.mk.injEq] at hgate
    rw [hgate.1, hver]
    decide

end Quiet

section Entered

variable {plan : Plan} {stepId : String} {step : PlanStep}
  {toStatus : StepStatus} (error : String) (now : Rat)

theorem entered_lawful (hget : plan.getStep? stepId = some step)
    (h : Admits plan step toStatus) :
    Lawful plan (plan.entered stepId toStatus error now) where
  keeps := by
    intro other hver
    unfold Plan.statusOf at hver ⊢
    rw [entered_getStep?]
    by_cases hother : other = stepId
    · subst hother
      rw [hget] at hver
      exact absurd (Option.some.inj hver) h.from_ne_verified
    · rw [if_neg hother]
      exact hver
  checked := by
    intro other before after hbefore hafter hacc hver
    rw [entered_getStep?] at hafter
    by_cases hother : other = stepId
    · subst hother
      rw [if_pos rfl, hbefore] at hafter
      cases hafter
      rw [hget] at hbefore
      cases hbefore
      simp only [enter_status] at hver
      subst hver
      rcases h.to_verified with hstatus | ⟨_, hnone⟩
      · rw [hstatus]
        decide
      · exact absurd hnone hacc
    · rw [if_neg hother, hbefore] at hafter
      cases hafter
      rw [hver]
      decide

/-- An admitted change un-verifies no dependency and starts only ready steps. -/
theorem entered_gateInvariant (hinv : GateInvariant plan)
    (hget : plan.getStep? stepId = some step) (h : Admits plan step toStatus) :
    GateInvariant (plan.entered stepId toStatus error now) where
  nodup := by simpa using hinv.nodup
  gate := by
    intro other after hafter hstarted dep hdep
    apply (entered_lawful error now hget h).keeps
    rw [entered_getStep?] at hafter
    by_cases hother : other = stepId
    · subst hother
      rw [if_pos rfl, hget] at hafter
      cases hafter
      simp only [enter_status] at hstarted
      by_cases hrun : toStatus = running
      · exact (unmetOf_eq_nil hinv.nodup step).mp (h.gate hrun) dep hdep
      · have hbefore : step.status ∈ [running, done, verifying] := by
          apply h.from_started
          simpa [hrun] using hstarted
        apply hinv.gate other step hget _ dep hdep
        revert hbefore
        cases step.status <;> decide
    · rw [if_neg hother] at hafter
      exact hinv.gate other after hafter hstarted dep hdep

end Entered

section Run

section

variable {plan plan' : Plan} {returned : Bool}
  (h : EngineMove plan returned plan')
include h

theorem EngineMove.gateInvariant (hinv : GateInvariant plan) :
    GateInvariant plan' := by
  cases h with
  | raised quiet => exact quiet.gateInvariant hinv
  | moved quiet found admits error now =>
      exact entered_gateInvariant error now (quiet.gateInvariant hinv) found
        admits

theorem EngineMove.lawful : Lawful plan plan' := by
  cases h with
  | raised quiet => exact quiet.lawful
  | moved quiet found admits error now =>
      have hentered := entered_lawful error now found admits
      constructor
      · intro stepId hver
        apply hentered.keeps
        rw [quiet.statusOf]
        exact hver
      · intro stepId before after hbefore hafter hacc hver
        obtain ⟨middle, hmiddle⟩ : ∃ middle, _ = some middle :=
          Option.isSome_iff_exists.mp (by
            have := congrArg Option.isSome (quiet.gate stepId)
            rw [hbefore] at this
            simpa using this)
        have hstatus := hentered.checked stepId middle after hmiddle hafter
          hacc hver
        obtain ⟨found', hfound', hgate⟩ := quiet.getStep? hmiddle
        rw [hbefore] at hfound'
        cases hfound'
        simp only [PlanStep.gate, Prod.mk.injEq] at hgate
        rw [hgate.1]
        exact hstatus

end

theorem gateInvariant_of_pending {plan : Plan} (hvalid : validate plan = .ok ())
    (hpending : ∀ step ∈ plan.steps, step.status = pending) :
    GateInvariant plan where
  nodup := (wellFormed_of_validate hvalid).nodup
  gate := by
    intro stepId step hget hstarted
    rw [hpending step (plan.getStep?_mem hget)] at hstarted
    exact absurd hstarted (by decide)

theorem runCalls_gateInvariant (calls : List EngineCall) {plan : Plan}
    (hinv : GateInvariant plan) : GateInvariant (runCalls calls plan) := by
  induction calls generalizing plan with
  | nil => exact hinv
  | cons call rest ih =>
      exact ih ((engineCall_move call plan).gateInvariant hinv)

theorem Quiet.current {plan plan' : Plan} (h : Quiet plan plan')
    (hnodup : plan.ids.Nodup) (hcurrent : StatusCurrent plan) :
    StatusCurrent plan' := by
  have hstatuses : plan'.statuses = plan.statuses := by
    apply List.map_injective_iff.mpr (Option.some_injective StepStatus)
    rw [plan.statuses_eq hnodup, plan'.statuses_eq (h.ids ▸ hnodup), h.ids]
    exact List.map_congr_left fun stepId _ => h.statusOf stepId
  unfold StatusCurrent
  rw [h.status, hstatuses]
  exact hcurrent

section

variable {plan plan' : Plan} {returned : Bool}
  (h : EngineMove plan returned plan')
include h

theorem EngineMove.current (hnodup : plan.ids.Nodup)
    (hcurrent : StatusCurrent plan ∨ returned = true) :
    StatusCurrent plan' := by
  cases h with
  | raised quiet => exact quiet.current hnodup (by simpa using hcurrent)
  | moved quiet found admits error now => exact entered_current ..

theorem EngineMove.status (hreturned : returned = false) :
    plan'.status = plan.status := by
  cases h with
  | raised quiet => exact quiet.status
  | moved => cases hreturned

end

theorem runCalls_current (calls : List EngineCall) {plan : Plan}
    (hinv : GateInvariant plan) (hcurrent : StatusCurrent plan) :
    StatusCurrent (runCalls calls plan) := by
  induction calls generalizing plan with
  | nil => exact hcurrent
  | cons call rest ih =>
      have hmove := engineCall_move call plan
      exact ih (hmove.gateInvariant hinv)
        (hmove.current hinv.nodup (Or.inl hcurrent))

/-- The plan status is current once a call has returned. -/
theorem runCalls_status (calls : List EngineCall) {plan : Plan}
    (hinv : GateInvariant plan) :
    StatusCurrent (runCalls calls plan) ∨
      anyReturned calls plan = false ∧
        (runCalls calls plan).status = plan.status := by
  induction calls generalizing plan with
  | nil => exact Or.inr ⟨rfl, rfl⟩
  | cons call rest ih =>
      have hmove := engineCall_move call plan
      have hinv' := hmove.gateInvariant hinv
      rw [anyReturned]
      cases hreturned : (call.exec plan).1 with
      | true =>
          left
          exact runCalls_current rest hinv'
            (hmove.current hinv.nodup (Or.inr hreturned))
      | false =>
          rcases ih hinv' with hcurrent | ⟨hnone, hstatus⟩
          · exact Or.inl hcurrent
          · right
            refine ⟨by simpa using hnone, ?_⟩
            exact hstatus.trans (hmove.status hreturned)

end Run

/-- Started steps have verified dependencies, `verified` is final and checked,
and the plan status is current once a call has returned. -/
theorem engine_calls_keep_gate (plan : Plan)
    (hvalid : validate plan = .ok ())
    (hpending : ∀ step ∈ plan.steps, step.status = pending)
    (calls : List EngineCall) :
    let reached := runCalls calls plan
    (∀ step ∈ reached.steps,
      step.status ∈ [running, done, verifying, verified] →
      ∀ dep ∈ step.dependsOn, reached.statusOf dep = some verified) ∧
    (∀ (call : EngineCall) (stepId : String),
      reached.statusOf stepId = some verified →
      (call.exec reached).2.statusOf stepId = some verified) ∧
    (∀ (call : EngineCall) (stepId : String) (step step' : PlanStep),
      reached.getStep? stepId = some step →
      (call.exec reached).2.getStep? stepId = some step' →
      step'.acceptance ≠ [] → step'.status = verified →
      step.status ∈ [verifying, verified]) ∧
    (reached.status = (recomputePlanStatus reached).status ∨
      anyReturned calls plan = false ∧ reached.status = plan.status) := by
  have hinv := gateInvariant_of_pending hvalid hpending
  have hreached := runCalls_gateInvariant calls hinv
  refine ⟨?_, ?_, ?_, ?_⟩
  · intro step hstep hstarted
    exact hreached.gate step.id step
      (Plan.getStep?_of_mem _ hreached.nodup hstep) hstarted
  · intro call
    exact (engineCall_move call _).lawful.keeps
  · intro call
    exact (engineCall_move call _).lawful.checked
  · rcases runCalls_status calls hinv with hcurrent | hstart
    · left
      unfold recomputePlanStatus
      rcases hcurrent with habort | hcurrent
      · rw [if_pos habort]
      · split
        · rfl
        · exact hcurrent
    · exact Or.inr hstart

namespace GateWitness

def chain : Plan :=
  { planId := "p"
    steps := [{ id := "a" }, { id := "b", dependsOn := ["a"] }] }

theorem chain_keeps_gate :
    validate chain = .ok () ∧
    let reached := runCalls
      [.transition "b" "running" "" false 1, .transition "a" "running" "" false 2,
        .markExecutionFinished "a" true "" "out" none 3,
        .advanceAfterDone "a" 4, .transition "b" "running" "" false 5] chain
    reached.statuses = [verified, running] ∧
    ∀ step ∈ reached.steps,
      step.status ∈ [running, done, verifying, verified] →
      ∀ dep ∈ step.dependsOn, reached.statusOf dep = some verified :=
  ⟨by decide, by decide,
    (engine_calls_keep_gate chain (by decide) (by decide) _).1⟩

/-- A document may come with any plan status, and validation accepts it. -/
theorem status_not_current_at_start :
    ∃ plan : Plan, validate plan = .ok () ∧
      (∀ step ∈ plan.steps, step.status = pending) ∧
      plan.status ≠ .aborted ∧
      (runCalls [] plan).status ≠
        (recomputePlanStatus (runCalls [] plan)).status :=
  ⟨{ chain with status := .completed }, by decide, by decide, by decide,
    by decide⟩

end GateWitness

end Voly
