/-
The operations of the engine when they raise: all but one check everything
before they write.
-/
import Voly.Plan.Verify

namespace Voly

open Python Interaction StepStatus

/-- `engine.transition` on a status text. -/
def enterText (stepId toStatus error : String) (allowSkip force : Bool) :
    PlanScript PlanStep := do
  let now ←
    if toStatus = running.text then Script.ask PlanOp.time else pure 0
  Script.run (transitionTo stepId toStatus error allowSkip force now)

/-- A call of one of the operations that change a step. -/
inductive PublicCall where
  | change (stepId toStatus error : String) (allowSkip force : Bool)
  | markFinished (stepId : String) (success : Bool)
      (error output : String) (filesTouched : Option (List String))
  | advance (stepId : String)
  | complete (stepId : String) (ctx : VerifyContext)
      (stopOnFail : Bool)

def PublicCall.script : PublicCall → PlanScript Unit
  | .change stepId toStatus error allowSkip force => do
      let _ ← enterText stepId toStatus error allowSkip force
      pure ()
  | .markFinished stepId success error output filesTouched => do
      let _ ← Script.run
        (markExecutionFinished stepId success error output filesTouched 0)
      pure ()
  | .advance stepId => do
      let _ ← Script.run (advanceAfterDone stepId 0)
      pure ()
  | .complete stepId ctx stopOnFail => do
      let _ ← completeVerification stepId ctx stopOnFail
      pure ()

/-- If the call raises, in whatever surroundings, the plan is what it was. -/
def PublicCall.Atomic (call : PublicCall) (plan : Plan) : Prop :=
  ∀ (oracle : Nat → PlanOracle) n e after,
    ((call.script plan).exec echo oracle n ()).1 = (.error e, after) →
      after = plan

/-- No `mark_execution_finished`, or the step is unknown, may be finished, or
has the evidence already. -/
def PublicCall.Harmless (plan : Plan) : PublicCall → Prop
  | .markFinished stepId success _ output filesTouched =>
      ∀ step, plan.getStep? stepId = some step →
        isLegalTransition step.status (if success then done else failed) =
            true ∨
          step.finish output filesTouched = step
  | _ => True

section Atomic

variable {plan : Plan} {stepId : String}

section

variable {step : PlanStep} {allowSkip force : Bool} {now : Rat} {e : PyError}
  {after : Plan}

theorem modifyStep_eq_self {f : PlanStep → PlanStep}
    (hget : plan.getStep? stepId = some step) (hf : f step = step) :
    plan.modifyStep stepId f = plan := by
  have hsteps : ∀ steps : List PlanStep,
      steps.find? (fun step => step.id = stepId) = some step →
      Plan.modifySteps stepId f steps = steps := by
    intro steps
    induction steps with
    | nil => exact fun _ => rfl
    | cons head tail ih =>
        intro hfind
        rw [Plan.modifySteps]
        by_cases hid : head.id = stepId
        · rw [List.find?_cons_of_pos (by simpa using hid)] at hfind
          cases hfind
          rw [if_pos hid, hf]
        · rw [List.find?_cons_of_neg (by simpa using hid)] at hfind
          rw [if_neg hid, ih hfind]
  rw [Plan.modifyStep, hsteps plan.steps hget]

theorem transition_atomic {toStatus : StepStatus} {error : String}
    (h : transition stepId toStatus error allowSkip force now plan =
      (.error e, after)) : after = plan := by
  rcases transition_cases stepId toStatus error allowSkip force now plan with
    ⟨e', he⟩ | ⟨step, _, _, hok⟩
  · rw [he] at h
    exact (Prod.mk.inj h).2.symm
  · rw [hok] at h
    cases h

theorem transitionTo_atomic {toStatus error : String}
    (h : transitionTo stepId toStatus error allowSkip force now plan =
      (.error e, after)) : after = plan := by
  unfold transitionTo at h
  split at h
  · exact (Prod.mk.inj h).2.symm
  · split at h
    · exact (Prod.mk.inj h).2.symm
    · exact transition_atomic h

theorem advanceAfterDone_atomic
    (h : advanceAfterDone stepId now plan = (.error e, after)) :
    after = plan := by
  unfold advanceAfterDone at h
  split at h
  · exact (Prod.mk.inj h).2.symm
  · dsimp only at h
    split at h
    · exact (Prod.mk.inj h).2.symm
    · exact transition_atomic h

theorem markExecutionFinished_of_step {success : Bool} {error output : String}
    {filesTouched : Option (List String)}
    (hget : plan.getStep? stepId = some step) :
    markExecutionFinished stepId success error output filesTouched now plan =
      transition stepId (if success then done else failed)
        (if success then "" else orElse error "execution failed") false false
        now (plan.modifyStep stepId
          (PlanStep.finish output filesTouched)) := by
  have hok := plan.getStep_ok hget
  cases success <;>
    simp [markExecutionFinished, Mutation.read, Mutation.lift,
      Mutation.update, Mutation.bind, hok, bind]

theorem transition_finish {toStatus : StepStatus} {error : String}
    (hget : plan.getStep? stepId = some step) (hto : toStatus ∈ [done, failed])
    (hlegal : isLegalTransition step.status toStatus = true) :
    transition stepId toStatus error false false now plan =
      (.ok (step.enter toStatus error now),
        plan.entered stepId toStatus error now) := by
  have hne : toStatus ≠ running ∧ toStatus ≠ verified ∧
      toStatus ≠ verifying ∧ toStatus ≠ skipped := by
    revert hto
    cases toStatus <;> decide
  have hadmits : Admits plan step toStatus :=
    ⟨hlegal, fun h => absurd h hne.1, fun h => absurd h hne.2.1,
      fun h => absurd h hne.2.2.1⟩
  exact transition_of_admits hget hadmits hne.2.2.2 error now

end

theorem transition_illegal {step : PlanStep} {toStatus : StepStatus}
    (error : String) (now : Rat) (hget : plan.getStep? stepId = some step)
    (hillegal : ¬isLegalTransition step.status toStatus = true) :
    ∃ e, transition stepId toStatus error false false now plan =
      (.error e, plan) := by
  rcases transition_cases stepId toStatus error false false now plan with
    hraised | ⟨found, hfound, hrefusal, _⟩
  · exact hraised
  · rw [hget] at hfound
    cases hfound
    exact absurd (admits_of_refusal hrefusal).legal hillegal

/-- A script keeps the plan when it raises. -/
abbrev KeepsOnError {A : Type} (x : PlanScript A) (plan : Plan) : Prop :=
  Script.wp Protocol.free x (fun out after _ =>
    ∀ e, out = .error e → after = plan) plan ()

theorem atomic_of_keeps {call : PublicCall}
    (h : KeepsOnError call.script plan) : call.Atomic plan := by
  intro oracle n e after hrun
  have hout : ∀ e', ((call.script plan).exec echo oracle n ()).1.1 =
      .error e' → ((call.script plan).exec echo oracle n ()).1.2 = plan :=
    Prog.exec_of_free (fun out : Except PyError Unit × Plan =>
      ∀ e, out.1 = .error e → out.2 = plan) _ h
  rw [hrun] at hout
  exact hout e rfl

theorem keeps_discard {A : Type} {x : PlanScript A}
    (h : KeepsOnError x plan) :
    KeepsOnError (do let _ ← x; pure ()) plan := by
  apply Script.wp_seq h
  · exact fun _ _ _ _ _ he => (by cases he)
  · intro e after g he e' he'
    cases he'
    exact he e rfl

theorem complete_keeps (ctx : VerifyContext) (stopOnFail : Bool) :
    KeepsOnError (completeVerification stepId ctx stopOnFail) plan := by
  cases hget : plan.getStep? stepId with
  | none =>
      unfold KeepsOnError completeVerification getStep
      rw [Script.wp_run_bind, Plan.getStep, hget]
      exact fun _ _ => rfl
  | some step =>
      apply wp_completeVerification (fun _ _ _ => trivial) hget
      · exact fun _ _ _ _ => rfl
      · exact fun _ _ _ _ _ _ => rfl
      · exact fun _ _ _ he => (by cases he)
      · exact fun _ _ _ _ _ _ _ _ _ _ _ _ he => (by cases he)

theorem change_keeps (toStatus error : String) (allowSkip force : Bool) :
    KeepsOnError (enterText stepId toStatus error allowSkip force) plan := by
  have hrun : ∀ now, KeepsOnError
      (Script.run (transitionTo stepId toStatus error allowSkip force now))
      plan := by
    intro now e he
    exact transitionTo_atomic (Prod.ext he rfl)
  unfold KeepsOnError enterText
  dsimp only
  split
  · rw [Script.wp_ask_bind]
    exact ⟨trivial, fun now _ => hrun now⟩
  · exact hrun 0

/-- `mark_execution_finished` keeps the plan on an error iff it is harmless. -/
theorem finish_keeps_iff {success : Bool} {error output : String}
    {filesTouched : Option (List String)} (now : Rat) :
    (∀ e, (markExecutionFinished stepId success error output filesTouched now
        plan).1 = .error e →
      (markExecutionFinished stepId success error output filesTouched now
        plan).2 = plan) ↔
      PublicCall.Harmless plan
        (.markFinished stepId success error output filesTouched) := by
  have hto : (if success then done else failed) ∈ [done, failed] := by
    cases success <;> decide
  cases hget : plan.getStep? stepId with
  | none =>
      have herror : markExecutionFinished stepId success error output
          filesTouched now plan =
            (.error (.validation ("unknown step id: " ++ quoted stepId)),
              plan) := by
        simp [markExecutionFinished, Mutation.bind_apply, Plan.getStep, hget]
      rw [herror]
      refine iff_of_true (fun _ _ => rfl) fun step hstep => ?_
      rw [hget] at hstep
      cases hstep
  | some step =>
      rw [markExecutionFinished_of_step hget]
      generalize (if success then "" else orElse error "execution failed") =
        message
      have hfound : (plan.modifyStep stepId
          (PlanStep.finish output filesTouched)).getStep? stepId =
            some (step.finish output filesTouched) :=
        plan.modifyStep_getStep?_self (PlanStep.finish output filesTouched)
          (fun _ => rfl) hget
      by_cases hlegal : isLegalTransition step.status
          (if success then done else failed) = true
      · rw [transition_finish hfound hto hlegal]
        refine iff_of_true (fun _ he => (by cases he)) fun other hother => ?_
        rw [hget] at hother
        cases hother
        exact Or.inl hlegal
      · obtain ⟨e, he⟩ := transition_illegal message now hfound hlegal
        rw [he]
        constructor
        · intro hkept other hother
          rw [hget] at hother
          cases hother
          have hsame : plan.modifyStep stepId
              (PlanStep.finish output filesTouched) = plan := hkept e rfl
          rw [hsame, hget] at hfound
          exact Or.inr (Option.some.inj hfound).symm
        · intro hharmless _ _
          exact modifyStep_eq_self hget
            ((hharmless step hget).resolve_left hlegal)

end Atomic

/-- A raising operation leaves the plan, but for a wrong
`mark_execution_finished`. -/
theorem engine_atomic_iff (call : PublicCall) (plan : Plan) :
    call.Atomic plan ↔ call.Harmless plan := by
  cases call with
  | change stepId toStatus error allowSkip force =>
      exact iff_of_true
        (atomic_of_keeps (keeps_discard (change_keeps ..))) trivial
  | advance stepId =>
      refine iff_of_true (atomic_of_keeps (keeps_discard ?_)) trivial
      exact fun e he => advanceAfterDone_atomic (Prod.ext he rfl)
  | complete stepId ctx stopOnFail =>
      exact iff_of_true
        (atomic_of_keeps (keeps_discard (complete_keeps ..))) trivial
  | markFinished stepId success error output filesTouched =>
      rw [← finish_keeps_iff 0]
      constructor
      · intro hatomic e he
        have hraised : Script.wp Protocol.free
            (PublicCall.markFinished stepId success error output
              filesTouched).script
            (fun out after _ => (out, after) = (.error e,
              (markExecutionFinished stepId success error output filesTouched
                0 plan).2)) plan () := by
          unfold PublicCall.script
          rw [Script.wp_run_bind,
            show markExecutionFinished stepId success error output filesTouched
              0 plan = (.error e, _) from Prod.ext he rfl]
        exact hatomic (fun _ => calm { success := true }) 0 e _
          (Prog.exec_of_free (fun out => out = _) _ hraised)
      · intro hkept
        exact atomic_of_keeps (keeps_discard hkept)

namespace AtomicWitness

def pendingPlan : Plan := { planId := "p", steps := [{ id := "a" }] }

def early : PublicCall := .markFinished "a" true "" "out" none

/-- The call raises and leaves its output on the step. -/
theorem output_written_on_error : ¬early.Atomic pendingPlan := by
  intro hatomic
  generalize hout : ((early.script pendingPlan).exec echo
    (fun _ => calm { success := true }) 0 ()).1 = out at *
  obtain ⟨e | u, after⟩ := out
  · have hkept := hatomic (fun _ => calm { success := true }) 0 e after hout
    have houtput : (((early.script pendingPlan).exec echo
        (fun _ => calm { success := true }) 0 ()).1.2.steps.map
          PlanStep.output) = ["out"] := by decide
    rw [hout, hkept] at houtput
    have hsame : pendingPlan.steps.map PlanStep.output = ["out"] := houtput
    exact absurd hsame (by decide)
  · have hraised : (((early.script pendingPlan).exec echo
        (fun _ => calm { success := true }) 0 ()).1.1.toOption.isNone) =
          true := by decide
    rw [hout] at hraised
    cases hraised

end AtomicWitness

end Voly
