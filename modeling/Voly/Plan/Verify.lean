/-
Step verification: run the declared checks, keep their results, and move the
step on.
-/
import Voly.Plan.Store
import Voly.Plan.Transition

namespace Voly

open Python Interaction StepStatus

/-- `engine.transition` inside a script; the clock is read on entering
`running`. -/
def enterStatus (stepId : String) (toStatus : StepStatus) (error : String)
    (force : Bool) : PlanScript PlanStep := do
  let now ← if toStatus = running then Script.ask PlanOp.time else pure 0
  Script.run (transition stepId toStatus error false force now)

section EnterStatus

variable {G : Type} {P : Protocol PlanOp PlanReply G}
  {Q : Except PyError PlanStep → Plan → G → Prop} {s : Plan} {g : G}
  {stepId : String} {toStatus : StepStatus} {error : String} {force : Bool}

theorem wp_enterStatus (hto : toStatus ≠ running) :
    Script.wp P (enterStatus stepId toStatus error force) Q s g ↔
      Q (transition stepId toStatus error false force 0 s).1
        (transition stepId toStatus error false force 0 s).2 g := by
  unfold enterStatus
  rw [if_neg hto]
  exact Iff.rfl

theorem wp_enterRunning :
    Script.wp P (enterStatus stepId running error force) Q s g ↔
      P.allows g .time ∧ ∀ now, P.relies g .time now →
        Q (transition stepId running error false force now s).1
          (transition stepId running error false force now s).2
          (P.next g .time now) := by
  unfold enterStatus
  rw [if_pos rfl]
  exact Iff.rfl

end EnterStatus

def getStep (stepId : String) : PlanScript PlanStep :=
  Script.run fun plan => (plan.getStep stepId, plan)

/-- Run all checks in order.  Optionally stop after the first failure. -/
def runAcceptance (ctx : VerifyContext) (stopOnFail : Bool) :
    List AcceptanceCheck → PlanScript (List VerifyResult)
  | [] => pure []
  | check :: rest => do
      let world ← Script.ask (PlanOp.inspect check ctx)
      let result ← Script.run fun plan => (runCheck world check ctx, plan)
      if stopOnFail && !result.ok then pure [result]
      else do
        let results ← runAcceptance ctx stopOnFail rest
        pure (result :: results)

/-- What the checks returned, against the surroundings each of them saw. -/
def Evaluated (ctx : VerifyContext)
    (evals : List (AcceptanceCheck × Surroundings))
    (results : List VerifyResult) : Prop :=
  List.Forall₂ (fun eval result => runCheck eval.2 eval.1 ctx = .ok result)
    evals results

/-- The observer state after the surroundings of some checks were seen. -/
def inspectAll {G : Type} (P : Protocol PlanOp PlanReply G)
    (ctx : VerifyContext) (g : G)
    (evals : List (AcceptanceCheck × Surroundings)) : G :=
  evals.foldl (fun g eval => P.next g (.inspect eval.1 ctx) eval.2) g

def CheckRaised {G : Type} (P : Protocol PlanOp PlanReply G)
    (ctx : VerifyContext) (e : PyError) : Prop :=
  ∃ g check world, P.relies g (.inspect check ctx) world ∧
    runCheck world check ctx = .error e

/-- The checks met surroundings as the protocol expects them. -/
def Expected {G : Type} (P : Protocol PlanOp PlanReply G)
    (ctx : VerifyContext) (evals : List (AcceptanceCheck × Surroundings)) :
    Prop :=
  ∀ eval ∈ evals, ∃ g, P.relies g (.inspect eval.1 ctx) eval.2

theorem wp_runAcceptance {G : Type} {P : Protocol PlanOp PlanReply G}
    {ctx : VerifyContext} {stopOnFail : Bool}
    (hallow : ∀ g check, P.allows g (.inspect check ctx))
    {Q : Except PyError (List VerifyResult) → Plan → G → Prop}
    (checks : List AcceptanceCheck) {s : Plan} {g : G}
    (herror : ∀ evals e, CheckRaised P ctx e →
      Q (.error e) s (inspectAll P ctx g evals))
    (hok : ∀ evals results, Evaluated ctx evals results →
      (checks ≠ [] → results ≠ []) →
      (stopOnFail = false → evals.map Prod.fst = checks) →
      Expected P ctx evals →
      Q (.ok results) s (inspectAll P ctx g evals)) :
    Script.wp P (runAcceptance ctx stopOnFail checks) Q s g := by
  induction checks generalizing Q g with
  | nil =>
      exact hok [] [] List.Forall₂.nil (fun h => absurd rfl h) (fun _ => rfl)
        fun _ hmem => nomatch hmem
  | cons check rest ih =>
      rw [runAcceptance, Script.wp_ask_bind]
      refine ⟨hallow g check, fun world hworld => ?_⟩
      rw [Script.wp_run_bind]
      cases hrun : runCheck world check ctx with
      | error e =>
          exact herror [(check, world)] e ⟨g, check, world, hworld, hrun⟩
      | ok result =>
          simp only
          split
          case isTrue hstop =>
            rw [Script.wp_pure]
            refine hok [(check, world)] [result]
              (List.Forall₂.cons hrun List.Forall₂.nil) (by simp) ?_ ?_
            · intro hfalse
              simp [hfalse] at hstop
            · intro eval hmem
              obtain rfl := List.mem_singleton.mp hmem
              exact ⟨g, hworld⟩
          case isFalse =>
            rw [Script.wp_bind]
            refine ih ?_ ?_
            · intro evals e
              exact herror ((check, world) :: evals) e
            · intro evals results heval _ hall hexpected
              simp only [Script.wp_pure]
              refine hok ((check, world) :: evals) (result :: results)
                (List.Forall₂.cons hrun heval) (by simp) ?_ ?_
              · intro hfalse
                rw [List.map_cons, hall hfalse]
              · intro eval hmem
                rcases List.mem_cons.mp hmem with rfl | hrest
                · exact ⟨g, hworld⟩
                · exact hexpected eval hrest

/-- The context of the checks: explicit values first, then the step's evidence.
-/
def mergedContext (plan : Plan) (step : PlanStep) (ctx : VerifyContext) :
    VerifyContext :=
  { ctx with
    cwd := orElse ctx.cwd plan.cwd
    output := orElse ctx.output step.output
    filesTouched :=
      if ctx.filesTouched = [] then step.filesTouched else ctx.filesTouched }

/-- The write of `verify_log`. -/
def PlanStep.logVerdicts (results : List VerifyResult) (step : PlanStep) :
    PlanStep :=
  { step with verifyLog := results.map VerifyResult.toDict }

/-- Run acceptance for a step and write `verify_log`; no status change. -/
def verifyStep (stepId : String) (ctx : VerifyContext) (stopOnFail : Bool) :
    PlanScript (List VerifyResult) := do
  let step ← getStep stepId
  if step.acceptance = [] then pure []
  else do
    let plan ← Script.read
    let results ←
      runAcceptance (mergedContext plan step ctx) stopOnFail step.acceptance
    Script.update fun plan =>
      plan.modifyStep stepId (PlanStep.logVerdicts results)
    pure results

/-- `verify_step` writes the verdicts to the step's log, or raises. -/
theorem wp_verifyStep {G : Type} {P : Protocol PlanOp PlanReply G}
    {stepId : String} {ctx : VerifyContext} {stopOnFail : Bool}
    (hallow : ∀ g check ctx, P.allows g (.inspect check ctx))
    {Q : Except PyError (List VerifyResult) → Plan → G → Prop}
    {s : Plan} {step : PlanStep} {g : G}
    (hget : s.getStep? stepId = some step)
    (herror : ∀ evals e, CheckRaised P (mergedContext s step ctx) e →
      Q (.error e) s (inspectAll P (mergedContext s step ctx) g evals))
    (hnone : step.acceptance = [] → Q (.ok []) s g)
    (hok : ∀ evals results, step.acceptance ≠ [] → results ≠ [] →
      Evaluated (mergedContext s step ctx) evals results →
      (stopOnFail = false → evals.map Prod.fst = step.acceptance) →
      Expected P (mergedContext s step ctx) evals →
      Q (.ok results)
        (s.modifyStep stepId (PlanStep.logVerdicts results))
        (inspectAll P (mergedContext s step ctx) g evals)) :
    Script.wp P (verifyStep stepId ctx stopOnFail) Q s g := by
  unfold verifyStep getStep
  simp only [Script.wp_run_bind, s.getStep_ok hget]
  by_cases hacc : step.acceptance = []
  · rw [if_pos hacc, Script.wp_pure]
    exact hnone hacc
  · rw [if_neg hacc, Script.wp_read_bind, Script.wp_bind]
    refine wp_runAcceptance (fun g check => hallow g check _) _ ?_ ?_
    · exact herror
    · intro evals results heval hne hall hexpected
      simp only [Script.wp_update_bind, Script.wp_pure]
      exact hok evals results hacc (hne hacc) heval hall hexpected

/-- The error text of a failed verification. -/
def failureSummary (results : List VerifyResult) : String :=
  let failed := results.filter fun r => !r.ok
  orElse
    (slice 2000 ("; ".intercalate
      (failed.map fun r => r.type ++ ": " ++ r.message)))
    "verification failed"

/-- Run checks and transition `verifying → verified|failed`. -/
def completeVerification (stepId : String) (ctx : VerifyContext)
    (stopOnFail : Bool) : PlanScript (PlanStep × List VerifyResult) := do
  let step ← getStep stepId
  if step.status ≠ verifying then
    Script.raise (.illegalTransition stepId step.status verified.text
      "complete_verification requires status=verifying")
  else do
    let results ← verifyStep stepId ctx stopOnFail
    let _ ←
      if results = [] ∨ allPassed results then
        enterStatus stepId verified "" false
      else enterStatus stepId failed (failureSummary results) false
    let step ← getStep stepId
    pure (step, results)

/-- Both verdicts are admitted from `verifying`. -/
theorem admits_verdict {plan : Plan} {step : PlanStep}
    (h : step.status = verifying) {toStatus : StepStatus}
    (hto : toStatus ∈ [verified, failed]) : Admits plan step toStatus := by
  have hne : toStatus ≠ running ∧ toStatus ≠ verifying := by
    revert hto
    cases toStatus <;> decide
  refine ⟨?_, fun hrun => absurd hrun hne.1, ?_, fun hver => absurd hver hne.2⟩
  · rw [h]
    revert hto
    cases toStatus <;> decide
  · intro _ hdone
    rw [h] at hdone
    cases hdone

/-- It raises off `verifying` or in a check; else the step passes or fails. -/
theorem wp_completeVerification {G : Type} {P : Protocol PlanOp PlanReply G}
    {stepId : String} {ctx : VerifyContext} {stopOnFail : Bool}
    (hallow : ∀ g check ctx, P.allows g (.inspect check ctx))
    {Q : Except PyError (PlanStep × List VerifyResult) → Plan → G → Prop}
    {s : Plan} {step : PlanStep} {g : G}
    (hget : s.getStep? stepId = some step)
    (hoff : step.status ≠ verifying → ∀ e, Q (.error e) s g)
    (herror : step.status = verifying → ∀ evals e,
      CheckRaised P (mergedContext s step ctx) e →
      Q (.error e) s (inspectAll P (mergedContext s step ctx) g evals))
    (hnone : step.status = verifying → step.acceptance = [] →
      Q (.ok (step.enter verified "" 0, [])) (s.entered stepId verified "" 0) g)
    (hok : step.status = verifying → step.acceptance ≠ [] →
      ∀ evals results, results ≠ [] →
      Evaluated (mergedContext s step ctx) evals results →
      (stopOnFail = false → evals.map Prod.fst = step.acceptance) →
      Expected P (mergedContext s step ctx) evals →
      ∀ toStatus error,
        (toStatus = verified ∧ allPassed results = true ∧ error = "" ∨
          toStatus = failed ∧ allPassed results = false ∧
            error = failureSummary results) →
        Q (.ok ((step.logVerdicts results).enter toStatus error 0, results))
          ((s.modifyStep stepId (PlanStep.logVerdicts results)).entered stepId
            toStatus error 0)
          (inspectAll P (mergedContext s step ctx) g evals)) :
    Script.wp P (completeVerification stepId ctx stopOnFail) Q s g := by
  unfold completeVerification getStep
  simp only [Script.wp_run_bind, s.getStep_ok hget]
  by_cases hstatus : step.status = verifying
  · rw [if_neg (not_not.mpr hstatus), Script.wp_bind]
    refine wp_verifyStep hallow hget (herror hstatus) ?_ ?_
    · intro hacc
      have hadmits : Admits s step verified :=
        admits_verdict hstatus (by decide)
      simp only [true_or, if_true]
      rw [Script.wp_bind, wp_enterStatus (by decide),
        transition_of_admits hget hadmits (by decide)]
      simp only [Script.wp_run_bind]
      have hfinal : (s.entered stepId verified "" 0).getStep? stepId =
          some (step.enter verified "" 0) := by
        rw [entered_getStep?, if_pos rfl, hget]
        rfl
      rw [Plan.getStep_ok _ hfinal]
      exact hnone hstatus hacc
    · intro evals results hacc hne heval hall hexpected
      have hlogged : (s.modifyStep stepId
          (PlanStep.logVerdicts results)).getStep? stepId =
            some (step.logVerdicts results) :=
        s.modifyStep_getStep?_self (PlanStep.logVerdicts results)
          (fun _ => rfl) hget
      have hstill : (step.logVerdicts results).status = verifying := hstatus
      have hfinal : ∀ toStatus error,
          ((s.modifyStep stepId (PlanStep.logVerdicts results)).entered stepId
            toStatus error 0).getStep stepId =
          .ok ((step.logVerdicts results).enter toStatus error 0) := by
        intro toStatus error
        apply Plan.getStep_ok
        rw [entered_getStep?, if_pos rfl, hlogged]
        rfl
      have hverdict :=
        hok hstatus hacc evals results hne heval hall hexpected
      simp only [hne, false_or]
      cases hpass : allPassed results with
      | true =>
          have hadmits : Admits (s.modifyStep stepId
              (PlanStep.logVerdicts results)) (step.logVerdicts results)
              verified := admits_verdict hstill (by decide)
          rw [if_pos rfl, Script.wp_bind, wp_enterStatus (by decide),
            transition_of_admits hlogged hadmits (by decide)]
          simp only [Script.wp_run_bind, hfinal]
          exact hverdict verified "" (Or.inl ⟨rfl, hpass, rfl⟩)
      | false =>
          have hadmits : Admits (s.modifyStep stepId
              (PlanStep.logVerdicts results)) (step.logVerdicts results)
              failed := admits_verdict hstill (by decide)
          rw [if_neg (by decide), Script.wp_bind, wp_enterStatus (by decide),
            transition_of_admits hlogged hadmits (by decide)]
          simp only [Script.wp_run_bind, hfinal]
          exact hverdict failed (failureSummary results)
            (Or.inr ⟨rfl, hpass, rfl⟩)
  · rw [if_pos hstatus]
    exact hoff hstatus _

end Voly
