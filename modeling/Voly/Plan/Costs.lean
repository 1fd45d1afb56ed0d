/-
The costs of a plan run: each call that ends overwrites the cost of its step if
it reports one.
-/
import Voly.Interaction.Leaves
import Voly.Plan.RetryBudget
import Voly.Records.Keyed

namespace Voly

open Python Interaction StepStatus Journal

/-- The end of a call: its step, and the cost that it wrote to the step. -/
abbrev Report := String × Option Rat

def seeReport : (op : PlanOp) → PlanReply op → List Report
  | .callEnd stepId, reply => [(stepId, reply.costUsd)]
  | _, _ => []

def Plan.costOf (plan : Plan) (stepId : String) : Option Rat :=
  (plan.getStep? stepId).map PlanStep.costUsd

/-- The reports are about steps of the plan, and tell its costs. -/
structure Charged (before : Plan) (reports : List Report) (after : Plan) :
    Prop where
  ids : after.ids = before.ids
  known : ∀ report ∈ reports, report.1 ∈ before.ids
  costs : ∀ stepId, after.costOf stepId =
    (before.costOf stepId).map (last stepId reports).getD

section Charged

variable {plan before after : Plan} {reports : List Report} {stepId : String}

theorem Charged.quiet (hids : after.ids = before.ids)
    (hcosts : ∀ stepId, after.costOf stepId = before.costOf stepId) :
    Charged before [] after where
  ids := hids
  known := fun _ hreport => by cases hreport
  costs := by
    intro stepId
    rw [hcosts]
    cases before.costOf stepId <;> rfl

theorem Charged.of_steps (h : after.steps = before.steps) :
    Charged before [] after := by
  apply Charged.quiet
  · rw [Plan.ids, h]
    rfl
  · intro stepId
    rw [Plan.costOf, Plan.getStep?, h]
    rfl

theorem Charged.refl : Charged plan [] plan := Charged.of_steps rfl

theorem Charged.trans {later : List Report} {last : Plan}
    (h : Charged before reports after) (h' : Charged after later last) :
    Charged before (reports ++ later) last where
  ids := h'.ids.trans h.ids
  known := by
    intro report hreport
    rcases List.mem_append.mp hreport with hfirst | hlater
    · exact h.known report hfirst
    · rw [← h.ids]
      exact h'.known report hlater
  costs := by
    intro stepId
    rw [h'.costs, h.costs, Option.map_map]
    cases before.costOf stepId with
    | none => rfl
    | some cost =>
        exact congrArg some (getD_last_append cost).symm

theorem charged_composes : Composes Charged where
  refl := fun _ => Charged.refl
  trans := Charged.trans

theorem Charged.record (hmem : stepId ∈ plan.ids) (reply : CallReply)
    (outcome : CallOutcome) : Charged plan [(stepId, reply.costUsd)]
      (plan.modifyStep stepId (PlanStep.recordCall reply outcome)) where
  ids := plan.ids_modifyStep _ fun _ => rfl
  known := by
    intro report hreport
    rw [List.mem_singleton.mp hreport]
    exact hmem
  costs := by
    intro other
    rw [last_singleton, Plan.costOf, plan.getStep?_modifyStep
      (PlanStep.recordCall reply outcome) fun _ => rfl, Plan.costOf]
    by_cases hother : other = stepId
    · rw [if_pos hother, if_pos hother.symm]
      cases plan.getStep? other <;> rfl
    · rw [if_neg hother, if_neg fun h => hother h.symm]
      cases plan.getStep? other <;> rfl

end Charged

/-- The calls that end in the script tell what the steps cost after it. -/
abbrev Accounted {A : Type} (x : PlanScript A) : Prop :=
  Script.Traced seeReport Charged x

section Accounted

variable {config : RunnerConfig} {runMode stepId : String} {A B : Type}

theorem accounted : Overlooks Accounted where
  bind := Script.Traced.bind charged_composes
  ask {op} hop := Script.Traced.ask charged_composes fun _ => by
    cases op <;> first | rfl | exact hop.elim
  run hrun := Script.Traced.run fun plan =>
    Charged.quiet (hrun plan).ids (hrun plan).costs

theorem Accounted.write {f : Plan → Plan}
    (h : ∀ plan, (f plan).steps = plan.steps) : Accounted (Script.update f) :=
  Script.Traced.update fun plan => Charged.of_steps (h plan)

theorem saved_accounted (plan : Plan) :
    Accounted (Script.askOk (PlanOp.save plan) id) :=
  Script.Traced.askOk charged_composes fun _ => rfl

theorem storeSave_accounted : Accounted storeSave :=
  accounted.storeSave saved_accounted

/-- `Accounted`, from one plan. -/
abbrev AccountedFrom {A : Type} (x : PlanScript A) (plan : Plan) : Prop :=
  Script.Leaves seeReport x plan fun _ after reports =>
    Charged plan reports after

variable {plan : Plan}

theorem AccountedFrom.getStep {f : PlanStep → PlanScript A}
    (h : stepId ∈ plan.ids → ∀ step, AccountedFrom (f step) plan) :
    AccountedFrom (getStep stepId >>= f) plan := by
  refine Script.Leaves.run_bind (fun step after hrun => ?_)
    fun e after hrun => ?_
  · obtain ⟨hget, rfl⟩ := Prod.mk.inj hrun
    have hfound := plan.getStep_eq_ok hget
    apply h
    rw [← plan.getStep?_id hfound]
    exact List.mem_map_of_mem (plan.getStep?_mem hfound)
  · obtain ⟨_, rfl⟩ := Prod.mk.inj hrun
    exact Charged.refl

theorem AccountedFrom.callEnd (hmem : stepId ∈ plan.ids)
    (outcome : CallReply → CallOutcome) {f : CallReply → PlanScript A}
    (h : ∀ reply, Accounted (f reply)) : AccountedFrom (do
      let reply ← Script.ask (PlanOp.callEnd stepId)
      Script.update fun plan =>
        plan.modifyStep stepId (PlanStep.recordCall reply (outcome reply))
      f reply) plan := by
  apply Script.Leaves.ask_bind
  intro reply
  apply Script.Leaves.update_bind
  exact (h reply).then charged_composes
    (Charged.record hmem reply (outcome reply))

theorem callStep_accounted (hmem : stepId ∈ plan.ids) (step : PlanStep)
    (asked : Plan) (gitBefore : Dict String) : AccountedFrom
      (callStep config stepId runMode step asked gitBefore) plan := by
  apply Script.Leaves.ite
  · exact fun _ => accounted.failed _ plan
  · intro _
    apply Script.Leaves.ask_bind
    intro _
    refine AccountedFrom.callEnd hmem (outcomeOf step.mode) fun reply => ?_
    refine accounted.bind (accounted.modifyStep _ (fun _ => rfl) fun _ => rfl)
      fun _ => ?_
    exact accounted.bind accounted.gitSnapshot fun gitAfter =>
      accounted.concludeCall gitBefore gitAfter _

theorem attempt_accounted : Accounted (attempt config stepId runMode) := by
  intro plan
  apply Script.Leaves.read_bind
  apply AccountedFrom.getStep
  intro hmem step
  apply Script.Leaves.seq (accounted.gitSnapshot plan)
  · intro gitBefore after reports hcharged
    have hmem' : stepId ∈ after.ids := by
      rw [hcharged.ids]
      exact hmem
    exact (callStep_accounted hmem' step plan gitBefore).mono
      fun _ _ _ hlater => hcharged.trans hlater
  · exact fun _ _ _ hcharged => hcharged

theorem runOneStep_accounted (alreadyRunning : Bool) :
    Accounted (runOneStep config stepId runMode alreadyRunning) := by
  refine accounted.bind accounted.getStep fun step => ?_
  apply Script.Traced.ite attempt_accounted
  refine accounted.bind (accounted.enterStatus _ _ _) fun _ => ?_
  exact accounted.bind storeSave_accounted fun _ => attempt_accounted

theorem waveCalls_accounted (n : Nat) (waiting calling : List String)
    (bodies : Dict CallOutcome) (hcalling : ∀ stepId ∈ calling,
      stepId ∈ plan.ids) :
    AccountedFrom (waveCalls n waiting calling bodies) plan := by
  induction n generalizing plan waiting calling bodies with
  | zero => exact Script.Leaves.pure Charged.refl
  | succ n ih =>
      apply Script.Leaves.ask_bind
      intro choice
      dsimp only
      generalize choice % (waiting.length + calling.length) = i
      change AccountedFrom _ _
      cases waiting[i]? with
      | some stepId =>
          apply Script.Leaves.read_bind
          apply AccountedFrom.getStep
          intro hmem step
          apply Script.Leaves.ask_bind
          intro _
          apply ih
          intro other hother
          rcases List.mem_append.mp hother with hother | hother
          · exact hcalling other hother
          · rw [List.mem_singleton.mp hother]
            exact hmem
      | none =>
          cases hcall : calling[i - waiting.length]? with
          | none => exact Script.Leaves.pure Charged.refl
          | some stepId =>
              have hmem := hcalling stepId (List.mem_of_getElem? hcall)
              apply Script.Leaves.ask_bind
              intro reply
              apply Script.Leaves.update_bind
              have hrecord :=
                Charged.record hmem reply (outcomeOf .chat reply)
              refine (ih waiting (calling.erase stepId) _ ?_).mono
                fun _ _ _ hlater => hrecord.trans hlater
              intro other hother
              rw [hrecord.ids]
              exact hcalling other (List.mem_of_mem_erase hother)

theorem runChatWave_accounted (stepIds : List String) :
    Accounted (runChatWave config stepIds runMode) := by
  refine accounted.bind (accounted.enterRunning stepIds) fun _ => ?_
  refine accounted.bind storeSave_accounted fun _ => ?_
  refine accounted.bind (fun plan => ?_)
    fun bodies => accounted.finalizeWave bodies stepIds
  exact waveCalls_accounted _ stepIds [] [] fun _ hmem => by cases hmem

theorem attemptUnit_accounted (unit : List String × Bool) :
    Accounted (attemptUnit config runMode unit) := by
  obtain ⟨stepIds, isWave⟩ := unit
  cases isWave with
  | true => exact runChatWave_accounted stepIds
  | false =>
      cases stepIds with
      | nil => exact accounted.pure []
      | cons stepId rest =>
          exact accounted.bind (runOneStep_accounted false)
            fun ok => accounted.pure [(stepId, ok)]

theorem storeLoad_accounted (planId : String) :
    Accounted (storeLoad planId : PlanScript (Option Plan)) :=
  accounted.bind (accounted.look _) fun _ => Script.Traced.askOk charged_composes fun _ => rfl

theorem externalAbortRequested_accounted :
    Accounted externalAbortRequested := by
  refine accounted.bind accounted.read fun plan => ?_
  refine accounted.bind (Script.Traced.handle charged_composes
    (storeLoad_accounted plan.planId) fun _ => accounted.pure none)
    fun fresh => ?_
  cases fresh with
  | none => exact accounted.pure false
  | some fresh =>
      apply Script.Traced.ite _ (accounted.pure false)
      exact accounted.bind (Accounted.write fun _ => rfl)
        fun _ => accounted.pure true

theorem checkAbortAndSave_accounted : Accounted checkAbortAndSave := by
  refine accounted.bind externalAbortRequested_accounted fun aborted => ?_
  exact accounted.bind storeSave_accounted fun _ => accounted.pure aborted

theorem failOrContinue_accounted (onFail : String) :
    Accounted (failOrContinue stepId onFail) := by
  refine accounted.bind accounted.getStep fun step => ?_
  apply Script.Traced.ite
  · refine accounted.bind (accounted.enterStatus _ _ _) fun _ => ?_
    refine accounted.bind (accounted.modifyStep _ (fun _ => rfl)
      fun _ => rfl) fun _ => ?_
    exact accounted.bind storeSave_accounted fun _ => accounted.pure true
  · exact accounted.bind (Accounted.write fun _ => rfl)
      fun _ => accounted.pure false

theorem handleStepOutcome_accounted (ok : Bool) (retries : Retries) :
    Accounted (handleStepOutcome config stepId ok runMode retries) := by
  have hpolicy : ∀ after : Retries, Accounted (do
      let goOn ← failOrContinue stepId config.onFail
      pure (goOn, after)) := fun after =>
    accounted.bind (failOrContinue_accounted config.onFail)
      fun goOn => accounted.pure (goOn, after)
  apply Script.Traced.ite (accounted.pure _)
  refine accounted.bind accounted.getStep fun step => ?_
  apply Script.Traced.ite (accounted.pure _)
  apply Script.Traced.ite _ (hpolicy retries)
  refine accounted.bind (accounted.enterStatus _ _ _) fun _ => ?_
  refine accounted.bind (runOneStep_accounted true) fun ok2 => ?_
  refine accounted.bind checkAbortAndSave_accounted fun aborted => ?_
  apply Script.Traced.ite (accounted.pure _)
  exact Script.Traced.ite (accounted.pure _) (hpolicy _)

theorem handleWave_accounted (outcomes : List (String × Bool))
    (retries : Retries) :
    Accounted (handleWave config runMode outcomes retries) := by
  induction outcomes generalizing retries with
  | nil => exact accounted.pure _
  | cons outcome rest ih =>
      refine accounted.bind (handleStepOutcome_accounted outcome.2 retries)
        fun result => ?_
      exact Script.Traced.ite (ih result.2) (accounted.pure _)

theorem runUnit_accounted (unit : List String × Bool) (retries : Retries) :
    Accounted (runUnit config runMode unit retries) := by
  refine accounted.bind (attemptUnit_accounted unit) fun outcomes => ?_
  refine accounted.bind checkAbortAndSave_accounted fun aborted => ?_
  apply Script.Traced.ite (accounted.pure none)
  exact accounted.bind (handleWave_accounted outcomes retries)
    fun result => accounted.pure (some result)

theorem leaveLoop_accounted : Accounted leaveLoop := by
  have hleave : ∀ exit : LoopExit, Accounted (do
      Script.update recomputePlanStatus
      pure exit) := fun exit =>
    accounted.bind (Accounted.write recomputePlanStatus_steps)
      fun _ => accounted.pure exit
  refine accounted.bind accounted.read fun plan => ?_
  apply Script.Traced.ite (hleave _)
  apply Script.Traced.ite (hleave _)
  apply Script.Traced.ite _ (hleave _)
  exact accounted.bind (Accounted.write fun _ => rfl) fun _ => accounted.pure _

section

variable (timeout : Option Timeout) (t0 : Rat)

theorem runLoop_accounted (n : Nat) (retries : Retries) :
    Accounted (runLoop config runMode timeout t0 n retries) := by
  induction n generalizing retries with
  | zero => exact accounted.pure LoopExit.outOfFuel
  | succ n ih =>
      refine accounted.bind accounted.read fun plan => ?_
      apply Script.Traced.ite (accounted.pure _)
      refine accounted.bind externalAbortRequested_accounted fun aborted => ?_
      apply Script.Traced.ite (accounted.pure _)
      refine accounted.bind (accounted.timeoutReached timeout t0)
        fun timedOut => ?_
      apply Script.Traced.ite (accounted.pure _)
      refine accounted.bind (accounted.look _) fun runnable => ?_
      apply Script.Traced.ite leaveLoop_accounted
      refine accounted.bind accounted.read fun plan => ?_
      refine accounted.bind (runUnit_accounted _ retries) fun result => ?_
      rcases result with _ | ⟨_ | _, later⟩
      · exact accounted.pure LoopExit.aborted
      · exact accounted.pure LoopExit.stopped
      · exact ih later

theorem guardedLoop_accounted :
    Accounted (guardedLoop config runMode timeout t0) := by
  refine accounted.bind accounted.read fun plan => ?_
  apply Script.Traced.handle charged_composes (runLoop_accounted _ _ _ _)
  intro e
  exact accounted.bind (Accounted.write fun _ => rfl)
    fun _ => accounted.pure LoopExit.crashed

end

theorem closeRun_accounted (timeout : Option Timeout) (t0 : Rat)
    (exit : LoopExit) : Accounted (closeRun timeout t0 exit) := by
  refine accounted.bind accounted.read fun left => ?_
  refine accounted.bind (Accounted.write fun _ => timeoutError_steps _ _)
    fun _ => ?_
  refine accounted.bind (Accounted.write fun _ => finalStatus_steps) fun _ => ?_
  refine accounted.bind storeSave_accounted fun _ => ?_
  refine accounted.bind accounted.read fun plan => ?_
  exact accounted.bind (accounted.ask trivial) fun t1 => accounted.pure _

theorem run_accounted (config : RunnerConfig) (mode cwd : String)
    (timeout : Option Timeout) : Accounted (run config mode cwd timeout) := by
  refine accounted.bind (accounted.ask trivial) fun t0 => ?_
  refine accounted.bind (accounted.openRun saved_accounted cwd) fun _ => ?_
  refine accounted.bind (guardedLoop_accounted timeout t0) fun exit => ?_
  exact closeRun_accounted timeout t0 exit

end Accounted

end Voly
