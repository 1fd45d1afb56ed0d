/-
One attempt at a step keeps the run protocol: its evidence, the sequential
attempt, and the chat wave.
-/
import Voly.Plan.Evolution

namespace Voly

open Python Interaction StepStatus

section Attempt

variable {config : RunnerConfig} {runMode : String}

/-- What a finished call left behind, before the step is settled. -/
structure Evidenced (log : List Exchange) (step started : PlanStep)
    (reply : CallReply) (gitBefore gitAfter : Dict String)
    (output : String) (files : List String) : Prop where
  call : LastCall log step.id started reply gitBefore gitAfter
  success : reply.success = true
  kept : step.output = slice 50000 (outcomeOf started.mode reply).output
  output : slice 50000 output = step.output
  reported : (outcomeOf started.mode reply).files ≠ [] →
    files = (outcomeOf started.mode reply).files
  changed : (outcomeOf started.mode reply).files = [] →
    started.filesTouched = [] → files = sorted (changedPaths gitBefore gitAfter)
  acceptance : started.acceptance = step.acceptance
  mode : step.mode ≠ .business

/-- How an attempt may leave its step. -/
structure Landed (view : RunView) (stepId : String) (ok : Bool)
    (step : PlanStep) : Prop where
  begun : stepId ∈ view.begun
  status : ok = true ∧ step.status = verified ∨
    ok = false ∧ (step.status = verifying ∨
      step.status = failed ∧
        (step.gated = true → view.SawFailure stepId step))

theorem Landed.verified {view : RunView} {stepId : String} {step : PlanStep}
    (hbegun : stepId ∈ view.begun) (hstatus : step.status = .verified) :
    Landed view stepId true step :=
  ⟨hbegun, Or.inl ⟨rfl, hstatus⟩⟩

theorem Landed.parked {view : RunView} {stepId : String} {step : PlanStep}
    (hbegun : stepId ∈ view.begun) (hstatus : step.status = verifying) :
    Landed view stepId false step :=
  ⟨hbegun, Or.inr ⟨rfl, Or.inl hstatus⟩⟩

theorem Landed.failed {view : RunView} {stepId : String} {step : PlanStep}
    (hbegun : stepId ∈ view.begun) (hstatus : step.status = .failed)
    (hsaw : step.gated = true → view.SawFailure stepId step) :
    Landed view stepId false step :=
  ⟨hbegun, Or.inr ⟨rfl, Or.inr ⟨hstatus, hsaw⟩⟩⟩

theorem Landed.mono {view view' : RunView} {stepId : String} {ok : Bool}
    {step : PlanStep} (h : Landed view stepId ok step)
    (hfailed : ∀ i ∈ view.failed, i ∈ view'.failed)
    (hbegun : ∀ i ∈ view.begun, i ∈ view'.begun) :
    Landed view' stepId ok step := by
  refine ⟨hbegun _ h.begun, h.status.imp_right fun ⟨hok, hrest⟩ =>
    ⟨hok, hrest.imp_right fun ⟨hstatus, hsaw⟩ => ⟨hstatus, fun hgated => ?_⟩⟩⟩
  exact (hsaw hgated).mono hfailed hbegun

/-- An attempt is over, by an exception or with its step landed. -/
structure Attempted (config : RunnerConfig) (runMode : String)
    (stepId : String) (before : Plan) (out : Except PyError Bool)
    (plan : Plan) (view : RunView) : Prop where
  steady : Steady config runMode view plan
  others : OnlyStep stepId before plan
  landed : ∀ ok, out = .ok ok → ∃ step,
    plan.getStep? stepId = some step ∧ Landed view stepId ok step

theorem Attempted.raised {stepId : String} {before plan : Plan}
    {view : RunView} (hsteady : Steady config runMode view plan)
    (hothers : OnlyStep stepId before plan) (e : PyError) :
    Attempted config runMode stepId before (.error e) plan view :=
  ⟨hsteady, hothers, fun _ h => by cases h⟩

theorem Attempted.ended {stepId : String} {before plan : Plan}
    {view : RunView} {ok : Bool} {step : PlanStep}
    (hsteady : Steady config runMode view plan)
    (hothers : OnlyStep stepId before plan)
    (hget : plan.getStep? stepId = some step)
    (hlanded : Landed view stepId ok step) :
    Attempted config runMode stepId before (.ok ok) plan view := by
  refine ⟨hsteady, hothers, ?_⟩
  intro ok' hok
  cases hok
  exact ⟨step, hget, hlanded⟩

variable {view : RunView} {plan : Plan} {stepId : String} {step : PlanStep}

theorem mergedContext_own (config : RunnerConfig) (plan : Plan)
    (step : PlanStep) (gitBefore gitAfter : Dict String) :
    let ctx := mergedContext plan step
      (stepContext config plan step gitBefore gitAfter)
    ctx.output = step.output ∧ ctx.filesTouched = step.filesTouched ∧
      ctx.gitBefore = gitBefore ∧ ctx.gitAfter = gitAfter := by
  refine ⟨?_, ?_, rfl, rfl⟩
  · simp [mergedContext, stepContext]
  · exact ite_self _

theorem passed_of_evals {log : List Exchange} {started step' : PlanStep}
    {reply : CallReply} {gitBefore gitAfter : Dict String} {output : String}
    (hev : Evidenced log step started reply gitBefore gitAfter output
      step.filesTouched)
    {ctx : VerifyContext} (hctx : ctx.output = step.output ∧
      ctx.filesTouched = step.filesTouched ∧ ctx.gitBefore = gitBefore ∧
      ctx.gitAfter = gitAfter)
    {evals : List (AcceptanceCheck × Surroundings)}
    {results : List VerifyResult} (heval : Evaluated ctx evals results)
    (hall : evals.map Prod.fst = step.acceptance)
    (hpass : ∀ result ∈ results, result.ok = true)
    (hshape : SameShape step step')
    (hlogged : results ≠ [] →
      step'.verifyLog = results.map VerifyResult.toDict)
    (houtput : step'.output = step.output)
    (hfiles : step'.filesTouched = step.filesTouched) :
    Passed (inspections ctx evals ++ log) step' := by
  obtain ⟨hctxOutput, hctxFiles, hctxBefore, hctxAfter⟩ := hctx
  refine ⟨⟨started, reply, gitBefore, gitAfter, ctx, evals, results⟩,
    ⟨[], log, rfl, by simp, ?_⟩, ⟨hev.success, ?_, hctxBefore, hctxAfter,
      ?_, ?_⟩, ⟨?_, heval, hpass, hlogged, ?_, ?_⟩, ?_⟩
  · rw [hshape.id]
    exact hev.call
  · exact hctxOutput.trans hev.kept
  · intro hne
    exact hctxFiles.trans (hev.reported hne)
  · intro hempty hnone
    exact hctxFiles.trans (hev.changed hempty hnone)
  · exact hall.trans hev.acceptance.symm
  · exact houtput.trans hctxOutput.symm
  · exact hfiles.trans hctxFiles.symm
  · exact hev.acceptance.trans hshape.acceptance.symm

theorem wp_verify {started : PlanStep} {reply : CallReply}
    {gitBefore gitAfter : Dict String} {output : String}
    (h : Working config runMode view plan stepId step)
    (hstatus : step.status = verifying)
    (hev : Evidenced view.log step started reply gitBefore gitAfter output
      step.filesTouched)
    {Q : Except PyError Bool → Plan → RunView → Prop}
    (hQ : ∀ out plan' view', Inspecting view view' →
      Attempted config runMode stepId plan out plan' view' →
      Q out plan' view') :
    Script.wp (runProtocol config runMode)
      (verify config stepId runMode gitBefore gitAfter) Q plan view := by
  have hctx := mergedContext_own config plan step gitBefore gitAfter
  have hinspect := fun evals => inspectAll_log config runMode
    (mergedContext plan step
      (stepContext config plan step gitBefore gitAfter)) evals view
  unfold verify getStep
  simp only [Script.wp_run_bind, plan.getStep_ok h.found, Script.wp_read_bind]
  by_cases hext : step.awaitsExternal = true
  · -- parked: the verdicts are logged, the status stays
    rw [if_pos hext, Script.wp_bind]
    refine wp_verifyStep (fun _ _ _ => trivial) h.found ?_ ?_ ?_
    · intro evals e _
      exact hQ _ _ _ (hinspect evals).1
        (.raised (h.toSteady.silent (hinspect evals).1.toSilent) OnlyStep.rfl e)
    · intro _
      exact hQ _ _ _ Inspecting.rfl (.ended h.toSteady OnlyStep.rfl h.found
        (.parked h.begun hstatus))
    · intro evals results _ _ _ _ _
      have hlogged := (h.silent (hinspect evals).1.toSilent).record
        (logVerdicts_shape results) rfl
      exact hQ _ _ _ (hinspect evals).1 (.ended hlogged.toSteady
        (OnlyStep.modifyStep (logVerdicts_shape results))
        hlogged.found (.parked hlogged.begun hstatus))
  · have hungated : step.gated = false := by
      simp [PlanStep.gated, hev.mode, hext]
    rw [if_neg hext, Script.wp_bind]
    refine wp_completeVerification (fun _ _ _ => trivial) h.found ?_ ?_ ?_ ?_
    · intro hne
      exact absurd hstatus hne
    · intro _ evals e _
      exact hQ _ _ _ (hinspect evals).1
        (.raised (h.toSteady.silent (hinspect evals).1.toSilent) OnlyStep.rfl e)
    · intro _ hnone
      have hpassed : Passed view.log (step.enter verified "" 0) :=
        passed_of_evals hev hctx List.Forall₂.nil (by simp [hnone])
          (by simp) (enter_shape verified "" 0 step) (by simp) rfl rfl
      have hsteady := h.enterVerified "" 0 (.passed hungated hpassed)
      dsimp only
      rw [if_pos (Or.inr rfl)]
      exact hQ _ _ _ Inspecting.rfl (.ended hsteady (OnlyStep.entered ..)
        (by rw [entered_getStep?, if_pos rfl, h.found]; rfl)
        (.verified h.begun rfl))
    · intro _ _ evals results hne heval hall _ toStatus error hto
      have hworking := h.silent (hinspect evals).1.toSilent
      have hlogged := hworking.record (logVerdicts_shape results) rfl
      have hothers : OnlyStep stepId plan
          (plan.modifyStep stepId (PlanStep.logVerdicts results)) :=
        OnlyStep.modifyStep (logVerdicts_shape results)
      have hfound : ∀ toStatus error,
          ((plan.modifyStep stepId (PlanStep.logVerdicts results)).entered
            stepId toStatus error 0).getStep? stepId =
          some ((step.logVerdicts results).enter toStatus error 0) := by
        intro toStatus error
        rw [entered_getStep?, if_pos rfl, hlogged.found]
        rfl
      dsimp only
      rcases hto with ⟨rfl, hpass, _⟩ | ⟨rfl, hfail⟩
      · have hok : ∀ result ∈ results, result.ok = true := by
          simp only [allPassed, Bool.and_eq_true, List.all_eq_true] at hpass
          exact hpass.2
        have hpassed := passed_of_evals hev hctx heval (hall rfl) hok
          ((logVerdicts_shape results step).trans
            (enter_shape verified error 0 _)) (fun _ => rfl) rfl rfl
        rw [← (hinspect evals).2] at hpassed
        have hsteady := hlogged.enterVerified error 0 (.passed hungated hpassed)
        rw [if_pos (Or.inl hpass)]
        exact hQ _ _ _ (hinspect evals).1 (.ended hsteady
          (hothers.trans (OnlyStep.entered ..)) (hfound verified error)
          (.verified hlogged.begun rfl))
      · have hfailed := hlogged.enter failed error 0 (by decide)
        rw [if_neg (by simp [hfail, hne])]
        split
        case isTrue hshadow =>
          have hopen := hfailed.modifyStep softOpen_shape
            (by simp [PlanStep.softOpen]) fun _ => .soft hungated hshadow
          have hopened := Plan.modifyStep_getStep?_self _ PlanStep.softOpen
            (fun step => (softOpen_shape step).id) hfailed.found
          exact hQ _ _ _ (hinspect evals).1 (.ended hopen.1.recompute
            ((hothers.trans (OnlyStep.entered ..)).trans
              ((OnlyStep.modifyStep softOpen_shape).trans OnlyStep.recompute))
            ((recomputePlanStatus_getStep? _ _).trans hopened)
            (.verified hlogged.begun rfl))
        case isFalse =>
          refine hQ _ _ _ (hinspect evals).1 (.ended hfailed.toSteady
            (hothers.trans (OnlyStep.entered ..)) hfailed.found
            (.failed hlogged.begun rfl fun hgated => ?_))
          have : (step.enter failed error 0).gated = step.gated :=
            (enter_shape failed error 0 step).gated
          exact absurd (hgated.symm.trans hungated) (by decide)

theorem Evidenced.of_shape {log : List Exchange} {started step' : PlanStep}
    {reply : CallReply} {gitBefore gitAfter : Dict String} {output : String}
    {files : List String}
    (h : Evidenced log step started reply gitBefore gitAfter output files)
    (hshape : SameShape step step') (houtput : step'.output = step.output) :
    Evidenced log step' started reply gitBefore gitAfter output files :=
  { h with
    call := by rw [hshape.id]; exact h.call
    kept := houtput.trans h.kept
    output := h.output.trans houtput.symm
    acceptance := h.acceptance.trans hshape.acceptance.symm
    mode := by rw [hshape.mode]; exact h.mode }

theorem finish_output {output : String} (files : Option (List String))
    (h : slice 50000 output = step.output) :
    (step.finish output files).output = step.output := by
  unfold PlanStep.finish
  dsimp only
  split
  · rfl
  · exact h

theorem wp_settle {started : PlanStep} {reply : CallReply}
    {gitBefore gitAfter : Dict String} {output : String}
    {files : List String}
    (h : Working config runMode view plan stepId step)
    (hev : Evidenced view.log step started reply gitBefore gitAfter output
      files)
    {Q : Except PyError Bool → Plan → RunView → Prop}
    (hQ : ∀ out plan' view', Inspecting view view' →
      Attempted config runMode stepId plan out plan' view' →
      Q out plan' view') :
    Script.wp (runProtocol config runMode)
      (settle config stepId runMode output files gitBefore gitAfter) Q plan
      view := by
  have hfinished := h.record (finish_shape output (some files)) rfl
  have hev' := hev.of_shape (finish_shape output (some files) step)
    (finish_output (some files) hev.output)
  have hothers : OnlyStep stepId plan
      (plan.modifyStep stepId (PlanStep.finish output (some files))) :=
    OnlyStep.modifyStep (finish_shape output (some files))
  unfold settle
  rw [Script.wp_run_bind, markExecutionFinished_eq h.found]
  rcases transition_cases stepId done "" false false 0
    (plan.modifyStep stepId (PlanStep.finish output (some files))) with
    ⟨e, he⟩ | ⟨found, hfound, _, hok⟩
  · rw [he]
    exact hQ _ _ _ Inspecting.rfl (.raised hfinished.toSteady hothers e)
  · rw [hfinished.found] at hfound
    cases hfound
    have hdone := hfinished.enter done "" 0 (by decide)
    have hev'' : Evidenced view.log
        ((step.finish output (some files)).enter done "" 0) started reply
        gitBefore gitAfter output
        ((step.finish output (some files)).enter done "" 0).filesTouched :=
      hev'.of_shape (enter_shape done "" 0 _) rfl
    have hothers' := hothers.trans (OnlyStep.entered done "" 0)
    rw [hok]
    dsimp only
    rw [Script.wp_run_bind, advanceAfterDone_eq hdone.found rfl]
    have hstatus : ((step.finish output (some files)).enter done ""
        0).status = done := rfl
    generalize (step.finish output (some files)).enter done "" 0 = ready
      at hdone hev'' hstatus
    generalize (plan.modifyStep stepId
      (PlanStep.finish output (some files))).entered stepId done "" 0 = plan'
      at hdone hothers'
    by_cases hacc : ready.acceptance = []
    · have hungated : ready.gated = false := by
        simp [PlanStep.gated, PlanStep.awaitsExternal, hacc, hev''.mode]
      have hpassed : Passed view.log (ready.enter verified "" 0) :=
        passed_of_evals hev''
          (mergedContext_own config plan' ready gitBefore gitAfter)
          List.Forall₂.nil (by simp [hacc]) (by simp)
          (enter_shape verified "" 0 ready) (by simp) rfl rfl
      have hsteady := hdone.enterVerified "" 0 (.passed hungated hpassed)
      have hadmits : Admits plan' ready verified :=
        ⟨by rw [hstatus]; decide, by simp, fun _ _ => hacc, by simp⟩
      have hfound : (plan'.entered stepId verified "" 0).getStep? stepId =
          some (ready.enter verified "" 0) := by
        rw [entered_getStep?, if_pos rfl, hdone.found]
        rfl
      rw [if_pos hacc, transition_of_admits hdone.found hadmits (by decide)]
      unfold getStep
      simp only [Script.wp_run_bind, Plan.getStep_ok _ hfound, enter_status,
        if_true, Script.wp_pure]
      exact hQ _ _ _ Inspecting.rfl (.ended hsteady
        (hothers'.trans (OnlyStep.entered ..)) hfound
        (.verified hdone.begun rfl))
    · have hadmits : Admits plan' ready verifying :=
        ⟨by rw [hstatus]; decide, by simp, by simp, fun _ _ => hacc⟩
      have hverifying := hdone.enter verifying "" 0 (by decide)
      rw [if_neg hacc, transition_of_admits hdone.found hadmits (by decide)]
      unfold getStep
      simp only [Script.wp_run_bind, Plan.getStep_ok _ hverifying.found,
        enter_status, if_true]
      rw [if_neg (by decide)]
      refine wp_verify hverifying rfl
        (hev''.of_shape (enter_shape verifying "" 0 ready) rfl) ?_
      intro out plan'' view' hsilent hattempted
      exact hQ _ _ _ hsilent
        { hattempted with
          others := (hothers'.trans (OnlyStep.entered ..)).trans
            hattempted.others }

/-- The plan got its timestamps, and unless its path was refused, was observed.
-/
structure Saved (config : RunnerConfig) (runMode : String) (before : Plan)
    (beforeView : RunView) (out : Except PyError Unit) (plan : Plan)
    (view : RunView) : Prop where
  steady : Steady config runMode view plan
  stamped : ∃ updatedAt createdAt, plan = { before with updatedAt, createdAt }
  aborted : view.aborted = beforeView.aborted
  fault : ∀ e, out = .error e → view.aborted = true → view.broken = true
  failed : view.failed = beforeView.failed
  begun : ∀ i ∈ beforeView.begun, i ∈ view.begun
  seen : out = .ok () → view.plan = plan ∧
    view.begun = claims beforeView.plan plan ++ beforeView.begun ∧
    Exchange.snapshot view.log.head? = [] ∧ view.entered = true

/-- A step claimed by the next save has verified dependencies. -/
theorem Steady.claimsGated (h : Steady config runMode view plan)
    (reply : Except PyError Unit) :
    ClaimsGated (view.next (.save plan) reply) plan := by
  constructor
  intro stepId hmem step hget
  rcases List.mem_append.mp hmem with hclaim | hbegun
  · obtain ⟨claimed, hclaimed, hid⟩ := List.mem_map.mp hclaim
    rw [List.mem_filter] at hclaimed
    have hfound := plan.getStep?_of_mem h.wf.nodup hclaimed.1
    rw [hid, hget] at hfound
    cases hfound
    have hrun : step.status = running ∧
        view.plan.statusOf stepId ≠ some running := by
      simpa [hid] using hclaimed.2
    have hmem' : stepId ∈ view.plan.ids := by
      rw [← h.evolves.ids, ← hid]
      exact List.mem_map_of_mem hclaimed.1
    obtain ⟨seen, hseen⟩ := view.plan.exists_getStep? hmem'
    rcases h.evolves.steps stepId seen step hseen hget with rfl | hworked
    · rw [Plan.statusOf, hseen] at hrun
      exact absurd (congrArg some hrun.1) hrun.2
    · rcases hworked.gate with hdeps | ⟨_, hfailed⟩
      · exact hdeps
      · rw [hrun.1] at hfailed
        cases hfailed
  · exact h.gate.deps stepId hbegun step hget

theorem wp_storeSave (h : Steady config runMode view plan)
    {Q : Except PyError Unit → Plan → RunView → Prop}
    (hQ : ∀ out plan' view', Saved config runMode plan view out plan' view' →
      Q out plan' view') :
    Script.wp (runProtocol config runMode) storeSave Q plan view := by
  have hsilent : ∀ now : Rat, Silent view (view.next .time now) :=
    fun now => next_silent view .time now trivial rfl
  have hstamped : ∀ now : Rat, Steady config runMode (view.next .time now)
      (plan.stamped now) :=
    fun now => (h.silent (hsilent now)).of_meta rfl rfl Iff.rfl
  refine wp_save trivial ?_ ?_ ?_
  · intro now e hpath
    refine hQ _ _ _ ⟨hstamped now, ⟨_, _, rfl⟩, rfl, ?_, rfl, fun _ => id,
      fun hout => (by cases hout)⟩
    intro _ _ haborted
    rw [h.path haborted] at hpath
    cases hpath
  · intro now _
    exact ⟨(hstamped now).wf, (hstamped now).evolves, (hstamped now).live⟩
  · intro now (reply : Except PyError Unit) hpath _
    refine hQ _ _ _ ⟨⟨(hstamped now).wf, ?_, ?_, (hstamped now).live, ?_⟩,
      ⟨_, _, rfl⟩, rfl, ?_, rfl, fun i hi => List.mem_append_right _ hi,
      fun _ => ⟨rfl, rfl, rfl, rfl⟩⟩
    · exact Evolves.of_steps rfl rfl ((hstamped now).evolves.aborted.of_view
        rfl fun hbroken => Bool.or_eq_true_iff.mpr (Or.inl hbroken))
    · exact (hstamped now).claimsGated reply
    · exact fun _ => hpath
    · intro e he _
      change (view.broken || !reply.isOk) = true
      rw [he]
      simp [Except.isOk, Except.toBool]

theorem wp_gitSnapshot
    {Q : Except PyError (Dict String) → Plan → RunView → Prop}
    (herror : ∀ e view', Silent view view' → Q (.error e) plan view')
    (hnone : Q (.ok []) plan view)
    (hok : ∀ cwd status, Silent view (view.next (.git cwd) (.ok status)) →
      Q (.ok status) plan (view.next (.git cwd) (.ok status))) :
    Script.wp (runProtocol config runMode) gitSnapshot Q plan view := by
  unfold gitSnapshot
  rw [Script.wp_read_bind]
  split
  · exact hnone
  · refine ⟨trivial, fun reply _ => ?_⟩
    cases reply with
    | error e =>
        exact herror e _ (next_silent view (.git plan.cwd) (.error e) trivial rfl)
    | ok status =>
        exact hok _ status (next_silent view (.git plan.cwd) (.ok status)
          trivial rfl)

/-- The step is claimed and its call may start. -/
structure Ready (config : RunnerConfig) (runMode : String) (view : RunView)
    (plan : Plan) (stepId : String) (step : PlanStep) : Prop
    extends Working config runMode view plan stepId step where
  status : step.status = running
  present : view.aborted = false

theorem Ready.mayCall (h : Ready config runMode view plan stepId step)
    (hmode : step.mode ≠ .business) :
    MayCall config runMode view step plan (instructionFor plan step) where
  wellFormed := h.wf
  evolves := h.evolves
  present := h.present
  found := by rw [h.id]; exact h.found
  status := h.status
  mode := hmode
  instruction := rfl
  single := by rw [h.live]; simp
  claimed := by
    rw [h.id]
    exact h.begun
  together := by rw [h.live]; simp

def RunView.called (view : RunView) (step : PlanStep) (plan : Plan)
    (reply : CallReply) : RunView :=
  (view.next (.callStart step plan (instructionFor plan step)) ()).next
    (.callEnd step.id) reply

theorem Ready.called (h : Ready config runMode view plan stepId step)
    (reply : CallReply) :
    Working config runMode (view.called step plan reply) plan stepId step where
  wf := h.wf
  evolves := Evolves.of_steps rfl rfl (h.evolves.aborted.of_view rfl id)
  gate := h.gate.of_steps rfl rfl
  path := h.path
  live := by
    change (view.live ++ [step.id]).erase step.id = []
    rw [h.live]
    simp
  found := h.found
  now := h.now
  seen := ⟨step, h.found, SameShape.rfl, by rw [h.status]; decide⟩
  begun := h.begun

theorem called_lastCall (view : RunView) (plan : Plan) (step : PlanStep)
    (reply : CallReply) :
    LastCall (view.called step plan reply).log step.id step reply
      (Exchange.snapshot view.log.head?) [] :=
  ⟨[], [], view.log, plan, instructionFor plan step, rfl, rfl, by simp, rfl,
    rfl⟩

theorem called_failed {reply : CallReply} (h : reply.success = false) :
    step.id ∈ (view.called step plan reply).failed := by
  simp [RunView.called, RunView.next, h]

def PlanStep.called (reply : CallReply) (step : PlanStep) : PlanStep :=
  (step.recordCall reply (outcomeOf step.mode reply)).reportFiles
    (outcomeOf step.mode reply).files

theorem evidenced_after_call {log : List Exchange} {started : PlanStep}
    {reply : CallReply} {gitBefore gitAfter : Dict String}
    (hcall : LastCall log started.id started reply gitBefore gitAfter)
    (hmode : started.mode ≠ .business) (hsuccess : reply.success = true) :
    Evidenced log ((started.called reply).diffFiles gitBefore gitAfter) started
      reply gitBefore gitAfter (outcomeOf started.mode reply).output
      ((started.called reply).diffFiles gitBefore gitAfter).filesTouched := by
  have houtput : ((started.called reply).diffFiles gitBefore gitAfter).output =
      slice 50000 (outcomeOf started.mode reply).output := by
    simp only [PlanStep.diffFiles, PlanStep.called, PlanStep.reportFiles,
      PlanStep.recordCall]
  have hshape : SameShape started
      ((started.called reply).diffFiles gitBefore gitAfter) :=
    ((recordCall_shape reply _ started).trans (reportFiles_shape _ _)).trans
      (diffFiles_shape gitBefore gitAfter _)
  refine ⟨?_, hsuccess, houtput, houtput.symm, ?_, ?_,
    hshape.acceptance.symm, ?_⟩
  · rw [hshape.id]
    exact hcall
  · intro hne
    simp [PlanStep.diffFiles, PlanStep.called, PlanStep.reportFiles, hne]
  · intro hempty hnone
    simp [PlanStep.diffFiles, PlanStep.called, PlanStep.reportFiles,
      PlanStep.recordCall, hempty, hnone]
  · rw [hshape.mode]
    exact hmode

theorem wp_concludeCall {started : PlanStep} {reply : CallReply}
    {gitBefore gitAfter : Dict String}
    (h : Working config runMode view plan stepId (started.called reply))
    (hcall : LastCall view.log started.id started reply gitBefore gitAfter)
    (hmode : started.mode ≠ .business)
    (hfailed : reply.success = false → stepId ∈ view.failed)
    {Q : Except PyError Bool → Plan → RunView → Prop}
    (hQ : ∀ out plan' view', Silent view view' →
      Attempted config runMode stepId plan out plan' view' →
      Q out plan' view') :
    Script.wp (runProtocol config runMode)
      (concludeCall config stepId runMode gitBefore gitAfter
        (outcomeOf started.mode reply)) Q plan view := by
  have hdiffed := h.record (diffFiles_shape gitBefore gitAfter) rfl
  have hothers : OnlyStep stepId plan
      (plan.modifyStep stepId (PlanStep.diffFiles gitBefore gitAfter)) :=
    OnlyStep.modifyStep (diffFiles_shape gitBefore gitAfter)
  unfold concludeCall
  rw [Script.wp_update_bind, outcomeOf_success]
  cases hsuccess : reply.success with
  | true =>
      unfold getStep
      simp only [if_true, Script.wp_run_bind, Plan.getStep_ok _ hdiffed.found]
      refine wp_settle hdiffed (evidenced_after_call hcall hmode hsuccess) ?_
      intro out plan' view' hsilent hattempted
      exact hQ _ _ _ hsilent.toSilent
        { hattempted with others := hothers.trans hattempted.others }
  | false =>
      rw [if_neg (by decide), Script.wp_bind, wp_enterStatus (by decide)]
      rcases transition_cases stepId failed
        (orElse (outcomeOf started.mode reply).error "step execution failed")
        false false 0
        (plan.modifyStep stepId (PlanStep.diffFiles gitBefore gitAfter)) with
        ⟨e, he⟩ | ⟨found, hfound, _, hok⟩
      · rw [he]
        exact hQ _ _ _ Silent.rfl (.raised hdiffed.toSteady hothers e)
      · rw [hdiffed.found] at hfound
        cases hfound
        rw [hok]
        have hend := hdiffed.enter failed (orElse
          (outcomeOf started.mode reply).error "step execution failed") 0
          (by decide)
        exact hQ _ _ _ Silent.rfl (.ended hend.toSteady
          (hothers.trans (OnlyStep.entered ..)) hend.found
          (.failed hend.begun rfl fun _ => Or.inl (hfailed hsuccess)))

/-- After the call: git status, touched files, then settled or failed. -/
theorem wp_afterCall (h : Ready config runMode view plan stepId step)
    (hmode : step.mode ≠ .business) (reply : CallReply)
    {Q : Except PyError Bool → Plan → RunView → Prop}
    (hQ : ∀ out plan' view', view'.aborted = view.aborted →
      Attempted config runMode stepId plan out plan' view' →
      Q out plan' view') :
    Script.wp (runProtocol config runMode)
      (afterCall config stepId runMode (Exchange.snapshot view.log.head?)
        step.mode reply)
      Q plan (view.called step plan reply) := by
  have hid := h.id
  have hrecorded := ((h.called reply).record
    (recordCall_shape reply (outcomeOf step.mode reply)) rfl).record
    (reportFiles_shape (outcomeOf step.mode reply).files) rfl
  have hothers : OnlyStep stepId plan _ :=
    (OnlyStep.modifyStep (recordCall_shape reply
      (outcomeOf step.mode reply))).trans
    (OnlyStep.modifyStep (reportFiles_shape (outcomeOf step.mode reply).files))
  have hcall := called_lastCall view plan step reply
  have hfailed : ∀ view', Silent (view.called step plan reply) view' →
      reply.success = false → stepId ∈ view'.failed := by
    intro view' hsilent hsuccess
    rw [hsilent.failed, ← hid]
    exact called_failed hsuccess
  unfold afterCall
  rw [Script.wp_update_bind, Script.wp_update_bind, Script.wp_bind]
  refine wp_gitSnapshot ?_ ?_ ?_
  · intro e view' hsilent
    exact hQ _ _ _ hsilent.aborted
      (.raised (hrecorded.silent hsilent).toSteady hothers e)
  · refine wp_concludeCall hrecorded hcall hmode (hfailed _ Silent.rfl) ?_
    intro out plan' view' hsilent hattempted
    exact hQ _ _ _ hsilent.aborted
      { hattempted with others := hothers.trans hattempted.others }
  · intro cwd status hsilent
    have hcall' : LastCall ((view.called step plan reply).next (.git cwd)
        (.ok status)).log step.id step reply
        (Exchange.snapshot view.log.head?) status :=
      ⟨[⟨.git cwd, .ok status⟩], [], view.log, plan,
        instructionFor plan step, rfl, rfl, by simp [Exchange.callOf], rfl, rfl⟩
    refine wp_concludeCall (hrecorded.silent hsilent) hcall' hmode
      (hfailed _ hsilent) ?_
    intro out plan' view' hsilent' hattempted
    exact hQ _ _ _ (hsilent'.aborted.trans hsilent.aborted)
      { hattempted with others := hothers.trans hattempted.others }

theorem Ready.silent {view' : RunView}
    (h : Ready config runMode view plan stepId step)
    (hsilent : Silent view view') :
    Ready config runMode view' plan stepId step :=
  { h with
    toWorking := h.toWorking.silent hsilent
    present := hsilent.aborted.trans h.present }

theorem wp_callStep (h : Ready config runMode view plan stepId step)
    {Q : Except PyError Bool → Plan → RunView → Prop}
    (hQ : ∀ out plan' view', view'.aborted = view.aborted →
      Attempted config runMode stepId plan out plan' view' →
      Q out plan' view') :
    Script.wp (runProtocol config runMode)
      (callStep config stepId runMode step plan
        (Exchange.snapshot view.log.head?)) Q plan view := by
  unfold callStep
  split
  case isTrue hbusiness =>
    rw [Script.wp_bind, wp_enterStatus (by decide)]
    rcases transition_cases stepId failed
      "mode=business steps must run via DecisionService, not PlanRunner"
      false false 0 plan with ⟨e, he⟩ | ⟨found, hfound, _, hok⟩
    · rw [he]
      exact hQ _ _ _ rfl (.raised h.toSteady OnlyStep.rfl e)
    · rw [h.found] at hfound
      cases hfound
      rw [hok]
      have hfailed := h.enter failed
        "mode=business steps must run via DecisionService, not PlanRunner" 0
        (by decide)
      exact hQ _ _ _ rfl (.ended hfailed.toSteady (OnlyStep.entered ..)
        hfailed.found (.failed h.begun rfl fun _ =>
          Or.inr ⟨hbusiness, h.begun⟩))
  case isFalse hmode =>
    rw [Script.wp_ask_bind]
    refine ⟨h.mayCall hmode, fun _ _ => ?_⟩
    rw [Script.wp_ask_bind]
    refine ⟨?_, fun reply _ => ?_⟩
    · change stepId ∈ view.live ++ [step.id]
      rw [h.id]
      simp
    · have hview : RunView.next (RunView.next view
          (.callStart step plan (instructionFor plan step)) ())
          (.callEnd stepId) reply = view.called step plan reply := by
        rw [RunView.called, h.id]
      change Script.wp _ _ _ _ (RunView.next (RunView.next view
        (.callStart step plan (instructionFor plan step)) ())
        (.callEnd stepId) reply)
      rw [hview]
      exact wp_afterCall h hmode reply hQ

/-- An attempt at a claimed step; nothing since passes for its git status. -/
theorem wp_attempt (h : Ready config runMode view plan stepId step)
    (hfresh : Exchange.snapshot view.log.head? = [])
    {Q : Except PyError Bool → Plan → RunView → Prop}
    (hQ : ∀ out plan' view', view'.aborted = view.aborted →
      Attempted config runMode stepId plan out plan' view' →
      Q out plan' view') :
    Script.wp (runProtocol config runMode)
      (attempt config stepId runMode) Q plan view := by
  unfold attempt getStep
  simp only [Script.wp_read_bind, Script.wp_run_bind, plan.getStep_ok h.found]
  rw [Script.wp_bind]
  refine wp_gitSnapshot ?_ ?_ ?_
  · intro e view' hsilent
    exact hQ _ _ _ hsilent.aborted
      (.raised (h.toSteady.silent hsilent) OnlyStep.rfl e)
  · have := wp_callStep h hQ
    rw [hfresh] at this
    exact this
  · intro cwd status hsilent
    refine wp_callStep (h.silent hsilent) ?_
    intro out plan' view' haborted
    exact hQ _ _ _ (haborted.trans hsilent.aborted)

/-- What was last seen of the steps is what is in memory. -/
structure Synced (config : RunnerConfig) (runMode : String) (view : RunView)
    (plan : Plan) : Prop extends Steady config runMode view plan where
  steps : plan.steps = view.plan.steps
  present : view.aborted = false
  entered : view.entered = true

theorem Synced.getStep? (h : Synced config runMode view plan)
    (other : String) : view.plan.getStep? other = plan.getStep? other := by
  simp only [Plan.getStep?, h.steps]

/-- Entering `running` from what was seen. -/
theorem Steady.enterRunning (h : Steady config runMode view plan)
    {seen : PlanStep} (hseen : view.plan.getStep? stepId = some seen)
    (hget : plan.getStep? stepId = some step)
    (hsame : SameShape seen step)
    (hbefore : seen.status ∈ [pending, failed, running])
    (hadmits : Admits plan step running) (error : String) (now : Rat) :
    Steady config runMode view (plan.entered stepId running error now) ∧
      DepsVerified (plan.entered stepId running error now)
        (step.enter running error now) := by
  have hdeps : DepsVerified plan step :=
    (unmetOf_eq_nil h.wf.nodup step).mp (hadmits.gate rfl)
  have hshape := enter_shape running error now
  have hnever : step.status = verified →
      (step.enter running error now).status = verified :=
    fun hver => absurd hver hadmits.from_ne_verified
  have hworked : Worked config runMode view plan seen
      (step.enter running error now) :=
    ⟨hsame.trans (hshape step), hbefore, by simp,
      Or.inl (hdeps.of_shape (hshape step)), Or.inr (Or.inl rfl), by simp⟩
  constructor
  · exact (h.modifyStep hseen hget hshape hnever hworked).recompute
  · have hkeeps := plan.statusOf_modifyStep_verified
      (fun step => (hshape step).id) hget hnever
    have := (hdeps.of_shape (hshape step)).mono hkeeps
    simpa [DepsVerified, Plan.statusOf, Plan.entered] using this

theorem mem_claims {before : Plan} (hget : plan.getStep? stepId = some step)
    (hrun : step.status = running)
    (hbefore : before.statusOf stepId ≠ some running) :
    stepId ∈ claims before plan := by
  have hid := plan.getStep?_id hget
  refine List.mem_map.mpr ⟨step, List.mem_filter.mpr
    ⟨plan.getStep?_mem hget, ?_⟩, hid⟩
  simp [hrun, hid, hbefore]

theorem Saved.ready {before : Plan} {beforeView : RunView}
    {out : Except PyError Unit}
    (h : Saved config runMode before beforeView out plan view)
    (hout : out = .ok ()) (hget : before.getStep? stepId = some step)
    (hrun : step.status = running) (hpresent : beforeView.aborted = false)
    (hbefore : beforeView.plan.statusOf stepId ≠ some running) :
    Ready config runMode view plan stepId step := by
  obtain ⟨hplan, hbegun, _⟩ := h.seen hout
  obtain ⟨updatedAt, createdAt, hstamped⟩ := h.stamped
  have hget' : plan.getStep? stepId = some step := by
    rw [hstamped]
    exact hget
  refine { toSteady := h.steady, found := hget', now := ?_, seen := ?_,
           begun := ?_, status := hrun, present := ?_ }
  · rw [hrun]
    decide
  · refine ⟨step, by rw [hplan]; exact hget', SameShape.rfl, ?_⟩
    rw [hrun]
    decide
  · rw [hbegun]
    exact List.mem_append_left _ (mem_claims hget' hrun hbefore)
  · exact h.aborted.trans hpresent

theorem Saved.others {before : Plan} {beforeView : RunView}
    {out : Except PyError Unit}
    (h : Saved config runMode before beforeView out plan view) :
    OnlyStep stepId before plan := by
  obtain ⟨updatedAt, createdAt, hstamped⟩ := h.stamped
  exact OnlyStep.of_steps (by rw [hstamped])

/-- `_run_one_step` on a step that the scheduler picked. -/
theorem wp_runOneStep (h : Synced config runMode view plan)
    {Q : Except PyError Bool → Plan → RunView → Prop}
    (hQ : ∀ out plan' view', view'.aborted = false →
      Attempted config runMode stepId plan out plan' view' →
      Q out plan' view') :
    Script.wp (runProtocol config runMode)
      (runOneStep config stepId runMode false) Q plan view := by
  unfold runOneStep getStep
  rw [Script.wp_run_bind]
  cases hget : plan.getStep stepId with
  | error e =>
      exact hQ _ _ _ h.present (.raised h.toSteady OnlyStep.rfl e)
  | ok step =>
      have hfound := plan.getStep_eq_ok hget
      dsimp only
      rw [if_neg (by decide), Script.wp_bind, wp_enterRunning]
      refine ⟨trivial, fun now _ => ?_⟩
      have hsilent : Silent view (view.next .time now) :=
        next_silent view .time now trivial rfl
      have hsteady := h.toSteady.silent hsilent
      rcases transition_cases stepId running "" false false now plan with
        ⟨e, he⟩ | ⟨found, hfound', hrefusal, hok⟩
      · rw [he]
        exact hQ _ _ _ h.present (.raised hsteady OnlyStep.rfl e)
      · rw [hfound] at hfound'
        cases hfound'
        have hadmits := admits_of_refusal hrefusal
        have hbefore : step.status ∈ [pending, failed] := by
          have hlegal := hadmits.legal
          revert hlegal
          cases step.status <;> decide
        have hseen : (view.next .time now).plan.getStep? stepId = some step :=
          (h.getStep? stepId).trans hfound
        obtain ⟨hentered, _⟩ := hsteady.enterRunning hseen hfound
          SameShape.rfl (by revert hbefore; cases step.status <;> decide)
          hadmits "" now
        have hget' : (plan.entered stepId running "" now).getStep? stepId =
            some (step.enter running "" now) := by
          rw [entered_getStep?, if_pos rfl, hfound]
          rfl
        have hothers : OnlyStep stepId plan
            (plan.entered stepId running "" now) := OnlyStep.entered ..
        rw [hok]
        dsimp only
        rw [Script.wp_bind]
        refine wp_storeSave hentered fun out plan' view' hsaved => ?_
        have hpresent : view'.aborted = false := hsaved.aborted.trans h.present
        cases out with
        | error e =>
            exact hQ _ _ _ hpresent
              (.raised hsaved.steady (hothers.trans hsaved.others) e)
        | ok u =>
            have hready := hsaved.ready rfl hget' rfl h.present (by
              rw [Plan.statusOf, hseen]
              intro hrun
              rw [Option.some.inj hrun] at hbefore
              exact absurd hbefore (by decide))
            refine wp_attempt hready (hsaved.seen rfl).2.2.1 ?_
            intro out plan'' view'' haborted hattempted
            exact hQ _ _ _ (haborted.trans hpresent)
              { hattempted with
                others := (hothers.trans hsaved.others).trans
                  hattempted.others }

end Attempt

end Voly
