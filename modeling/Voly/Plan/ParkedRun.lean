/-
Parked steps over whole runs: the policy, the end of the loop, and the result.
-/
import Voly.Plan.Parking

namespace Voly

open Python Interaction StepStatus

/-- A run was stopped by an abort, or by a failed step whose error it
records. -/
def Halted (plan : Plan) : Prop :=
  plan.status = .aborted ∨ ∃ stepId step,
    plan.getStep? stepId = some step ∧ step.status = failed ∧
      plan.error = orElse step.error ("step " ++ stepId ++ " failed")

section Policy

variable {config : RunnerConfig} {runMode stepId : String} {plan : Plan}
  {view : RunView} {step : PlanStep}

theorem externalAbortRequested_error :
    Script.wp (Script.kind fun _ => True) externalAbortRequested
      (fun out plan' _ => (out = .ok false → plan'.error = plan.error) ∧
        (out = .ok true → plan'.status = .aborted)) plan () := by
  unfold externalAbortRequested
  rw [Script.wp_read_bind, Script.wp_bind, Script.wp_handle]
  have hnone : Script.wp (Script.kind fun _ => True)
      (pure false : PlanScript Bool) (fun out plan' _ =>
        (out = .ok false → plan'.error = plan.error) ∧
        (out = .ok true → plan'.status = .aborted)) plan () :=
    ⟨fun _ => rfl, fun hout => (by cases hout)⟩
  refine wp_storeLoad (fun _ => hnone) (fun _ => trivial) ?_
  rintro (e | _ | fresh) _ _
  · exact hnone
  · exact hnone
  · dsimp only
    split
    · exact ⟨fun hout => (by cases hout), fun _ => rfl⟩
    · exact hnone

theorem checkAbortAndSave_error :
    Script.wp (Script.kind fun _ => True) checkAbortAndSave
      (fun out plan' _ => (out = .ok false → plan'.error = plan.error) ∧
        (out = .ok true → plan'.status = .aborted)) plan () := by
  unfold checkAbortAndSave
  rw [Script.wp_bind]
  refine Script.wp_mono externalAbortRequested_error ?_
  rintro (e | aborted) checked _ ⟨hkept, haborted⟩
  · exact ⟨fun hout => (by cases hout), fun hout => (by cases hout)⟩
  dsimp only
  rw [Script.wp_bind]
  refine wp_save trivial ?_ (fun _ _ => trivial) ?_
  · exact fun _ e _ =>
      ⟨fun hout => (by cases hout), fun hout => (by cases hout)⟩
  · rintro now (e | u) _ _
    · exact ⟨fun hout => (by cases hout), fun hout => (by cases hout)⟩
    · refine ⟨fun hout => ?_, fun hout => ?_⟩
      · cases hout
        exact hkept rfl
      · cases hout
        exact haborted rfl

/-- The policy goes on without an error, or stops with the step's. -/
theorem failOrContinue_error (onFail : String)
    (hget : plan.getStep? stepId = some step) :
    Script.wp (Script.kind fun _ => True) (failOrContinue stepId onFail)
      (fun out plan' _ => (out = .ok true → plan'.error = plan.error) ∧
        (out = .ok false → plan'.steps = plan.steps ∧
          plan'.error = orElse step.error ("step " ++ stepId ++ " failed")))
      plan () := by
  unfold failOrContinue getStep
  simp only [Script.wp_run_bind, plan.getStep_ok hget]
  split
  · refine Script.wp_seq (errorKept.enterStatus _ _ _ plan)
      (fun _ entered _ hentered => ?_)
      fun _ _ _ _ => ⟨fun hout => (by cases hout), fun hout => (by cases hout)⟩
    rw [Script.wp_update_bind]
    refine Script.wp_seq (storeSave_errorKept _) (fun _ saved _ hsaved => ?_)
      fun _ _ _ _ => ⟨fun hout => (by cases hout), fun hout => (by cases hout)⟩
    exact ⟨fun _ => hsaved.trans hentered, fun hout => (by cases hout)⟩
  · exact ⟨fun hout => (by cases hout), fun _ => ⟨rfl, rfl⟩⟩

/-- How the policy leaves the plan's error, unless a late success was parked. -/
structure PolicyKept (stepId : String) (before : Plan) (step : PlanStep)
    (out : Except PyError (Bool × Retries)) (plan : Plan) (view : RunView) :
    Prop where
  goesOn : ∀ retries, out = .ok (true, retries) → plan.error = before.error
  stops : ∀ retries, out = .ok (false, retries) →
    (step.awaitsExternal = true → ¬LateSuccess view.ends stepId) → Halted plan

theorem PolicyKept.error {before : Plan} {e : PyError} :
    PolicyKept stepId before step (.error e) plan view :=
  ⟨fun _ hout => (by cases hout), fun _ hout => (by cases hout)⟩

theorem PolicyKept.same {before : Plan} (retries : Retries)
    (h : plan.error = before.error) :
    PolicyKept stepId before step (.ok (true, retries)) plan view :=
  ⟨fun _ _ => h, fun _ hout => (by cases hout)⟩

theorem wp_policy_failed {before : Plan} {step' : PlanStep}
    (hsynced : Synced config runMode view plan)
    (hget : plan.getStep? stepId = some step')
    (hlanded : Landed view stepId false step')
    (herror : plan.error = before.error) (retries : Retries)
    (hfailed : ∀ view', EndsGrow view view' →
      (step.awaitsExternal = true → ¬LateSuccess view'.ends stepId) →
      step'.status = failed) :
    Script.wp (runProtocol config runMode) (do
        let goOn ← failOrContinue stepId config.onFail
        pure (goOn, retries)) (PolicyKept stepId before step) plan view := by
  have hwp := Script.wp_beside (wp_endsGrow (wp_failOrContinue hsynced hget
    hlanded retries fun _ _ _ hhandled => hhandled))
    (failOrContinue_error config.onFail hget)
  refine Script.wp_seq hwp ?_ fun _ _ _ _ => PolicyKept.error
  rintro (_ | _) plan' view' ⟨⟨_, hgrow⟩, hgoesOn, hstops⟩
  · refine ⟨fun _ hout => (by cases hout), fun _ _ hnone => Or.inr ?_⟩
    obtain ⟨hsteps, hrecorded⟩ := hstops rfl
    refine ⟨stepId, step', ?_, hfailed view' hgrow hnone, hrecorded⟩
    simpa only [Plan.getStep?, hsteps] using hget
  · exact PolicyKept.same retries ((hgoesOn rfl).trans herror)

theorem wp_retry_error (h : Synced config runMode view plan)
    (hget : plan.getStep? stepId = some step)
    (hlanded : Landed view stepId false step) (hfailed : step.status = failed)
    (hknown : EndsKnown view) {now : Rat}
    (hready : Ready config runMode (view.next .time now)
      (plan.entered stepId running "" now) stepId (step.enter running "" now))
    (retries : Retries) :
    Script.wp (runProtocol config runMode) (do
        let ok2 ← runOneStep config stepId runMode true
        let aborted ← checkAbortAndSave
        if aborted then pure (false, retries)
        else if ok2 then pure (true, retries)
        else do
          let goOn ← failOrContinue stepId config.onFail
          pure (goOn, retries)) (PolicyKept stepId plan step)
      (plan.entered stepId running "" now) (view.next .time now) := by
  have hends : (view.next .time now).ends = view.ends := by
    rw [ends_next]
    exact List.append_nil _
  have hattempt := attempt_errorKept.beside (Script.Leaves.along ends_next
    (@attempt_parks config runMode stepId (plan.entered stepId running "" now))
    (wp_outline (wp_grows (wp_attempt hready rfl
      fun _ _ _ haborted hattempted => And.intro haborted hattempted))))
  unfold runOneStep getStep
  rw [Script.wp_bind, Script.wp_run_bind, Plan.getStep_ok _ hready.found]
  refine Script.wp_mono hattempt ?_
  rintro (e | ok2) plan₁ view₁ ⟨⟨⟨⟨⟨haborted, hattempted⟩, hgrows⟩, hviews⟩,
    ends, hlater, hparks⟩, herror⟩
  · exact PolicyKept.error
  obtain ⟨step₁, hget₁, hlanded₁⟩ := hattempted.landed ok2 rfl
  have herror₁ : plan₁.error = plan.error :=
    herror.trans (recomputePlanStatus_error _)
  have hshape : SameShape step step₁ :=
    (h.outline hviews hattempted.steady).steps _ _ _ hget hget₁
  have hverifying : step₁.status = verifying → step.awaitsExternal = true ∧
      LateSuccess view₁.ends stepId := by
    intro hstatus
    obtain ⟨hmode, hext, rfl⟩ := hparks ok2 _ step₁ rfl hready.found hget₁
      hstatus
    have hwaits : step.awaitsExternal = true := by
      simpa [PlanStep.awaitsExternal, hshape.acceptance] using hext
    refine ⟨hwaits, ?_⟩
    rw [hlater, hends]
    apply LateSuccess.of_mem
    rcases hlanded.status with ⟨hok, _⟩ | ⟨_, hparked | ⟨_, hsaw⟩⟩
    · cases hok
    · rw [hfailed] at hparked
      cases hparked
    · rcases hsaw (by simp [PlanStep.gated, hwaits]) with hmem | ⟨hbusiness, _⟩
      · exact hknown stepId hmem
      · exact absurd hbusiness hmode
  dsimp only
  rw [Script.wp_bind]
  refine Script.wp_mono (wp_endsGrow (Script.wp_beside (wp_checkAbortAndSave
    hattempted.steady (hgrows.entered h.entered) fun _ _ _ => id)
      checkAbortAndSave_error)) ?_
  rintro (e | aborted) plan₂ view₂ ⟨⟨hpersisted, hkept, hstopped⟩, hgrow⟩
  · exact PolicyKept.error
  cases aborted with
  | true =>
      exact ⟨fun _ hout => (by cases hout),
        fun _ _ _ => Or.inl (hstopped rfl)⟩
  | false =>
      have hsynced := hpersisted.synced (haborted.trans h.present) rfl
      have herror₂ := (hkept rfl).trans herror₁
      have hget₂ : plan₂.getStep? stepId = some step₁ := by
        simpa only [Plan.getStep?, hpersisted.steps] using hget₁
      have hlanded₂ : Landed view₂ stepId ok2 step₁ := by
        refine hlanded₁.mono ?_ hpersisted.begun
        rw [hpersisted.failed]
        exact fun _ => id
      dsimp only
      rw [if_neg (by decide)]
      cases ok2 with
      | true => exact PolicyKept.same retries herror₂
      | false =>
          rw [if_neg (by decide)]
          refine wp_policy_failed hsynced hget₂ hlanded₂ herror₂ retries
            fun view' hgrow' hnone => ?_
          rcases hlanded₂.status with ⟨hok, _⟩ | ⟨_, hparked | ⟨hlast, _⟩⟩
          · cases hok
          · obtain ⟨hwaits, hlate⟩ := hverifying hparked
            obtain ⟨more, hmore⟩ := hgrow.later
            obtain ⟨rest, hrest⟩ := hgrow'.later
            rw [hmore] at hrest
            refine absurd ?_ (hnone hwaits)
            rw [hrest]
            exact (hlate.append more).append rest
          · exact hlast

theorem wp_handleStepOutcome_error (h : Synced config runMode view plan)
    {ok : Bool} (hget : plan.getStep? stepId = some step)
    (hlanded : Landed view stepId ok step) (hknown : EndsKnown view)
    (retries : Retries) :
    Script.wp (runProtocol config runMode)
      (handleStepOutcome config stepId ok runMode retries)
      (PolicyKept stepId plan step) plan view := by
  have hgoesOn : PolicyKept stepId plan step (.ok (true, retries)) plan view :=
    PolicyKept.same retries rfl
  unfold handleStepOutcome
  cases ok with
  | true => exact hgoesOn
  | false =>
      rw [if_neg (by decide)]
      unfold getStep
      simp only [Script.wp_run_bind, plan.getStep_ok hget]
      split
      case isTrue => exact hgoesOn
      case isFalse hstatus =>
        have hfailed : step.status = failed := not_not.mp hstatus
        split
        case isFalse =>
          exact wp_policy_failed h hget hlanded rfl retries
            fun _ _ _ => hfailed
        case isTrue =>
          rw [Script.wp_bind, wp_enterRunning]
          refine ⟨trivial, fun now _ => ?_⟩
          rcases transition_cases stepId running "" false false now plan with
            ⟨e, he⟩ | ⟨found, hfound, hrefusal, hok⟩
          · rw [he]
            exact PolicyKept.error
          · rw [hget] at hfound
            cases hfound
            have hready := h.readyAgain hget hfailed hlanded.begun now
              (admits_of_refusal hrefusal)
            rw [hok]
            dsimp only
            exact wp_retry_error h hget hlanded hfailed hknown hready _

/-- How the policy on a unit leaves it, unless a late success was parked. -/
structure UnitKept (stepIds : List String) (before : Plan)
    (out : Except PyError (Bool × Retries)) (plan : Plan) (view : RunView) :
    Prop where
  goesOn : ∀ retries, out = .ok (true, retries) → plan.error = before.error
  stops : ∀ retries, out = .ok (false, retries) →
    (∀ stepId ∈ stepIds, ∀ step, before.getStep? stepId = some step →
      step.awaitsExternal = true → ¬LateSuccess view.ends stepId) →
    Halted plan

theorem wp_handleWave_error (outcomes : List (String × Bool))
    (hnodup : (outcomes.map Prod.fst).Nodup) {plan : Plan} {view : RunView}
    (h : Synced config runMode view plan)
    (hlanded : ∀ outcome ∈ outcomes, ∃ step,
      plan.getStep? outcome.1 = some step ∧
        Landed view outcome.1 outcome.2 step)
    (hknown : EndsKnown view) (retries : Retries) :
    Script.wp (runProtocol config runMode)
      (handleWave config runMode outcomes retries)
      (UnitKept (outcomes.map Prod.fst) plan) plan view := by
  induction outcomes generalizing plan view retries with
  | nil => exact ⟨fun _ _ => rfl, fun _ hout => (by cases hout)⟩
  | cons outcome rest ih =>
      obtain ⟨stepId, ok⟩ := outcome
      obtain ⟨hnotMem, hrestNodup⟩ := List.nodup_cons.mp hnodup
      obtain ⟨step, hget, hstep⟩ := hlanded _ List.mem_cons_self
      have hother : ∀ outcome ∈ rest, outcome.1 ≠ stepId := by
        rintro outcome hmem rfl
        exact hnotMem (List.mem_map.mpr ⟨outcome, hmem, rfl⟩)
      rw [handleWave, Script.wp_bind]
      refine Script.wp_mono (Script.wp_and
        (wp_handleStepOutcome_error h hget hstep hknown retries)
        (wp_endsGrow (wp_grows (wp_handleStepOutcome h hget hstep retries
          fun _ _ _ => id)))) ?_
      rintro out plan₁ view₁ ⟨hkept, ⟨hhandled, hgrows⟩, hgrow⟩
      rcases out with e | ⟨_ | _, retries₁⟩
      · exact ⟨fun _ hout => (by cases hout), fun _ hout => (by cases hout)⟩
      · exact ⟨fun _ hout => (by cases hout), fun _ _ hnone =>
          hkept.stops retries₁ rfl (hnone stepId List.mem_cons_self step hget)⟩
      · obtain ⟨hsynced, _⟩ := hhandled.goesOn retries₁ rfl
        have herror := hkept.goesOn retries₁ rfl
        refine Script.wp_mono (ih hrestNodup hsynced ?_ (hgrow.known hknown)
          retries₁) ?_
        · intro outcome hmem
          obtain ⟨step', hget', hstep'⟩ :=
            hlanded outcome (List.mem_cons_of_mem _ hmem)
          refine ⟨step', ?_, hstep'.mono hgrows.failed hgrows.begun⟩
          rw [hhandled.others.same _ (hother outcome hmem), hget']
        · intro out plan₂ view₂ hrest
          refine ⟨fun retries₂ hout => (hrest.goesOn retries₂ hout).trans
            herror, fun retries₂ hout hnone => ?_⟩
          refine hrest.stops retries₂ hout fun other hmem step' hget' => ?_
          obtain ⟨outcome, houtcome, rfl⟩ := List.mem_map.mp hmem
          rw [hhandled.others.same _ (hother outcome houtcome)] at hget'
          exact hnone _ (List.mem_cons_of_mem _ hmem) step' hget'

/-- How an iteration leaves the error of the plan. -/
structure IterationKept (stepIds : List String) (before : Plan)
    (out : Except PyError (Option (Bool × Retries))) (plan : Plan)
    (view : RunView) : Prop where
  goesOn : ∀ retries, out = .ok (some (true, retries)) →
    plan.error = before.error
  stops : ∀ retries, out = .ok (some (false, retries)) →
    (∀ stepId ∈ stepIds, ∀ step, before.getStep? stepId = some step →
      step.awaitsExternal = true → ¬LateSuccess view.ends stepId) →
    Halted plan

theorem IterationKept.left {stepIds : List String} {before : Plan}
    {out : Except PyError (Option (Bool × Retries))}
    (h : ∀ result, out ≠ .ok (some result)) :
    IterationKept stepIds before out plan view :=
  ⟨fun _ hout => absurd hout (h _), fun _ hout => absurd hout (h _)⟩

theorem wp_runUnit_error {unit : List String × Bool}
    (h : Synced config runMode view plan) (hunit : RunnableUnit plan unit)
    (hknown : EndsKnown view) (retries : Retries) :
    Script.wp (runProtocol config runMode)
      (runUnit config runMode unit retries) (IterationKept unit.1 plan) plan
      view := by
  have hattempt := attemptUnit_errorKept unit |>.beside (wp_outline
    (wp_endsGrow (wp_grows (wp_attemptUnit h hunit
      fun _ _ _ hpresent hdone => And.intro hpresent hdone))))
  unfold runUnit
  rw [Script.wp_bind]
  refine Script.wp_mono hattempt ?_
  rintro (e | outcomes) plan₁ view₁ ⟨⟨⟨⟨⟨hpresent, hdone⟩, hgrows⟩, hgrow⟩,
    hviews⟩, herror⟩
  · exact .left fun _ hout => (by cases hout)
  have hids := hdone.ids outcomes rfl
  dsimp only
  rw [Script.wp_bind]
  refine Script.wp_mono (wp_outline (wp_endsGrow (Script.wp_beside
    (wp_checkAbortAndSave hdone.steady (hgrows.entered h.entered)
      fun _ _ _ => id) checkAbortAndSave_error))) ?_
  rintro (e | aborted) plan₂ view₂ ⟨⟨⟨hpersisted, hkept, _⟩, hgrow₂⟩, hviews₂⟩
  · exact .left fun _ hout => (by cases hout)
  cases aborted with
  | true => exact .left fun _ hout => (by cases hout)
  | false =>
      have hsynced := hpersisted.synced hpresent rfl
      have houtline : SameOutline plan plan₂ :=
        h.outline (hviews.trans hviews₂) hsynced.toSteady
      dsimp only
      rw [if_neg (by decide), Script.wp_bind]
      refine Script.wp_mono (wp_handleWave_error outcomes
        (hids ▸ hunit.nodup) hsynced ?_ (hgrow₂.known (hgrow.known hknown))
        retries) ?_
      · intro outcome hmem
        obtain ⟨step, hstep, hlanded⟩ := hdone.landed outcomes rfl outcome hmem
        refine ⟨step, ?_, hlanded.mono ?_ hpersisted.begun⟩
        · simpa only [Plan.getStep?, hpersisted.steps] using hstep
        · rw [hpersisted.failed]
          exact fun _ => id
      · rintro (e | result) plan₃ view₃ hunitKept
        · exact .left fun _ hout => (by cases hout)
        · refine ⟨fun after hout => ?_, fun after hout hnone => ?_⟩
          · cases hout
            exact (hunitKept.goesOn after rfl).trans ((hkept rfl).trans herror)
          · cases hout
            apply hunitKept.stops after rfl
            intro stepId hmem step hget hext
            rw [hids] at hmem
            obtain ⟨first, hfirst, _⟩ := hunit.startable stepId hmem
            have hshape := houtline.steps _ _ _ hfirst hget
            apply hnone stepId hmem first hfirst
            simpa [PlanStep.awaitsExternal, hshape.acceptance] using hext

end Policy

section Loop

variable {config : RunnerConfig} {runMode : String} {plan : Plan}
  {view : RunView}

/-- No parked step was called with success after a failed call of it. -/
def Unlate (plan : Plan) (ends : List (String × Bool)) : Prop :=
  ∀ stepId step, plan.getStep? stepId = some step →
    step.awaitsExternal = true → ¬LateSuccess ends stepId

theorem Unlate.outline {plan' : Plan} {ends : List (String × Bool)}
    (h : Unlate plan ends) (houtline : SameOutline plan plan') :
    Unlate plan' ends := by
  intro stepId step' hget' hext
  have hmem : stepId ∈ plan.ids := by
    rw [← houtline.ids, ← plan'.getStep?_id hget']
    exact List.mem_map_of_mem (plan'.getStep?_mem hget')
  obtain ⟨step, hget⟩ := plan.exists_getStep? hmem
  have hshape := houtline.steps _ _ _ hget hget'
  apply h stepId step hget
  simpa [PlanStep.awaitsExternal, hshape.acceptance] using hext

theorem startable_of_steps {plan' : Plan} (h : plan'.steps = plan.steps)
    (stepId : String) : Startable plan' stepId ↔ Startable plan stepId := by
  simp only [Startable, DepsVerified, Plan.statusOf, Plan.getStep?, h]

/-- How the loop leaves the error of the plan and its open steps. -/
structure LoopKept (before : Plan) (out : Except PyError LoopExit)
    (plan : Plan) (view : RunView) : Prop where
  parked : out = .ok .inFlight → plan.error = before.error ∧
    ∀ stepId, ¬Startable plan stepId
  stops : out = .ok .stopped → Unlate before view.ends → Halted plan

theorem LoopKept.left {before : Plan} {out : Except PyError LoopExit}
    (hparked : out ≠ .ok .inFlight) (hstopped : out ≠ .ok .stopped) :
    LoopKept before out plan view :=
  ⟨fun hout => absurd hout hparked, fun hout => absurd hout hstopped⟩

theorem wp_leaveLoop_error {before : Plan}
    (hnone : ∀ stepId, ¬Startable plan stepId)
    (herror : plan.error = before.error)
    {P : Protocol PlanOp PlanReply RunView} :
    Script.wp P leaveLoop (LoopKept before) plan view := by
  unfold leaveLoop
  rw [Script.wp_read_bind]
  split
  · exact .left (by simp) (by simp)
  split
  · refine ⟨fun _ => ⟨?_, fun stepId => ?_⟩, fun hout => (by cases hout)⟩
    · rw [recomputePlanStatus_error, herror]
    · rw [startable_of_steps (recomputePlanStatus_steps plan)]
      exact hnone stepId
  split
  · exact .left (by simp) (by simp)
  · exact .left (by simp) (by simp)

theorem wp_runLoop_error (timeout : Option Timeout) (t0 : Rat) (n : Nat)
    {plan : Plan} {view : RunView} (h : Synced config runMode view plan)
    (hknown : EndsKnown view) (retries : Retries) :
    Script.wp (runProtocol config runMode)
      (runLoop config runMode timeout t0 n retries) (LoopKept plan) plan
      view := by
  induction n generalizing plan view retries with
  | zero => exact .left (by simp) (by simp)
  | succ n ih =>
      rw [runLoop, Script.wp_read_bind,
        if_neg (h.evolves.aborted.status_ne h.present), Script.wp_bind]
      have hcheck : Script.wp (runProtocol config runMode)
          externalAbortRequested (fun out plan' view' => ∃ found,
            out = .ok found ∧ AbortChecked config runMode plan view found plan'
              view') plan view :=
        wp_externalAbortRequested h.toSteady h.entered
          fun found _ _ hchecked => ⟨found, rfl, hchecked⟩
      refine Script.wp_mono (wp_endsGrow (Script.wp_beside hcheck
        externalAbortRequested_error)) ?_
      rintro _ plan₁ view₁ ⟨⟨⟨found, rfl, hchecked⟩, hsame, _⟩, hgrow⟩
      dsimp only
      cases found with
      | true => exact .left (by simp) (by simp)
      | false =>
          rw [if_neg (by decide), Script.wp_bind]
          have hsynced₁ := hchecked.synced h
          have htimeout : Script.wp (runProtocol config runMode)
              (timeoutReached timeout t0) (fun out plan' view' =>
                plan' = plan₁ ∧ (∃ reached, out = .ok reached) ∧
                  Synced config runMode view' plan₁) plan₁ view₁ :=
            wp_timeoutReached timeout t0 fun reached _ hsilent _ =>
              ⟨rfl, ⟨reached, rfl⟩, hsynced₁.silent hsilent⟩
          refine Script.wp_mono (wp_endsGrow htimeout) ?_
          rintro _ plan₁ view₂ ⟨⟨rfl, ⟨reached, rfl⟩, hsynced⟩, hgrow₂⟩
          dsimp only
          cases reached with
          | true => exact .left (by simp) (by simp)
          | false =>
              have hknown₂ := hgrow₂.known (hgrow.known hknown)
              rw [if_neg (by decide), Script.wp_run_bind]
              obtain ⟨runnable, hrun⟩ := runnableSteps_ok hsynced.wf
              rw [hrun]
              dsimp only
              have hunlate : ∀ ends, Unlate plan ends → Unlate plan₁ ends :=
                fun ends hnone =>
                  hnone.outline (SameOutline.of_steps hchecked.steps)
              by_cases hnil : runnable = []
              · rw [if_pos hnil]
                refine wp_leaveLoop_error (fun stepId hstart => ?_) (hsame rfl)
                rw [← mem_runnableSteps hsynced.wf hrun, hnil] at hstart
                exact List.not_mem_nil hstart
              · rw [if_neg hnil, Script.wp_read_bind, Script.wp_bind]
                have hunit := nextUnit_runnable config hsynced.wf hrun hnil
                refine Script.wp_mono (Script.wp_and (wp_runUnit_error hsynced
                  hunit hknown₂ retries) (wp_outline (wp_endsGrow (wp_runUnit
                    hsynced hunit retries fun _ _ _ => id)))) ?_
                rintro out plan₃ view₃ ⟨hkept, ⟨hiterated, hgrow₃⟩, hviews⟩
                rcases out with e | _ | ⟨_ | _, retries₃⟩
                · exact .left (by simp) (by simp)
                · exact .left (by simp) (by simp)
                · refine ⟨fun hout => (by cases hout), fun _ hnone => ?_⟩
                  exact hkept.stops retries₃ rfl fun stepId _ step hget =>
                    hunlate _ hnone stepId step hget
                · obtain ⟨hsynced₃, _⟩ := hiterated.goesOn retries₃ rfl
                  have houtline : SameOutline plan₁ plan₃ :=
                    hsynced.outline hviews hsynced₃.toSteady
                  refine Script.wp_mono (ih hsynced₃ (hgrow₃.known hknown₂)
                    retries₃) fun out plan₄ view₄ hlater => ?_
                  refine ⟨fun hout => ?_, fun hout hnone => ?_⟩
                  · obtain ⟨herror, hclosed⟩ := hlater.parked hout
                    refine ⟨?_, hclosed⟩
                    rw [herror, hkept.goesOn retries₃ rfl, hsame rfl]
                  · exact hlater.stops hout ((hunlate _ hnone).outline houtline)

end Loop

section Run

variable {config : RunnerConfig} {runMode : String} {plan : Plan}
  {view : RunView}

@[simp] theorem finalStatus_error : (finalStatus plan).error = plan.error := by
  unfold finalStatus
  dsimp only
  split
  · exact recomputePlanStatus_error plan
  split
  · exact recomputePlanStatus_error plan
  split
  · exact recomputePlanStatus_error plan
  · exact recomputePlanStatus_error plan

/-- The result shows the plan as left; its error changes only by a timeout. -/
structure Closed (exit : LoopExit) (left : Plan) (result : PlanRunResult) :
    Prop where
  leftAt : result.exit = exit
  steps : result.plan.steps = left.steps
  status : result.plan.status = (finalStatus left).status
  error : exit ≠ .timedOut → result.error = left.error

theorem closeRun_closed (timeout : Option Timeout) (t0 : Rat)
    (exit : LoopExit) : Script.wp (Script.kind fun _ => True)
      (closeRun timeout t0 exit) (fun out _ _ => ∀ result,
        out = .ok result → Closed exit plan result) plan () := by
  unfold closeRun
  rw [Script.wp_read_bind, Script.wp_update_bind, Script.wp_update_bind,
    Script.wp_bind]
  have hraised : ∀ {e : PyError} (result : PlanRunResult),
      (.error e : Except PyError PlanRunResult) = .ok result →
        Closed exit plan result := fun _ hout => by cases hout
  refine wp_save trivial (fun _ _ _ => hraised) (fun _ _ => trivial) ?_
  rintro now (e | u) _ _
  · exact hraised
  · refine ⟨trivial, fun t1 _ result hout => ?_⟩
    cases hout
    refine ⟨rfl, ?_, finalStatus_timeoutError timeout exit, fun hne => ?_⟩
    · change (finalStatus (timeoutError timeout exit plan)).steps = _
      simp
    · change (finalStatus (timeoutError timeout exit plan)).error = _
      rw [finalStatus_error]
      cases timeout with
      | none => rfl
      | some limit =>
          rw [timeoutError, if_neg (fun hlate => hne hlate.1)]

/-- How a run leaves the error of its plan. -/
structure RunKept (before : Plan) (ends : List (String × Bool))
    (result : PlanRunResult) : Prop where
  closed : ∃ left, Closed result.exit left result
  parked : result.exit = .inFlight → result.error = before.error ∧
    ∀ stepId, ¬Startable result.plan stepId
  stops : result.exit = .stopped → Unlate before ends →
    result.plan.status = .aborted ∨ ∃ stepId step,
      result.plan.getStep? stepId = some step ∧ step.status = failed ∧
        result.error = orElse step.error ("step " ++ stepId ++ " failed")

theorem wp_guardedLoop_error (timeout : Option Timeout) (t0 : Rat)
    (h : Synced config runMode view plan) (hknown : EndsKnown view) :
    Script.wp (runProtocol config runMode)
      (guardedLoop config runMode timeout t0) (LoopKept plan) plan view := by
  unfold guardedLoop
  rw [Script.wp_read_bind, Script.wp_handle]
  refine Script.wp_mono (wp_runLoop_error timeout t0 _ h hknown _) ?_
  rintro (e | exit) plan' view' hkept
  · exact .left (by simp) (by simp)
  · exact hkept

section

variable {exit : LoopExit} {left : Plan} {result : PlanRunResult}
  (h : Closed exit left result)
include h

theorem Closed.statuses :
    result.plan.statuses = left.statuses := by
  simp only [Plan.statuses, h.steps]

theorem Closed.startable (stepId : String) :
    Startable result.plan stepId ↔ Startable left stepId :=
  startable_of_steps h.steps stepId

end

theorem Closed.kept {before left : Plan} {ends : List (String × Bool)}
    {exit : LoopExit} {result : PlanRunResult} (h : Closed exit left result)
    (hends : ∃ later, ends = view.ends ++ later)
    (hkept : LoopKept before (.ok exit) left view) :
    RunKept before ends result := by
  have hexit := h.leftAt
  subst hexit
  refine ⟨⟨left, h⟩, fun hflight => ?_, fun hstopped hnone => ?_⟩
  · obtain ⟨herror, hclosed⟩ := hkept.parked (by rw [hflight])
    rw [h.error (by rw [hflight]; decide)]
    exact ⟨herror, fun stepId hstart =>
      hclosed stepId ((h.startable stepId).mp hstart)⟩
  · obtain ⟨later, rfl⟩ := hends
    have hbefore : Unlate before view.ends := fun stepId step hget hext hlate =>
      hnone stepId step hget hext (hlate.append later)
    rw [h.error (by rw [hstopped]; decide)]
    rcases hkept.stops (by rw [hstopped]) hbefore with haborted |
      ⟨stepId, step, hget, hfailed, herror⟩
    · left
      rw [h.status]
      exact finalStatus_aborted.mpr haborted
    · refine Or.inr ⟨stepId, step, ?_, hfailed, herror⟩
      simpa only [Plan.getStep?, h.steps] using hget

theorem LoopKept.outline {before opened : Plan}
    {out : Except PyError LoopExit} (h : LoopKept opened out plan view)
    (houtline : SameOutline before opened)
    (herror : opened.error = before.error) : LoopKept before out plan view :=
  ⟨fun hout => ⟨(h.parked hout).1.trans herror, (h.parked hout).2⟩,
    fun hout hnone => h.stops hout (hnone.outline houtline)⟩

theorem wp_run_error (mode cwd : String) (timeout : Option Timeout)
    (before : Plan) : Script.wp (runProtocol config (config.runMode mode))
      (run config mode cwd timeout) (fun out _ view => ∀ result,
        out = .ok result → RunKept before view.ends result) before
      { plan := before } := by
  unfold run
  rw [Script.wp_ask_bind]
  refine ⟨trivial, fun (t0 : Rat) _ => ?_⟩
  have hraised : ∀ {e : PyError} {view : RunView} (result : PlanRunResult),
      (.error e : Except PyError PlanRunResult) = .ok result →
        RunKept before view.ends result := fun _ hout => by cases hout
  have hstart : EndsKnown (RunView.next { plan := before } .monotonic t0) :=
    fun _ hmem => absurd hmem List.not_mem_nil
  refine Script.wp_seq ((errorKept.openRun saved_errorKept cwd).beside (wp_outline
    (wp_endsGrow (openRun_synced (config.runMode mode) cwd t0 before)))) ?_
    fun _ _ _ _ => hraised
  rintro u opened view ⟨⟨⟨hopened, hgrow⟩, hviews⟩, herror⟩
  have hsynced := hopened u rfl
  have houtline : SameOutline before opened :=
    SameOutline.trans hviews hsynced.evolves.outline
  have hloop : Script.wp (runProtocol config (config.runMode mode))
      (guardedLoop config (config.runMode mode) timeout t0)
      (fun out left view' => ∀ exit, out = .ok exit →
        Steady config (config.runMode mode) view' left ∧
          ExitKnown timeout left view' exit) opened view := by
    refine wp_guardedLoop timeout t0 hsynced ?_
    rintro exit left view' hsteady hknown _ hout
    cases hout
    exact ⟨hsteady, hknown⟩
  refine Script.wp_seq (Script.wp_and hloop (wp_guardedLoop_error timeout t0
    hsynced (hgrow.known hstart))) ?_ fun _ _ _ _ => hraised
  rintro exit left view' ⟨hleft, hkept⟩
  obtain ⟨hsteady, hknown⟩ := hleft exit rfl
  have hclose : Script.wp (runProtocol config (config.runMode mode))
      (closeRun timeout t0 exit) (fun _ _ _ => True) left view' :=
    wp_closeRun t0 hsteady hknown (fun _ _ _ _ => trivial)
      fun _ _ _ _ => trivial
  refine Script.wp_mono (wp_endsGrow (Script.wp_beside hclose
    (closeRun_closed timeout t0 exit))) ?_
  rintro out plan' view'' ⟨⟨_, hclosed⟩, hends⟩ result hout
  exact (hclosed result hout).kept hends.later (hkept.outline houtline herror)

end Run

/-- A parked step: a pause has no error and nothing to start, and only another
step stops or fails the run. -/
structure Harmless (before : Plan) (result : PlanRunResult) (stepId : String) :
    Prop where
  exit : result.exit ∈ [LoopExit.inFlight, .stopped, .aborted, .timedOut,
    .crashed]
  status : result.plan.status = .failed → ∃ other, other ≠ stepId ∧
    result.plan.statusOf other = some failed
  paused : result.exit = .inFlight → result.error = before.error ∧
    ∀ other, ¬Startable result.plan other
  stopped : result.exit = .stopped → result.plan.status = .aborted ∨
    ∃ other step, other ≠ stepId ∧ result.plan.getStep? other = some step ∧
      step.status = failed ∧
      result.error = orElse step.error ("step " ++ other ++ " failed")

section Harm

variable {before : Plan} {result : PlanRunResult} {stepId : String}

theorem statusFor_verifying {statuses : List StepStatus}
    (h : verifying ∈ statuses) : statusFor statuses = .running := by
  have hne : statuses ≠ [] := List.ne_nil_of_mem h
  have hall : ¬statuses.all (fun s => s ∈ [verified, skipped]) = true := by
    intro hall
    have := List.all_eq_true.mp hall verifying h
    exact absurd this (by decide)
  have hany : statuses.any inFlight = true :=
    List.any_eq_true.mpr ⟨verifying, h, by decide⟩
  rw [statusFor, if_neg hne, if_neg hall, if_pos hany]

theorem mem_statuses {status : StepStatus}
    (h : result.plan.statusOf stepId = some status) :
    status ∈ result.plan.statuses := by
  obtain ⟨step, hget, rfl⟩ := Option.map_eq_some_iff.mp h
  exact List.mem_map_of_mem (result.plan.getStep?_mem hget)

theorem other_of_status {other : String} {status : StepStatus}
    (hparked : result.plan.statusOf stepId = some verifying)
    (hother : result.plan.statusOf other = some status)
    (hne : status ≠ verifying) : other ≠ stepId := by
  rintro rfl
  rw [hparked] at hother
  exact hne (Option.some.inj hother).symm

theorem exit_of_parked {timeout : Option Timeout} {view : RunView}
    {left : Plan} (hverifying : verifying ∈ left.statuses) {exit : LoopExit}
    (hknown : ExitKnown timeout left view exit) : exit ∈ [LoopExit.inFlight,
      .stopped, .aborted, .timedOut, .crashed] := by
  have hterminal : allStepsTerminal left ≠ true := by
    intro hall
    obtain ⟨step, hmem, hstatus⟩ := List.mem_map.mp hverifying
    have := List.all_eq_true.mp hall step hmem
    rw [hstatus] at this
    exact absurd this (by decide)
  have hflight : left.statuses.any inFlight ≠ false := by
    intro hnone
    have := List.any_eq_false.mp hnone verifying hverifying
    exact this (by decide)
  cases exit with
  | allTerminal => exact absurd hknown.2 hterminal
  | blocked => exact absurd hknown.1 hflight
  | drained => exact absurd hknown.2.2.1 hflight
  | outOfFuel => exact hknown.elim
  | inFlight | stopped | aborted | timedOut | crashed => simp

theorem failed_of_status {left : Plan} (h : Closed result.exit left result)
    (hparked : result.plan.statusOf stepId = some verifying)
    (hfailed : result.plan.status = .failed) :
    failed ∈ result.plan.statuses := by
  have hrunning : statusFor left.statuses = .running :=
    statusFor_verifying (h.statuses ▸ mem_statuses hparked)
  rw [h.status, finalStatus_status, hrunning] at hfailed
  rw [h.statuses]
  by_contra hnone
  by_cases haborted : left.status = .aborted
  · rw [if_pos haborted] at hfailed
    cases hfailed
  · rw [if_neg haborted, if_neg (by decide), if_neg hnone] at hfailed
    cases hfailed

theorem RunKept.harmless {ends : List (String × Bool)}
    (h : RunKept before ends result) (hnone : Unlate before ends)
    (hexit : result.exit ∈ [LoopExit.inFlight, .stopped, .aborted, .timedOut,
      .crashed]) (hnodup : result.plan.ids.Nodup)
    (hparked : result.plan.statusOf stepId = some verifying) :
    Harmless before result stepId := by
  obtain ⟨left, hclosed⟩ := h.closed
  refine ⟨hexit, fun hfailed => ?_, h.parked, fun hstopped => ?_⟩
  · obtain ⟨step, hmem, hstatus⟩ :=
      List.mem_map.mp (failed_of_status hclosed hparked hfailed)
    have hother : result.plan.statusOf step.id = some failed := by
      rw [Plan.statusOf, result.plan.getStep?_of_mem hnodup hmem]
      exact congrArg some hstatus
    exact ⟨step.id, other_of_status hparked hother (by decide), hother⟩
  · refine (h.stops hstopped hnone).imp_right ?_
    rintro ⟨other, step, hget, hfailed, herror⟩
    have hother : result.plan.statusOf other = some failed := by
      rw [Plan.statusOf, hget]
      exact congrArg some hfailed
    exact ⟨other, step, other_of_status hparked hother (by decide), hget,
      hfailed, herror⟩

end Harm

/-- Where no parked step succeeds after a failed call, parking does no harm. -/
theorem parking_harmless (config : RunnerConfig) (mode cwd : String)
    (timeout : Option Timeout) (before : Plan) (oracle : Nat → PlanOracle)
    {result : PlanRunResult} {after : Plan} {ends : List (String × Bool)}
    (hrun : (run config mode cwd timeout before).exec (noted seeEnds) oracle 0
      [] = ((.ok result, after), ends))
    (hnone : Unlate before ends) {stepId : String}
    (hparked : result.plan.statusOf stepId = some verifying) :
    Harmless before result stepId := by
  have hreported : Script.wp (runProtocol config (config.runMode mode))
      (run config mode cwd timeout) (fun out _ view => ∀ result,
        out = .ok result → result.plan.ids.Nodup ∧
          (verifying ∈ result.plan.statuses → result.exit ∈
            [LoopExit.inFlight, .stopped, .aborted, .timedOut, .crashed]))
      before { plan := before } := by
    apply wp_run
    · exact fun _ _ _ _ _ hout => (by cases hout)
    · rintro result plan view hreported _ hout
      cases hout
      rw [hreported.returned]
      refine ⟨hreported.steady.wf.nodup, fun hmem => ?_⟩
      rw [Plan.statuses, hreported.steps] at hmem
      exact exit_of_parked hmem hreported.known
  obtain ⟨view, hends, hkept, hresult⟩ := Prog.exec_of_wp (noted seeEnds)
    oracle (fun notes (view : RunView) => notes = view.ends)
    (fun n _ view op hnotes _ => ⟨trivial, by
      rw [hnotes]
      exact (ends_next view op (oracle n op)).symm⟩) _ 0 [] rfl
    (Script.wp_and (wp_run_error mode cwd timeout before) hreported)
  rw [hrun] at hends hkept hresult
  have hnone' : Unlate before view.ends := hends ▸ hnone
  obtain ⟨hnodup, hexit⟩ := hresult result rfl
  exact (hkept result rfl).harmless hnone' (hexit (mem_statuses hparked))
    hnodup hparked

namespace ParkingWitness

def retrying : RunnerConfig :=
  { defaultOnVerifyFail := "retry", maxParallelNodes := 1 }

def reviewed : Plan :=
  { planId := "p"
    steps :=
      [{ id := "a", acceptance := [{ type := "human_review" }] },
        { id := "b" }] }

def failing (start n : Nat) : PlanOracle :=
  calm { success := decide (start ≤ n), output := "done" }

def calmly : (Except PyError PlanRunResult × Plan) × List (String × Bool) :=
  (run retrying "active" "" none reviewed).exec (noted seeEnds) (failing 0) 0 []

def stumbling : (Except PyError PlanRunResult × Plan) ×
    List (String × Bool) :=
  (run retrying "active" "" none reviewed).exec (noted seeEnds) (failing 11) 0
    []

/-- The review is pending at the end, and the other step is done. -/
theorem review_pending : ∃ result after, calmly.1 = (.ok result, after) ∧
    result.plan.statusOf "b" = some verified ∧
      Harmless reviewed result "a" := by
  obtain ⟨result, after, hrun, hresult⟩ := exists_result
    (show calmly.1.1.toOption.map (fun result =>
        (result.plan.statusOf "a", result.plan.statusOf "b")) =
      some (some verifying, some verified) by decide +kernel)
  obtain ⟨hparked, hdone⟩ := Prod.mk.inj hresult
  have hall : calmly = ((.ok result, after), calmly.2) :=
    RetryBudgetWitness.eq_pair hrun
  have hends : calmly.2 = [("a", true), ("b", true)] := by decide +kernel
  have hnone : Unlate reviewed calmly.2 := by
    intro stepId _ _ _ hlate
    have hmem := hlate.subset List.mem_cons_self
    rw [hends] at hmem
    simp at hmem
  exact ⟨result, after, hrun, hdone, parking_harmless retrying "active" "" none
    reviewed (failing 0) hall hnone hparked⟩

/-- The retry of the review succeeds, and the run stops with an error for it. -/
theorem parked_retry_stops : validate reviewed = .ok () ∧
    ∃ result after, stumbling.1 = (.ok result, after) ∧
      result.plan.statusOf "a" = some verifying ∧
      result.plan.statusOf "b" = some pending ∧
      result.error = "step a failed" ∧ ¬Harmless reviewed result "a" := by
  obtain ⟨result, after, hrun, hresult⟩ := exists_result
    (show stumbling.1.1.toOption.map (fun result => ((result.exit,
        result.plan.status), result.error, result.plan.statuses)) =
      some ((.stopped, .running), "step a failed", [verifying, pending]) by
      decide +kernel)
  have hsteps : stumbling.1.1.toOption.map (fun result =>
      (result.plan.statusOf "a", result.plan.statusOf "b")) =
        some (some verifying, some pending) := by decide +kernel
  rw [hrun] at hsteps
  obtain ⟨hparked, hpending⟩ := Prod.mk.inj (Option.some.inj hsteps)
  simp only [Prod.mk.injEq] at hresult
  obtain ⟨⟨hexit, hstatus⟩, herror, hstatuses⟩ := hresult
  refine ⟨by decide, result, after, hrun, hparked, hpending, herror, ?_⟩
  intro hharmless
  rcases hharmless.stopped hexit with haborted | ⟨other, step, _, hget, hfailed,
    _⟩
  · rw [hstatus] at haborted
    cases haborted
  · have hmem : failed ∈ result.plan.statuses := by
      rw [← hfailed]
      exact List.mem_map_of_mem (result.plan.getStep?_mem hget)
    rw [hstatuses] at hmem
    exact absurd hmem (by decide)

end ParkingWitness

end Voly
