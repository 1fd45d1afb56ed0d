/-
The run loop keeps the run protocol: the abort check, the policies, and one
iteration.
-/
import Voly.Plan.Wave

namespace Voly

open Python Interaction StepStatus

section RunLoop

variable {config : RunnerConfig} {runMode : String} {view : RunView}
  {plan : Plan}

/-- The persisted status was looked at. -/
structure AbortChecked (config : RunnerConfig) (runMode : String)
    (before : Plan) (beforeView : RunView) (found : Bool) (plan : Plan)
    (view : RunView) : Prop where
  steady : Steady config runMode view plan
  watching : Watching beforeView view
  steps : plan.steps = before.steps
  abort : found = true → view.aborted = true ∧ plan.status = .aborted
  noAbort : found = false → view.aborted = beforeView.aborted

theorem wp_externalAbortRequested (h : Steady config runMode view plan)
    (hentered : view.entered = true)
    {Q : Except PyError Bool → Plan → RunView → Prop}
    (hQ : ∀ found plan' view',
      AbortChecked config runMode plan view found plan' view' →
      Q (.ok found) plan' view') :
    Script.wp (runProtocol config runMode) externalAbortRequested Q plan
      view := by
  have hnone : ∀ view', Silent view view' → Q (.ok false) plan view' :=
    fun view' hsilent => hQ _ _ _ ⟨h.silent hsilent, hsilent.toWatching, rfl,
      fun hfound => (by cases hfound), fun _ => hsilent.aborted⟩
  unfold externalAbortRequested
  rw [Script.wp_read_bind, Script.wp_bind, Script.wp_handle]
  have hsilent : ∀ reply,
      Exchange.showsAbort ⟨.load plan.planId, reply⟩ = false →
      Silent view (view.next (.load plan.planId) reply) :=
    fun reply => next_silent view (.load plan.planId) reply trivial
  refine wp_storeLoad (fun _ => hnone view Silent.rfl)
    (fun _ => ⟨h.evolves.planId, hentered⟩) ?_
  rintro (e | _ | fresh) hpath _
  · exact hnone _ (hsilent _ rfl)
  · exact hnone _ (hsilent _ rfl)
  · dsimp only
    split
    case isTrue haborted =>
      have hwatch : Watching view (view.next (.load plan.planId)
          (.ok (some fresh))) := next_watching view
        (.load plan.planId) (.ok (some fresh)) trivial
      have hseen : (view.next (.load plan.planId)
          (.ok (some fresh))).aborted = true := by
        simp [RunView.next, Exchange.showsAbort, haborted]
      refine hQ _ _ _ ⟨⟨h.wf.of_steps rfl rfl,
        h.evolves.of_abort hwatch hseen _, h.gate.of_steps rfl hwatch.begun,
        hwatch.live.trans h.live, fun _ => hpath⟩, hwatch, rfl,
        fun _ => ⟨hseen, rfl⟩, fun hfound => (by cases hfound)⟩
    case isFalse haborted =>
      refine hnone _ (hsilent _ ?_)
      simp [Exchange.showsAbort, haborted]

/-- The abort check and the save after an attempt. -/
structure Persisted (config : RunnerConfig) (runMode : String)
    (before : Plan) (beforeView : RunView) (out : Except PyError Bool)
    (plan : Plan) (view : RunView) : Prop where
  steady : Steady config runMode view plan
  steps : plan.steps = before.steps
  failed : view.failed = beforeView.failed
  begun : ∀ i ∈ beforeView.begun, i ∈ view.begun
  fault : ∀ e, out = .error e → view.aborted = true → view.broken = true
  synced : beforeView.aborted = false → out = .ok false →
    Synced config runMode view plan
  aborted : out = .ok true → view.aborted = true

theorem wp_checkAbortAndSave (h : Steady config runMode view plan)
    (hentered : view.entered = true)
    {Q : Except PyError Bool → Plan → RunView → Prop}
    (hQ : ∀ out plan' view',
      Persisted config runMode plan view out plan' view' →
      Q out plan' view') :
    Script.wp (runProtocol config runMode) checkAbortAndSave Q plan view := by
  unfold checkAbortAndSave
  rw [Script.wp_bind]
  refine wp_externalAbortRequested h hentered fun found plan₁ view₁ hchecked => ?_
  dsimp only
  rw [Script.wp_bind]
  refine wp_storeSave hchecked.steady fun out plan₂ view₂ hsaved => ?_
  obtain ⟨updatedAt, createdAt, hstamped⟩ := hsaved.stamped
  have hsteps : plan₂.steps = plan.steps := by
    rw [hstamped]
    exact hchecked.steps
  have hfailed : view₂.failed = view.failed :=
    hsaved.failed.trans hchecked.watching.failed
  have hbegun : ∀ i ∈ view.begun, i ∈ view₂.begun := by
    intro i hi
    apply hsaved.begun
    rw [hchecked.watching.begun]
    exact hi
  cases out with
  | error e =>
      exact hQ _ _ _ ⟨hsaved.steady, hsteps, hfailed, hbegun,
        fun _ _ => hsaved.fault e rfl, fun _ hout => (by cases hout),
        fun hout => (by cases hout)⟩
  | ok u =>
      refine hQ _ _ _ ⟨hsaved.steady, hsteps, hfailed, hbegun,
        fun _ hout => (by cases hout), ?_, ?_⟩
      · intro hpresent hout
        cases hout
        obtain ⟨hplan, _, _, hentered'⟩ := hsaved.seen rfl
        refine { toSteady := hsaved.steady, steps := ?_, present := ?_,
                 entered := hentered' }
        · rw [hplan]
        · rw [hsaved.aborted, hchecked.noAbort rfl]
          exact hpresent
      · intro hout
        cases hout
        rw [hsaved.aborted]
        exact (hchecked.abort rfl).1

/-- The policy was applied to a step: a run that goes on has dealt with it. -/
structure Handled (config : RunnerConfig) (runMode : String)
    (stepId : String) (before : Plan) (out : Except PyError (Bool × Retries))
    (plan : Plan) (view : RunView) : Prop where
  steady : Steady config runMode view plan
  others : OnlyStep stepId before plan
  fault : ∀ e, out = .error e → view.aborted = true → view.broken = true
  goesOn : ∀ retries, out = .ok (true, retries) →
    Synced config runMode view plan ∧ ∃ step,
      plan.getStep? stepId = some step ∧ step.status ∈ [verifying, verified]

variable {stepId : String} {step : PlanStep}

theorem Handled.raised {before : Plan}
    (hsteady : Steady config runMode view plan)
    (hothers : OnlyStep stepId before plan)
    (hfault : view.aborted = true → view.broken = true) (e : PyError) :
    Handled config runMode stepId before (.error e) plan view :=
  ⟨hsteady, hothers, fun _ _ => hfault, fun _ hout => (by cases hout)⟩

theorem Synced.no_fault (h : Synced config runMode view plan) :
    view.aborted = true → view.broken = true := fun haborted =>
  absurd (h.present.symm.trans haborted) (by decide)

theorem Handled.stops {before : Plan}
    (hsteady : Steady config runMode view plan)
    (hothers : OnlyStep stepId before plan) (retries : Retries) :
    Handled config runMode stepId before (.ok (false, retries)) plan view :=
  ⟨hsteady, hothers, fun _ hout => (by cases hout),
    fun _ hout => (by cases hout)⟩

/-- The failure that the policy `continue` forces open is one that was seen. -/
theorem Landed.forced (h : Landed view stepId false step)
    (hstatus : step.status = .failed) (hid : step.id = stepId)
    (hpolicy : config.onFail = "continue") {step' : PlanStep}
    (hshape : SameShape step step') :
    Opened config runMode view step' := by
  refine .forced hpolicy fun hgated => ?_
  rw [hshape.gated] at hgated
  rcases h.status with ⟨hok, _⟩ | ⟨_, hverifying | ⟨_, hsaw⟩⟩
  · cases hok
  · rw [hverifying] at hstatus
    cases hstatus
  · rw [hshape.id, hid]
    refine (hsaw hgated).imp_right fun hbusiness => ?_
    rw [hshape.mode]
    exact hbusiness

section

variable (h : Synced config runMode view plan)
  (hget : plan.getStep? stepId = some step)
include h hget

theorem wp_failOrContinue (hlanded : Landed view stepId false step)
    (retries : Retries) {Q : Except PyError Bool → Plan → RunView → Prop}
    (hQ : ∀ out plan' view',
      Handled config runMode stepId plan (out.map fun ok => (ok, retries))
        plan' view' → Q out plan' view') :
    Script.wp (runProtocol config runMode)
      (failOrContinue stepId config.onFail) Q plan view := by
  unfold failOrContinue getStep
  simp only [Script.wp_run_bind, plan.getStep_ok hget]
  split
  case isTrue hforce =>
    have hid := plan.getStep?_id hget
    have hworked : ∀ step', SameShape step step' →
        step'.status = verified →
        Worked config runMode view plan step step' := by
      intro step' hshape hstatus
      refine ⟨hshape, by rw [hforce.2]; decide, by rw [hstatus]; decide,
        Or.inl ((h.gate.deps stepId hlanded.begun step hget).of_shape hshape),
        Or.inr (Or.inr ?_),
        fun _ => hlanded.forced hforce.2 hid hforce.1 hshape⟩
      rw [hshape.id, hid]
      exact hlanded.begun
    have hshape := enter_shape verified "" 0
    have hseen := (h.getStep? stepId).trans hget
    have hnot : step.status = verified →
        (step.enter verified "" 0).status = verified := fun _ => rfl
    rw [Script.wp_bind, wp_enterStatus (by decide)]
    rcases transition_cases stepId verified "" false true 0 plan with
      ⟨e, he⟩ | ⟨found, hfound, _, hok⟩
    · rw [he]
      exact hQ _ _ _ (.raised h.toSteady OnlyStep.rfl h.no_fault e)
    · rw [hget] at hfound
      cases hfound
      have hopen : Steady config runMode view
          (plan.entered stepId verified "" 0) :=
        (h.toSteady.modifyStep hseen hget hshape hnot
          (hworked _ (hshape step) rfl)).recompute
      have hopened : (plan.entered stepId verified "" 0).getStep? stepId =
          some (step.enter verified "" 0) := by
        rw [entered_getStep?, if_pos rfl, hget]
        rfl
      have hkeeps : ∀ other, plan.statusOf other = some verified →
          (plan.entered stepId verified "" 0).statusOf other =
            some verified := by
        intro other hver
        have := plan.statusOf_modifyStep_verified
          (fun step => (hshape step).id) hget hnot other hver
        simpa [Plan.statusOf, Plan.entered] using this
      have herror : Steady config runMode view
          ((plan.entered stepId verified "" 0).modifyStep stepId
            PlanStep.continueError) :=
        hopen.modifyStep hseen hopened continueError_shape (fun hver => hver)
          ((hworked _ ((hshape step).trans (continueError_shape _)) rfl).mono
            hkeeps)
      have hothers : OnlyStep stepId plan
          ((plan.entered stepId verified "" 0).modifyStep stepId
            PlanStep.continueError) :=
        (OnlyStep.entered ..).trans (OnlyStep.modifyStep continueError_shape)
      rw [hok]
      dsimp only
      rw [Script.wp_update_bind, Script.wp_bind]
      refine wp_storeSave herror fun out plan' view' hsaved => ?_
      cases out with
      | error e =>
          exact hQ _ _ _ (.raised hsaved.steady (hothers.trans hsaved.others)
            (hsaved.fault e rfl) e)
      | ok u =>
          refine hQ _ _ _ ⟨hsaved.steady, hothers.trans hsaved.others,
            fun _ hout => (by cases hout), ?_⟩
          intro retries hout
          refine ⟨{ toSteady := hsaved.steady, steps := ?_, present := ?_,
                    entered := (hsaved.seen rfl).2.2.2 }, ?_⟩
          · rw [(hsaved.seen rfl).1]
          · exact hsaved.aborted.trans h.present
          · obtain ⟨updatedAt, createdAt, hstamped⟩ := hsaved.stamped
            rw [hstamped]
            exact ⟨_, Plan.modifyStep_getStep?_self _ PlanStep.continueError
              (fun step => (continueError_shape step).id) hopened, by
                simp [PlanStep.continueError]⟩
  case isFalse =>
    rw [Script.wp_update_bind]
    have habort := h.evolves.aborted.status_ne h.present
    have hsteady : Steady config runMode view
        { plan with
          status := .failed
          error := orElse step.error ("step " ++ stepId ++ " failed") } :=
      h.toSteady.of_meta rfl rfl (by simp [habort])
    have hothers : OnlyStep stepId plan
        { plan with
          status := .failed
          error := orElse step.error ("step " ++ stepId ++ " failed") } :=
      OnlyStep.of_steps rfl
    have hstops := Handled.stops hsteady hothers retries
    exact hQ (.ok false) _ _ hstops

/-- A failed step that enters `running` again may be called. -/
theorem Synced.readyAgain (hfailed : step.status = failed)
    (hbegun : stepId ∈ view.begun) (now : Rat)
    (hadmits : Admits plan step running) :
    Ready config runMode (view.next .time now)
      (plan.entered stepId running "" now) stepId
      (step.enter running "" now) := by
  have hsilent : Silent view (view.next .time now) :=
    next_silent view .time now trivial rfl
  have hseen : (view.next .time now).plan.getStep? stepId = some step :=
    (h.getStep? stepId).trans hget
  obtain ⟨hentered, _⟩ := (h.toSteady.silent hsilent).enterRunning hseen hget
    SameShape.rfl (by rw [hfailed]; decide) hadmits "" now
  have hfound : (plan.entered stepId running "" now).getStep? stepId =
      some (step.enter running "" now) := by
    rw [entered_getStep?, if_pos rfl, hget]
    rfl
  exact ⟨⟨hentered, hfound, by simp, ⟨step, hseen,
    enter_shape running "" now step, by rw [hfailed]; decide⟩, hbegun⟩, rfl,
    h.present⟩

end

theorem wp_handleStepOutcome (h : Synced config runMode view plan)
    {ok : Bool} (hget : plan.getStep? stepId = some step)
    (hlanded : Landed view stepId ok step) (retries : Retries)
    {Q : Except PyError (Bool × Retries) → Plan → RunView → Prop}
    (hQ : ∀ out plan' view',
      Handled config runMode stepId plan out plan' view' →
      Q out plan' view') :
    Script.wp (runProtocol config runMode)
      (handleStepOutcome config stepId ok runMode retries) Q plan view := by
  have hgoesOn : step.status ∈ [verifying, verified] →
      Q (.ok (true, retries)) plan view := fun hstatus =>
    hQ _ _ _ ⟨h.toSteady, OnlyStep.rfl, fun _ hout => (by cases hout),
      fun _ _ => ⟨h, step, hget, hstatus⟩⟩
  -- the policy once no retry is left
  have hpolicy : ∀ {plan' : Plan} {view' : RunView} {step' : PlanStep}
      (retries' : Retries), Synced config runMode view' plan' →
      OnlyStep stepId plan plan' → plan'.getStep? stepId = some step' →
      Landed view' stepId false step' →
      Script.wp (runProtocol config runMode)
        (do
          let goOn ← failOrContinue stepId config.onFail
          pure (goOn, retries')) Q plan' view' := by
    intro plan' view' step' retries' hsynced hothers hget' hlanded'
    rw [Script.wp_bind]
    refine wp_failOrContinue hsynced hget' hlanded' retries' ?_
    intro out plan'' view'' hhandled
    have hhandled' : Handled config runMode stepId plan
        (out.map fun ok => (ok, retries')) plan'' view'' :=
      { hhandled with others := hothers.trans hhandled.others }
    cases out with
    | error e => exact hQ _ _ _ hhandled'
    | ok goOn => exact hQ _ _ _ hhandled'
  unfold handleStepOutcome
  cases ok with
  | true =>
      rw [if_pos rfl]
      refine hgoesOn ?_
      rcases hlanded.status with ⟨_, hver⟩ | ⟨hok, _⟩
      · rw [hver]
        decide
      · cases hok
  | false =>
      rw [if_neg (by decide)]
      unfold getStep
      simp only [Script.wp_run_bind, plan.getStep_ok hget]
      split
      case isTrue hne =>
        refine hgoesOn ?_
        rcases hlanded.status with ⟨hok, _⟩ | ⟨_, hver | ⟨hfailed, _⟩⟩
        · cases hok
        · rw [hver]
          decide
        · exact absurd hfailed hne
      case isFalse hstatus =>
        have hfailed : step.status = failed := not_not.mp hstatus
        split
        case isFalse => exact hpolicy retries h OnlyStep.rfl hget hlanded
        case isTrue =>
          rw [Script.wp_bind, wp_enterRunning]
          refine ⟨trivial, fun now _ => ?_⟩
          have hsilent : Silent view (view.next .time now) :=
            next_silent view .time now trivial rfl
          have hsteady := h.toSteady.silent hsilent
          rcases transition_cases stepId running "" false false now plan with
            ⟨e, he⟩ | ⟨found, hfound, hrefusal, hok⟩
          · rw [he]
            exact hQ _ _ _ (.raised hsteady OnlyStep.rfl h.no_fault e)
          · rw [hget] at hfound
            cases hfound
            have hready := h.readyAgain hget hfailed hlanded.begun now
              (admits_of_refusal hrefusal)
            have hothers : OnlyStep stepId plan
                (plan.entered stepId running "" now) := OnlyStep.entered ..
            rw [hok]
            dsimp only
            rw [Script.wp_bind]
            unfold runOneStep getStep
            simp only [Script.wp_run_bind, Plan.getStep_ok _ hready.found,
              if_true]
            refine Script.wp_mono (wp_grows (wp_attempt hready rfl
              fun _ _ _ haborted hattempted =>
                And.intro haborted hattempted)) ?_
            rintro out plan₁ view₁ ⟨⟨haborted, hattempted⟩, hgrows⟩
            have hothers₁ := hothers.trans hattempted.others
            cases out with
            | error e =>
                exact hQ _ _ _ (.raised hattempted.steady hothers₁
                  (fun hfound => absurd
                    ((haborted.trans h.present).symm.trans hfound) (by decide))
                  e)
            | ok ok2 =>
                obtain ⟨step₁, hget₁, hlanded₁⟩ := hattempted.landed ok2 rfl
                dsimp only
                rw [Script.wp_bind]
                refine wp_checkAbortAndSave hattempted.steady
                  (hgrows.entered h.entered) ?_
                intro out plan₂ view₂ hpersisted
                have hothers₂ : OnlyStep stepId plan plan₂ :=
                  hothers₁.trans (OnlyStep.of_steps hpersisted.steps)
                have hget₂ : plan₂.getStep? stepId = some step₁ := by
                  simpa only [Plan.getStep?, hpersisted.steps] using hget₁
                have hlanded₂ : Landed view₂ stepId ok2 step₁ := by
                  refine hlanded₁.mono ?_ hpersisted.begun
                  rw [hpersisted.failed]
                  exact fun _ => id
                cases out with
                | error e =>
                    exact hQ _ _ _ (.raised hpersisted.steady hothers₂
                      (hpersisted.fault e rfl) e)
                | ok aborted =>
                    cases aborted with
                    | true =>
                        exact hQ _ _ _
                          (.stops hpersisted.steady hothers₂ _)
                    | false =>
                        have hsynced := hpersisted.synced
                          (haborted.trans h.present) rfl
                        dsimp only
                        rw [if_neg (by decide)]
                        cases ok2 with
                        | false =>
                            rw [if_neg (by decide)]
                            exact hpolicy _ hsynced hothers₂ hget₂ hlanded₂
                        | true =>
                            rw [if_pos rfl]
                            refine hQ _ _ _ ⟨hpersisted.steady, hothers₂,
                              fun _ hout => (by cases hout),
                              fun _ _ => ⟨hsynced, step₁, hget₂, ?_⟩⟩
                            rcases hlanded₂.status with ⟨_, hver⟩ | ⟨hok, _⟩
                            · rw [hver]
                              decide
                            · cases hok

/-- The steps of a unit were run and the policy was applied to each of them. -/
structure UnitHandled (config : RunnerConfig) (runMode : String)
    (stepIds : List String) (before : Plan)
    (out : Except PyError (Bool × Retries)) (plan : Plan) (view : RunView) :
    Prop where
  steady : Steady config runMode view plan
  frame : ∀ other, other ∉ stepIds →
    plan.getStep? other = before.getStep? other
  fault : ∀ e, out = .error e → view.aborted = true → view.broken = true
  goesOn : ∀ retries, out = .ok (true, retries) →
    Synced config runMode view plan ∧ ∀ stepId ∈ stepIds, ∃ step,
      plan.getStep? stepId = some step ∧ step.status ∈ [verifying, verified]

theorem wp_handleWave (outcomes : List (String × Bool))
    (hnodup : (outcomes.map Prod.fst).Nodup) {plan : Plan} {view : RunView}
    (h : Synced config runMode view plan)
    (hlanded : ∀ outcome ∈ outcomes, ∃ step,
      plan.getStep? outcome.1 = some step ∧
        Landed view outcome.1 outcome.2 step)
    (retries : Retries)
    {Q : Except PyError (Bool × Retries) → Plan → RunView → Prop}
    (hQ : ∀ out plan' view',
      UnitHandled config runMode (outcomes.map Prod.fst) plan out plan' view' →
      Q out plan' view') :
    Script.wp (runProtocol config runMode)
      (handleWave config runMode outcomes retries) Q plan view := by
  induction outcomes generalizing plan view retries Q with
  | nil =>
      exact hQ _ _ _ ⟨h.toSteady, fun _ _ => rfl, fun _ hout => (by cases hout),
        fun _ _ => ⟨h, by simp⟩⟩
  | cons outcome rest ih =>
      obtain ⟨stepId, ok⟩ := outcome
      obtain ⟨hnotMem, hrestNodup⟩ := List.nodup_cons.mp hnodup
      obtain ⟨step, hget, hstep⟩ := hlanded _ List.mem_cons_self
      have hlater : ∀ {plan' : Plan} {view' : RunView},
          OnlyStep stepId plan plan' → Grows view view' →
          ∀ outcome ∈ rest, ∃ step, plan'.getStep? outcome.1 = some step ∧
            Landed view' outcome.1 outcome.2 step := by
        intro plan' view' hothers hgrows outcome hmem
        obtain ⟨step', hget', hstep'⟩ :=
          hlanded outcome (List.mem_cons_of_mem _ hmem)
        refine ⟨step', ?_, hstep'.mono hgrows.failed hgrows.begun⟩
        rw [hothers.same outcome.1, hget']
        intro heq
        have hmem' : outcome.1 ∈ rest.map Prod.fst := List.mem_map_of_mem hmem
        rw [heq] at hmem'
        exact hnotMem hmem'
      rw [handleWave, Script.wp_bind]
      refine Script.wp_mono (wp_grows
        (wp_handleStepOutcome h hget hstep retries fun _ _ _ => id)) ?_
      rintro out plan₁ view₁ ⟨hhandled, hgrows⟩
      have hframe : ∀ other, other ∉ stepId :: rest.map Prod.fst →
          plan₁.getStep? other = plan.getStep? other := fun other hother =>
        hhandled.others.same other fun heq => hother (by simp [heq])
      rcases out with e | ⟨_ | _, retries₁⟩
      · exact hQ _ _ _ ⟨hhandled.steady, hframe, hhandled.fault,
          fun _ hout => (by cases hout)⟩
      · exact hQ _ _ _ ⟨hhandled.steady, hframe,
          fun _ hout => (by cases hout), fun _ hout => (by cases hout)⟩
      · obtain ⟨hsynced, step₁, hget₁, hstatus₁⟩ := hhandled.goesOn _ rfl
        refine ih hrestNodup hsynced (hlater hhandled.others hgrows) retries₁ ?_
        intro out plan₂ view₂ hrest
        refine hQ _ _ _ ⟨hrest.steady, ?_, hrest.fault, ?_⟩
        · intro other hother
          rw [hrest.frame other fun hmem => hother (List.mem_cons_of_mem _ hmem)]
          exact hframe other hother
        · intro retries₂ hout
          obtain ⟨hsynced₂, hdone⟩ := hrest.goesOn retries₂ hout
          refine ⟨hsynced₂, ?_⟩
          intro other hmem
          rcases List.mem_cons.mp hmem with rfl | hmem
          · exact ⟨step₁, (hrest.frame _ hnotMem).trans hget₁, hstatus₁⟩
          · exact hdone other hmem

/-- An iteration on a unit is over; `none` is a break on an abort. -/
structure Iterated (config : RunnerConfig) (runMode : String)
    (stepIds : List String) (before : Plan)
    (out : Except PyError (Option (Bool × Retries))) (plan : Plan)
    (view : RunView) : Prop where
  steady : Steady config runMode view plan
  fault : ∀ e, out = .error e → view.aborted = true → view.broken = true
  aborted : out = .ok none → view.aborted = true
  goesOn : ∀ retries, out = .ok (some (true, retries)) →
    Synced config runMode view plan ∧
    (∀ other, other ∉ stepIds →
      plan.getStep? other = before.getStep? other) ∧
    ∀ stepId ∈ stepIds, ∃ step,
      plan.getStep? stepId = some step ∧ step.status ∈ [verifying, verified]

/-- What a unit may consist of: a wave of chat steps, or one step. -/
structure RunnableUnit (plan : Plan) (unit : List String × Bool) : Prop where
  nodup : unit.1.Nodup
  wave : unit.2 = true → ∀ stepId ∈ unit.1, ∀ step,
    plan.getStep? stepId = some step → step.mode = .chat
  single : unit.2 = false → ∃ stepId, unit.1 = [stepId]
  startable : ∀ stepId ∈ unit.1, Startable plan stepId
  nonempty : unit.1 ≠ []

section

variable {unit : List String × Bool} (h : Synced config runMode view plan)
  (hunit : RunnableUnit plan unit)
include h hunit

theorem wp_attemptUnit
    {Q : Except PyError (List (String × Bool)) → Plan → RunView → Prop}
    (hQ : ∀ out plan' view', view'.aborted = false →
      UnitDone config runMode unit.1 plan out plan' view' →
      Q out plan' view') :
    Script.wp (runProtocol config runMode)
      (attemptUnit config runMode unit) Q plan view := by
  obtain ⟨stepIds, isWave⟩ := unit
  cases isWave with
  | true => exact wp_runChatWave hunit.nodup h (hunit.wave rfl) hQ
  | false =>
      obtain ⟨stepId, hsingle⟩ := hunit.single rfl
      dsimp only at hsingle
      subst hsingle
      rw [attemptUnit, Script.wp_bind]
      refine wp_runOneStep h ?_
      intro out plan₁ view₁ hpresent hattempted
      have hframe : ∀ other, other ∉ [stepId] →
          plan₁.getStep? other = plan.getStep? other := fun other hother =>
        hattempted.others.same other (by simpa using hother)
      cases out with
      | error e =>
          exact hQ _ _ _ hpresent (.raised hattempted.steady hframe e)
      | ok ok =>
          refine hQ _ _ _ hpresent ⟨hattempted.steady, hframe, ?_, ?_⟩
          · intro outcomes hout
            cases hout
            rfl
          · intro outcomes hout outcome hmem
            cases hout
            rw [List.mem_singleton] at hmem
            subst hmem
            exact hattempted.landed ok rfl

theorem wp_runUnit (retries : Retries)
    {Q : Except PyError (Option (Bool × Retries)) → Plan → RunView → Prop}
    (hQ : ∀ out plan' view',
      Iterated config runMode unit.1 plan out plan' view' →
      Q out plan' view') :
    Script.wp (runProtocol config runMode)
      (runUnit config runMode unit retries) Q plan view := by
  have hpresent : ∀ {view' : RunView}, view'.aborted = false →
      view'.aborted = true → view'.broken = true := fun hno hyes =>
    absurd (hno.symm.trans hyes) (by decide)
  unfold runUnit
  rw [Script.wp_bind]
  refine Script.wp_mono (wp_grows (wp_attemptUnit h hunit
    fun _ _ _ hpresent₁ hdone => And.intro hpresent₁ hdone)) ?_
  rintro out plan₁ view₁ ⟨⟨hpresent₁, hdone⟩, hgrows⟩
  cases out with
  | error e =>
      exact hQ _ _ _ ⟨hdone.steady, fun _ _ => hpresent hpresent₁,
        fun hout => (by cases hout), fun _ hout => (by cases hout)⟩
  | ok outcomes =>
      have hids := hdone.ids outcomes rfl
      dsimp only
      rw [Script.wp_bind]
      refine wp_checkAbortAndSave hdone.steady (hgrows.entered h.entered) ?_
      intro out plan₂ view₂ hpersisted
      have hget : ∀ other, plan₂.getStep? other = plan₁.getStep? other := by
        intro other
        simp only [Plan.getStep?, hpersisted.steps]
      rcases out with e | _ | _
      · exact hQ _ _ _ ⟨hpersisted.steady,
          fun _ _ => hpersisted.fault e rfl, fun hout => (by cases hout),
          fun _ hout => (by cases hout)⟩
      · have hsynced := hpersisted.synced hpresent₁ rfl
        dsimp only
        rw [if_neg (by decide), Script.wp_bind]
        refine wp_handleWave outcomes (hids ▸ hunit.nodup) hsynced ?_ retries ?_
        · intro outcome hmem
          obtain ⟨step, hstep, hlanded⟩ := hdone.landed outcomes rfl outcome hmem
          refine ⟨step, (hget _).trans hstep,
            hlanded.mono ?_ hpersisted.begun⟩
          rw [hpersisted.failed]
          exact fun _ => id
        · intro out plan₃ view₃ hhandled
          rw [hids] at hhandled
          cases out with
          | error e =>
              exact hQ _ _ _ ⟨hhandled.steady, fun _ _ => hhandled.fault e rfl,
                fun hout => (by cases hout), fun _ hout => (by cases hout)⟩
          | ok result =>
              refine hQ _ _ _ ⟨hhandled.steady, fun _ hout => (by cases hout),
                fun hout => (by cases hout), ?_⟩
              intro retries' hout
              cases hout
              obtain ⟨hsynced', hsteps⟩ := hhandled.goesOn retries' rfl
              refine ⟨hsynced', fun other hother => ?_, hsteps⟩
              rw [hhandled.frame other hother, hget, hdone.frame other hother]
      · exact hQ _ _ _ ⟨hpersisted.steady, fun _ hout => (by cases hout),
          fun _ => hpersisted.aborted rfl, fun _ hout => (by cases hout)⟩

end

theorem nextUnit_runnable (config : RunnerConfig) (hwf : WellFormed plan)
    {runnable : List String} (hrun : runnableSteps plan = .ok runnable)
    (hne : runnable ≠ []) :
    RunnableUnit plan (nextUnit config plan runnable) := by
  have hnodup := runnableSteps_nodup hwf hrun
  have hstart := fun stepId => (mem_runnableSteps hwf hrun stepId).mp
  unfold nextUnit
  dsimp only
  split
  case isTrue hwave =>
    have hmem : ∀ stepId ∈ (chatIds plan runnable).take config.maxParallel,
        stepId ∈ chatIds plan runnable := fun _ => List.mem_of_mem_take
    refine ⟨(hnodup.filter _).sublist (List.take_sublist _ _), ?_,
      fun hfalse => (by cases hfalse), ?_, ?_⟩
    · intro _ stepId htake step hget
      have := (List.mem_filter.mp (hmem stepId htake)).2
      simpa [hget] using this
    · intro stepId htake
      exact hstart stepId (List.mem_filter.mp (hmem stepId htake)).1
    · intro hempty
      have hlength := congrArg List.length hempty
      rw [List.length_take, List.length_nil] at hlength
      omega
  case isFalse =>
    cases runnable with
    | nil => exact absurd rfl hne
    | cons stepId rest =>
        refine ⟨by simp, fun htrue => (by cases htrue),
          fun _ => ⟨stepId, rfl⟩, ?_, by simp⟩
        intro other hmem
        rw [List.take_succ_cons, List.take_zero, List.mem_singleton] at hmem
        subst hmem
        exact hstart _ List.mem_cons_self

end RunLoop

end Voly
