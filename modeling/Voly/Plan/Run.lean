/-
Whole runs keep the run protocol: the loop with its exits, `run`, and what every
run obeys.
-/
import Voly.Plan.RunLoop

namespace Voly

open Python Interaction StepStatus

section Run

variable {config : RunnerConfig} {runMode : String} {view : RunView}
  {plan : Plan}

/-- What is known of the plan where the loop was left. -/
def ExitKnown (timeout : Option Timeout) (plan : Plan) (view : RunView) :
    LoopExit → Prop
  | .aborted => view.aborted = true
  | .timedOut => timeout ≠ none
  | .allTerminal => StatusCurrent plan ∧ allStepsTerminal plan = true
  | .inFlight => StatusCurrent plan ∧ plan.statuses.any inFlight = true
  | .blocked => plan.statuses.any inFlight = false ∧ pending ∈ plan.statuses
  | .drained => StatusCurrent plan ∧ allStepsTerminal plan = false ∧
      plan.statuses.any inFlight = false ∧ pending ∉ plan.statuses
  | .stopped => ∃ status ∈ plan.statuses, status ≠ skipped
  | .crashed => ∃ status ∈ plan.statuses, status ≠ skipped
  | .outOfFuel => False

theorem ExitKnown.of_view {timeout : Option Timeout} {view' : RunView}
    {exit : LoopExit} (h : ExitKnown timeout plan view exit)
    (haborted : view.aborted = true → view'.aborted = true) :
    ExitKnown timeout plan view' exit := by
  cases exit with
  | aborted => exact haborted h
  | timedOut | allTerminal | inFlight | blocked | drained | stopped | crashed
  | outOfFuel => exact h

/-- The loop is over, by an exception or at an exit. -/
structure LoopLeft (config : RunnerConfig) (runMode : String)
    (timeout : Option Timeout) (out : Except PyError LoopExit) (plan : Plan)
    (view : RunView) : Prop where
  steady : Steady config runMode view plan
  crash : ∀ e, out = .error e →
    (view.aborted = true → view.broken = true) ∧
      ExitKnown timeout plan view .crashed
  known : ∀ exit, out = .ok exit → ExitKnown timeout plan view exit

theorem wp_leaveLoop {timeout : Option Timeout}
    (h : Synced config runMode view plan)
    {Q : Except PyError LoopExit → Plan → RunView → Prop}
    (hQ : ∀ out plan' view',
      LoopLeft config runMode timeout out plan' view' → Q out plan' view') :
    Script.wp (runProtocol config runMode) leaveLoop Q plan view := by
  have hend : ∀ exit plan', Steady config runMode view plan' →
      ExitKnown timeout plan' view exit → Q (.ok exit) plan' view := by
    intro exit plan' hsteady hknown
    refine hQ _ _ _ ⟨hsteady, fun _ hout => (by cases hout), ?_⟩
    intro exit' hout
    cases hout
    exact hknown
  have hcurrent := recomputePlanStatus_current plan
  have hstatuses : (recomputePlanStatus plan).statuses = plan.statuses := by
    simp [Plan.statuses]
  have hsame : allStepsTerminal (recomputePlanStatus plan) =
      allStepsTerminal plan := by
    simp [allStepsTerminal]
  have hany : ∀ p : StepStatus → Bool,
      (plan.steps.any fun step => p step.status) = plan.statuses.any p := by
    intro p
    rw [Plan.statuses, List.any_map]
    rfl
  have hrecompute := h.toSteady.recompute
  unfold leaveLoop
  rw [Script.wp_read_bind]
  split
  case isTrue hterminal =>
    exact hend .allTerminal _ hrecompute ⟨hcurrent, hsame.trans hterminal⟩
  case isFalse hterminal =>
    split
    case isTrue hflight =>
      rw [hany] at hflight
      exact hend .inFlight _ hrecompute ⟨hcurrent, hstatuses ▸ hflight⟩
    case isFalse hflight =>
      rw [hany, Bool.not_eq_true] at hflight
      split
      case isTrue hpending =>
        have hmem : pending ∈ plan.statuses := by
          obtain ⟨step, hstep, hstatus⟩ := List.any_eq_true.mp hpending
          rw [← of_decide_eq_true hstatus]
          exact List.mem_map_of_mem hstep
        refine hend .blocked _ (h.toSteady.of_meta rfl rfl ?_) ⟨hflight, hmem⟩
        simp [h.evolves.aborted.status_ne h.present]
      case isFalse hpending =>
        refine hend .drained _ hrecompute ⟨hcurrent,
          hsame.trans (by simpa using hterminal), hstatuses ▸ hflight, ?_⟩
        rw [hstatuses]
        intro hmem
        obtain ⟨step, hstep, hstatus⟩ := List.mem_map.mp hmem
        apply hpending
        rw [List.any_eq_true]
        exact ⟨step, hstep, by simp [hstatus]⟩

/-- The number of steps that could still be started. -/
def openSteps (plan : Plan) : Nat :=
  (plan.ids.toFinset.filter fun stepId =>
    plan.statusOf stepId ∈ [some pending, some failed]).card

theorem openSteps_le (plan : Plan) : openSteps plan ≤ plan.steps.length := by
  refine (Finset.card_filter_le _ _).trans ?_
  refine (List.toFinset_card_le _).trans ?_
  rw [Plan.ids, List.length_map]

theorem openSteps_of_steps {plan' : Plan} (h : plan'.steps = plan.steps) :
    openSteps plan' = openSteps plan := by
  have hids : plan'.ids = plan.ids := by simp only [Plan.ids, h]
  have hstatus : plan'.statusOf = plan.statusOf := by
    funext stepId
    simp only [Plan.statusOf, Plan.getStep?, h]
  unfold openSteps
  rw [hids, hstatus]

theorem openSteps_lt {plan' : Plan} {stepIds : List String}
    (hids : plan'.ids = plan.ids) (hne : stepIds ≠ [])
    (hstart : ∀ stepId ∈ stepIds, Startable plan stepId)
    (hframe : ∀ other, other ∉ stepIds →
      plan'.getStep? other = plan.getStep? other)
    (hdone : ∀ stepId ∈ stepIds, ∃ step,
      plan'.getStep? stepId = some step ∧
        step.status ∈ [verifying, verified]) :
    openSteps plan' < openSteps plan := by
  have hclosed : ∀ stepId ∈ stepIds,
      plan'.statusOf stepId ∉ [some pending, some failed] := by
    intro stepId hmem
    obtain ⟨step, hget, hstatus⟩ := hdone stepId hmem
    rw [Plan.statusOf, hget]
    revert hstatus
    cases h : step.status <;> simp [h]
  apply Finset.card_lt_card
  rw [Finset.ssubset_iff_of_subset]
  · obtain ⟨stepId, hmem⟩ := List.exists_mem_of_ne_nil _ hne
    obtain ⟨step, hget, hstatus, _⟩ := hstart stepId hmem
    refine ⟨stepId, ?_, ?_⟩
    · rw [Finset.mem_filter, List.mem_toFinset]
      constructor
      · rw [← plan.getStep?_id hget]
        exact List.mem_map_of_mem (plan.getStep?_mem hget)
      · rw [Plan.statusOf, hget]
        revert hstatus
        cases h : step.status <;> simp [h]
    · rw [Finset.mem_filter, not_and]
      exact fun _ => hclosed stepId hmem
  · intro stepId hmem
    rw [Finset.mem_filter, List.mem_toFinset] at hmem ⊢
    obtain ⟨hin, hopen⟩ := hmem
    have hother : stepId ∉ stepIds := fun h => hclosed stepId h hopen
    rw [Plan.statusOf, hframe stepId hother] at hopen
    exact ⟨hids ▸ hin, hopen⟩

theorem wp_timeoutReached (timeout : Option Timeout) (t0 : Rat)
    {Q : Except PyError Bool → Plan → RunView → Prop}
    (hQ : ∀ reached view', Silent view view' →
      (reached = true → timeout ≠ none) → Q (.ok reached) plan view') :
    Script.wp (runProtocol config runMode) (timeoutReached timeout t0) Q plan
      view := by
  unfold timeoutReached
  cases timeout with
  | none => exact hQ _ _ Silent.rfl (by simp)
  | some limit =>
      refine ⟨trivial, fun now _ => ?_⟩
      exact hQ _ _ (next_silent view .monotonic now trivial rfl) (by simp)

theorem Synced.silent {view' : RunView} (h : Synced config runMode view plan)
    (hsilent : Silent view view') : Synced config runMode view' plan where
  toSteady := h.toSteady.silent hsilent
  steps := by rw [hsilent.plan]; exact h.steps
  present := hsilent.aborted.trans h.present
  entered := hsilent.entered.trans h.entered

theorem AbortChecked.synced {before : Plan} {beforeView : RunView}
    (h : AbortChecked config runMode before beforeView false plan view)
    (hbefore : Synced config runMode beforeView before) :
    Synced config runMode view plan where
  toSteady := h.steady
  steps := by rw [h.watching.plan, h.steps]; exact hbefore.steps
  present := (h.noAbort rfl).trans hbefore.present
  entered := h.watching.entered.trans hbefore.entered

theorem Startable.unskipped {before : Plan} {beforeView : RunView}
    {stepId : String} (h : Startable before stepId)
    (hbefore : Synced config runMode beforeView before)
    (hgrows : Grows beforeView view) (hsteady : Steady config runMode view plan) :
    ∃ status ∈ plan.statuses, status ≠ skipped := by
  obtain ⟨step, hget, hstatus, _⟩ := h
  have hmem : stepId ∈ plan.ids := by
    rw [hsteady.evolves.ids, hgrows.ids, ← hbefore.evolves.ids,
      ← before.getStep?_id hget]
    exact List.mem_map_of_mem (before.getStep?_mem hget)
  obtain ⟨step', hget'⟩ := plan.exists_getStep? hmem
  refine ⟨step'.status, List.mem_map_of_mem (plan.getStep?_mem hget'), ?_⟩
  intro hskip
  have hseen := hgrows.unskipped stepId (hsteady.evolves.unskipped stepId
    (by rw [Plan.statusOf, hget', Option.map_some, hskip]))
  rw [Plan.statusOf, hbefore.getStep?, hget, Option.map_some,
    Option.some.injEq] at hseen
  rw [hseen] at hstatus
  exact absurd hstatus (by decide)

theorem wp_runLoop (timeout : Option Timeout) (t0 : Rat) (n : Nat)
    {plan : Plan} {view : RunView} (hfuel : openSteps plan < n)
    (h : Synced config runMode view plan) (retries : Retries)
    {Q : Except PyError LoopExit → Plan → RunView → Prop}
    (hQ : ∀ out plan' view',
      LoopLeft config runMode timeout out plan' view' → Q out plan' view') :
    Script.wp (runProtocol config runMode)
      (runLoop config runMode timeout t0 n retries) Q plan view := by
  have hend : ∀ exit plan' view', Steady config runMode view' plan' →
      ExitKnown timeout plan' view' exit → Q (.ok exit) plan' view' := by
    intro exit plan' view' hsteady hknown
    refine hQ _ _ _ ⟨hsteady, fun _ hout => (by cases hout), ?_⟩
    intro exit' hout
    cases hout
    exact hknown
  induction n generalizing plan view retries Q with
  | zero => exact absurd hfuel (Nat.not_lt_zero _)
  | succ n ih =>
      rw [runLoop, Script.wp_read_bind,
        if_neg (h.evolves.aborted.status_ne h.present), Script.wp_bind]
      refine wp_externalAbortRequested h.toSteady h.entered ?_
      intro found plan₁ view₁ hchecked
      dsimp only
      cases found with
      | true =>
          rw [if_pos rfl]
          exact hend .aborted _ _ hchecked.steady (hchecked.abort rfl).1
      | false =>
          rw [if_neg (by decide), Script.wp_bind]
          refine wp_timeoutReached timeout t0 ?_
          intro reached view₂ hsilent htimeout
          have hsynced := (hchecked.synced h).silent hsilent
          dsimp only
          cases reached with
          | true =>
              rw [if_pos rfl]
              exact hend .timedOut _ _ hsynced.toSteady (htimeout rfl)
          | false =>
              rw [if_neg (by decide), Script.wp_run_bind]
              obtain ⟨runnable, hrun⟩ := runnableSteps_ok hsynced.wf
              rw [hrun]
              dsimp only
              by_cases hnone : runnable = []
              · rw [if_pos hnone]
                exact wp_leaveLoop hsynced hQ
              · rw [if_neg hnone, Script.wp_read_bind, Script.wp_bind]
                have hunit := nextUnit_runnable config hsynced.wf hrun hnone
                refine Script.wp_mono (wp_grows (wp_runUnit hsynced hunit
                  retries fun _ _ _ => id)) ?_
                rintro out plan₃ view₃ ⟨hiterated, hgrows⟩
                obtain ⟨stepId, hmem⟩ :=
                  List.exists_mem_of_ne_nil _ hunit.nonempty
                have hopen := (hunit.startable stepId hmem).unskipped hsynced
                  hgrows hiterated.steady
                rcases out with e | _ | ⟨_ | _, retries₃⟩
                · exact hQ _ _ _ ⟨hiterated.steady,
                    fun _ _ => ⟨hiterated.fault e rfl, hopen⟩,
                    fun _ hout => (by cases hout)⟩
                · exact hend .aborted _ _ hiterated.steady
                    (hiterated.aborted rfl)
                · exact hend .stopped _ _ hiterated.steady hopen
                · obtain ⟨hsynced₃, hframe, hdone⟩ := hiterated.goesOn _ rfl
                  have hids : plan₃.ids = plan₁.ids := by
                    rw [hsynced₃.evolves.ids, hgrows.ids,
                      ← hsynced.evolves.ids]
                  have hlt := openSteps_lt hids hunit.nonempty hunit.startable
                    hframe hdone
                  have hsame := openSteps_of_steps hchecked.steps
                  exact ih (by omega) hsynced₃ retries₃ hQ hend

/-- The plan with the status that a run sets before it first saves. -/
def Plan.started (plan : Plan) : Plan := { plan with status := .running }

theorem wp_recoverSteps (now threshold : Rat) (steps : List PlanStep)
    (hnodup : (steps.map PlanStep.id).Nodup) {plan : Plan}
    (h : Steady config runMode view plan.started)
    (hseen : ∀ step ∈ steps, plan.getStep? step.id = some step ∧
      view.plan.getStep? step.id = some step)
    {Q : Except PyError Unit → Plan → RunView → Prop}
    (hQ : ∀ out plan', Steady config runMode view plan'.started →
      Q out plan' view) :
    Script.wp (runProtocol config runMode)
      (recoverSteps now threshold steps) Q plan view := by
  induction steps generalizing plan Q with
  | nil => exact hQ _ _ h
  | cons step rest ih =>
      obtain ⟨hnotMem, hrestNodup⟩ := List.nodup_cons.mp hnodup
      obtain ⟨hget, hview⟩ := hseen step List.mem_cons_self
      have hrest := fun other hmem =>
        hseen other (List.mem_cons_of_mem step hmem)
      rw [recoverSteps]
      split
      case isFalse => exact ih hrestNodup h hrest hQ
      case isTrue hstale =>
        dsimp only
        rw [Script.wp_bind, wp_enterStatus (by decide)]
        generalize ("stale: stuck in running for over " ++
          toString (now - step.startedAt).floor ++
          "s (process likely crashed)") = error
        rcases transition_cases step.id failed error false false 0 plan with
          ⟨e, he⟩ | ⟨found, hfound, _, hok⟩
        · rw [he]
          exact hQ _ _ h
        · rw [hget] at hfound
          cases hfound
          rw [hok]
          dsimp only
          have hshape := enter_shape failed error 0
          have hnot : step.status = verified →
              (step.enter failed error 0).status = verified := by
            rw [hstale.1]
            intro hver
            cases hver
          have hworked : Worked config runMode view plan.started step
              (step.enter failed error 0) :=
            ⟨hshape step, by rw [hstale.1]; decide, by simp,
              Or.inr ⟨hstale.1, rfl⟩, Or.inl hstale.1, by simp⟩
          have hsteady := h.modifyStep hview hget hshape hnot hworked
          refine ih hrestNodup (hsteady.of_meta
            (by simp [Plan.started, Plan.modifyStep])
            (by simp [Plan.started, Plan.entered, Plan.modifyStep])
            (by simp [Plan.started, Plan.modifyStep])) ?_ hQ
          intro other hmem
          refine ⟨?_, (hrest other hmem).2⟩
          rw [entered_getStep?, if_neg, (hrest other hmem).1]
          intro heq
          apply hnotMem
          rw [← heq]
          exact List.mem_map_of_mem hmem

theorem wp_recoverStaleRunningSteps
    (h : Steady config runMode view plan.started)
    (hsame : plan.steps = view.plan.steps)
    {Q : Except PyError Unit → Plan → RunView → Prop}
    (hQ : ∀ out plan' view', Silent view view' →
      Steady config runMode view' plan'.started → Q out plan' view') :
    Script.wp (runProtocol config runMode) (recoverStaleRunningSteps config) Q
      plan view := by
  unfold recoverStaleRunningSteps
  split
  case isTrue => exact hQ _ _ _ Silent.rfl h
  case isFalse =>
    refine ⟨trivial, fun (now : Rat) _ => ?_⟩
    have hsilent : Silent view (view.next .time now) :=
      next_silent view .time now trivial rfl
    refine wp_recoverSteps now config.staleRunningSeconds plan.steps
      h.wf.nodup (h.silent hsilent) ?_ fun out plan' => hQ out plan' _ hsilent
    intro step hmem
    have hget := plan.getStep?_of_mem h.wf.nodup hmem
    refine ⟨hget, ?_⟩
    rw [hsilent.plan]
    simpa only [Plan.getStep?, hsame] using hget

/-- A run was refused before it saved anything: its plan does not validate. -/
structure Refused (before plan : Plan) (beforeView view : RunView) :
    Prop where
  steps : plan.steps = before.steps
  planId : plan.planId = before.planId
  silent : Silent beforeView view
  invalid : validate before ≠ .ok ()

/-- Untouched by a refused run, else one that the run could save. -/
def RunLeft (config : RunnerConfig) (runMode : String) (before plan : Plan)
    (view : RunView) : Prop :=
  Refused before plan { plan := before } view ∨
    ∃ status, Steady config runMode view { plan with status := status }

section

variable {before : Plan} {Q : Except PyError Unit → Plan → RunView → Prop}

theorem Steady.runLeft (h : Steady config runMode view plan) :
    RunLeft config runMode before plan view :=
  Or.inr ⟨plan.status, h⟩

theorem wp_ensureTaskId (hview : Silent { plan := before } view)
    (hQ : ∀ taskId view', Silent { plan := before } view' →
      Q (.ok ()) { plan with taskId := taskId } view') :
    Script.wp (runProtocol config runMode) ensureTaskId Q plan view := by
  unfold ensureTaskId
  rw [Script.wp_read_bind]
  split
  case isTrue =>
    rw [Script.wp_ask_bind]
    refine ⟨trivial, fun (taskId : String) _ => ?_⟩
    have hsilent : Silent view (view.next .newTaskId taskId) :=
      next_silent view .newTaskId taskId trivial rfl
    exact hQ taskId _ (hview.trans hsilent)
  case isFalse => exact hQ plan.taskId _ hview

theorem Steady.start (hsilent : Silent { plan := before } view)
    (hsteps : plan.steps = before.steps) (hplanId : plan.planId = before.planId)
    (hvalid : validate plan = .ok ()) :
    Steady config runMode view plan.started := by
  have hwf := wellFormed_of_validate hvalid
  have hsame : plan.steps = view.plan.steps := by
    rw [hsilent.plan, hsteps]
  refine ⟨hwf.of_steps rfl rfl, Evolves.of_steps ?_ hsame
    (.of_absent hsilent.aborted (by simp [Plan.started])), ⟨?_⟩,
    hsilent.live, ?_⟩
  · rw [hsilent.plan]
    exact hplanId
  · rw [hsilent.begun]
    simp
  · rw [hsilent.aborted]
    simp

theorem wp_openRun (cwd : String) (hview : Silent { plan := before } view)
    (hrefused : ∀ e plan view,
      Refused before plan { plan := before } view → Q (.error e) plan view)
    (herror : ∀ e plan view, (∃ status,
      Steady config runMode view { plan with status := status }) →
      Q (.error e) plan view)
    (hok : ∀ plan view, Synced config runMode view plan → Q (.ok ()) plan view) :
    Script.wp (runProtocol config runMode) (openRun config cwd) Q before
      view := by
  unfold openRun
  rw [Script.wp_update_bind, Script.wp_bind]
  apply wp_ensureTaskId hview
  intro taskId view hsilent
  rw [Script.wp_run_bind]
  generalize hopened : ({ before with
    cwd := orElse cwd (orElse before.cwd config.defaultCwd)
    taskId := taskId } : Plan) = opened
  have hsteps : opened.steps = before.steps := by rw [← hopened]
  have hplanId : opened.planId = before.planId := by rw [← hopened]
  cases hresult : validate opened with
  | error e =>
      refine hrefused e _ _ ⟨hsteps, hplanId, hsilent, ?_⟩
      rw [← validate_congr hplanId hsteps, hresult]
      intro hok
      cases hok
  | ok u =>
      have hstart : Steady config runMode view opened.started :=
        .start hsilent hsteps hplanId hresult
      dsimp only
      rw [Script.wp_bind]
      refine wp_recoverStaleRunningSteps hstart
        (by rw [hsilent.plan, hsteps]) ?_
      intro out plan' view' hsilent' hsteady
      cases out with
      | error e => exact herror e _ _ ⟨.running, hsteady⟩
      | ok u =>
          dsimp only
          rw [Script.wp_update_bind]
          refine wp_storeSave hsteady ?_
          intro out plan'' view'' hsaved
          cases out with
          | error e => exact herror e _ _ ⟨plan''.status, hsaved.steady⟩
          | ok u =>
              obtain ⟨hplan, _, _, hentered⟩ := hsaved.seen rfl
              refine hok _ _ { toSteady := hsaved.steady, steps := ?_,
                               present := ?_, entered := hentered }
              · rw [hplan]
              · rw [hsaved.aborted, hsilent'.aborted, hsilent.aborted]

end

theorem wp_guardedLoop (timeout : Option Timeout) (t0 : Rat)
    (h : Synced config runMode view plan)
    {Q : Except PyError LoopExit → Plan → RunView → Prop}
    (hQ : ∀ exit plan' view', Steady config runMode view' plan' →
      ExitKnown timeout plan' view' exit → Q (.ok exit) plan' view') :
    Script.wp (runProtocol config runMode)
      (guardedLoop config runMode timeout t0) Q plan view := by
  unfold guardedLoop
  rw [Script.wp_read_bind, Script.wp_handle]
  refine wp_runLoop timeout t0 _ (Nat.lt_succ_of_le (openSteps_le plan)) h _ ?_
  intro out plan' view' hleft
  cases out with
  | ok exit => exact hQ _ _ _ hleft.steady (hleft.known exit rfl)
  | error e =>
      refine hQ .crashed _ _ ⟨hleft.steady.wf.of_steps rfl rfl, ?_,
        hleft.steady.gate.of_steps rfl rfl, hleft.steady.live,
        hleft.steady.path⟩ (hleft.crash e rfl).2
      have hevolves := hleft.steady.evolves
      refine ⟨hevolves.planId, hevolves.ids, ⟨?_, ?_⟩, ?_⟩
      · intro habort
        cases habort
      · exact fun habort => Or.inl ((hleft.crash e rfl).1 habort)
      · intro stepId step step' hstep hstep'
        exact (hevolves.steps stepId step step' hstep hstep').imp_right
          fun hworked => hworked.mono fun _ => id

section

variable (timeout : Option Timeout) (exit : LoopExit)

@[simp] theorem timeoutError_steps :
    (timeoutError timeout exit plan).steps = plan.steps := by
  unfold timeoutError
  split
  · rfl
  · split <;> rfl

@[simp] theorem timeoutError_planId :
    (timeoutError timeout exit plan).planId = plan.planId := by
  unfold timeoutError
  split
  · rfl
  · split <;> rfl

@[simp] theorem timeoutError_status :
    (timeoutError timeout exit plan).status = plan.status := by
  unfold timeoutError
  split
  · rfl
  · split <;> rfl

end

@[simp] theorem finalStatus_steps : (finalStatus plan).steps = plan.steps := by
  unfold finalStatus
  dsimp only
  split
  · simp
  · split
    · simp
    · split <;> simp

@[simp] theorem finalStatus_planId :
    (finalStatus plan).planId = plan.planId := by
  unfold finalStatus
  dsimp only
  split
  · simp
  · split
    · simp
    · split <;> simp

theorem statusFor_completed {statuses : List StepStatus}
    (hall : ∀ s ∈ statuses, s ∈ [verified, skipped])
    (hany : verified ∈ statuses) : statusFor statuses = .completed := by
  unfold statusFor
  have hne : statuses ≠ [] := List.ne_nil_of_mem hany
  rw [if_neg hne, if_pos (by simpa using hall), if_pos]
  simpa using hany

theorem finalStatus_status : (finalStatus plan).status =
    if plan.status = .aborted then .aborted
    else if statusFor plan.statuses ∈ [.completed, .failed] then
      statusFor plan.statuses
    else if failed ∈ plan.statuses then .failed
    else statusFor plan.statuses := by
  have hfailed : anyStepFailed (recomputePlanStatus plan) = true ↔
      failed ∈ plan.statuses := by
    simp [anyStepFailed, Plan.statuses]
  have hcompleted : allStepsTerminal (recomputePlanStatus plan) = true →
      ((recomputePlanStatus plan).steps.any fun step =>
        step.status = verified) = true →
      statusFor plan.statuses = .completed := by
    intro hall hany
    apply statusFor_completed
    · simpa [allStepsTerminal, isTerminalStep, Plan.statuses] using hall
    · simpa [Plan.statuses] using hany
  have hstatus := recomputePlanStatus_status plan
  have hnever := statusFor_ne_aborted plan.statuses
  unfold finalStatus
  dsimp only
  by_cases habort : plan.status = .aborted
  · rw [if_pos habort] at hstatus ⊢
    rw [if_pos (by simp [hstatus])]
    exact hstatus
  · rw [if_neg habort] at hstatus ⊢
    by_cases hdone : statusFor plan.statuses ∈ [.completed, .failed]
    · rw [if_pos hdone, if_pos]
      · exact hstatus
      · rw [hstatus]
        revert hdone
        cases statusFor plan.statuses <;> decide
    · rw [if_neg hdone, if_neg]
      · rw [if_neg]
        · split <;> simp_all
        · rintro ⟨hall, hany⟩
          exact hdone (by simp [hcompleted hall hany])
      · rw [hstatus]
        revert hdone hnever
        cases statusFor plan.statuses <;> decide

@[simp] theorem finalStatus_aborted :
    (finalStatus plan).status = .aborted ↔ plan.status = .aborted := by
  have hnever := statusFor_ne_aborted plan.statuses
  rw [finalStatus_status]
  split
  case isTrue habort => simp [habort]
  case isFalse hne =>
    split
    · simp [hne, hnever]
    · split <;> simp [hne, hnever]

/-- What the result of a run says. -/
structure Reported (config : RunnerConfig) (runMode : String)
    (timeout : Option Timeout) (result : PlanRunResult) (plan : Plan)
    (view : RunView) : Prop where
  steady : Steady config runMode view plan
  returned : result.plan = plan
  saved : view.plan = plan
  steps : plan.steps = result.left.steps
  status : plan.status = (finalStatus result.left).status
  known : ExitKnown timeout result.left view result.exit

theorem finalStatus_timeoutError (timeout : Option Timeout)
    (exit : LoopExit) : (finalStatus (timeoutError timeout exit plan)).status =
      (finalStatus plan).status := by
  have hstatuses : (timeoutError timeout exit plan).statuses =
      plan.statuses := by
    simp [Plan.statuses]
  rw [finalStatus_status, finalStatus_status, timeoutError_status, hstatuses]

theorem wp_closeRun {timeout : Option Timeout} (t0 : Rat) {exit : LoopExit}
    (h : Steady config runMode view plan)
    (hknown : ExitKnown timeout plan view exit)
    {Q : Except PyError PlanRunResult → Plan → RunView → Prop}
    (herror : ∀ e plan' view', Steady config runMode view' plan' →
      Q (.error e) plan' view')
    (hok : ∀ result plan' view',
      Reported config runMode timeout result plan' view' →
      Q (.ok result) plan' view') :
    Script.wp (runProtocol config runMode) (closeRun timeout t0 exit) Q plan
      view := by
  have hfinal : Steady config runMode view
      (finalStatus (timeoutError timeout exit plan)) :=
    h.of_meta (by simp) (by simp) (by simp)
  unfold closeRun
  rw [Script.wp_read_bind, Script.wp_update_bind, Script.wp_update_bind,
    Script.wp_bind]
  refine wp_storeSave hfinal ?_
  intro out plan' view' hsaved
  cases out with
  | error e => exact herror e _ _ hsaved.steady
  | ok u =>
      refine ⟨trivial, fun (now : Rat) _ => ?_⟩
      have hsilent : Silent view' (view'.next .monotonic now) :=
        next_silent view' .monotonic now trivial rfl
      obtain ⟨updatedAt, createdAt, hstamped⟩ := hsaved.stamped
      refine hok _ _ (view'.next .monotonic now)
        ⟨hsaved.steady.silent hsilent, rfl, ?_, ?_, ?_, ?_⟩
      · rw [hsilent.plan]
        exact (hsaved.seen rfl).1
      · simp [hstamped]
      · rw [hstamped]
        exact finalStatus_timeoutError timeout exit
      · refine hknown.of_view fun habort => ?_
        rw [hsilent.aborted, hsaved.aborted, habort]

/-- Every save and every start of a call of a run is one that the protocol
allows. -/
theorem wp_run (config : RunnerConfig) (mode cwd : String)
    (timeout : Option Timeout) (before : Plan)
    {Q : Except PyError PlanRunResult → Plan → RunView → Prop}
    (herror : ∀ e plan view,
      RunLeft config (config.runMode mode) before plan view →
      Q (.error e) plan view)
    (hok : ∀ result plan view,
      Reported config (config.runMode mode) timeout result plan view →
      Q (.ok result) plan view) :
    Script.wp (runProtocol config (config.runMode mode))
      (run config mode cwd timeout) Q before { plan := before } := by
  unfold run
  rw [Script.wp_ask_bind]
  refine ⟨trivial, fun (t0 : Rat) _ => ?_⟩
  have hsilent : Silent { plan := before }
      (RunView.next { plan := before } .monotonic t0) :=
    next_silent _ .monotonic t0 trivial rfl
  rw [Script.wp_bind]
  refine wp_openRun cwd hsilent ?_ ?_ ?_
  · exact fun e plan view hrefused => herror e plan view (Or.inl hrefused)
  · exact fun e plan view hended => herror e plan view (Or.inr hended)
  · intro plan view hsynced
    dsimp only
    rw [Script.wp_bind]
    refine wp_guardedLoop timeout t0 hsynced ?_
    intro exit plan' view' hsteady hknown
    exact wp_closeRun t0 hsteady hknown
      (fun e _ _ hended => herror e _ _ hended.runLeft) hok

theorem exists_result {A B : Type} {out : Except PyError A × Plan} {f : A → B}
    {b : B} (h : out.1.toOption.map f = some b) :
    ∃ result after, out = (.ok result, after) ∧ f result = b := by
  obtain ⟨result | result, after⟩ := out
  · cases h
  · exact ⟨_, _, rfl, Option.some.inj h⟩

end Run

section Laws

variable {config : RunnerConfig} {runMode : String} {view : RunView}
  {op : PlanOp} {plan : Plan}

/-- The plan that a question shows to others. -/
def PlanOp.shown : PlanOp → Option Plan
  | .save plan => some plan
  | .callStart _ plan _ => some plan
  | _ => none

theorem shown_evolves (hallow : (runProtocol config runMode).allows view op)
    (hshown : op.shown = some plan) :
    WellFormed plan ∧ Evolves config runMode view plan := by
  cases op with
  | save saved =>
      cases hshown
      exact ⟨hallow.1, hallow.2.1⟩
  | callStart step started instruction =>
      cases hshown
      exact ⟨hallow.wellFormed, hallow.evolves⟩
  | load | time | monotonic | newTaskId | git | inspect | pick | callEnd =>
      cases hshown

theorem Evolves.step_cases (h : Evolves config runMode view plan)
    {stepId : String} {step : PlanStep}
    (hget : plan.getStep? stepId = some step) :
    ∃ before, view.plan.getStep? stepId = some before ∧
      (step = before ∨ Worked config runMode view plan before step) := by
  have hmem : stepId ∈ view.plan.ids := by
    rw [← h.ids, ← plan.getStep?_id hget]
    exact List.mem_map_of_mem (plan.getStep?_mem hget)
  obtain ⟨before, hbefore⟩ := view.plan.exists_getStep? hmem
  exact ⟨before, hbefore, h.steps stepId before step hbefore hget⟩

/-- Whatever is replied to a run, it asks only what the law allows. -/
def RunObeys (config : RunnerConfig) (mode : String) (before : Plan)
    (law : RunView → PlanOp → Prop) : Prop :=
  ∀ cwd timeout, (run config mode cwd timeout before).Obeys RunView.next law
    { plan := before }

/-- What the protocol gives under an invariant, every run obeys. -/
theorem run_obeys {mode : String} {before : Plan}
    {law : RunView → PlanOp → Prop} (Inv : RunView → Prop)
    (hstart : Inv { plan := before })
    (hstep : ∀ view op, Inv view →
      (runProtocol config (config.runMode mode)).allows view op →
      law view op ∧ ∀ reply, Inv (view.next op reply)) :
    RunObeys config mode before law := by
  intro cwd timeout
  have hrun := @wp_run config mode cwd timeout before (fun _ _ _ => True)
    (fun _ _ _ _ => trivial) fun _ _ _ _ => trivial
  exact Prog.obeys_of_wp Inv (fun _ _ _ => trivial) hstep _ hstart hrun

/-- A step that is shown verified was so before, or was opened. -/
def VerifiesOpened (config : RunnerConfig) (runMode : String) (view : RunView)
    (op : PlanOp) : Prop :=
  ∀ plan, op.shown = some plan → ∀ step ∈ plan.steps, step.status = verified →
    view.plan.statusOf step.id = some verified ∨
      Opened config runMode view step

theorem Evolves.claimsGated (h : Evolves config runMode view plan)
    (hwf : WellFormed plan) (hgated : ClaimsGated view view.plan)
    {stepId : String} {step : PlanStep} (hget : plan.getStep? stepId = some step)
    (hclaimed : stepId ∈ claims view.plan plan ++ view.begun) :
    DepsVerified plan step := by
  have hkeeps : ∀ other, view.plan.statusOf other = some verified →
      plan.statusOf other = some verified := by
    intro other hother
    obtain ⟨dep, hdep, hstatus⟩ := Option.map_eq_some_iff.mp hother
    have hkept := h.untouched hdep (by rw [hstatus]; decide)
    rw [Plan.statusOf, hkept, Option.map_some, hstatus]
  obtain ⟨seen, hseen, hsteps⟩ := h.step_cases hget
  rcases List.mem_append.mp hclaimed with hnew | hbegun
  · obtain ⟨step', hfilter, rfl⟩ := List.mem_map.mp hnew
    obtain ⟨hmem, hnow⟩ := List.mem_filter.mp hfilter
    rw [plan.getStep?_of_mem hwf.nodup hmem] at hget
    cases hget
    rw [Plan.statusOf, hseen] at hnow
    obtain ⟨hrunning, hbefore⟩ := of_decide_eq_true hnow
    rcases hsteps with rfl | hworked
    · exact absurd (congrArg some hrunning) hbefore
    · exact hworked.gate.resolve_right fun hfell =>
        hbefore (congrArg some hfell.1)
  · have hdeps := hgated.deps stepId hbegun seen hseen
    rcases hsteps with rfl | hworked
    · exact hdeps.mono hkeeps
    · exact (hdeps.of_shape hworked.shape).mono hkeeps

/-- A call starts once its step is claimed in a save, with verified dependencies
and the instruction that their outputs make. -/
def StartsGated (view : RunView) : PlanOp → Prop
  | .callStart step plan instruction =>
      step.id ∈ view.begun ∧ DepsVerified plan step ∧
        instruction = instructionFor plan step
  | _ => True

theorem run_starts_gated (config : RunnerConfig) (mode : String)
    (before : Plan) : RunObeys config mode before StartsGated := by
  apply run_obeys fun view => ClaimsGated view view.plan
  · exact ⟨fun _ hbegun => absurd hbegun List.not_mem_nil⟩
  · intro view op hgated hallow
    cases op with
    | save plan =>
        refine ⟨trivial, fun reply => ⟨fun stepId hclaimed step hget => ?_⟩⟩
        exact hallow.2.1.claimsGated hallow.1 hgated hget hclaimed
    | callStart step plan instruction =>
        have hgate : ∀ stepId ∈ view.begun, ∀ step,
            plan.getStep? stepId = some step → DepsVerified plan step :=
          fun _ hbegun _ hget => hallow.evolves.claimsGated hallow.wellFormed
            hgated hget (List.mem_append_right _ hbegun)
        exact ⟨⟨hallow.claimed, hgate _ hallow.claimed step hallow.found,
          hallow.instruction⟩, fun reply => ⟨hgate⟩⟩
    | load | time | monotonic | newTaskId | git | inspect | pick | callEnd =>
        exact ⟨trivial, fun reply => ⟨hgated.deps⟩⟩

/-- No save during a call, one call of a step at a time, and only chat calls
together. -/
def OneWriter (view : RunView) : PlanOp → Prop
  | .save _ => view.live = []
  | .callStart step plan _ => step.id ∉ view.live ∧
      ∀ other ∈ view.live, step.mode = .chat ∧ ∃ otherStep,
        plan.getStep? other = some otherStep ∧ otherStep.mode = .chat
  | _ => True

theorem run_one_writer (config : RunnerConfig) (mode : String)
    (before : Plan) : RunObeys config mode before OneWriter := by
  apply run_obeys fun _ => True
  · trivial
  · intro view op _ hallow
    refine ⟨?_, fun _ => trivial⟩
    cases op with
    | save plan => exact hallow.2.2
    | callStart step plan instruction => exact ⟨hallow.single, hallow.together⟩
    | load | time | monotonic | newTaskId | git | inspect | pick | callEnd =>
        trivial

/-- Only a loaded abort aborts the plan; no call starts after it, and the plan
stays aborted unless a save has failed. -/
def HeedsAbort (view : RunView) (op : PlanOp) : Prop :=
  (∀ plan, op.shown = some plan → AbortKnown view plan) ∧
    ((∃ step plan instruction, op = .callStart step plan instruction) →
      view.aborted = false)

theorem run_heeds_abort (config : RunnerConfig) (mode : String)
    (before : Plan) : RunObeys config mode before HeedsAbort := by
  apply run_obeys fun _ => True
  · trivial
  · intro view op _ hallow
    refine ⟨⟨fun plan hshown => ?_, ?_⟩, fun _ => trivial⟩
    · exact (shown_evolves hallow hshown).2.aborted
    · rintro ⟨step, plan, instruction, rfl⟩
      exact hallow.present

/-- `before` but for its open steps, which keep id, mode, dependencies and
checks. -/
structure OpenOnly (before plan : Plan) : Prop where
  planId : plan.planId = before.planId
  ids : plan.ids = before.ids
  steps : ∀ stepId step, before.getStep? stepId = some step →
    ∃ step', plan.getStep? stepId = some step' ∧ SameShape step step' ∧
      (step.status ∉ [pending, failed, running] → step' = step)

theorem OpenOnly.evolves {before : Plan} (h : OpenOnly before view.plan)
    (hevolves : Evolves config runMode view plan) : OpenOnly before plan := by
  refine ⟨hevolves.planId.trans h.planId, hevolves.ids.trans h.ids, ?_⟩
  intro stepId step hget
  obtain ⟨seen, hseen, hshape, hsettled⟩ := h.steps stepId step hget
  have hmem : stepId ∈ plan.ids := by
    rw [hevolves.ids, ← view.plan.getStep?_id hseen]
    exact List.mem_map_of_mem (view.plan.getStep?_mem hseen)
  obtain ⟨step', hget'⟩ := plan.exists_getStep? hmem
  refine ⟨step', hget', ?_⟩
  rcases hevolves.steps stepId seen step' hseen hget' with rfl | hworked
  · exact ⟨hshape, hsettled⟩
  · refine ⟨hshape.trans hworked.shape, fun hclosed => ?_⟩
    cases hsettled hclosed
    exact absurd hworked.before hclosed

def ShowsOpenOnly (before : Plan) (_ : RunView) (op : PlanOp) : Prop :=
  ∀ plan, op.shown = some plan → OpenOnly before plan

theorem run_shows_open_only (config : RunnerConfig) (mode : String)
    (before : Plan) : RunObeys config mode before (ShowsOpenOnly before) := by
  apply run_obeys fun view => OpenOnly before view.plan
  · exact ⟨rfl, rfl, fun _ step hget =>
      ⟨step, hget, SameShape.rfl, fun _ => rfl⟩⟩
  · intro view op hopen hallow
    have hnext : ∀ plan, op.shown = some plan → OpenOnly before plan :=
      fun plan hshown => hopen.evolves (shown_evolves hallow hshown).2
    refine ⟨hnext, fun reply => ?_⟩
    cases op with
    | save plan => exact hnext plan rfl
    | callStart step plan instruction => exact hnext plan rfl
    | load | time | monotonic | newTaskId | git | inspect | pick | callEnd =>
        exact hopen

end Laws

end Voly
