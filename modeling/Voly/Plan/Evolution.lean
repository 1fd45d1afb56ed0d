/-
How the plan in a run's memory moves away from the plan that was last seen.
-/
import Voly.Plan.RunView

namespace Voly

open Python Interaction StepStatus

section

variable {plan plan' : Plan} (h : WellFormed plan)
  (hplanId : plan'.planId = plan.planId)
include h hplanId

theorem WellFormed.of_nodes (hnodes : plan'.nodes = plan.nodes) :
    WellFormed plan' := by
  have hids : plan'.ids = plan.ids := by
    rw [← nodes_fst, ← nodes_fst, hnodes]
  have hstep : ∀ step ∈ plan'.steps, ∃ step' ∈ plan.steps,
      step'.id = step.id ∧ step'.dependsOn = step.dependsOn := by
    intro step hmem
    have hnode : (step.id, step.dependsOn) ∈ plan.nodes := by
      rw [← hnodes]
      exact List.mem_map_of_mem hmem
    obtain ⟨step', hmem', heq⟩ := List.mem_map.mp hnode
    exact ⟨step', hmem', congrArg Prod.fst heq, congrArg Prod.snd heq⟩
  constructor
  · rw [hplanId]
    exact h.planId
  · rw [hids]
    exact h.nodup
  · rw [hids]
    exact h.idNonempty
  · intro step hmem
    obtain ⟨step', hmem', _, hdeps⟩ := hstep step hmem
    rw [hids, ← hdeps]
    exact h.known step' hmem'
  · intro step hmem
    obtain ⟨step', hmem', hid, hdeps⟩ := hstep step hmem
    rw [← hid, ← hdeps]
    exact h.irreflexive step' hmem'
  · rw [topoOrder_congr hnodes]
    exact h.ordered

theorem WellFormed.of_steps (hsteps : plan'.steps = plan.steps) :
    WellFormed plan' :=
  h.of_nodes hplanId (by simp only [Plan.nodes, hsteps])

end

theorem nodes_modifyStep (plan : Plan) (stepId : String)
    {f : PlanStep → PlanStep} (hshape : ∀ step, SameShape step (f step)) :
    (plan.modifyStep stepId f).nodes = plan.nodes := by
  simp only [Plan.nodes, Plan.modifyStep]
  induction plan.steps with
  | nil => rfl
  | cons head tail ih =>
      rw [Plan.modifySteps]
      split
      · simp [(hshape head).id, (hshape head).dependsOn]
      · simp [ih]

theorem SameShape.rfl {step : PlanStep} : SameShape step step :=
  ⟨Eq.refl _, Eq.refl _, Eq.refl _, Eq.refl _⟩

theorem SameShape.trans {a b c : PlanStep} (hab : SameShape a b)
    (hbc : SameShape b c) : SameShape a c :=
  ⟨hbc.id.trans hab.id, hbc.mode.trans hab.mode,
    hbc.dependsOn.trans hab.dependsOn, hbc.acceptance.trans hab.acceptance⟩

theorem SameShape.gated {a b : PlanStep} (h : SameShape a b) :
    b.gated = a.gated := by
  simp only [PlanStep.gated, PlanStep.awaitsExternal, h.acceptance, h.mode]

section Writes

theorem enter_shape (toStatus : StepStatus) (error : String) (now : Rat)
    (step : PlanStep) : SameShape step (step.enter toStatus error now) :=
  ⟨rfl, rfl, rfl, rfl⟩

theorem finish_shape (output : String) (files : Option (List String))
    (step : PlanStep) : SameShape step (step.finish output files) :=
  ⟨rfl, rfl, rfl, rfl⟩

theorem logVerdicts_shape (results : List VerifyResult) (step : PlanStep) :
    SameShape step (step.logVerdicts results) :=
  ⟨rfl, rfl, rfl, rfl⟩

theorem recordCall_shape (reply : CallReply) (outcome : CallOutcome)
    (step : PlanStep) : SameShape step (step.recordCall reply outcome) :=
  ⟨rfl, rfl, rfl, rfl⟩

theorem reportFiles_shape (files : List String) (step : PlanStep) :
    SameShape step (step.reportFiles files) :=
  ⟨rfl, rfl, rfl, rfl⟩

theorem diffFiles_shape (gitBefore gitAfter : Dict String)
    (step : PlanStep) : SameShape step (step.diffFiles gitBefore gitAfter) :=
  ⟨rfl, rfl, rfl, rfl⟩

theorem softOpen_shape (step : PlanStep) : SameShape step step.softOpen :=
  ⟨rfl, rfl, rfl, rfl⟩

theorem continueError_shape (step : PlanStep) :
    SameShape step step.continueError :=
  ⟨rfl, rfl, rfl, rfl⟩

end Writes

theorem DepsVerified.mono {plan plan' : Plan} {step : PlanStep}
    (h : DepsVerified plan step)
    (hkeeps : ∀ stepId, plan.statusOf stepId = some verified →
      plan'.statusOf stepId = some verified) : DepsVerified plan' step :=
  fun dep hdep => hkeeps dep (h dep hdep)

theorem DepsVerified.of_shape {plan : Plan} {step step' : PlanStep}
    (h : DepsVerified plan step) (hshape : SameShape step step') :
    DepsVerified plan step' := by
  unfold DepsVerified
  rw [hshape.dependsOn]
  exact h

theorem Plan.statusOf_modifyStep_verified (plan : Plan) {stepId : String}
    {step : PlanStep} {f : PlanStep → PlanStep}
    (hid : ∀ step, (f step).id = step.id)
    (hget : plan.getStep? stepId = some step)
    (hkeeps : step.status = verified → (f step).status = verified)
    (other : String) (hver : plan.statusOf other = some verified) :
    (plan.modifyStep stepId f).statusOf other = some verified := by
  unfold Plan.statusOf at hver ⊢
  rw [plan.getStep?_modifyStep f hid]
  by_cases hother : other = stepId
  · subst hother
    rw [hget] at hver
    rw [if_pos rfl, hget]
    simpa using hkeeps (Option.some.inj hver)
  · rw [if_neg hother]
    exact hver

/-- `view'` has seen more than `view`, but no save and no call. -/
structure Watching (view view' : RunView) : Prop where
  plan : view'.plan = view.plan
  live : view'.live = view.live
  opened : view'.opened = view.opened
  broken : view'.broken = view.broken
  entered : view'.entered = view.entered
  begun : view'.begun = view.begun
  failed : view'.failed = view.failed
  log : ∃ exchanges, view'.log = exchanges ++ view.log ∧
    ∀ exchange ∈ exchanges, exchange.silent

/-- Nor has it seen an abort. -/
structure Silent (view view' : RunView) : Prop
    extends Watching view view' where
  aborted : view'.aborted = view.aborted

theorem Watching.rfl {view : RunView} : Watching view view :=
  ⟨Eq.refl _, Eq.refl _, Eq.refl _, Eq.refl _, Eq.refl _, Eq.refl _,
    Eq.refl _, [], Eq.refl _, by simp⟩

theorem Watching.trans {a b c : RunView} (hab : Watching a b)
    (hbc : Watching b c) : Watching a c := by
  obtain ⟨es, hes, hesSilent⟩ := hab.log
  obtain ⟨fs, hfs, hfsSilent⟩ := hbc.log
  refine ⟨hbc.plan.trans hab.plan, hbc.live.trans hab.live,
    hbc.opened.trans hab.opened, hbc.broken.trans hab.broken,
    hbc.entered.trans hab.entered,
    hbc.begun.trans hab.begun,
    hbc.failed.trans hab.failed, fs ++ es, ?_, ?_⟩
  · rw [hfs, hes, List.append_assoc]
  · intro exchange hmem
    rcases List.mem_append.mp hmem with h | h
    · exact hfsSilent exchange h
    · exact hesSilent exchange h

theorem Silent.rfl {view : RunView} : Silent view view :=
  ⟨Watching.rfl, Eq.refl _⟩

theorem Silent.trans {a b c : RunView} (hab : Silent a b) (hbc : Silent b c) :
    Silent a c :=
  ⟨hab.toWatching.trans hbc.toWatching, hbc.aborted.trans hab.aborted⟩

theorem Exchange.silent.not_callOf {exchange : Exchange}
    (h : exchange.silent) (stepId : String) :
    ¬ exchange.callOf stepId := by
  obtain ⟨op, reply⟩ := exchange
  unfold Exchange.silent at h
  unfold Exchange.callOf
  cases op <;> simp_all

section

variable (view : RunView) (op : PlanOp) (reply : PlanReply op)
  (h : Exchange.silent ⟨op, reply⟩)
include h

theorem next_watching :
    Watching view (view.next op reply) := by
  have hlog : ∃ exchanges,
      ⟨op, reply⟩ :: view.log = exchanges ++ view.log ∧
        ∀ exchange ∈ exchanges, exchange.silent :=
    ⟨[⟨op, reply⟩], rfl, by simpa using h⟩
  cases op with
  | save plan => exact absurd h id
  | callStart step plan instruction => exact absurd h id
  | callEnd stepId => exact absurd h id
  | load | time | monotonic | newTaskId | git | inspect | pick =>
      exact ⟨rfl, rfl, rfl, rfl, rfl, rfl, rfl, hlog⟩

theorem next_silent (habort : Exchange.showsAbort ⟨op, reply⟩ = false) :
    Silent view (view.next op reply) := by
  refine ⟨next_watching view op reply h, ?_⟩
  cases op with
  | load planId => simp [RunView.next, habort]
  | save | callStart | callEnd | time | monotonic | newTaskId | git | inspect
  | pick => rfl

end

/-- Only surroundings of checks were looked at; no step's last call changed. -/
structure Inspecting (view view' : RunView) : Prop
    extends Silent view view' where
  calls : ∀ {stepId : String} {started : PlanStep} {reply : CallReply}
    {gitBefore gitAfter : Dict String},
    LastCall view.log stepId started reply gitBefore gitAfter →
    LastCall view'.log stepId started reply gitBefore gitAfter

theorem Inspecting.rfl {view : RunView} : Inspecting view view :=
  ⟨Silent.rfl, id⟩

theorem Inspecting.trans {a b c : RunView} (hab : Inspecting a b)
    (hbc : Inspecting b c) : Inspecting a c :=
  ⟨hab.toSilent.trans hbc.toSilent, fun h => hbc.calls (hab.calls h)⟩

theorem inspectAll_log (config : RunnerConfig) (runMode : String)
    (ctx : VerifyContext) (evals : List (AcceptanceCheck × Surroundings))
    (view : RunView) :
    Inspecting view (inspectAll (runProtocol config runMode) ctx view evals) ∧
      (inspectAll (runProtocol config runMode) ctx view evals).log =
        inspections ctx evals ++ view.log := by
  induction evals generalizing view with
  | nil => exact ⟨Inspecting.rfl, rfl⟩
  | cons eval rest ih =>
      obtain ⟨hrest, hlog⟩ := ih (view.next (.inspect eval.1 ctx) eval.2)
      constructor
      · refine Inspecting.trans ⟨next_silent view (.inspect eval.1 ctx) eval.2
          trivial rfl, fun hcall => ?_⟩ hrest
        exact hcall.cons (by simp [Exchange.callOf]) rfl
      · unfold inspectAll at hlog ⊢
        rw [List.foldl_cons]
        refine hlog.trans ?_
        simp [inspections, RunView.next]

/-- What a view keeps over allowed exchanges; what it has seen stays seen. -/
structure Grows (view view' : RunView) : Prop where
  planId : view'.plan.planId = view.plan.planId
  ids : view'.plan.ids = view.plan.ids
  unskipped : ∀ i, view'.plan.statusOf i = some skipped →
    view.plan.statusOf i = some skipped
  failed : ∀ i ∈ view.failed, i ∈ view'.failed
  begun : ∀ i ∈ view.begun, i ∈ view'.begun
  aborted : view.aborted = true → view'.aborted = true
  broken : view.broken = true → view'.broken = true
  entered : view.entered = true → view'.entered = true
  log : ∃ exchanges, view'.log = exchanges ++ view.log

section

variable {config : RunnerConfig} {runMode : String} {plan : Plan}

theorem Grows.rfl {view : RunView} : Grows view view :=
  ⟨Eq.refl _, Eq.refl _, fun _ => id, fun _ => id, fun _ => id, id, id, id, [],
    Eq.refl _⟩

theorem Grows.trans {a b c : RunView} (hab : Grows a b) (hbc : Grows b c) :
    Grows a c := by
  obtain ⟨es, hes⟩ := hab.log
  obtain ⟨fs, hfs⟩ := hbc.log
  refine ⟨hbc.planId.trans hab.planId, hbc.ids.trans hab.ids,
    fun i hi => hab.unskipped i (hbc.unskipped i hi),
    fun i hi => hbc.failed i (hab.failed i hi),
    fun i hi => hbc.begun i (hab.begun i hi),
    fun h => hbc.aborted (hab.aborted h),
    fun h => hbc.broken (hab.broken h),
    fun h => hbc.entered (hab.entered h), fs ++ es, ?_⟩
  rw [hfs, hes, List.append_assoc]

theorem Evolves.unskipped {view : RunView}
    (h : Evolves config runMode view plan) (stepId : String)
    (hskip : plan.statusOf stepId = some skipped) :
    view.plan.statusOf stepId = some skipped := by
  obtain ⟨step', hget', hstatus⟩ := Option.map_eq_some_iff.mp hskip
  have hmem : stepId ∈ view.plan.ids := by
    rw [← h.ids, ← plan.getStep?_id hget']
    exact List.mem_map_of_mem (plan.getStep?_mem hget')
  obtain ⟨step, hget⟩ := view.plan.exists_getStep? hmem
  rw [Plan.statusOf, hget]
  rcases h.steps stepId step step' hget hget' with rfl | hworked
  · exact congrArg some hstatus
  · have hnow := hworked.now
    rw [hstatus] at hnow
    exact absurd hnow (by decide)

theorem Evolves.untouched {view : RunView}
    (h : Evolves config runMode view plan) {stepId : String} {step : PlanStep}
    (hget : view.plan.getStep? stepId = some step)
    (hstatus : step.status ∉ [pending, failed, running]) :
    plan.getStep? stepId = some step := by
  have hmem : stepId ∈ plan.ids := by
    rw [h.ids, ← view.plan.getStep?_id hget]
    exact List.mem_map_of_mem (view.plan.getStep?_mem hget)
  obtain ⟨step', hget'⟩ := plan.exists_getStep? hmem
  rcases h.steps stepId step step' hget hget' with rfl | hworked
  · exact hget'
  · exact absurd hworked.before hstatus

theorem next_grows (view : RunView) (op : PlanOp) (reply : PlanReply op)
    (hallow : (runProtocol config runMode).allows view op) :
    Grows view (view.next op reply) := by
  have hlog : ∃ exchanges,
      ⟨op, reply⟩ :: view.log = exchanges ++ view.log :=
    ⟨[⟨op, reply⟩], rfl⟩
  cases op with
  | load planId =>
      exact ⟨rfl, rfl, fun _ => id, fun _ => id, fun _ => id,
        fun h => Bool.or_eq_true_iff.mpr (Or.inl h), id, id, hlog⟩
  | save plan =>
      obtain ⟨_, hevolves, _⟩ := hallow
      exact ⟨hevolves.planId, hevolves.ids, hevolves.unskipped, fun _ => id,
        fun _ => List.mem_append_right _, id,
        fun h => Bool.or_eq_true_iff.mpr (Or.inl h), fun _ => rfl, hlog⟩
  | callStart step plan instruction =>
      have hevolves := MayCall.evolves hallow
      exact ⟨hevolves.planId, hevolves.ids, hevolves.unskipped, fun _ => id,
        fun _ => id, id, id, id, hlog⟩
  | callEnd stepId =>
      refine ⟨rfl, rfl, fun _ => id, fun i hi => ?_, fun _ => id, id, id, id,
        hlog⟩
      change i ∈ if reply.success then view.failed else stepId :: view.failed
      split
      · exact hi
      · exact List.mem_cons_of_mem _ hi
  | time | monotonic | newTaskId | git | inspect | pick =>
      exact ⟨rfl, rfl, fun _ => id, fun _ => id, fun _ => id, id, id, id, hlog⟩

theorem wp_grows {A : Type} {x : PlanScript A}
    {Q : Except PyError A → Plan → RunView → Prop} {view : RunView}
    (h : Script.wp (runProtocol config runMode) x Q plan view) :
    Script.wp (runProtocol config runMode) x
      (fun out plan' view' => Q out plan' view' ∧ Grows view view') plan
      view :=
  Script.wp_reaches (fun _ => Grows.rfl) (fun _ _ _ => Grows.trans)
    next_grows h

end

section Evolution

variable {config : RunnerConfig} {runMode : String}

theorem RunView.SawFailure.mono {view view' : RunView} {stepId : String}
    {step : PlanStep} (h : view.SawFailure stepId step)
    (hfailed : ∀ i ∈ view.failed, i ∈ view'.failed)
    (hbegun : ∀ i ∈ view.begun, i ∈ view'.begun) :
    view'.SawFailure stepId step := by
  rcases h with h | ⟨hmode, h⟩
  · exact Or.inl (hfailed _ h)
  · exact Or.inr ⟨hmode, hbegun _ h⟩

theorem Opened.watching {view view' : RunView} {step : PlanStep}
    (h : Opened config runMode view step) (hwatch : Watching view view') :
    Opened config runMode view' step := by
  cases h with
  | passed ungated passed =>
      refine .passed ungated ?_
      obtain ⟨exchanges, hlog, hes⟩ := hwatch.log
      rw [hlog]
      clear hlog
      induction exchanges with
      | nil => exact passed
      | cons exchange rest ih =>
          refine (ih fun e he => hes e (List.mem_cons_of_mem _ he)).cons ?_
          exact (hes exchange List.mem_cons_self).not_callOf step.id
  | soft ungated mode => exact .soft ungated mode
  | forced policy failed =>
      refine .forced policy fun hgated => ?_
      refine (failed hgated).mono ?_ ?_
      · rw [hwatch.failed]
        exact fun _ => id
      · rw [hwatch.begun]
        exact fun _ => id

namespace AbortKnown

variable {view view' : RunView} {plan plan' : Plan}

theorem of_status (h : AbortKnown view plan)
    (hstatus : plan'.status = .aborted ↔ plan.status = .aborted) :
    AbortKnown view plan' :=
  ⟨fun habort => h.shown (hstatus.mp habort),
    fun habort => (h.adopted habort).imp_right hstatus.mpr⟩

theorem of_view (h : AbortKnown view plan)
    (haborted : view'.aborted = view.aborted)
    (hbroken : view.broken = true → view'.broken = true) :
    AbortKnown view' plan :=
  ⟨fun habort => haborted.trans (h.shown habort),
    fun habort => (h.adopted (haborted.symm.trans habort)).imp_left hbroken⟩

theorem of_absent (habsent : view.aborted = false)
    (hstatus : plan.status ≠ .aborted) : AbortKnown view plan :=
  ⟨fun habort => absurd habort hstatus,
    fun habort => absurd (habsent.symm.trans habort) (by decide)⟩

theorem status_ne (h : AbortKnown view plan) (habsent : view.aborted = false) :
    plan.status ≠ .aborted := fun habort =>
  absurd (habsent.symm.trans (h.shown habort)) (by decide)

end AbortKnown

namespace Worked

variable {view : RunView} {plan plan' : Plan} {step step' : PlanStep}

theorem mono (h : Worked config runMode view plan step step')
    (hkeeps : ∀ stepId, plan.statusOf stepId = some verified →
      plan'.statusOf stepId = some verified) :
    Worked config runMode view plan' step step' :=
  { h with
    gate := h.gate.imp_left fun hdeps => hdeps.mono hkeeps }

theorem watching {view' : RunView}
    (h : Worked config runMode view plan step step')
    (hwatch : Watching view view') :
    Worked config runMode view' plan step step' :=
  { h with
    claimed := by rw [hwatch.begun]; exact h.claimed
    opened := fun hver => (h.opened hver).watching hwatch }

end Worked

namespace Evolves

variable {view : RunView} {plan plan' : Plan}

theorem of_steps (hplanId : plan.planId = view.plan.planId)
    (hsteps : plan.steps = view.plan.steps)
    (haborted : AbortKnown view plan) :
    Evolves config runMode view plan where
  planId := hplanId
  ids := by simp only [Plan.ids, hsteps]
  aborted := haborted
  steps := by
    intro stepId step step' hstep hstep'
    left
    unfold Plan.getStep? at hstep hstep'
    rw [hsteps, hstep] at hstep'
    exact (Option.some.inj hstep').symm

theorem of_meta (h : Evolves config runMode view plan)
    (hplanId : plan'.planId = plan.planId)
    (hsteps : plan'.steps = plan.steps)
    (haborted : plan'.status = .aborted ↔ plan.status = .aborted) :
    Evolves config runMode view plan' where
  planId := hplanId.trans h.planId
  ids := by simpa only [Plan.ids, hsteps] using h.ids
  aborted := h.aborted.of_status haborted
  steps := by
    intro stepId step step' hstep hstep'
    have hget : plan.getStep? stepId = some step' := by
      simpa only [Plan.getStep?, hsteps] using hstep'
    refine (h.steps stepId step step' hstep hget).imp_right fun hw => ?_
    refine hw.mono fun other hver => ?_
    simpa only [Plan.statusOf, Plan.getStep?, hsteps] using hver

theorem watching {view' : RunView} (h : Evolves config runMode view plan)
    (hwatch : Watching view view') (haborted : AbortKnown view' plan) :
    Evolves config runMode view' plan where
  planId := by rw [hwatch.plan]; exact h.planId
  ids := by rw [hwatch.plan]; exact h.ids
  aborted := haborted
  steps := by
    intro stepId step step' hstep hstep'
    rw [hwatch.plan] at hstep
    exact (h.steps stepId step step' hstep hstep').imp_right
      fun hw => hw.watching hwatch

theorem silent {view' : RunView} (h : Evolves config runMode view plan)
    (hsilent : Silent view view') : Evolves config runMode view' plan :=
  h.watching hsilent.toWatching
    (h.aborted.of_view hsilent.aborted (by rw [hsilent.broken]; exact id))

theorem of_abort (h : Evolves config runMode view plan) {view' : RunView}
    (hwatch : Watching view view') (haborted : view'.aborted = true)
    (error : String) :
    Evolves config runMode view'
      { plan with status := .aborted, error := error } where
  planId := by rw [hwatch.plan]; exact h.planId
  ids := by rw [hwatch.plan]; exact h.ids
  aborted := ⟨fun _ => haborted, fun _ => Or.inr rfl⟩
  steps := by
    intro stepId step step' hstep hstep'
    rw [hwatch.plan] at hstep
    exact (h.steps stepId step step' hstep hstep').imp_right
      fun hw => (hw.watching hwatch).mono fun _ => id

theorem modifyStep (h : Evolves config runMode view plan) {stepId : String}
    {seen step : PlanStep} (hseen : view.plan.getStep? stepId = some seen)
    (hget : plan.getStep? stepId = some step) {f : PlanStep → PlanStep}
    (hshape : ∀ step, SameShape step (f step))
    (hkeeps : step.status = verified → (f step).status = verified)
    (hworked : Worked config runMode view plan seen (f step)) :
    Evolves config runMode view (plan.modifyStep stepId f) where
  planId := h.planId
  ids := (plan.ids_modifyStep f fun step => (hshape step).id).trans h.ids
  aborted := h.aborted.of_status Iff.rfl
  steps := by
    intro other before after hbefore hafter
    have hmono := plan.statusOf_modifyStep_verified
      (fun step => (hshape step).id) hget hkeeps
    rw [plan.getStep?_modifyStep f fun step => (hshape step).id] at hafter
    by_cases hother : other = stepId
    · subst hother
      rw [if_pos rfl, hget] at hafter
      rw [hseen] at hbefore
      cases hafter
      cases hbefore
      exact Or.inr (hworked.mono hmono)
    · rw [if_neg hother] at hafter
      exact (h.steps other before after hbefore hafter).imp_right
        fun hw => hw.mono hmono

end Evolves

/-- The steps that the run has claimed have their dependencies verified. -/
structure ClaimsGated (view : RunView) (plan : Plan) : Prop where
  deps : ∀ stepId ∈ view.begun, ∀ step,
    plan.getStep? stepId = some step → DepsVerified plan step

namespace ClaimsGated

variable {view view' : RunView} {plan plan' : Plan}

theorem of_steps (h : ClaimsGated view plan)
    (hsteps : plan'.steps = plan.steps) (hbegun : view'.begun = view.begun) :
    ClaimsGated view' plan' := by
  constructor
  intro stepId hmem step hget dep hdep
  rw [hbegun] at hmem
  simp only [Plan.statusOf, Plan.getStep?, hsteps] at hget ⊢
  exact h.deps stepId hmem step hget dep hdep

theorem modifyStep (h : ClaimsGated view plan) {stepId : String}
    {step : PlanStep} {f : PlanStep → PlanStep}
    (hshape : ∀ step, SameShape step (f step))
    (hget : plan.getStep? stepId = some step)
    (hkeeps : step.status = verified → (f step).status = verified) :
    ClaimsGated view (plan.modifyStep stepId f) := by
  constructor
  intro other hmem found hfound
  have hmono := plan.statusOf_modifyStep_verified
    (fun step => (hshape step).id) hget hkeeps
  rw [plan.getStep?_modifyStep f fun step => (hshape step).id] at hfound
  by_cases hother : other = stepId
  · subst hother
    rw [if_pos rfl, hget] at hfound
    cases hfound
    exact ((h.deps other hmem step hget).of_shape (hshape step)).mono hmono
  · rw [if_neg hother] at hfound
    exact (h.deps other hmem found hfound).mono hmono

end ClaimsGated

/-- Between two steps: the plan may be saved, and no call is in progress. -/
structure Steady (config : RunnerConfig) (runMode : String) (view : RunView)
    (plan : Plan) : Prop where
  wf : WellFormed plan
  evolves : Evolves config runMode view plan
  gate : ClaimsGated view plan
  live : view.live = []
  path : view.aborted = true → storePath plan.planId = .ok ()

namespace Steady

variable {view view' : RunView} {plan plan' : Plan}

section

variable (h : Steady config runMode view plan)
include h

theorem of_meta (hplanId : plan'.planId = plan.planId)
    (hsteps : plan'.steps = plan.steps)
    (haborted : plan'.status = .aborted ↔ plan.status = .aborted) :
    Steady config runMode view plan' :=
  ⟨h.wf.of_steps hplanId hsteps, h.evolves.of_meta hplanId hsteps haborted,
    h.gate.of_steps hsteps rfl, h.live, by rw [hplanId]; exact h.path⟩

theorem silent (hsilent : Silent view view') :
    Steady config runMode view' plan :=
  ⟨h.wf, h.evolves.silent hsilent, h.gate.of_steps rfl hsilent.begun,
    hsilent.live.trans h.live, by rw [hsilent.aborted]; exact h.path⟩

theorem recompute :
    Steady config runMode view (recomputePlanStatus plan) :=
  h.of_meta (by simp) (by simp) (by simp)

theorem modifyStep {stepId : String} {seen step : PlanStep}
    (hseen : view.plan.getStep? stepId = some seen)
    (hget : plan.getStep? stepId = some step) {f : PlanStep → PlanStep}
    (hshape : ∀ step, SameShape step (f step))
    (hkeeps : step.status = verified → (f step).status = verified)
    (hworked : Worked config runMode view plan seen (f step)) :
    Steady config runMode view (plan.modifyStep stepId f) :=
  ⟨h.wf.of_nodes rfl (nodes_modifyStep plan stepId hshape),
    h.evolves.modifyStep hseen hget hshape hkeeps hworked,
    h.gate.modifyStep hshape hget hkeeps, h.live, h.path⟩

end

end Steady

/-- The run is at work on the step, which it has claimed before. -/
structure Working (config : RunnerConfig) (runMode : String) (view : RunView)
    (plan : Plan) (stepId : String) (step : PlanStep) : Prop
    extends Steady config runMode view plan where
  found : plan.getStep? stepId = some step
  now : step.status ∈ [running, done, verifying, failed]
  seen : ∃ seen, view.plan.getStep? stepId = some seen ∧
    SameShape seen step ∧ seen.status ∈ [pending, failed, running]
  begun : stepId ∈ view.begun

namespace Working

variable {view view' : RunView} {plan : Plan} {stepId : String}
  {step : PlanStep}

section

variable (h : Working config runMode view plan stepId step)
include h

theorem id :
    step.id = stepId := plan.getStep?_id h.found

theorem deps :
    DepsVerified plan step := h.gate.deps stepId h.begun step h.found

theorem unverified :
    step.status ≠ verified := by
  intro hver
  have hnow := h.now
  rw [hver] at hnow
  exact absurd hnow (by decide)

theorem silent (hsilent : Silent view view') :
    Working config runMode view' plan stepId step :=
  { h with
    toSteady := h.toSteady.silent hsilent
    seen := by rw [hsilent.plan]; exact h.seen
    begun := by rw [hsilent.begun]; exact h.begun }

end

section

variable (h : Working config runMode view plan stepId step)
  {f : PlanStep → PlanStep} (hshape : ∀ step, SameShape step (f step))
  (hnow : (f step).status ∈ [running, done, verifying, failed, verified])
  (hopened : (f step).status = verified → Opened config runMode view (f step))
include h hshape hnow hopened

theorem worked :
    ∃ seen, view.plan.getStep? stepId = some seen ∧
      Worked config runMode view plan seen (f step) := by
  obtain ⟨seen, hseen, hsame, hbefore⟩ := h.seen
  refine ⟨seen, hseen, hsame.trans (hshape step), hbefore, hnow,
    Or.inl (h.deps.of_shape (hshape step)), Or.inr (Or.inr ?_), hopened⟩
  rw [(hshape step).id, h.id]
  exact h.begun

/-- Any write to the step at work keeps the run steady. -/
theorem modifyStep :
    Steady config runMode view (plan.modifyStep stepId f) ∧
      ((f step).status ≠ verified →
        Working config runMode view (plan.modifyStep stepId f) stepId
          (f step)) := by
  obtain ⟨seen, hseen, hworked⟩ := h.worked hshape hnow hopened
  have hsteady := h.toSteady.modifyStep hseen h.found hshape
    (fun hver => absurd hver h.unverified) hworked
  refine ⟨hsteady, fun hne => ?_⟩
  refine { toSteady := hsteady, found := ?_, now := ?_, seen := ?_,
           begun := h.begun }
  · exact plan.modifyStep_getStep?_self f (fun step => (hshape step).id) h.found
  · revert hnow hne
    cases (f step).status <;> decide
  · obtain ⟨seen, hseen, hsame, hrest⟩ := h.seen
    exact ⟨seen, hseen, hsame.trans (hshape step), hrest⟩

end

section

variable (h : Working config runMode view plan stepId step)
include h

theorem record {f : PlanStep → PlanStep}
    (hshape : ∀ step, SameShape step (f step))
    (hstatus : (f step).status = step.status) :
    Working config runMode view (plan.modifyStep stepId f) stepId
      (f step) := by
  have hne : (f step).status ≠ verified := by
    rw [hstatus]
    exact h.unverified
  refine (h.modifyStep hshape ?_ fun hver => absurd hver hne).2 hne
  rw [hstatus]
  have hnow := h.now
  revert hnow
  cases step.status <;> decide

theorem recompute :
    Working config runMode view (recomputePlanStatus plan) stepId step :=
  { h with
    toSteady := h.toSteady.recompute
    found := by simpa using h.found }

theorem enter (toStatus : StepStatus) (error : String) (now : Rat)
    (hto : toStatus ∈ [running, done, verifying, failed]) :
    Working config runMode view (plan.entered stepId toStatus error now) stepId
      (step.enter toStatus error now) := by
  have hne : toStatus ≠ verified := by
    revert hto
    cases toStatus <;> decide
  refine ((h.modifyStep (enter_shape toStatus error now) ?_
    fun hver => absurd hver hne).2 hne).recompute
  rw [enter_status]
  revert hto
  cases toStatus <;> decide

theorem enterVerified (error : String) (now : Rat)
    (hopened : Opened config runMode view (step.enter verified error now)) :
    Steady config runMode view (plan.entered stepId verified error now) :=
  (h.modifyStep (enter_shape verified error now) (by simp)
    fun _ => hopened).1.recompute

end

end Working

end Evolution

/-- Nothing but the step changes. -/
structure OnlyStep (stepId : String) (plan plan' : Plan) : Prop where
  same : ∀ other, other ≠ stepId → plan'.getStep? other = plan.getStep? other

namespace OnlyStep

variable {stepId : String} {plan plan' plan'' : Plan}

theorem rfl : OnlyStep stepId plan plan := ⟨fun _ _ => Eq.refl _⟩

theorem trans (h : OnlyStep stepId plan plan')
    (h' : OnlyStep stepId plan' plan'') : OnlyStep stepId plan plan'' :=
  ⟨fun other hother => (h'.same other hother).trans (h.same other hother)⟩

theorem modifyStep {f : PlanStep → PlanStep}
    (hshape : ∀ step, SameShape step (f step)) :
    OnlyStep stepId plan (plan.modifyStep stepId f) := by
  constructor
  intro other hother
  rw [plan.getStep?_modifyStep f fun step => (hshape step).id, if_neg hother]

theorem entered (toStatus : StepStatus) (error : String) (now : Rat) :
    OnlyStep stepId plan (plan.entered stepId toStatus error now) := by
  constructor
  intro other hother
  rw [entered_getStep?, if_neg hother]

theorem of_steps (h : plan'.steps = plan.steps) :
    OnlyStep stepId plan plan' := by
  constructor
  intro other _
  simp only [Plan.getStep?, h]

theorem recompute : OnlyStep stepId plan (recomputePlanStatus plan) :=
  of_steps (by simp)

end OnlyStep

end Voly
