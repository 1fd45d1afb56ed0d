/-
A chat wave keeps the run protocol: its members start together, interleave, and
are finalized in order.
-/
import Voly.Plan.Attempt

namespace Voly

open Python Interaction StepStatus

section Wave

variable {config : RunnerConfig} {runMode : String} {view : RunView}
  {plan : Plan}

/-- A wave member that entered `running`. -/
structure Entered (before plan : Plan) (stepId : String) (step : PlanStep) :
    Prop where
  found : plan.getStep? stepId = some step
  status : step.status = running
  deps : DepsVerified plan step
  old : ∃ old, before.getStep? stepId = some old ∧ SameShape old step ∧
    old.status ∈ [pending, failed]

structure WaveEntered (config : RunnerConfig) (runMode : String)
    (stepIds : List String) (before : Plan) (out : Except PyError Unit)
    (plan : Plan) (view : RunView) : Prop where
  steady : Steady config runMode view plan
  frame : ∀ other, other ∉ stepIds →
    plan.getStep? other = before.getStep? other
  keeps : ∀ other, before.statusOf other = some verified →
    plan.statusOf other = some verified
  entered : out = .ok () → ∀ stepId ∈ stepIds,
    ∃ step, Entered before plan stepId step

theorem wp_enterWave (stepIds : List String) (hnodup : stepIds.Nodup)
    {plan : Plan} {view : RunView} (h : Steady config runMode view plan)
    (hseen : ∀ stepId ∈ stepIds,
      view.plan.getStep? stepId = plan.getStep? stepId)
    {Q : Except PyError Unit → Plan → RunView → Prop}
    (hQ : ∀ out plan' view', Silent view view' →
      WaveEntered config runMode stepIds plan out plan' view' →
      Q out plan' view') :
    Script.wp (runProtocol config runMode) (enterRunning stepIds) Q plan
      view := by
  induction stepIds generalizing plan view Q with
  | nil =>
      exact hQ _ _ _ Silent.rfl
        ⟨h, fun _ _ => rfl, fun _ => id, fun _ _ hmem => by cases hmem⟩
  | cons stepId rest ih =>
      have hsilent : ∀ now, Silent view (view.next .time now) :=
        fun now => next_silent view .time now trivial rfl
      obtain ⟨hnotMem, hrestNodup⟩ := List.nodup_cons.mp hnodup
      rw [enterRunning, Script.wp_bind, wp_enterRunning]
      refine ⟨trivial, fun now _ => ?_⟩
      rcases transition_cases stepId running "" false false now plan with
        ⟨e, he⟩ | ⟨step, hfound, hrefusal, hok⟩
      · rw [he]
        exact hQ _ _ _ (hsilent now) ⟨h.silent (hsilent now), fun _ _ => rfl,
          fun _ => id, fun hout => by cases hout⟩
      · have hadmits := admits_of_refusal hrefusal
        have hbefore : step.status ∈ [pending, failed] := by
          have hlegal := hadmits.legal
          revert hlegal
          cases step.status <;> decide
        have hstep : view.plan.getStep? stepId = some step :=
          (hseen stepId List.mem_cons_self).trans hfound
        obtain ⟨hentered, hdeps⟩ := (h.silent (hsilent now)).enterRunning
          hstep hfound SameShape.rfl
          (by revert hbefore; cases step.status <;> decide) hadmits "" now
        have hothers : OnlyStep stepId plan
            (plan.entered stepId running "" now) := OnlyStep.entered ..
        have hget : (plan.entered stepId running "" now).getStep? stepId =
            some (step.enter running "" now) := by
          rw [entered_getStep?, if_pos rfl, hfound]
          rfl
        have hkeeps : ∀ other, plan.statusOf other = some verified →
            (plan.entered stepId running "" now).statusOf other =
              some verified := by
          intro other hver
          rw [Plan.statusOf, hothers.same other ?_]
          · exact hver
          · rintro rfl
            rw [Plan.statusOf, hfound] at hver
            exact hadmits.from_ne_verified (Option.some.inj hver)
        have hrest : ∀ other ∈ rest, other ≠ stepId := by
          rintro other hmem rfl
          exact hnotMem hmem
        rw [hok]
        dsimp only
        refine ih hrestNodup hentered ?_ ?_
        · intro other hmem
          rw [hothers.same other (hrest other hmem)]
          exact hseen other (List.mem_cons_of_mem _ hmem)
        · intro out plan' view' hsilent' hwave
          refine hQ _ _ _ ((hsilent now).trans hsilent')
            ⟨hwave.steady, ?_, ?_, ?_⟩
          · intro other hother
            rw [List.mem_cons, not_or] at hother
            rw [hwave.frame other hother.2, hothers.same other hother.1]
          · exact fun other hver => hwave.keeps other (hkeeps other hver)
          · intro hout other hmem
            rcases List.mem_cons.mp hmem with rfl | hmem
            · exact ⟨_, (hwave.frame other hnotMem).trans hget, rfl,
                hdeps.mono hwave.keeps, step, hfound,
                enter_shape running "" now step, hbefore⟩
            · obtain ⟨member, hmember⟩ := hwave.entered hout other hmem
              obtain ⟨old, hold, hrest'⟩ := hmember.old
              rw [hothers.same other (hrest other hmem)] at hold
              exact ⟨member, hmember.found, hmember.status, hmember.deps, old,
                hold, hrest'⟩

/-- Since the plan was seen, only data of running steps was written. -/
structure DataOnly (view : RunView) (plan : Plan) : Prop where
  wf : WellFormed plan
  planId : plan.planId = view.plan.planId
  ids : plan.ids = view.plan.ids
  aborted : AbortKnown view plan
  gate : ClaimsGated view plan
  steps : ∀ stepId step step', view.plan.getStep? stepId = some step →
    plan.getStep? stepId = some step' → step' = step ∨
      SameShape step step' ∧ step.status = running ∧ step'.status = running ∧
        DepsVerified plan step'

theorem DataOnly.evolves (h : DataOnly view plan) :
    Evolves config runMode view plan where
  planId := h.planId
  ids := h.ids
  aborted := h.aborted
  steps := by
    intro stepId step step' hstep hstep'
    refine (h.steps stepId step step' hstep hstep').imp_right ?_
    rintro ⟨hshape, hbefore, hnow, hdeps⟩
    refine ⟨hshape, ?_, ?_, Or.inl hdeps, Or.inl hbefore, ?_⟩
    · rw [hbefore]
      decide
    · rw [hnow]
      decide
    · intro hver
      rw [hnow] at hver
      cases hver

theorem DataOnly.of_view {view' : RunView} (h : DataOnly view plan)
    (hplan : view'.plan = view.plan) (haborted : view'.aborted = view.aborted)
    (hbroken : view'.broken = view.broken)
    (hbegun : view'.begun = view.begun) : DataOnly view' plan where
  wf := h.wf
  planId := by rw [hplan]; exact h.planId
  ids := by rw [hplan]; exact h.ids
  aborted := h.aborted.of_view haborted (by rw [hbroken]; exact id)
  gate := h.gate.of_steps rfl hbegun
  steps := by rw [hplan]; exact h.steps

theorem DataOnly.seen (hwf : WellFormed plan) (hplan : view.plan = plan)
    (haborted : AbortKnown view plan)
    (hgate : ClaimsGated view plan) : DataOnly view plan where
  wf := hwf
  planId := by rw [hplan]
  ids := by rw [hplan]
  aborted := haborted
  gate := hgate
  steps := by
    intro stepId step step' hstep hstep'
    rw [hplan, hstep'] at hstep
    exact Or.inl (Option.some.inj hstep)

theorem DataOnly.record (h : DataOnly view plan) {stepId : String}
    {step : PlanStep} (hget : plan.getStep? stepId = some step)
    (hrun : step.status = running) (hdeps : DepsVerified plan step)
    {f : PlanStep → PlanStep} (hshape : ∀ step, SameShape step (f step))
    (hstatus : (f step).status = step.status) :
    DataOnly view (plan.modifyStep stepId f) where
  wf := h.wf.of_nodes rfl (nodes_modifyStep plan stepId hshape)
  planId := h.planId
  ids := (plan.ids_modifyStep f fun step => (hshape step).id).trans h.ids
  aborted := h.aborted.of_status Iff.rfl
  gate := h.gate.modifyStep hshape hget fun hver => hstatus.trans hver
  steps := by
    have hkeeps := plan.statusOf_modifyStep_verified
      (fun step => (hshape step).id) hget fun hver => hstatus.trans hver
    intro other before after hbefore hafter
    rw [plan.getStep?_modifyStep f fun step => (hshape step).id] at hafter
    by_cases hother : other = stepId
    · subst hother
      rw [if_pos rfl, hget] at hafter
      cases hafter
      right
      have hmove := h.steps other before step hbefore hget
      refine ⟨?_, ?_, hstatus.trans hrun,
        (hdeps.of_shape (hshape step)).mono hkeeps⟩
      · rcases hmove with rfl | ⟨hsame, _⟩
        · exact hshape step
        · exact hsame.trans (hshape step)
      · rcases hmove with rfl | ⟨_, hbefore, _⟩
        · exact hrun
        · exact hbefore
    · rw [if_neg hother] at hafter
      refine (h.steps other before after hbefore hafter).imp_right ?_
      rintro ⟨hsame, hrun, hnow, hafterDeps⟩
      exact ⟨hsame, hrun, hnow, hafterDeps.mono hkeeps⟩

def CallOpen (log : List Exchange) (started : PlanStep) : Prop :=
  ∃ within before plan instruction,
    log = within ++ ⟨.callStart started plan instruction, ()⟩ :: before ∧
    (∀ exchange ∈ within, ¬ exchange.callOf started.id) ∧
    Exchange.snapshot before.head? = []

theorem CallOpen.cons {log : List Exchange} {started : PlanStep}
    (h : CallOpen log started) {exchange : Exchange}
    (hother : ¬ exchange.callOf started.id) :
    CallOpen (exchange :: log) started := by
  obtain ⟨within, before, plan, instruction, hlog, hquiet, hbefore⟩ := h
  refine ⟨exchange :: within, before, plan, instruction, by simp [hlog], ?_,
    hbefore⟩
  intro e he
  rcases List.mem_cons.mp he with rfl | he
  · exact hother
  · exact hquiet e he

theorem CallOpen.ended {log : List Exchange} {started : PlanStep}
    (h : CallOpen log started) (reply : CallReply) :
    LastCall (⟨.callEnd started.id, reply⟩ :: log) started.id started reply
      [] [] := by
  obtain ⟨within, before, plan, instruction, hlog, hquiet, hbefore⟩ := h
  exact ⟨[], within, before, plan, instruction, by simp [hlog], rfl,
    by simpa using hquiet, hbefore.symm, rfl⟩

/-- A member's worker is done: its call, and what it left behind. -/
structure BodyDone (log : List Exchange) (failed : List String)
    (bodies : Dict CallOutcome) (stepId : String) (step started : PlanStep)
    (reply : CallReply) : Prop where
  call : LastCall log stepId started reply [] []
  mode : started.mode = .chat
  acceptance : started.acceptance = step.acceptance
  output : step.output = slice 50000 (outcomeOf .chat reply).output
  body : bodies.get? stepId = some (outcomeOf .chat reply)
  failed : reply.success = false → stepId ∈ failed

theorem BodyDone.cons {log : List Exchange} {failed : List String}
    {bodies : Dict CallOutcome} {stepId : String} {step started : PlanStep}
    {reply : CallReply}
    (h : BodyDone log failed bodies stepId step started reply)
    {exchange : Exchange} (hother : ¬ exchange.callOf stepId)
    (hgit : Exchange.snapshot (some exchange) = []) :
    BodyDone (exchange :: log) failed bodies stepId step started reply :=
  { h with call := h.call.cons hother hgit }

/-- The invariant of the worker threads. -/
structure Waving (view : RunView) (plan before : Plan)
    (stepIds waiting calling : List String) (bodies : Dict CallOutcome) :
    Prop where
  data : DataOnly view plan
  live : view.live = calling
  present : view.aborted = false
  nodup : (waiting ++ calling).Nodup
  subset : ∀ stepId ∈ waiting ++ calling, stepId ∈ stepIds
  member : ∀ stepId ∈ stepIds, ∃ step, plan.getStep? stepId = some step ∧
    step.status = running ∧ step.mode = .chat ∧ DepsVerified plan step ∧
    stepId ∈ view.begun
  inCall : ∀ stepId ∈ calling, ∃ step started,
    plan.getStep? stepId = some step ∧ started.id = stepId ∧
    CallOpen view.log started ∧ started.mode = .chat ∧
    started.acceptance = step.acceptance
  finished : ∀ stepId ∈ stepIds, stepId ∉ waiting ++ calling →
    ∃ step started reply, plan.getStep? stepId = some step ∧
      BodyDone view.log view.failed bodies stepId step started reply
  frame : ∀ other, other ∉ stepIds →
    plan.getStep? other = before.getStep? other
  keeps : ∀ other, before.statusOf other = some verified →
    plan.statusOf other = some verified

namespace Waving

variable {before : Plan} {stepIds waiting calling : List String}
  {bodies : Dict CallOutcome} {stepId : String}

section

variable (h : Waving view plan before stepIds waiting calling bodies)
  {step : PlanStep}
include h

theorem pick (n choice : Nat) :
    Waving (view.next (.pick n) choice) plan before stepIds waiting calling
      bodies where
  data := h.data.of_view rfl rfl rfl rfl
  live := h.live
  present := h.present
  nodup := h.nodup
  subset := h.subset
  member := h.member
  inCall := by
    intro stepId hmem
    obtain ⟨step, started, hget, hid, hopen, hrest⟩ := h.inCall stepId hmem
    exact ⟨step, started, hget, hid, hopen.cons (by simp [Exchange.callOf]),
      hrest⟩
  finished := by
    intro stepId hmem hdone
    obtain ⟨step, started, reply, hget, hbody⟩ := h.finished stepId hmem hdone
    exact ⟨step, started, reply, hget,
      hbody.cons (by simp [Exchange.callOf]) rfl⟩
  frame := h.frame
  keeps := h.keeps

theorem mayCall (hmem : stepId ∈ waiting)
    (hget : plan.getStep? stepId = some step) :
    MayCall config runMode view step plan (instructionFor plan step) := by
  have hid := plan.getStep?_id hget
  obtain ⟨found, hfound, hstatus, hmode, _, hclaimed⟩ :=
    h.member stepId (h.subset stepId (List.mem_append_left _ hmem))
  rw [hget] at hfound
  cases hfound
  refine ⟨h.data.wf, h.data.evolves, h.present, by rw [hid]; exact hget,
    hstatus, by rw [hmode]; decide, rfl, ?_, ?_, ?_⟩
  · rw [h.live, hid]
    intro hcalling
    exact (List.nodup_append.mp h.nodup).2.2 stepId hmem stepId hcalling rfl
  · rw [hid]
    exact hclaimed
  · rw [h.live]
    intro other hother
    obtain ⟨otherStep, hotherGet, _, hotherMode, _⟩ :=
      h.member other (h.subset other (List.mem_append_right _ hother))
    exact ⟨hmode, otherStep, hotherGet, hotherMode⟩

theorem start (hmem : stepId ∈ waiting)
    (hget : plan.getStep? stepId = some step)
    (hfresh : Exchange.snapshot view.log.head? = []) :
    Waving (view.next (.callStart step plan (instructionFor plan step)) ())
      plan before stepIds (waiting.erase stepId) (calling ++ [stepId])
      bodies := by
  have hid := plan.getStep?_id hget
  have hwaiting : waiting.Nodup := (List.nodup_append.mp h.nodup).1
  have hperm : (waiting.erase stepId ++ (calling ++ [stepId])).Perm
      (waiting ++ calling) := by
    have herase := List.perm_cons_erase hmem
    refine (List.Perm.trans ?_ (herase.append_right calling).symm)
    rw [← List.append_assoc]
    exact List.perm_append_singleton stepId _
  have hdone : ∀ other, other ∉ waiting.erase stepId ++ (calling ++ [stepId]) →
      other ∉ waiting ++ calling ∧ other ≠ stepId := by
    intro other hother
    refine ⟨fun hmem' => hother (hperm.mem_iff.mpr hmem'), ?_⟩
    rintro rfl
    simp at hother
  constructor
  · exact DataOnly.seen h.data.wf rfl (h.data.aborted.of_view rfl id)
      (h.data.gate.of_steps rfl rfl)
  · change view.live ++ [step.id] = calling ++ [stepId]
    rw [h.live, hid]
  · exact h.present
  · exact hperm.nodup_iff.mpr h.nodup
  · intro other hother
    exact h.subset other (hperm.mem_iff.mp hother)
  · intro other hother
    exact h.member other hother
  · intro other hother
    obtain ⟨found, hfound, _, hmode, _⟩ :=
      h.member stepId (h.subset stepId (List.mem_append_left _ hmem))
    rw [hget] at hfound
    cases hfound
    rcases List.mem_append.mp hother with hother | hother
    · obtain ⟨other', started, hget', hid', hopen, hrest⟩ :=
        h.inCall other hother
      refine ⟨other', started, hget', hid', hopen.cons ?_, hrest⟩
      rw [hid']
      change ¬ step.id = other
      rw [hid]
      rintro rfl
      exact (List.nodup_append.mp h.nodup).2.2 _ hmem _ hother rfl
    · rw [List.mem_singleton.mp hother]
      exact ⟨step, step, hget, hid, ⟨[], view.log, plan,
        instructionFor plan step, rfl, by simp, hfresh⟩, hmode, rfl⟩
  · intro other hother hnot
    obtain ⟨hnot', hne⟩ := hdone other hnot
    obtain ⟨step', started, reply, hget', hbody⟩ :=
      h.finished other hother hnot'
    refine ⟨step', started, reply, hget', hbody.cons ?_ rfl⟩
    change ¬ step.id = other
    rw [hid]
    exact Ne.symm hne
  · exact h.frame
  · exact h.keeps

theorem finish (hmem : stepId ∈ calling) (reply : CallReply) :
    Waving (view.next (.callEnd stepId) reply)
      (plan.modifyStep stepId
        (PlanStep.recordCall reply (outcomeOf .chat reply))) before stepIds
      waiting (calling.erase stepId)
      (bodies.set stepId (outcomeOf .chat reply)) := by
  have hcallingNodup : calling.Nodup := (List.nodup_append.mp h.nodup).2.1
  have hin : stepId ∈ stepIds := h.subset stepId (List.mem_append_right _ hmem)
  have hwaiting : stepId ∉ waiting := fun hwait =>
    (List.nodup_append.mp h.nodup).2.2 stepId hwait stepId hmem rfl
  have hshape := recordCall_shape reply (outcomeOf .chat reply)
  obtain ⟨step, hget, hstatus, hmode, hdeps, hclaimed⟩ := h.member stepId hin
  have hsub : ∀ other, other ∈ waiting ++ calling.erase stepId →
      other ∈ waiting ++ calling := by
    intro other hother
    rw [List.mem_append] at hother ⊢
    exact hother.imp_right List.mem_of_mem_erase
  have hget' : (plan.modifyStep stepId
      (PlanStep.recordCall reply (outcomeOf .chat reply))).getStep? stepId =
      some (step.recordCall reply (outcomeOf .chat reply)) :=
    plan.modifyStep_getStep?_self _ (fun step => (hshape step).id) hget
  have hothers : OnlyStep stepId plan (plan.modifyStep stepId
      (PlanStep.recordCall reply (outcomeOf .chat reply))) :=
    OnlyStep.modifyStep hshape
  have hkeeps := plan.statusOf_modifyStep_verified
    (fun step => (hshape step).id) hget (fun hver => hver)
  have hnotCall : ∀ other, other ≠ stepId →
      ¬ Exchange.callOf other ⟨.callEnd stepId, reply⟩ :=
    fun other hne hcall => hne (Eq.symm hcall)
  constructor
  · exact (h.data.record hget hstatus hdeps hshape rfl).of_view rfl rfl rfl rfl
  · change view.live.erase stepId = calling.erase stepId
    rw [h.live]
  · exact h.present
  · exact h.nodup.sublist (List.Sublist.append_left List.erase_sublist waiting)
  · exact fun other hother => h.subset other (hsub other hother)
  · intro other hother
    obtain ⟨found, hfound, hrest⟩ := h.member other hother
    by_cases hne : other = stepId
    · subst hne
      rw [hget] at hfound
      cases hfound
      exact ⟨_, hget', hstatus, hmode, (hdeps.of_shape (hshape step)).mono
        hkeeps, hclaimed⟩
    · obtain ⟨hrun, hchat, hfoundDeps, hseen⟩ := hrest
      exact ⟨found, (hothers.same other hne).trans hfound, hrun, hchat,
        hfoundDeps.mono hkeeps, hseen⟩
  · intro other hother
    have hne : other ≠ stepId := by
      rintro rfl
      exact (hcallingNodup.mem_erase_iff.mp hother).1 rfl
    obtain ⟨found, started, hfound, hid, hopen, hrest⟩ :=
      h.inCall other (List.mem_of_mem_erase hother)
    refine ⟨found, started, (hothers.same other hne).trans hfound, hid,
      hopen.cons ?_, hrest⟩
    rw [hid]
    exact hnotCall other hne
  · intro other hother hnot
    by_cases hne : other = stepId
    · subst hne
      obtain ⟨found, started, hfound, hid, hopen, hstarted, hacc⟩ :=
        h.inCall other hmem
      rw [hget] at hfound
      cases hfound
      refine ⟨_, started, reply, hget', ?_, hstarted, hacc, rfl, by simp, ?_⟩
      · have := hopen.ended reply
        rw [hid] at this
        exact this
      · intro hfail
        simp [RunView.next, hfail]
    · have hnot' : other ∉ waiting ++ calling := by
        intro hin'
        apply hnot
        rw [List.mem_append] at hin' ⊢
        exact hin'.imp_right fun hc =>
          hcallingNodup.mem_erase_iff.mpr ⟨hne, hc⟩
      obtain ⟨found, started, reply', hfound, hbody⟩ :=
        h.finished other hother hnot'
      have hbody' := hbody.cons (hnotCall other hne) rfl
      refine ⟨found, started, reply', (hothers.same other hne).trans hfound,
        { hbody' with body := ?_, failed := ?_ }⟩
      · rw [Dict.get?_set, if_neg (Ne.symm hne)]
        exact hbody.body
      · intro hfail
        have := hbody.failed hfail
        simp only [RunView.next]
        split
        · exact this
        · exact List.mem_cons_of_mem _ this
  · intro other hother
    have hne : other ≠ stepId := by
      rintro rfl
      exact hother hin
    exact (hothers.same other hne).trans (h.frame other hother)
  · exact fun other hver => hkeeps other (h.keeps other hver)

end

end Waving

theorem wp_waveCalls {before : Plan} {stepIds : List String} (n : Nat)
    {waiting calling : List String} {bodies : Dict CallOutcome}
    {plan : Plan} {view : RunView}
    (hfuel : n = 2 * waiting.length + calling.length)
    (h : Waving view plan before stepIds waiting calling bodies)
    {Q : Except PyError (Dict CallOutcome) → Plan → RunView → Prop}
    (hQ : ∀ bodies' plan' view',
      Waving view' plan' before stepIds [] [] bodies' →
      Q (.ok bodies') plan' view') :
    Script.wp (runProtocol config runMode)
      (waveCalls n waiting calling bodies) Q plan view := by
  induction n generalizing waiting calling bodies plan view with
  | zero =>
      have hwaiting : waiting = [] := by
        apply List.eq_nil_of_length_eq_zero
        omega
      have hcalling : calling = [] := by
        apply List.eq_nil_of_length_eq_zero
        omega
      subst hwaiting hcalling
      exact hQ _ _ _ h
  | succ n ih =>
      rw [waveCalls, Script.wp_ask_bind]
      refine ⟨trivial, fun (choice : Nat) _ => ?_⟩
      have hpicked := h.pick (waiting.length + calling.length) choice
      generalize hi : choice % (waiting.length + calling.length) = i
      have hlt : i < waiting.length + calling.length := by
        rw [← hi]
        apply Nat.mod_lt
        omega
      dsimp only
      by_cases hw : i < waiting.length
      · have hmem : waiting[i] ∈ waiting := List.getElem_mem hw
        rw [List.getElem?_eq_getElem hw]
        obtain ⟨step, hget, _⟩ := hpicked.member waiting[i]
          (hpicked.subset _ (List.mem_append_left _ hmem))
        simp only [Script.wp_read_bind, getStep, Script.wp_run_bind,
          plan.getStep_ok hget]
        rw [Script.wp_ask_bind]
        refine ⟨hpicked.mayCall hmem hget, fun _ _ => ?_⟩
        apply ih _ (hpicked.start hmem hget rfl)
        rw [List.length_erase_of_mem hmem, List.length_append]
        have := List.length_pos_of_mem hmem
        simp only [List.length_singleton]
        omega
      · have hj : i - waiting.length < calling.length := by omega
        have hmem : calling[i - waiting.length] ∈ calling :=
          List.getElem_mem hj
        rw [List.getElem?_eq_none (by omega), List.getElem?_eq_getElem hj]
        dsimp only
        rw [Script.wp_ask_bind]
        refine ⟨?_, fun reply _ => ?_⟩
        · change _ ∈ view.live
          rw [h.live]
          exact hmem
        · rw [Script.wp_update_bind]
          apply ih _ (hpicked.finish hmem reply)
          rw [List.length_erase_of_mem hmem]
          have := List.length_pos_of_mem hmem
          omega

/-- A member whose worker is done, before it is finalized. -/
structure Finishing (config : RunnerConfig) (runMode : String)
    (view : RunView) (plan : Plan) (bodies : Dict CallOutcome)
    (stepId : String) (step started : PlanStep) (reply : CallReply) : Prop
    extends Working config runMode view plan stepId step where
  status : step.status = running
  mode : step.mode = .chat
  body : BodyDone view.log view.failed bodies stepId step started reply

theorem outcomeOf_chat_files (reply : CallReply) :
    (outcomeOf .chat reply).files = [] := by
  unfold outcomeOf
  cases reply.outcome with
  | error message => rfl
  | ok outcome => rfl

section

variable {bodies : Dict CallOutcome} {stepId : String} {step started : PlanStep}
  {reply : CallReply}
  (h : Finishing config runMode view plan bodies stepId step started reply)
include h

theorem Finishing.evidenced (hsuccess : reply.success = true) :
    Evidenced view.log step started reply [] [] step.output [] := by
  have hbody := h.body
  refine ⟨by rw [h.id]; exact hbody.call, hsuccess, ?_, ?_, ?_, fun _ _ => rfl,
    hbody.acceptance, ?_⟩
  · rw [hbody.mode]
    exact hbody.output
  · rw [hbody.output, slice_slice]
  · intro hne
    rw [hbody.mode, outcomeOf_chat_files] at hne
    exact absurd rfl hne
  · rw [h.mode]
    decide

theorem wp_finalizeChatStep {Q : Except PyError Bool → Plan → RunView → Prop}
    (hQ : ∀ out plan' view', Inspecting view view' →
      Attempted config runMode stepId plan out plan' view' →
      Q out plan' view') :
    Script.wp (runProtocol config runMode)
      (finalizeChatStep config stepId runMode (outcomeOf .chat reply).success
        (outcomeOf .chat reply).error) Q plan view := by
  unfold finalizeChatStep getStep
  simp only [Script.wp_run_bind, plan.getStep_ok h.found, outcomeOf_success]
  cases hsuccess : reply.success with
  | true => exact wp_settle h.toWorking (h.evidenced hsuccess) hQ
  | false =>
      rw [if_neg (by decide), Script.wp_bind, wp_enterStatus (by decide)]
      rcases transition_cases stepId failed
        (orElse (outcomeOf .chat reply).error "step execution failed")
        false false 0 plan with ⟨e, he⟩ | ⟨found, hfound, _, hok⟩
      · rw [he]
        exact hQ _ _ _ Inspecting.rfl (.raised h.toSteady OnlyStep.rfl e)
      · rw [h.found] at hfound
        cases hfound
        rw [hok]
        have hend := h.enter failed (orElse (outcomeOf .chat reply).error
          "step execution failed") 0 (by decide)
        exact hQ _ _ _ Inspecting.rfl (.ended hend.toSteady
          (OnlyStep.entered ..) hend.found (.failed hend.begun rfl
            fun _ => Or.inl (h.body.failed hsuccess)))

end

theorem Landed.silent {view' : RunView} {stepId : String} {ok : Bool}
    {step : PlanStep} (h : Landed view stepId ok step)
    (hsilent : Silent view view') : Landed view' stepId ok step := by
  refine h.mono ?_ ?_
  · rw [hsilent.failed]
    exact fun _ => id
  · rw [hsilent.begun]
    exact fun _ => id

theorem Finishing.others {view' : RunView} {plan' : Plan}
    {bodies : Dict CallOutcome} {stepId other : String}
    {step started : PlanStep} {reply : CallReply}
    (h : Finishing config runMode view plan bodies stepId step started reply)
    (hsteady : Steady config runMode view' plan')
    (hinspect : Inspecting view view') (hothers : OnlyStep other plan plan')
    (hne : stepId ≠ other) :
    Finishing config runMode view' plan' bodies stepId step started reply where
  toSteady := hsteady
  found := (hothers.same stepId hne).trans h.found
  now := h.now
  seen := by
    rw [hinspect.plan]
    exact h.seen
  begun := by
    rw [hinspect.begun]
    exact h.begun
  status := h.status
  mode := h.mode
  body :=
    { h.body with
      call := hinspect.calls h.body.call
      failed := by
        rw [hinspect.failed]
        exact h.body.failed }

/-- The steps of a unit have landed. -/
structure UnitDone (config : RunnerConfig) (runMode : String)
    (stepIds : List String) (before : Plan)
    (out : Except PyError (List (String × Bool))) (plan : Plan)
    (view : RunView) : Prop where
  steady : Steady config runMode view plan
  frame : ∀ other, other ∉ stepIds →
    plan.getStep? other = before.getStep? other
  ids : ∀ outcomes, out = .ok outcomes → outcomes.map Prod.fst = stepIds
  landed : ∀ outcomes, out = .ok outcomes → ∀ outcome ∈ outcomes,
    ∃ step, plan.getStep? outcome.1 = some step ∧
      Landed view outcome.1 outcome.2 step

section

variable {before : Plan} {bodies : Dict CallOutcome}
  {Q : Except PyError (List (String × Bool)) → Plan → RunView → Prop}

theorem UnitDone.raised {stepIds : List String}
    (hsteady : Steady config runMode view plan)
    (hframe : ∀ other, other ∉ stepIds →
      plan.getStep? other = before.getStep? other) (e : PyError) :
    UnitDone config runMode stepIds before (.error e) plan view where
  steady := hsteady
  frame := hframe
  ids := by
    intro outcomes hout
    cases hout
  landed := by
    intro outcomes hout
    cases hout

theorem wp_finalizeWave (stepIds : List String) (hnodup : stepIds.Nodup)
    {plan : Plan} {view : RunView} (hsteady : Steady config runMode view plan)
    (h : ∀ stepId ∈ stepIds, ∃ step started reply,
      Finishing config runMode view plan bodies stepId step started reply)
    (hQ : ∀ out plan' view', Inspecting view view' →
      UnitDone config runMode stepIds plan out plan' view' →
      Q out plan' view') :
    Script.wp (runProtocol config runMode)
      (finalizeWave config runMode bodies stepIds) Q plan view := by
  induction stepIds generalizing plan view Q with
  | nil =>
      refine hQ _ _ _ Inspecting.rfl ⟨hsteady, fun _ _ => rfl, ?_, ?_⟩
      · intro outcomes hout
        cases hout
        rfl
      · intro outcomes hout
        cases hout
        simp
  | cons stepId rest ih =>
      obtain ⟨hnotMem, hrestNodup⟩ := List.nodup_cons.mp hnodup
      obtain ⟨step, started, reply, hfinish⟩ := h stepId List.mem_cons_self
      rw [finalizeWave, hfinish.body.body, Option.getD_some, Script.wp_bind]
      refine wp_finalizeChatStep hfinish ?_
      intro out plan₁ view₁ hinspect hattempted
      have hframe : ∀ other, other ∉ stepId :: rest →
          plan₁.getStep? other = plan.getStep? other := fun other hother =>
        hattempted.others.same other fun heq => hother (by simp [heq])
      cases out with
      | error e =>
          exact hQ _ _ _ hinspect (.raised hattempted.steady hframe e)
      | ok ok =>
          dsimp only
          rw [Script.wp_bind]
          have hrest : ∀ other ∈ rest, ∃ step started reply,
              Finishing config runMode view₁ plan₁ bodies other step started
                reply := by
            intro other hother
            obtain ⟨step', started', reply', hother'⟩ :=
              h other (List.mem_cons_of_mem _ hother)
            refine ⟨step', started', reply', hother'.others hattempted.steady
              hinspect hattempted.others ?_⟩
            rintro rfl
            exact hnotMem hother
          refine ih hrestNodup hattempted.steady hrest ?_
          intro out plan₂ view₂ hinspect' hdone
          have hframe' : ∀ other, other ∉ stepId :: rest →
              plan₂.getStep? other = plan.getStep? other := by
            intro other hother
            rw [hdone.frame other fun hmem => hother (by simp [hmem])]
            exact hframe other hother
          cases out with
          | error e =>
              exact hQ _ _ _ (hinspect.trans hinspect')
                (.raised hdone.steady hframe' e)
          | ok outcomes =>
              refine hQ _ _ _ (hinspect.trans hinspect')
                ⟨hdone.steady, hframe', ?_, ?_⟩
              · intro all hall
                cases hall
                rw [List.map_cons, hdone.ids outcomes rfl]
              · intro all hall outcome hmem
                cases hall
                rcases List.mem_cons.mp hmem with rfl | hmem
                · obtain ⟨landed, hget, hlanded⟩ := hattempted.landed ok rfl
                  exact ⟨landed, (hdone.frame stepId hnotMem).trans hget,
                    hlanded.silent hinspect'.toSilent⟩
                · exact hdone.landed outcomes rfl outcome hmem

theorem Waving.steady {stepIds : List String}
    (h : Waving view plan before stepIds [] [] bodies) :
    Steady config runMode view plan where
  wf := h.data.wf
  evolves := h.data.evolves
  gate := h.data.gate
  live := h.live
  path := fun haborted => absurd (h.present.symm.trans haborted) (by decide)

theorem Waving.finishing {stepIds : List String}
    (h : Waving view plan before stepIds [] [] bodies) {stepId : String}
    (hmem : stepId ∈ stepIds) : ∃ step started reply,
      Finishing config runMode view plan bodies stepId step started reply := by
  obtain ⟨step, started, reply, hget, hbody⟩ :=
    h.finished stepId hmem (by simp)
  obtain ⟨found, hfound, hstatus, hmode, hdeps, hclaimed⟩ :=
    h.member stepId hmem
  rw [hget] at hfound
  cases hfound
  refine ⟨step, started, reply, ⟨⟨h.steady, hget, by rw [hstatus]; decide, ?_,
    hclaimed⟩, hstatus, hmode, hbody⟩⟩
  have hmem' : stepId ∈ view.plan.ids := by
    rw [← h.data.ids, ← plan.getStep?_id hget]
    exact List.mem_map_of_mem (plan.getStep?_mem hget)
  obtain ⟨seen, hseen⟩ := view.plan.exists_getStep? hmem'
  refine ⟨seen, hseen, ?_, ?_⟩
  · rcases h.data.steps stepId seen step hseen hget with rfl | ⟨hshape, _⟩
    · exact SameShape.rfl
    · exact hshape
  · rcases h.data.steps stepId seen step hseen hget with rfl | ⟨_, hrun, _⟩
    · rw [hstatus]
      decide
    · rw [hrun]
      decide

theorem wp_runChatWave {stepIds : List String} (hnodup : stepIds.Nodup)
    (h : Synced config runMode view plan)
    (hchat : ∀ stepId ∈ stepIds, ∀ step,
      plan.getStep? stepId = some step → step.mode = .chat)
    (hQ : ∀ out plan' view', view'.aborted = false →
      UnitDone config runMode stepIds plan out plan' view' →
      Q out plan' view') :
    Script.wp (runProtocol config runMode)
      (runChatWave config stepIds runMode) Q plan view := by
  unfold runChatWave
  rw [Script.wp_bind]
  refine wp_enterWave stepIds hnodup h.toSteady
    (fun stepId _ => h.getStep? stepId) ?_
  intro out plan₁ view₁ hsilent hwave
  have hpresent₁ : view₁.aborted = false := hsilent.aborted.trans h.present
  cases out with
  | error e => exact hQ _ _ _ hpresent₁ (.raised hwave.steady hwave.frame e)
  | ok u =>
      dsimp only
      rw [Script.wp_bind]
      refine wp_storeSave hwave.steady ?_
      intro out plan₂ view₂ hsaved
      have hpresent₂ := hsaved.aborted.trans hpresent₁
      obtain ⟨updatedAt, createdAt, hstamped⟩ := hsaved.stamped
      have hsteps : plan₂.steps = plan₁.steps := by rw [hstamped]
      have hget : ∀ other, plan₂.getStep? other = plan₁.getStep? other := by
        intro other
        simp only [Plan.getStep?, hsteps]
      have hframe : ∀ other, other ∉ stepIds →
          plan₂.getStep? other = plan.getStep? other :=
        fun other hother => (hget other).trans (hwave.frame other hother)
      cases out with
      | error e => exact hQ _ _ _ hpresent₂ (.raised hsaved.steady hframe e)
      | ok u =>
          dsimp only
          obtain ⟨hplan, _, hfresh, _⟩ := hsaved.seen rfl
          have hwaving : Waving view₂ plan₂ plan stepIds stepIds [] [] := by
            refine ⟨DataOnly.seen hsaved.steady.wf hplan
              hsaved.steady.evolves.aborted hsaved.steady.gate,
              hsaved.steady.live, hpresent₂,
              by simpa using hnodup, by simp, ?_, by simp, ?_, hframe, ?_⟩
            · intro stepId hmem
              obtain ⟨step, hentered⟩ := hwave.entered rfl stepId hmem
              obtain ⟨old, hold, hshape, hbefore⟩ := hentered.old
              refine ⟨step, (hget stepId).trans hentered.found,
                hentered.status, ?_, ?_, ?_⟩
              · rw [hshape.mode]
                exact hchat stepId hmem old hold
              · intro dep hdep
                rw [Plan.statusOf, hget]
                exact hentered.deps dep hdep
              · obtain ⟨_, hbegun, _⟩ := hsaved.seen rfl
                rw [hbegun]
                apply List.mem_append_left
                refine mem_claims ((hget stepId).trans hentered.found)
                  hentered.status ?_
                rw [hsilent.plan, Plan.statusOf, h.getStep?, hold]
                intro hrun
                rw [Option.map_some, Option.some.injEq] at hrun
                rw [hrun] at hbefore
                exact absurd hbefore (by decide)
            · intro stepId hmem hnot
              exact absurd (by simpa using hmem) hnot
            · intro other hver
              rw [Plan.statusOf, hget]
              exact hwave.keeps other hver
          rw [Script.wp_bind]
          refine wp_waveCalls _ (by simp) hwaving ?_
          intro bodies plan₃ view₃ hwaving'
          dsimp only
          refine wp_finalizeWave stepIds hnodup hwaving'.steady
            (fun stepId hmem => hwaving'.finishing hmem) ?_
          intro out plan₄ view₄ hinspect hdone
          refine hQ _ _ _ (hinspect.aborted.trans hwaving'.present)
            { hdone with frame := ?_ }
          intro other hother
          exact (hdone.frame other hother).trans (hwaving'.frame other hother)

end

end Wave

end Voly
