/-
The retries of a plan run: an attempt, a wave, the policy after it, and the
whole loop.
-/
import Voly.Plan.Overlooked
import Voly.Plan.Retries
import Voly.Plan.Run

namespace Voly

open Python Interaction StepStatus

/-- The ids in their order and the shapes of the steps are the same. -/
structure SameOutline (plan plan' : Plan) : Prop where
  ids : plan'.ids = plan.ids
  steps : ∀ stepId step step', plan.getStep? stepId = some step →
    plan'.getStep? stepId = some step' → SameShape step step'

section Outline

variable {config : RunnerConfig} {runMode : String} {view : RunView}
  {plan plan' plan'' : Plan}

theorem SameOutline.of_steps (h : plan'.steps = plan.steps) :
    SameOutline plan plan' where
  ids := by simp only [Plan.ids, h]
  steps := by
    intro stepId step step' hget hget'
    simp only [Plan.getStep?, h] at hget'
    rw [Plan.getStep?, hget'] at hget
    cases hget
    exact SameShape.rfl

theorem SameOutline.trans (h : SameOutline plan plan')
    (h' : SameOutline plan' plan'') : SameOutline plan plan'' where
  ids := h'.ids.trans h.ids
  steps := by
    intro stepId step step'' hget hget''
    have hmem : stepId ∈ plan'.ids := by
      rw [h.ids, ← plan.getStep?_id hget]
      exact List.mem_map_of_mem (plan.getStep?_mem hget)
    obtain ⟨step', hget'⟩ := plan'.exists_getStep? hmem
    exact (h.steps _ _ _ hget hget').trans (h'.steps _ _ _ hget' hget'')

theorem Evolves.outline (h : Evolves config runMode view plan) :
    SameOutline view.plan plan where
  ids := h.ids
  steps := by
    intro stepId step step' hget hget'
    rcases h.steps stepId step step' hget hget' with rfl | hworked
    · exact SameShape.rfl
    · exact hworked.shape

theorem SameOutline.nodes (h : SameOutline plan plan')
    (hnodup : plan.ids.Nodup) : plan'.nodes = plan.nodes := by
  have hlength : plan'.steps.length = plan.steps.length := by
    simpa [Plan.ids] using congrArg List.length h.ids
  apply List.ext_getElem
  · simp [Plan.nodes, hlength]
  · intro i hi hi'
    simp only [Plan.nodes, List.length_map] at hi hi'
    have hid : plan'.steps[i].id = plan.steps[i].id := by
      have hsame := congrArg (fun ids : List String => ids[i]?) h.ids
      simpa [Plan.ids, hi, hi'] using hsame
    have hget := plan.getStep?_of_mem hnodup (List.getElem_mem hi')
    have hget' := plan'.getStep?_of_mem (h.ids ▸ hnodup) (List.getElem_mem hi)
    rw [hid] at hget'
    have hshape := h.steps _ _ _ hget hget'
    simp [Plan.nodes, hshape.id, hshape.dependsOn]

theorem next_outline (view : RunView) (op : PlanOp) (reply : PlanReply op)
    (hallow : (runProtocol config runMode).allows view op) :
    SameOutline view.plan (view.next op reply).plan := by
  cases op with
  | save plan => exact hallow.2.1.outline
  | callStart step plan instruction => exact (MayCall.evolves hallow).outline
  | load | time | monotonic | newTaskId | git | inspect | pick | callEnd =>
      exact SameOutline.of_steps rfl

theorem wp_outline {A : Type} {x : PlanScript A}
    {Q : Except PyError A → Plan → RunView → Prop}
    (h : Script.wp (runProtocol config runMode) x Q plan view) :
    Script.wp (runProtocol config runMode) x
      (fun out plan' view' => Q out plan' view' ∧
        SameOutline view.plan view'.plan) plan view :=
  @Script.wp_reaches _ _ _ _ _ _ (runProtocol config runMode) Q plan view
    (fun view view' => SameOutline view.plan view'.plan)
    (fun _ => SameOutline.of_steps rfl) (fun _ _ _ => SameOutline.trans)
    next_outline x h

theorem Synced.outline {view' : RunView} (h : Synced config runMode view plan)
    (hviews : SameOutline view.plan view'.plan)
    (h' : Steady config runMode view' plan') : SameOutline plan plan' :=
  ((SameOutline.of_steps h.steps.symm).trans hviews).trans h'.evolves.outline

end Outline

/-- Neither a load nor a save nor the start of a call. -/
def Unseen : PlanOp → Prop
  | .load _ => False
  | .save _ => False
  | .callStart _ _ _ => False
  | _ => True

theorem seeRun_unseen (op : PlanOp) (reply : PlanReply op) (h : Unseen op) :
    seeRun op reply = [] := by
  cases op with
  | load planId => exact h.elim
  | save plan => exact h.elim
  | callStart step plan instruction => exact h.elim
  | _ => rfl

section Unseen

variable {config : RunnerConfig} {runMode stepId : String} {A B : Type}

/-- The script asks what is not seen. -/
abbrev Unnoted (x : PlanScript A) : Prop := Script.Only Unseen (fun _ => True) x

theorem unnoted : Overlooks Unnoted where
  bind hx hf := Script.Only.bind hx fun a _ => hf a
  ask {op} hop := Script.Only.ask (by
    cases op <;> first | exact hop | trivial)
  run _ := fun _ _ _ => trivial

theorem Unnoted.update (f : Plan → Plan) : Unnoted (Script.update f) :=
  fun _ _ _ => trivial

theorem afterCall_unnoted (gitBefore : Dict String) (mode : StepMode)
    (reply : CallReply) :
    Unnoted (afterCall config stepId runMode gitBefore mode reply) := by
  refine unnoted.bind (Unnoted.update _) fun _ => ?_
  refine unnoted.bind (Unnoted.update _) fun _ => ?_
  exact unnoted.bind unnoted.gitSnapshot fun gitAfter =>
    unnoted.concludeCall gitBefore gitAfter _

theorem Unnoted.returns {x : PlanScript A} (h : Unnoted x) (plan : Plan) :
    Script.Returns seeRun x plan fun _ _ events => events = [] :=
  (Script.Only.returns h seeRun_unseen).mono fun _ _ _ hout => hout.1

end Unseen

section Attempts

variable {config : RunnerConfig} {runMode stepId : String} {plan : Plan}

/-- What a save does to the plan and what is seen of it. -/
def SavedAs (plan saved : Plan) (events : List RunEvent) : Prop :=
  (∃ now, saved = plan.stamped now) ∧ events = [.saved saved]

theorem SavedAs.steps {saved : Plan} {events : List RunEvent}
    (h : SavedAs plan saved events) : saved.steps = plan.steps := by
  obtain ⟨⟨now, rfl⟩, _⟩ := h
  rfl

theorem storeSave_returns :
    Script.Returns seeRun storeSave plan fun _ => SavedAs plan := by
  apply Script.Returns.ask_bind
  intro now
  apply Script.Returns.update_bind
  apply Script.Returns.read_bind
  apply Script.Returns.run_bind
  intro _ saved hpath
  obtain rfl : plan.stamped now = saved := (Prod.mk.inj hpath).2
  apply Script.Returns.askOk
  intro reply _ _
  exact ⟨⟨now, rfl⟩, rfl⟩

/-- The calls of an attempt: a business step is not called. -/
def attemptEvents (step : PlanStep) : List RunEvent :=
  if step.mode = .business then [] else [.called step.id]

theorem getStep_returns {A : Type} {f : PlanStep → PlanScript A}
    {R : A → Plan → List RunEvent → Prop}
    (h : ∀ step, plan.getStep? stepId = some step →
      Script.Returns seeRun (f step) plan R) :
    Script.Returns seeRun (getStep stepId >>= f) plan R := by
  apply Script.Returns.run_bind
  intro step after hrun
  obtain ⟨hget, rfl⟩ := Prod.mk.inj hrun
  exact h step (plan.getStep_eq_ok hget)

theorem attempt_returns :
    Script.Returns seeRun (attempt config stepId runMode) plan
      fun ok _ events => ∃ step, plan.getStep? stepId = some step ∧
        events = attemptEvents step ∧ (step.mode = .business → ok = false) := by
  apply Script.Returns.read_bind
  apply getStep_returns
  intro step hget
  refine Script.Returns.seq (unnoted.gitSnapshot.returns plan) ?_
  rintro gitBefore plan' _ rfl
  refine Script.Returns.mono (?_ : Script.Returns seeRun _ plan'
    fun ok _ events => events = attemptEvents step ∧
      (step.mode = .business → ok = false)) ?_
  · apply Script.Returns.ite
    · intro hbusiness
      refine Script.Returns.seq
        ((unnoted.enterStatus _ _ _).returns plan') ?_
      rintro _ failed _ rfl
      apply Script.Returns.pure
      rw [attemptEvents, if_pos hbusiness]
      exact ⟨rfl, fun _ => rfl⟩
    · intro hmode
      apply Script.Returns.ask_bind
      intro _
      apply Script.Returns.ask_bind
      intro reply
      refine ((afterCall_unnoted gitBefore step.mode reply).returns
        plan').mono fun _ _ _ hevents => ?_
      rw [hevents, attemptEvents, if_neg hmode]
      exact ⟨rfl, fun hbusiness => absurd hbusiness hmode⟩
  · exact fun _ _ _ hevents => ⟨step, hget, hevents⟩

theorem enterRunning_returns (error : String) (force : Bool) :
    Script.Returns seeRun (enterStatus stepId running error force) plan
      fun _ after events => events = [] ∧
        ∃ step now, plan.getStep? stepId = some step ∧
          refusal plan step running false force = none ∧
          after = plan.entered stepId running error now := by
  unfold enterStatus
  rw [if_pos rfl]
  apply Script.Returns.ask_bind
  intro now notes
  rw [Script.wp_run]
  refine ⟨[], (List.append_nil notes).symm, fun step hok => ⟨rfl, ?_⟩⟩
  rcases transition_cases stepId running error false force now plan with
    ⟨e, he⟩ | ⟨found, hget, hrefusal, hentered⟩
  · rw [he] at hok
    cases hok
  · exact ⟨found, now, hget, hrefusal, by rw [hentered]⟩

/-- The step is claimed in a save and called once, unless it is a business
step. -/
theorem runOneStep_returns :
    Script.Returns seeRun (runOneStep config stepId runMode false) plan
      fun _ _ events => ∃ step claimed, plan.getStep? stepId = some step ∧
        events = .saved claimed :: attemptEvents step := by
  apply getStep_returns
  intro step hget
  rw [if_neg (by decide)]
  refine Script.Returns.seq (enterRunning_returns "" false) ?_
  rintro _ entered _ ⟨rfl, found, now, hfound, _, rfl⟩
  rw [hget] at hfound
  cases hfound
  refine Script.Returns.seq storeSave_returns ?_
  rintro _ claimed _ hsaved
  refine attempt_returns.mono fun _ _ events hevents => ?_
  obtain ⟨running, hrunning, rfl, _⟩ := hevents
  refine ⟨step, claimed, hget, ?_⟩
  have hsame : claimed.getStep? stepId =
      some (step.enter StepStatus.running "" now) := by
    have hentered : (plan.entered stepId StepStatus.running "" now).getStep?
        stepId = some (step.enter StepStatus.running "" now) := by
      rw [entered_getStep?, if_pos rfl, hget]
      rfl
    simpa only [Plan.getStep?, hsaved.steps] using hentered
  rw [hrunning] at hsame
  cases hsame
  rw [hsaved.2]
  rfl

theorem waveCalls_returns (n : Nat) (waiting calling : List String)
    (bodies : Dict CallOutcome)
    (hfuel : 2 * waiting.length + calling.length ≤ n) :
    Script.Returns seeRun (waveCalls n waiting calling bodies) plan
      fun _ _ events => ∃ started : List String, started.Perm waiting ∧
        events = started.map RunEvent.called := by
  induction n generalizing waiting calling bodies plan with
  | zero =>
      have hnone : waiting = [] := List.eq_nil_of_length_eq_zero (by omega)
      subst hnone
      exact Script.Returns.pure ⟨[], List.Perm.nil, rfl⟩
  | succ n ih =>
      apply Script.Returns.ask_bind
      intro choice
      dsimp only
      generalize hi : choice % (waiting.length + calling.length) = i
      cases hwaiting : waiting[i]? with
      | some stepId =>
          have hmem : stepId ∈ waiting := List.mem_of_getElem? hwaiting
          have hlength := List.length_erase_of_mem hmem
          have hpos := List.length_pos_of_mem hmem
          dsimp only
          apply Script.Returns.read_bind
          apply getStep_returns
          intro step hget
          apply Script.Returns.ask_bind
          intro _
          refine (ih (waiting.erase stepId) (calling ++ [stepId]) bodies
            ?_).mono ?_
          · rw [List.length_append, hlength, List.length_singleton]
            omega
          · rintro _ _ _ ⟨started, hperm, rfl⟩
            refine ⟨stepId :: started, ?_, ?_⟩
            · exact (hperm.cons stepId).trans
                (List.perm_cons_erase hmem).symm
            · rw [plan.getStep?_id hget |>.symm]
              rfl
      | none =>
          cases hcalling : calling[i - waiting.length]? with
          | some stepId =>
              have hmem : stepId ∈ calling := List.mem_of_getElem? hcalling
              have hlength := List.length_erase_of_mem hmem
              have hpos := List.length_pos_of_mem hmem
              dsimp only
              apply Script.Returns.ask_bind
              intro reply
              apply Script.Returns.update_bind
              refine (ih waiting (calling.erase stepId) _ ?_).mono
                fun _ _ _ => id
              rw [hlength]
              omega
          | none =>
              -- nobody waits and nobody is called
              have hnone : waiting = [] := by
                by_contra hne
                have hpos := List.length_pos_of_ne_nil hne
                have hlt := Nat.mod_lt choice
                  (Nat.add_pos_left hpos calling.length)
                rw [hi] at hlt
                rw [List.getElem?_eq_none_iff] at hwaiting hcalling
                omega
              subst hnone
              exact Script.Returns.pure ⟨[], List.Perm.nil, rfl⟩

theorem runChatWave_returns (stepIds : List String) :
    Script.Returns seeRun (runChatWave config stepIds runMode) plan
      fun _ _ events => ∃ claimed started, List.Perm started stepIds ∧
        events = .saved claimed :: started.map RunEvent.called := by
  refine Script.Returns.seq ((unnoted.enterRunning stepIds).returns plan) ?_
  rintro _ entered _ rfl
  refine Script.Returns.seq storeSave_returns ?_
  rintro _ claimed _ ⟨_, rfl⟩
  refine Script.Returns.seq (waveCalls_returns _ stepIds [] [] (by simp)) ?_
  rintro bodies called _ ⟨started, hperm, rfl⟩
  refine ((unnoted.finalizeWave bodies stepIds).returns called).mono ?_
  rintro _ _ _ rfl
  exact ⟨claimed, started, hperm, by simp⟩

/-- A save that claims a unit's steps, and one call of each non-business step.
-/
structure UnitCalled (plan : Plan) (stepIds started : List String) : Prop where
  nodup : started.Nodup
  mem : ∀ stepId ∈ started, stepId ∈ stepIds
  called : ∀ stepId ∈ stepIds, ∀ step, plan.getStep? stepId = some step →
    (step.mode ≠ .business ↔ stepId ∈ started)
  alone : ∀ stepId ∈ stepIds, stepId ∉ started → stepIds = [stepId]

theorem attemptUnit_returns {unit : List String × Bool}
    (hunit : RunnableUnit plan unit) :
    Script.Returns seeRun (attemptUnit config runMode unit) plan
      fun _ _ events => ∃ claimed started, UnitCalled plan unit.1 started ∧
        events = .saved claimed :: started.map RunEvent.called := by
  obtain ⟨stepIds, isWave⟩ := unit
  cases isWave with
  | true =>
      refine (runChatWave_returns stepIds).mono ?_
      rintro _ _ _ ⟨claimed, started, hperm, rfl⟩
      refine ⟨claimed, started, ⟨hperm.nodup_iff.mpr hunit.nodup,
        fun stepId => hperm.mem_iff.mp, fun stepId hmem step hget => ?_,
        fun stepId hmem hnot => ?_⟩, rfl⟩
      · have hchat := hunit.wave rfl stepId hmem step hget
        rw [hchat]
        exact iff_of_true (by decide) (hperm.mem_iff.mpr hmem)
      · exact absurd (hperm.mem_iff.mpr hmem) hnot
  | false =>
      obtain ⟨stepId, hsingle⟩ := hunit.single rfl
      dsimp only at hsingle
      subst hsingle
      refine Script.Returns.seq runOneStep_returns ?_
      rintro ok _ _ ⟨step, claimed, hget, rfl⟩
      apply Script.Returns.pure
      rw [List.append_nil]
      have hid := plan.getStep?_id hget
      by_cases hmode : step.mode = .business
      · refine ⟨claimed, [], ⟨List.nodup_nil, by simp, ?_, ?_⟩, ?_⟩
        · intro other hmem found hfound
          rw [List.mem_singleton.mp hmem, hget] at hfound
          cases hfound
          simp [hmode]
        · intro other hmem _
          rw [List.mem_singleton.mp hmem]
        · rw [attemptEvents, if_pos hmode]
          rfl
      · refine ⟨claimed, [stepId], ⟨List.nodup_singleton _, by simp, ?_, ?_⟩,
          ?_⟩
        · intro other hmem found hfound
          rw [List.mem_singleton.mp hmem, hget] at hfound
          cases hfound
          simp [hmode, List.mem_singleton.mp hmem]
        · exact fun other hmem hnot => absurd hmem hnot
        · rw [attemptEvents, if_neg hmode, hid]
          rfl

theorem externalAbortRequested_returns :
    Script.Returns seeRun externalAbortRequested plan
      fun found after events => after.steps = plan.steps ∧
        (found = true → events = [.abortSeen]) ∧
        (found = false → events = []) := by
  intro notes
  have hquiet : ∃ vs, notes = notes ++ vs ∧ ∀ found,
      (Except.ok false : Except PyError Bool) = .ok found →
      plan.steps = plan.steps ∧ (found = true → vs = [.abortSeen]) ∧
        (found = false → vs = []) := by
    refine ⟨[], (List.append_nil notes).symm, fun found hfound => ?_⟩
    cases hfound
    exact ⟨rfl, (fun h => absurd h (by decide)), fun _ => rfl⟩
  unfold externalAbortRequested
  rw [Script.wp_read_bind, Script.wp_bind, Script.wp_handle]
  refine wp_storeLoad (fun _ => hquiet) (fun _ => trivial) ?_
  rintro (e | _ | fresh) hpath _
  · change ∃ vs, notes ++ [] = notes ++ vs ∧ _
    rw [List.append_nil]
    exact hquiet
  · change ∃ vs, notes ++ [] = notes ++ vs ∧ _
    rw [List.append_nil]
    exact hquiet
  · dsimp only
    have hseen : (noting seeRun).next notes (.load plan.planId)
        (.ok (some fresh)) =
        notes ++ if fresh.status = .aborted then [.abortSeen] else [] := rfl
    rw [hseen]
    by_cases haborted : fresh.status = .aborted
    · rw [if_pos haborted, if_pos haborted]
      refine ⟨[.abortSeen], rfl, fun found hfound => ?_⟩
      cases hfound
      exact ⟨rfl, fun _ => rfl, fun h => absurd h (by decide)⟩
    · rw [if_neg haborted, if_neg haborted, List.append_nil]
      exact hquiet

theorem checkAbortAndSave_returns :
    Script.Returns seeRun checkAbortAndSave plan
      fun found saved events => saved.steps = plan.steps ∧
        (.abortSeen ∉ events → found = false ∧ events = [.saved saved]) := by
  refine Script.Returns.seq externalAbortRequested_returns ?_
  rintro found checked seen ⟨hsteps, hfound, hnone⟩
  refine Script.Returns.seq storeSave_returns ?_
  rintro _ saved _ hsaved
  apply Script.Returns.pure
  refine ⟨hsaved.steps.trans hsteps, fun hquiet => ?_⟩
  cases found with
  | true =>
      rw [hfound rfl] at hquiet
      exact absurd List.mem_cons_self hquiet
  | false =>
      rw [hnone rfl, List.nil_append, hsaved.2]
      exact ⟨rfl, rfl⟩

end Attempts

section Policy

variable {config : RunnerConfig} {runMode stepId : String} {plan landed : Plan}
  {view : RunView} {step : PlanStep} {started stepIds : List String}
  {retries : Retries} {ok : Bool}

/-- What is seen of the policy on one step comes before the steps behind it. -/
structure StepHandled (config : RunnerConfig) (started : List String)
    (landed : Plan) (stepId : String) (stepIds : List String)
    (before : Retries) (out : Bool × Retries) (events : List RunEvent) :
    Prop where
  others : ∀ other, other ≠ stepId → out.2 other = before other
  goesOn : out.1 = true → ∀ goOn later,
    Handling config.maxRetries started landed stepIds goOn later →
    Handling config.maxRetries started landed (stepId :: stepIds) goOn
      (events ++ later)
  stops : out.1 = false →
    Handling config.maxRetries started landed (stepId :: stepIds) false events

theorem failOrContinue_returns (hpolicy : config.onFail = "retry") :
    Script.Returns seeRun (failOrContinue stepId config.onFail) plan
      fun goOn _ events => goOn = false ∧ events = [] := by
  apply getStep_returns
  intro step _
  rw [if_neg (by simp [hpolicy])]
  apply Script.Returns.update_bind
  exact Script.Returns.pure ⟨rfl, rfl⟩

theorem StepHandled.passed (h : landed.statusOf stepId ≠ some failed) :
    StepHandled config started landed stepId stepIds retries
      (true, retries) [] where
  others := fun _ _ => rfl
  goesOn := fun _ _ _ hlater => Handling.passed h hlater
  stops := fun hgoOn => (by cases hgoOn)

section

variable (hpolicy : config.onFail = "retry")
  (h : Synced config runMode view plan)
  (hget : plan.getStep? stepId = some step)
include hpolicy h hget

/-- A retry calls the step once more, unless it is business, and saves. -/
theorem retry_returns (hfailed : step.status = failed)
    (hbegun : stepId ∈ view.begun)
    (hlanded : landed.statusOf stepId = some failed)
    (hbudget : 1 ≤ config.maxRetries)
    (hcalled : step.mode ≠ .business ↔ stepId ∈ started)
    (hrefused : stepId ∉ started → ∀ other ∈ stepIds, other ∉ started)
    {after : Retries}
    (hothers : ∀ other, other ≠ stepId → after other = retries other) :
    Script.Returns seeRun (do
        let _ ← enterStatus stepId running "" false
        let ok2 ← runOneStep config stepId runMode true
        let aborted ← checkAbortAndSave
        if aborted then pure (false, after)
        else if ok2 then pure (true, after)
        else do
          let goOn ← failOrContinue stepId config.onFail
          pure (goOn, after)) plan
      fun out _ events => .abortSeen ∉ events →
        StepHandled config started landed stepId stepIds retries out
          events := by
  refine Script.Returns.seq (enterRunning_returns "" false) ?_
  rintro _ entered _ ⟨rfl, found, now, hfound, hrefusal, rfl⟩
  rw [hget] at hfound
  cases hfound
  have hid := plan.getStep?_id hget
  have hready := h.readyAgain hget hfailed hbegun now
    (admits_of_refusal hrefusal)
  have hattempt : Script.Returns seeRun
      (runOneStep config stepId runMode true)
      (plan.entered stepId running "" now) fun ok2 tried events =>
        (ok2 = true → step.mode ≠ .business) ∧
        events = attemptEvents step ∧ ∃ status,
          tried.statusOf stepId = some status ∧
          (ok2 = true → status ≠ failed) ∧
          (ok2 = false → status ≠ verified) := by
    apply getStep_returns
    intro _ _
    rw [if_pos rfl]
    refine (attempt_returns.also (fun _ _ _ => trivial)
      (wp_attempt hready rfl fun _ _ _ _ => id)).mono ?_
    rintro ok2 tried events ⟨⟨again, hagain, rfl, hok⟩, view', hattempted⟩
    rw [hready.found] at hagain
    cases hagain
    obtain ⟨step₁, hget₁, hlanded₁⟩ := hattempted.landed ok2 rfl
    refine ⟨?_, rfl, step₁.status, ?_, ?_⟩
    · rintro rfl hbusiness
      cases hok hbusiness
    · rw [Plan.statusOf, hget₁]
      rfl
    · rcases hlanded₁.status with ⟨rfl, hver⟩ | ⟨rfl, hver | ⟨hver, _⟩⟩ <;>
        rw [hver] <;> decide
  refine Script.Returns.seq hattempt ?_
  rintro ok2 tried _ ⟨hbusiness, rfl, status, hstatus, hpassed, hnot⟩
  refine Script.Returns.seq checkAbortAndSave_returns ?_
  rintro found saved seen ⟨hsteps, hseen⟩
  have hsaved : saved.statusOf stepId = some status := by
    rw [← hstatus]
    simp only [Plan.statusOf, Plan.getStep?, hsteps]
  apply Script.Returns.ite
  · -- the run breaks only on an abort that was seen
    rintro rfl
    apply Script.Returns.pure
    intro hquiet
    simp only [List.mem_append, not_or] at hquiet
    cases (hseen hquiet.2.2.1).1
  · intro hgoes
    apply Script.Returns.ite
    · rintro rfl
      apply Script.Returns.pure
      intro hquiet
      simp only [List.mem_append, not_or] at hquiet
      have hmode := hbusiness rfl
      rw [(hseen hquiet.2.2.1).2, attemptEvents, if_neg hmode, hid]
      exact ⟨hothers, fun _ _ _ hlater => Handling.retried
        (hcalled.mp hmode) hlanded hbudget hsaved (hpassed rfl) hlater,
        fun hgoOn => (by cases hgoOn)⟩
    · intro hfalse
      have hok2 : ok2 = false := by simpa using hfalse
      refine Script.Returns.seq (failOrContinue_returns hpolicy) ?_
      rintro _ stopped _ ⟨rfl, rfl⟩
      apply Script.Returns.pure
      intro hquiet
      simp only [List.mem_append, not_or] at hquiet
      rw [(hseen hquiet.2.2.1).2]
      refine ⟨hothers, fun hgoOn => (by cases hgoOn), fun _ => ?_⟩
      by_cases hmode : step.mode = .business
      · rw [attemptEvents, if_pos hmode]
        have hnot : stepId ∉ started := fun hmem => hcalled.mpr hmem hmode
        refine Handling.refused fun other hmem => ?_
        rcases List.mem_cons.mp hmem with rfl | hmem
        · exact hnot
        · exact hrefused hnot other hmem
      · rw [attemptEvents, if_neg hmode, hid]
        exact Handling.stopped (hcalled.mp hmode) hlanded hbudget hsaved
          (hnot hok2)

theorem handleStepOutcome_returns (hstep : Landed view stepId ok step)
    (hlanded : landed.statusOf stepId = some step.status)
    (hfresh : retries stepId = 0)
    (hcalled : step.mode ≠ .business ↔ stepId ∈ started)
    (hrefused : stepId ∉ started → ∀ other ∈ stepIds, other ∉ started) :
    Script.Returns seeRun
      (handleStepOutcome config stepId ok runMode retries) plan
      fun out _ events => .abortSeen ∉ events →
        StepHandled config started landed stepId stepIds retries out
          events := by
  have hpassed : ∀ {plan' : Plan}, step.status ≠ failed →
      Script.Returns seeRun
        (Pure.pure (true, retries) : PlanScript (Bool × Retries)) plan'
        fun out _ events => .abortSeen ∉ events →
          StepHandled config started landed stepId stepIds retries out
            events := by
    intro plan' hne
    refine Script.Returns.pure fun _ => StepHandled.passed ?_
    rw [hlanded]
    exact fun hfailed => hne (Option.some.inj hfailed)
  apply Script.Returns.ite
  · rintro rfl
    apply hpassed
    rcases hstep.status with ⟨_, hver⟩ | ⟨hok, _⟩
    · rw [hver]
      decide
    · cases hok
  · intro _
    apply getStep_returns
    intro found hfound
    rw [hget] at hfound
    cases hfound
    apply Script.Returns.ite hpassed
    intro hstatus
    have hfailed : step.status = failed := not_not.mp hstatus
    rw [hfailed] at hlanded
    apply Script.Returns.ite
    · rintro ⟨_, hbudget⟩
      exact retry_returns hpolicy h hget hfailed hstep.begun hlanded
        (Nat.zero_lt_of_lt hbudget) hcalled hrefused
        fun other hother => Function.update_of_ne hother _ _
    · intro hspent
      refine Script.Returns.seq (failOrContinue_returns hpolicy) ?_
      rintro _ stopped _ ⟨rfl, rfl⟩
      apply Script.Returns.pure
      intro _
      refine ⟨fun _ _ => rfl, fun hgoOn => (by cases hgoOn), fun _ => ?_⟩
      refine Handling.spent hlanded ?_
      by_contra hne
      rw [hfresh] at hspent
      exact hspent ⟨hpolicy, Nat.pos_of_ne_zero hne⟩

end

/-- The outcome of a wave member has landed in the plan that the wave saved. -/
def LandedIn (view : RunView) (landed plan : Plan) (started : List String)
    (outcome : String × Bool) : Prop :=
  ∃ step, plan.getStep? outcome.1 = some step ∧
    Landed view outcome.1 outcome.2 step ∧
    landed.statusOf outcome.1 = some step.status ∧
    (step.mode ≠ .business ↔ outcome.1 ∈ started)

theorem handleWave_returns (hpolicy : config.onFail = "retry")
    (outcomes : List (String × Bool)) (hnodup : (outcomes.map Prod.fst).Nodup)
    (h : Synced config runMode view plan)
    (hlanded : ∀ outcome ∈ outcomes,
      LandedIn view landed plan started outcome)
    (hrefused : ∀ stepId ∈ outcomes.map Prod.fst, stepId ∉ started →
      ∀ other ∈ outcomes.map Prod.fst, other ∉ started)
    (hfresh : ∀ stepId ∈ outcomes.map Prod.fst, retries stepId = 0) :
    Script.Returns seeRun (handleWave config runMode outcomes retries) plan
      fun out _ events => .abortSeen ∉ events →
        (∀ other, other ∉ outcomes.map Prod.fst →
          out.2 other = retries other) ∧
        Handling config.maxRetries started landed (outcomes.map Prod.fst)
          out.1 events := by
  induction outcomes generalizing plan view retries with
  | nil =>
      exact Script.Returns.pure fun _ => ⟨fun _ _ => rfl, Handling.done⟩
  | cons outcome rest ih =>
      obtain ⟨stepId, ok⟩ := outcome
      obtain ⟨hnotMem, hrestNodup⟩ := List.nodup_cons.mp hnodup
      obtain ⟨step, hget, hstep, hstatus, hcalled⟩ :=
        hlanded _ List.mem_cons_self
      have hstepOutcome := (handleStepOutcome_returns hpolicy h hget hstep
        hstatus (hfresh stepId List.mem_cons_self) hcalled
        fun hnot other hmem => hrefused stepId List.mem_cons_self hnot other
            (List.mem_cons_of_mem _ hmem)).also (fun _ _ _ => trivial)
        (wp_grows (wp_handleStepOutcome h hget hstep retries
          fun _ _ _ => id))
      refine Script.Returns.seq hstepOutcome ?_
      rintro ⟨goOn, retries₁⟩ plan₁ events ⟨hseen, view₁, hhandled, hgrows⟩
      cases goOn with
      | false =>
          apply Script.Returns.pure
          intro hquiet
          rw [List.append_nil] at hquiet ⊢
          have hdone := hseen hquiet
          exact ⟨fun other hother => hdone.others other fun heq =>
            hother (by simp [heq]), hdone.stops rfl⟩
      | true =>
          obtain ⟨hsynced, _⟩ := hhandled.goesOn _ rfl
          by_cases hquiet : .abortSeen ∈ events
          · exact Script.Returns.of_forall _ fun _ _ _ hquiet' =>
              absurd (List.mem_append_left _ hquiet) hquiet'
          have hdone := hseen hquiet
          have hne : ∀ other ∈ rest.map Prod.fst, other ≠ stepId := by
            rintro other hmem rfl
            exact hnotMem hmem
          refine (ih hrestNodup hsynced ?_ ?_ ?_).mono ?_
          · intro outcome hmem
            obtain ⟨other, hother, hlanding, hsame⟩ :=
              hlanded outcome (List.mem_cons_of_mem _ hmem)
            refine ⟨other, ?_, hlanding.mono hgrows.failed hgrows.begun, hsame⟩
            rw [hhandled.others.same outcome.1
              (hne _ (List.mem_map_of_mem hmem)), hother]
          · exact fun other hmem hnot later hlater =>
              hrefused other (List.mem_cons_of_mem _ hmem) hnot later
                (List.mem_cons_of_mem _ hlater)
          · intro other hmem
            exact (hdone.others other (hne other hmem)).trans
              (hfresh other (List.mem_cons_of_mem _ hmem))
          · rintro ⟨goOn, retries₂⟩ plan₂ later hlater hquiet'
            obtain ⟨hothers, hrest⟩ := hlater fun hmem =>
              hquiet' (List.mem_append_right _ hmem)
            refine ⟨fun other hother => ?_, hdone.goesOn rfl _ _ hrest⟩
            rw [List.map_cons, List.mem_cons, not_or] at hother
            exact (hothers other hother.2).trans (hdone.others other hother.1)

structure UnitSeen (config : RunnerConfig) (stepIds : List String)
    (before : Retries) (out : Option (Bool × Retries))
    (events : List RunEvent) : Prop where
  result : ∃ goOn after, out = some (goOn, after) ∧
    ∀ other, other ∉ stepIds → after other = before other
  paced : ∀ order : List String, order.Nodup → stepIds.Sublist order →
    Paced config.maxRetries order events
  called : ∀ stepId, 0 < callsOf stepId events → stepId ∈ stepIds
  last : ∃ front plan, events = front ++ [.saved plan]

theorem runUnit_returns (hpolicy : config.onFail = "retry")
    (h : Synced config runMode view plan) {unit : List String × Bool}
    (hunit : RunnableUnit plan unit)
    (hfresh : ∀ stepId ∈ unit.1, retries stepId = 0) :
    Script.Returns seeRun (runUnit config runMode unit retries) plan
      fun out _ events => .abortSeen ∉ events →
        UnitSeen config unit.1 retries out events := by
  refine Script.Returns.seq ((attemptUnit_returns hunit).also
    (fun _ _ _ => trivial) (wp_outline (wp_grows (wp_attemptUnit h hunit
      fun _ _ _ hpresent hdone => And.intro hpresent hdone)))) ?_
  rintro outcomes plan₁ _ ⟨⟨claimed, started, hstarted, rfl⟩, view₁,
    ⟨⟨hpresent, hdone⟩, hgrows⟩, hviews⟩
  have hids := hdone.ids outcomes rfl
  have houtline := h.outline hviews hdone.steady
  refine Script.Returns.seq (checkAbortAndSave_returns.also
    (fun _ _ _ => trivial) (wp_checkAbortAndSave hdone.steady
      (hgrows.entered h.entered) fun _ _ _ => id)) ?_
  rintro found landed seen ⟨⟨hsteps, hseen⟩, view₂, hpersisted⟩
  apply Script.Returns.ite
  · rintro rfl
    apply Script.Returns.pure
    intro hquiet
    simp only [List.mem_append, not_or] at hquiet
    cases (hseen hquiet.2.1).1
  · intro hfound
    have hgoes : found = false := by simpa using hfound
    subst hgoes
    have hsynced := hpersisted.synced hpresent rfl
    have hget : ∀ other, landed.getStep? other = plan₁.getStep? other := by
      intro other
      simp only [Plan.getStep?, hsteps]
    have hlanded : ∀ outcome ∈ outcomes,
        LandedIn view₂ landed landed started outcome := by
      intro outcome hmem
      obtain ⟨step, hstep, hlanding⟩ := hdone.landed outcomes rfl outcome hmem
      have hin : outcome.1 ∈ unit.1 := hids ▸ List.mem_map_of_mem hmem
      obtain ⟨before, hbefore, _⟩ := hunit.startable outcome.1 hin
      have hmode := (houtline.steps _ _ _ hbefore hstep).mode
      refine ⟨step, (hget _).trans hstep,
        hlanding.mono ?_ hpersisted.begun, ?_, ?_⟩
      · rw [hpersisted.failed]
        exact fun _ => id
      · rw [Plan.statusOf, hget, hstep]
        rfl
      · rw [hmode]
        exact hstarted.called outcome.1 hin before hbefore
    have hrefused : ∀ stepId ∈ outcomes.map Prod.fst, stepId ∉ started →
        ∀ other ∈ outcomes.map Prod.fst, other ∉ started := by
      rw [hids]
      intro stepId hmem hnot other hother
      rw [hstarted.alone stepId hmem hnot, List.mem_singleton] at hother
      exact hother ▸ hnot
    refine Script.Returns.seq (handleWave_returns hpolicy outcomes
      (hids ▸ hunit.nodup) hsynced hlanded hrefused (hids ▸ hfresh)) ?_
    rintro ⟨goOn, after⟩ plan₃ events hhandled
    apply Script.Returns.pure
    intro hquiet
    simp only [List.mem_append, not_or] at hquiet
    obtain ⟨hothers, hhandling⟩ := hhandled hquiet.2.2.1
    rw [hids] at hothers hhandling
    have hevents : RunEvent.saved claimed :: started.map RunEvent.called ++
        (seen ++ (events ++ [])) =
          waveEvents claimed landed started events := by
      rw [(hseen hquiet.2.1).2, waveEvents]
      simp
    rw [hevents]
    refine ⟨⟨goOn, after, rfl, hothers⟩, fun order horder hsub => ?_,
      fun stepId hcalled => ?_, hhandling.wave_last⟩
    · refine hhandling.paced hstarted.nodup hstarted.mem hsub horder ?_
      intro stepId hmem
      rw [← hids] at hmem
      obtain ⟨outcome, houtcome, rfl⟩ := List.mem_map.mp hmem
      obtain ⟨step, _, _, hstatus, _⟩ := hlanded outcome houtcome
      exact ⟨step.status, hstatus⟩
    · rw [callsOf_wave] at hcalled
      by_cases hmem : stepId ∈ started
      · exact hstarted.mem stepId hmem
      · rw [List.count_eq_zero_of_not_mem hmem, Nat.zero_add] at hcalled
        exact hhandling.mem_of_called hcalled

end Policy

end Voly
