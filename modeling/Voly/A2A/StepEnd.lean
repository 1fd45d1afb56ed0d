/-
What a run without gates and its mirror with shadow gates share, and what the
start, the verification and the end of a role write.
-/
import Voly.A2A.LocalRun
import Voly.Plan.Evolution

namespace Voly.A2A

open Python Interaction StepStatus

/-- The assignment without what only the plan gates write. -/
def Assignment.core (a : Assignment) : Assignment :=
  { a with error := "", planStatus := "", planVerifyOk := none }

def LocalRun.core (run : LocalRun) : LocalRun :=
  { run with done := run.done.map Assignment.core }

section Core

variable (config : RunConfig) (run : LocalRun) (a : Assignment)

theorem of_core {B : Type} {a b : Assignment} (h : b.core = a.core)
    (f : Assignment → B) (hf : ∀ p, f p.core = f p) : f b = f a := by
  rw [← hf b, h, hf]

theorem prior?_core (d : Int) :
    run.core.prior? d = (run.prior? d).map Assignment.core := by
  unfold LocalRun.prior? LocalRun.core
  rw [List.find?_map]
  rfl

theorem priors_core :
    run.core.priors a.core = (run.priors a).map Assignment.core := by
  unfold LocalRun.priors
  rw [List.map_filterMap]
  apply List.filterMap_congr
  intro d _
  exact prior?_core run d

theorem map_core {B : Type} (f : Assignment → B) (hf : ∀ p, f p.core = f p)
    (l : List Assignment) : (l.map Assignment.core).map f = l.map f := by
  rw [List.map_map]
  exact List.map_congr_left fun p _ => hf p

section

variable (f : Assignment → Bool) (hf : ∀ p, f p.core = f p)
  (l : List Assignment)
include hf

theorem filter_core :
    (l.map Assignment.core).filter f = (l.filter f).map Assignment.core := by
  rw [List.filter_map]
  congr 1
  exact List.filter_congr fun p _ => hf p

theorem any_core : (l.map Assignment.core).any f = l.any f := by
  rw [List.any_map]
  congr 1
  exact funext hf

end

theorem cascade_core : cascade config run.core a.core = cascade config run a := by
  have himpl : (run.core.done.filter fun p => p.mode = "executor") =
      (run.done.filter fun p => p.mode = "executor").map Assignment.core :=
    filter_core _ (fun _ => rfl) _
  unfold cascade
  rw [priors_core, himpl]
  simp only [filter_core (fun p => !p.ok) (fun _ => rfl),
    map_core Assignment.role (fun _ => rfl),
    any_core (fun p => p.ok) (fun _ => rfl),
    any_core implHasCode (fun _ => rfl), ne_eq, List.map_eq_nil_iff]
  rw [any_core _ fun _ => rfl]
  rfl

theorem injectPriorContext_core (description : String)
    (prior : List Assignment) :
    injectPriorContext description (prior.map Assignment.core) =
      injectPriorContext description prior := by
  unfold injectPriorContext
  rw [List.filterMap_map]
  simp only [List.map_eq_nil_iff]
  rfl

theorem buildPrompt_core (priors : List Assignment)
    (failed : Option (List String)) :
    buildPrompt config (priors.map Assignment.core) failed a.core =
      buildPrompt config priors failed a := by
  unfold buildPrompt
  rw [filter_core (fun p => p.ok) (fun _ => rfl), injectPriorContext_core,
    List.flatMap_map]
  rfl

end Core

/-- Plan work stores documents, git answers, and no check raises. -/
def planProtocol : Protocol PlanOp PlanReply Unit where
  allows _ op :=
    match op with
    | .time | .save _ | .git _ | .inspect _ _ => True
    | _ => False
  relies _ op reply :=
    match op, reply with
    | .save _, reply => reply = .ok ()
    | .git _, reply => ∃ status, reply = .ok status
    | .inspect check ctx, world =>
        ∃ result, runCheck world check ctx = .ok result
    | _, _ => True
  next _ _ _ := ()

/-- Surroundings in which plan work and git do not raise. -/
structure Surround.Calm (env : Surround) : Prop where
  plan : ∀ log op, planProtocol.relies () op (env log (.plan op))
  git : ∀ log cwd, ∃ status, env log (.git cwd) = .ok status

/-- The text does not read as the note of a skipped role. -/
def Unmasked (error : String) : Prop := startsWith error "skipped:" = false

theorem unmasked_slice {error : String} (n : Nat) (h : Unmasked error) :
    Unmasked (slice n error) := by
  unfold Unmasked startsWith at h ⊢
  rw [Bool.eq_false_iff] at h ⊢
  intro hprefix
  apply h
  rw [List.isPrefixOf_iff_prefix] at hprefix ⊢
  have htake : (slice n error).toList <+: error.toList := by
    rw [slice, String.toList_ofList]
    exact List.take_prefix n error.toList
  exact hprefix.trans htake

theorem unmasked_orElse {a b : String} (ha : Unmasked a) (hb : Unmasked b) :
    Unmasked (orElse a b) := by
  unfold orElse
  split
  · exact hb
  · exact ha

theorem unmasked_of_head {error : String} {c : Char} {rest : List Char}
    (h : error.toList = c :: rest) (hc : c ≠ 's') : Unmasked error := by
  unfold Unmasked startsWith
  rw [h]
  have hmark : "skipped:".toList = 's' :: "kipped:".toList := by decide
  rw [hmark, List.isPrefixOf, beq_false_of_ne (Ne.symm hc), Bool.false_and]

/-- Plan work leaves the step as given, and everything else as it was. -/
structure StepMoved (stepId : String) (plan plan' : Plan) (step' : PlanStep) :
    Prop where
  planId : plan'.planId = plan.planId
  ids : plan'.ids = plan.ids
  only : OnlyStep stepId plan plan'
  found : plan'.getStep? stepId = some step'

namespace StepMoved

variable {stepId : String} {plan plan' : Plan} {step : PlanStep}

theorem start (h : plan.getStep? stepId = some step) :
    StepMoved stepId plan plan step := ⟨rfl, rfl, OnlyStep.rfl, h⟩

section

variable (h : StepMoved stepId plan plan' step)
include h

theorem modify {f : PlanStep → PlanStep} (hf : ∀ step, SameShape step (f step)) :
    StepMoved stepId plan (plan'.modifyStep stepId f) (f step) :=
  ⟨h.planId, (plan'.ids_modifyStep f fun step => (hf step).id).trans h.ids,
    h.only.trans (OnlyStep.modifyStep hf),
    plan'.modifyStep_getStep?_self f (fun step => (hf step).id) h.found⟩

theorem recompute :
    StepMoved stepId plan (recomputePlanStatus plan') step :=
  ⟨(recomputePlanStatus_planId plan').trans h.planId,
    (recomputePlanStatus_ids plan').trans h.ids,
    h.only.trans OnlyStep.recompute,
    (recomputePlanStatus_getStep? plan' stepId).trans h.found⟩

theorem enter (toStatus : StepStatus) (error : String) (now : Rat) :
    StepMoved stepId plan (plan'.entered stepId toStatus error now)
      (step.enter toStatus error now) :=
  (h.modify (enter_shape toStatus error now)).recompute

theorem stamp (now : Rat) :
    StepMoved stepId plan (plan'.stamped now) step :=
  ⟨h.planId, h.ids, h.only.trans (OnlyStep.of_steps rfl), h.found⟩

end

end StepMoved

def roleCheckTypes : List String :=
  ["output_nonempty", "git_diff_nonempty", "file_line_limit", "command"]

theorem defaultAcceptance_types {role mode : String} {cfg : PlanConfig}
    {check : AcceptanceCheck}
    (h : check ∈ defaultAcceptanceForRole role mode cfg) :
    check.type ∈ roleCheckTypes := by
  unfold defaultAcceptanceForRole at h
  dsimp only at h
  simp only [List.mem_append] at h
  rcases h with ((h | h) | h) | h
  all_goals
    split at h
    · obtain rfl := List.mem_singleton.mp h
      simp [roleCheckTypes]
    · cases h

/-- The surroundings' own checks report under their own types. -/
structure Typed (world : Surroundings) : Prop where
  command : ∀ check ctx result,
    world.checkCommand check ctx = .ok result → result.type = "command"
  fileLineLimit : ∀ check ctx result,
    world.checkFileLineLimit check ctx = .ok result →
      result.type = "file_line_limit"

theorem runCheck_type {world : Surroundings} (hworld : Typed world)
    {check : AcceptanceCheck} {ctx : VerifyContext} {result : VerifyResult}
    (hcheck : check.type ∈ roleCheckTypes)
    (h : runCheck world check ctx = .ok result) :
    result.type ∈ roleCheckTypes := by
  have hstrip : strip check.type = check.type := by
    revert hcheck
    generalize check.type = type
    revert type
    decide
  unfold runCheck at h
  rw [hstrip] at h
  simp only [roleCheckTypes, List.mem_cons, List.not_mem_nil, or_false]
    at hcheck
  rcases hcheck with htype | htype | htype | htype <;> rw [htype] at h
  · obtain rfl := Except.ok.inj h
    unfold checkOutputNonempty
    split <;> simp [roleCheckTypes]
  · change checkGitDiffNonempty world check ctx = .ok result at h
    unfold checkGitDiffNonempty at h
    dsimp only at h
    split at h
    · cases h
    · split_ifs at h <;> obtain rfl := Except.ok.inj h <;>
        simp [roleCheckTypes]
  · rw [hworld.fileLineLimit check ctx result h]
    decide
  · rw [hworld.command check ctx result h]
    decide

theorem roleCheckType_head {type : String} (h : type ∈ roleCheckTypes) :
    ∃ c rest, type.toList = c :: rest ∧ c ≠ 's' := by
  simp only [roleCheckTypes, List.mem_cons, List.not_mem_nil, or_false] at h
  rcases h with rfl | rfl | rfl | rfl
  · exact ⟨'o', "utput_nonempty".toList, by decide, by decide⟩
  · exact ⟨'g', "it_diff_nonempty".toList, by decide, by decide⟩
  · exact ⟨'f', "ile_line_limit".toList, by decide, by decide⟩
  · exact ⟨'c', "ommand".toList, by decide, by decide⟩

theorem unmasked_failureSummary {results : List VerifyResult}
    (h : ∀ result ∈ results, result.type ∈ roleCheckTypes) :
    Unmasked (failureSummary results) := by
  unfold failureSummary
  dsimp only
  apply unmasked_orElse _ (by unfold Unmasked; decide)
  apply unmasked_slice
  cases hfailed : results.filter fun r => !r.ok with
  | nil =>
      unfold Unmasked
      decide
  | cons result rest =>
      have hmem : result ∈ results.filter fun r => !r.ok := by
        rw [hfailed]
        exact List.mem_cons_self
      obtain ⟨c, tail, htype, hc⟩ :=
        roleCheckType_head (h result (List.mem_filter.mp hmem).1)
      rw [List.map_cons]
      have hstart : ∀ l : List String, ∃ rest', ("; ".intercalate
          ((result.type ++ ": " ++ result.message) :: l)).toList =
            c :: rest' := by
        intro l
        rw [String.toList_intercalate, List.map_cons]
        simp only [String.toList_append, htype]
        cases l with
        | nil => exact ⟨_, rfl⟩
        | cons b l => exact ⟨_, rfl⟩
      obtain ⟨rest', htext⟩ := hstart _
      exact unmasked_of_head htext hc

/-- Where all is calm plan work does not raise, and where the checks are clean
they report under their own types. -/
def stepProtocol (calm clean : Prop) : Protocol PlanOp PlanReply Unit where
  allows _ _ := True
  relies _ op reply :=
    (calm → planProtocol.relies () op reply) ∧
      (clean →
        match op, reply with
        | .inspect _ _, world => Typed world
        | _, _ => True)
  next _ _ _ := ()

/-- What plan work on one step leaves of it. -/
structure Reworked (clean : Prop) (stepId : String) (plan plan' : Plan)
    (step step' : PlanStep) : Prop where
  moved : StepMoved stepId plan plan' step'
  shape : SameShape step step'
  error : clean → Unmasked step'.error

section StepEnd

variable {calm clean : Prop} {config : RunConfig} {cfg : PlanConfig}
  {plan plan' : Plan} {step step' : PlanStep} {a : Assignment}
  {stepId planMode : String} {priors : List Assignment}
  {gitBefore : Dict String}

theorem recordRole_shape (a : Assignment) (step : PlanStep) :
    SameShape step (PlanStep.recordRole a step) := ⟨rfl, rfl, rfl, rfl⟩

theorem wp_getStep_bind {A G : Type} {P : Protocol PlanOp PlanReply G}
    {f : PlanStep → PlanScript A} {Q : Except PyError A → Plan → G → Prop}
    {g : G} (hget : plan.getStep? stepId = some step)
    (h : Script.wp P (f step) Q plan g) :
    Script.wp P (getStep stepId >>= f) Q plan g := by
  unfold getStep
  rw [Script.wp_run_bind, plan.getStep_ok hget]
  exact h

theorem gives_storeSave (hpath : calm → storePath plan.planId = .ok ())
    {Q : Unit → Plan → Unit → Prop} (h : ∀ now, Q () (plan.stamped now) ()) :
    Script.Gives (stepProtocol calm clean) calm storeSave Q plan () := by
  apply wp_save trivial
  · intro now e he hcalm
    rw [hpath hcalm] at he
    cases he
  · exact fun _ _ => trivial
  · intro now reply _ hreply
    cases reply with
    | ok _ => exact h now
    | error e =>
        intro hcalm
        cases hreply.1 hcalm

theorem enter_unmasked {toStatus : StepStatus} {error : String} {now : Rat}
    (herror : Unmasked error) (hstep : Unmasked step.error) :
    Unmasked (step.enter toStatus error now).error := by
  have hempty : Unmasked "" := by
    unfold Unmasked
    decide
  have hfailed : Unmasked "failed" := by
    unfold Unmasked
    decide
  unfold PlanStep.enter
  dsimp only
  split_ifs
  · exact unmasked_slice _
      (unmasked_orElse herror (unmasked_orElse hstep hfailed))
  · exact unmasked_slice _ herror
  · exact hempty
  · exact hstep

namespace Reworked

theorem start (hget : plan.getStep? stepId = some step)
    (herror : clean → Unmasked step.error) :
    Reworked clean stepId plan plan step step :=
  ⟨StepMoved.start hget, SameShape.rfl, herror⟩

section

variable (h : Reworked clean stepId plan plan' step step')
include h

theorem modify {f : PlanStep → PlanStep} (hf : ∀ step, SameShape step (f step))
    (herror : clean → Unmasked (f step').error) :
    Reworked clean stepId plan (plan'.modifyStep stepId f) step (f step') :=
  ⟨h.moved.modify hf, h.shape.trans (hf step'), herror⟩

theorem enter (toStatus : StepStatus) {error : String}
    (herror : clean → Unmasked error) (now : Rat) :
    Reworked clean stepId plan (plan'.entered stepId toStatus error now) step
      (step'.enter toStatus error now) :=
  ⟨h.moved.enter toStatus error now, h.shape.trans (enter_shape ..),
    fun hclean => enter_unmasked (herror hclean) (h.error hclean)⟩

theorem recompute :
    Reworked clean stepId plan (recomputePlanStatus plan') step step' :=
  ⟨h.moved.recompute, h.shape, h.error⟩

theorem stamp (now : Rat) :
    Reworked clean stepId plan (plan'.stamped now) step step' :=
  ⟨h.moved.stamp now, h.shape, h.error⟩

end

theorem trans {plan'' : Plan} {step'' : PlanStep}
    (h : Reworked clean stepId plan plan' step step')
    (h' : Reworked clean stepId plan' plan'' step' step'') :
    Reworked clean stepId plan plan'' step step'' :=
  ⟨⟨h'.moved.planId.trans h.moved.planId, h'.moved.ids.trans h.moved.ids,
    h.moved.only.trans h'.moved.only, h'.moved.found⟩,
    h.shape.trans h'.shape, h'.error⟩

end Reworked

theorem empty_unmasked : Unmasked "" := by
  unfold Unmasked
  decide

theorem evaluated_types {ctx : VerifyContext}
    {evals : List (AcceptanceCheck × Surroundings)}
    {results : List VerifyResult} (h : Evaluated ctx evals results)
    (hworlds : ∀ eval ∈ evals, Typed eval.2)
    (hchecks : ∀ eval ∈ evals, eval.1.type ∈ roleCheckTypes) :
    ∀ result ∈ results, result.type ∈ roleCheckTypes := by
  induction h with
  | nil => exact fun result hmem => nomatch hmem
  | @cons eval result evals results hrun _ ih =>
      intro other hmem
      rcases List.mem_cons.mp hmem with rfl | hrest
      · exact runCheck_type (hworlds eval List.mem_cons_self)
          (hchecks eval List.mem_cons_self) hrun
      · exact ih (fun e he => hworlds e (List.mem_cons_of_mem _ he))
          (fun e he => hchecks e (List.mem_cons_of_mem _ he)) other hrest

theorem gives_openStep (hget : plan.getStep? stepId = some step)
    (hstatus : step.status = pending) (hunmet : unmetOf plan step = [])
    (herror : clean → Unmasked step.error)
    (hpath : calm → storePath plan.planId = .ok ()) :
    Script.Gives (stepProtocol calm clean) calm
      (do
        let _ ← enterStatus stepId running "" false
        storeSave)
      (fun _ plan' _ => ∃ now, Reworked clean stepId plan plan' step
        (step.enter running "" now)) plan () := by
  have hadmits : Admits plan step running := by
    refine ⟨?_, fun _ => hunmet, (fun h => nomatch h), (fun h => nomatch h)⟩
    rw [hstatus]
    decide
  unfold Script.Gives
  rw [Script.wp_bind, wp_enterRunning]
  refine ⟨trivial, fun now _ => ?_⟩
  rw [transition_of_admits hget hadmits (by decide)]
  have hwork := (Reworked.start hget herror).enter running
    (fun _ => empty_unmasked) now
  apply gives_storeSave
  · rw [hwork.moved.planId]
    exact hpath
  · exact fun later => ⟨now, hwork.stamp later⟩

/-- A step that is verified or failed, and verified in shadow mode. -/
def Judged (planMode : String) (step : PlanStep) : Prop :=
  step.status ∈ [verified, failed] ∧
    (planMode = "shadow" → step.status = verified)

theorem gives_verifyRole (hget : plan.getStep? stepId = some step)
    (hstatus : step.status = verifying) (hacc : step.acceptance ≠ [])
    (htypes : clean → ∀ check ∈ step.acceptance, check.type ∈ roleCheckTypes)
    (herror : clean → Unmasked step.error) :
    Script.Gives (stepProtocol calm clean) calm
      (verifyRole config cfg planMode stepId a priors gitBefore)
      (fun _ plan' _ => ∃ step', Reworked clean stepId plan plan' step step' ∧
        Judged planMode step') plan () := by
  unfold verifyRole
  apply Script.Gives.bind (Q := fun _ plan' _ => plan = plan')
  · unfold askIf
    split
    · apply Script.Gives.askOk trivial
      · exact fun _ _ _ _ => rfl
      · intro reply e hreply hraised hcalm
        obtain ⟨status, rfl⟩ := hreply.1 hcalm
        cases hraised
    · exact Script.Gives.ret rfl
  rintro gitAfter _ ⟨⟩ rfl
  apply Script.Gives.bind (Q := fun out plan' _ => ∃ step',
    Reworked clean stepId plan plan' step step' ∧ out.1 = step' ∧
      step'.status ∈ [verified, failed])
  · apply wp_completeVerification (fun _ _ _ => trivial) hget
    · intro hoff
      exact absurd hstatus hoff
    · rintro _ evals e ⟨_, check, world, hrelies, hraised⟩ hcalm
      obtain ⟨result, hok⟩ := hrelies.1 hcalm
      rw [hok] at hraised
      cases hraised
    · intro _ hnone
      exact absurd hnone hacc
    · intro _ _ evals results _ heval hall hexpected toStatus error hto
      have hlogged := (Reworked.start hget herror).modify
        (logVerdicts_shape results) herror
      have htext : clean → Unmasked error := by
        intro hclean
        rcases hto with ⟨_, _, rfl⟩ | ⟨_, _, rfl⟩
        · exact empty_unmasked
        · apply unmasked_failureSummary
          apply evaluated_types heval
          · intro eval hmem
            obtain ⟨_, hrelies⟩ := hexpected eval hmem
            exact hrelies.2 hclean
          · intro eval hmem
            apply htypes hclean
            rw [← hall rfl]
            exact List.mem_map_of_mem hmem
      refine ⟨_, hlogged.enter toStatus htext 0, rfl, ?_⟩
      rw [enter_status]
      rcases hto with ⟨rfl, _⟩ | ⟨rfl, _⟩ <;> decide
  · rintro ⟨step', results⟩ plan' ⟨⟩ ⟨_, hwork, rfl, hverdict⟩
    dsimp only
    split
    · exact ⟨_, (hwork.modify softOpen_shape hwork.error).recompute,
        List.mem_pair.mpr (Or.inl rfl), fun _ => rfl⟩
    case isFalse hkept =>
      refine ⟨_, hwork, hverdict, fun hshadow => ?_⟩
      rcases List.mem_pair.mp hverdict with hverified | hfailed
      · exact hverified
      · exact absurd ⟨hfailed, hshadow⟩ hkept

theorem gives_settle {tell : PlanStep → Assignment}
    (hwork : Reworked clean stepId plan plan' step step')
    (hpath : calm → storePath plan.planId = .ok ()) :
    Script.Gives (stepProtocol calm clean) calm
      (do
        let step ← getStep stepId
        storeSave
        pure (tell step))
      (fun b plan' _ => b = tell step' ∧
        Reworked clean stepId plan plan' step step') plan' () := by
  apply wp_getStep_bind hwork.moved.found
  apply Script.Gives.bind (gives_storeSave
    (by rw [hwork.moved.planId]; exact hpath)
    (Q := fun _ plan' _ => Reworked clean stepId plan plan' step step')
    fun now => hwork.stamp now)
  exact fun _ _ _ hstamped => ⟨rfl, hstamped⟩

section

variable (hget : plan.getStep? (assignmentStepId a.idx a.role) = some step)
  (hstatus : step.status = running)
include hget hstatus

theorem gives_finishStep_failed (hstep : clean → Unmasked step.error)
    (herror : clean → Unmasked a.error)
    (hpath : calm → storePath plan.planId = .ok ()) :
    Script.Gives (stepProtocol calm clean) calm
      (finishStep config cfg planMode a priors false gitBefore)
      (fun b plan' _ => ∃ step', Reworked clean
        (assignmentStepId a.idx a.role) plan plan' step step' ∧
        step'.status = failed ∧ b = syncAssignmentPlanFields a step')
      plan () := by
  have hwrote := (Reworked.start hget hstep).modify (recordRole_shape a) hstep
  have hadmits : Admits
      (plan.modifyStep (assignmentStepId a.idx a.role) (PlanStep.recordRole a))
      (PlanStep.recordRole a step) failed := by
    refine ⟨?_, (fun h => nomatch h), (fun h => nomatch h),
      fun h => nomatch h⟩
    rw [show (PlanStep.recordRole a step).status = running from hstatus]
    decide
  have htext : clean → Unmasked (orElse a.error "role failed") :=
    fun hclean => unmasked_orElse (herror hclean) (by unfold Unmasked; decide)
  have hfailed := hwrote.enter failed htext 0
  unfold finishStep
  apply wp_getStep_bind hget
  rw [Script.wp_update_bind, if_pos (by decide), Script.wp_bind, askIf,
    if_pos hstatus, wp_enterStatus (by decide),
    transition_of_admits hwrote.moved.found hadmits (by decide)]
  apply Script.Gives.mono (gives_settle hfailed hpath)
  exact fun _ _ _ hend => ⟨_, hend.2, rfl, hend.1⟩

theorem gives_finishStep_through
    (htypes : clean → ∀ check ∈ step.acceptance, check.type ∈ roleCheckTypes)
    (hstep : clean → Unmasked step.error)
    (hpath : calm → storePath plan.planId = .ok ()) :
    Script.Gives (stepProtocol calm clean) calm
      (finishStep config cfg planMode a priors true gitBefore)
      (fun b plan' _ => ∃ step', Reworked clean
        (assignmentStepId a.idx a.role) plan plan' step step' ∧
        Judged planMode step' ∧
        (step.acceptance = [] → step'.verifyLog = step.verifyLog) ∧
        b = applyVerdict planMode step' (syncAssignmentPlanFields a step'))
      plan () := by
  have hwrote := (Reworked.start hget hstep).modify (recordRole_shape a) hstep
  have hfiled := hwrote.modify
    (finish_shape a.content (some a.filesTouched)) hstep
  have hdone : ∀ plan' : Plan, Admits plan' (PlanStep.finish a.content
      (some a.filesTouched) (PlanStep.recordRole a step)) done := by
    intro plan'
    refine ⟨?_, by rintro ⟨⟩, by rintro ⟨⟩, by rintro ⟨⟩⟩
    rw [show (PlanStep.finish a.content (some a.filesTouched)
      (PlanStep.recordRole a step)).status = running from hstatus]
    decide
  have hfinished := hfiled.enter done (fun _ => empty_unmasked) 0
  unfold finishStep
  apply wp_getStep_bind hget
  rw [Script.wp_update_bind, if_neg (by decide), Script.wp_run_bind,
    markExecutionFinished_eq hwrote.moved.found,
    transition_of_admits hfiled.moved.found (hdone _) (by decide)]
  dsimp only
  rw [Script.wp_run_bind, advanceAfterDone_eq hfinished.moved.found rfl]
  by_cases hacc : step.acceptance = []
  · -- no checks: verified at once
    have hadmits : ∀ plan' : Plan, Admits plan' ((PlanStep.finish a.content
        (some a.filesTouched) (PlanStep.recordRole a step)).enter done "" 0)
        verified :=
      fun _ => ⟨rfl, by rintro ⟨⟩, fun _ _ => hacc, by rintro ⟨⟩⟩
    have hverified := hfinished.enter verified (fun _ => empty_unmasked) 0
    rw [if_pos (by rw [hfinished.shape.acceptance, hacc]),
      transition_of_admits hfinished.moved.found (hadmits _) (by decide)]
    apply wp_getStep_bind hverified.moved.found
    rw [Script.wp_bind, askIf, if_neg (by rw [enter_status]; decide),
      Script.wp_pure]
    apply Script.Gives.mono (gives_settle hverified hpath)
    exact fun _ _ _ hend => ⟨_, hend.2,
      ⟨List.mem_pair.mpr (Or.inl rfl), fun _ => rfl⟩, fun _ => rfl, hend.1⟩
  · have hadmits : ∀ plan' : Plan, Admits plan' ((PlanStep.finish a.content
        (some a.filesTouched) (PlanStep.recordRole a step)).enter done "" 0)
        verifying :=
      fun _ => ⟨rfl, by rintro ⟨⟩, by rintro ⟨⟩, fun _ _ => hacc⟩
    have hchecked := hfinished.enter verifying (fun _ => empty_unmasked) 0
    rw [if_neg (by rw [hfinished.shape.acceptance]; exact hacc),
      transition_of_admits hfinished.moved.found (hadmits _) (by decide)]
    apply wp_getStep_bind hchecked.moved.found
    rw [askIf, if_pos (by rfl)]
    apply Script.Gives.bind (gives_verifyRole hchecked.moved.found rfl
      (by rw [hchecked.shape.acceptance]; exact hacc)
      (by rw [hchecked.shape.acceptance]; exact htypes) hchecked.error)
    rintro _ plan' ⟨⟩ ⟨step', hwork, hend⟩
    apply Script.Gives.mono (gives_settle (hchecked.trans hwork) hpath)
    exact fun _ _ _ hsettled => ⟨_, hsettled.2, hend,
      fun hnone => absurd hnone hacc, hsettled.1⟩

end

end StepEnd

section Shadow

variable {config : RunConfig} {cfg : PlanConfig} {plan : Plan}
  {step : PlanStep} {a : Assignment} {priors : List Assignment}
  {gitBefore : Dict String}

theorem eval_onPlan {A : Type} {env : Surround} (henv : env.Calm)
    {x : PlanScript A} {Q : A → Plan → Prop}
    (hx : Script.Gives (stepProtocol True False) True x
      (fun a plan' _ => Q a plan') plan ())
    (run : LocalRun) (log : List RoleExchange) :
    ∃ a plan', Script.eval env.answer (onPlan plan x) run log =
      ((.ok a, { run with plan := some plan' }), log) ∧ Q a plan' := by
  have hembed : ((x plan).embed RoleOp.plan fun _ reply => reply).eval
      env.answer log =
        (x plan).eval (fun log op => (env log (.plan op), log)) log :=
    Prog.eval_embed _ (fun _ _ => rfl) (x plan) log
  have hrelies : ∀ log op, (stepProtocol True False).relies () op
      (env log (.plan op)) :=
    fun log op => ⟨fun _ => henv.plan log op, False.elim⟩
  obtain ⟨_, hlog, hQ⟩ := Prog.eval_of_wp
    (fun log op => (env log (.plan op), log)) (fun log' _ => log' = log)
    (fun log' _ op hlog _ => ⟨hrelies log' op, hlog⟩) (x plan) log rfl hx
  unfold Script.eval onPlan
  rw [Prog.eval_bind, hembed]
  generalize (x plan).eval _ log = ended at hlog hQ
  obtain ⟨⟨out, plan'⟩, log'⟩ := ended
  obtain rfl : log' = log := hlog
  cases out with
  | ok a => exact ⟨a, plan', rfl, hQ⟩
  | error e => exact absurd trivial hQ

/-- The step of a finished role, and the assignment that is told of it. -/
def Finishes (a : Assignment) (plan plan' : Plan) (step : PlanStep)
    (status : StepStatus) (b : Assignment) : Prop :=
  ∃ step', b = syncAssignmentPlanFields a step' ∧
    StepMoved (assignmentStepId a.idx a.role) plan plan' step' ∧
    SameShape step step' ∧ step'.status = status

theorem applyVerdict_verified {planMode : String} {step : PlanStep}
    (hstatus : step.status = verified)
    (h : a.ok = true ∨ step.verifyLog = []) :
    applyVerdict planMode step a = a := by
  unfold applyVerdict
  rw [if_neg (by rw [hstatus]; decide)]
  split
  · next hopened =>
      rcases h with hok | hlog
      · rw [← hok]
      · exact absurd hlog hopened.2.2.1
  · rfl

section

variable (hget : plan.getStep? (assignmentStepId a.idx a.role) = some step)
  (hstatus : step.status = running)
  (hpath : storePath plan.planId = .ok ())
include hget hstatus hpath

theorem finishes_failed {planMode : String} :
    Script.Gives (stepProtocol True False) True
      (finishStep config cfg planMode a priors false gitBefore)
      (fun b plan' _ => Finishes a plan plan' step failed b) plan () := by
  apply Script.Gives.mono (gives_finishStep_failed hget hstatus False.elim
    False.elim fun _ => hpath)
  rintro b plan' _ ⟨step', hwork, hfailed, rfl⟩
  exact ⟨step', rfl, hwork.moved, hwork.shape, hfailed⟩

/-- The step of a role whose call went through ends verified in shadow mode. -/
theorem finishes_through (hlog : step.verifyLog = [])
    (hok : a.ok = true ∨ step.acceptance = []) :
    Script.Gives (stepProtocol True False) True
      (finishStep config cfg "shadow" a priors true gitBefore)
      (fun b plan' _ => Finishes a plan plan' step verified b) plan () := by
  apply Script.Gives.mono (gives_finishStep_through hget hstatus False.elim
    False.elim fun _ => hpath)
  rintro b plan' _ ⟨step', hwork, hjudged, hkept, rfl⟩
  have hverified := hjudged.2 rfl
  refine ⟨step', applyVerdict_verified hverified ?_, hwork.moved, hwork.shape,
    hverified⟩
  rcases hok with hok | hnone
  · exact Or.inl hok
  · exact Or.inr ((hkept hnone).trans hlog)

end

end Shadow

end Voly.A2A
