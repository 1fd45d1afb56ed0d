/-
What an execution leaves in the plan store once the executor was called.
-/
import Voly.Decisions.Once

namespace Voly

open Python Interaction StepStatus DecisionService

/-- The plan files, and how the call of the executor went, if made. -/
structure ActionWorld where
  files : String → Option Plan
  answered : Option (Except PyError ActionResult) := none

/-- A reliable plan store; the executor and the writers answer as they will. -/
def serveAction (criteria : CriteriaCompiler) :
    Serve DecisionOp DecisionReply ActionWorld :=
  fun world op proposed =>
    match op, proposed with
    | .plan op, proposed =>
        let out := diskAnswer criteria world.files op proposed
        (out.1, { world with files := out.2 })
    | .runExecutor _, reply => (reply, { world with answered := some reply })
    | _, proposed => (proposed, world)

/-- What a call may rely on, and what it does to the store. -/
def actionProtocol (criteria : CriteriaCompiler) :
    Protocol DecisionOp DecisionReply ActionWorld where
  allows _ _ := True
  relies world op reply :=
    match op, reply with
    | .plan (.load planId), reply =>
        reply = readFile criteria world.files planId
    | .plan (.save _), reply => reply = .ok ()
    | _, _ => True
  next world op reply :=
    match op, reply with
    | .plan (.save plan), _ =>
        { world with files := Function.update world.files plan.planId plan }
    | .runExecutor _, reply => { world with answered := some reply }
    | _, _ => world

def actionSuccess : Except PyError ActionResult → Bool
  | .ok result => result.success
  | .error _ => false

/-- Completed and verified after a reported success, failed otherwise. -/
structure SettledAs (success : Bool) (plan : Plan) : Prop where
  execution : plan.metadata.get? "execution" =
    some (.str (if success then "completed" else "failed"))
  step : plan.statusOf "execute-action" =
    some (if success then verified else failed)
  status : plan.status = if success then .completed else .failed

def Settled (reply : Except PyError ActionResult) (file : Option Plan) :
    Prop :=
  ∃ plan, file = some plan ∧ SettledAs (actionSuccess reply) plan

/-- The executor returns, its report can be written, a success finds its checks.
-/
def Settles (loaded : Plan) (reply : Except PyError ActionResult) : Prop :=
  ∃ result report, reply = .ok result ∧ result.report = .ok report ∧
    (result.success = true → ∃ step,
      loaded.getStep? "execute-action" = some step ∧ step.acceptance ≠ [])

section Wp

variable {criteria : CriteriaCompiler} {loaded plan : Plan}
  {world : ActionWorld}

structure ShowsClaim (loaded plan : Plan) (world : ActionWorld) : Prop where
  planId : plan.planId = loaded.planId
  path : storePath loaded.planId = .ok ()
  step : ∃ step claimed, loaded.getStep? "execute-action" = some step ∧
    plan.getStep? "execute-action" = some claimed ∧
    claimed.status = running ∧ claimed.acceptance = step.acceptance
  file : ∃ stored, world.files loaded.planId = some stored ∧
    stored.metadata.get? "execution" = some (.str "running")

/-- What is owed at the end. -/
def SettledIff (loaded : Plan) (world : ActionWorld) : Prop :=
  ∀ reply, world.answered = some reply →
    (Settled reply (world.files loaded.planId) ↔ Settles loaded reply)

theorem settledIff_unasked (h : world.answered = none) :
    SettledIff loaded world := by
  intro reply hreply
  rw [h] at hreply
  cases hreply

theorem ShowsClaim.left (h : ShowsClaim loaded plan world)
    {reply : Except PyError ActionResult} (hnot : ¬Settles loaded reply)
    (hanswered : world.answered = some reply) : SettledIff loaded world := by
  intro reply' hreply
  cases hanswered.symm.trans hreply
  refine iff_of_false ?_ hnot
  rintro ⟨stored, hstored, hsettled⟩
  obtain ⟨found, hfound, hrunning⟩ := h.file
  cases hfound.symm.trans hstored
  have htext := hrunning.symm.trans hsettled.execution
  cases hsuccess : actionSuccess reply with
  | true =>
      rw [hsuccess] at htext
      exact absurd htext (by simp)
  | false =>
      rw [hsuccess] at htext
      exact absurd htext (by simp)

theorem wp_claims {Q : Except PyError Unit → Plan → ActionWorld → Prop}
    (hunasked : world.answered = none)
    (herror : ∀ e plan' world', world'.answered = none →
      Q (.error e) plan' world')
    (hok : ∀ plan' world', world'.answered = none →
      ShowsClaim plan plan' world' → Q (.ok ()) plan' world') :
    Script.wp ((actionProtocol criteria).pull DecisionOp.plan fun _ r => r)
      claimAction Q plan world := by
  unfold claimAction getStep
  rw [Script.wp_run_bind]
  cases hget : plan.getStep "execute-action" with
  | error e => exact herror e _ _ hunasked
  | ok step =>
      have hstep := plan.getStep_eq_ok hget
      dsimp only
      rw [plan.getStep?_id hstep, Script.wp_bind, wp_enterRunning]
      refine ⟨trivial, fun now _ => ?_⟩
      rcases transition_cases "execute-action" running "" false false now plan
        with ⟨e, h⟩ | ⟨found, hfound, _, h⟩
      · rw [h]
        exact herror e _ _ hunasked
      · rw [h]
        cases hstep.symm.trans hfound
        dsimp only
        rw [Script.wp_update_bind]
        have hplanId := entered_planId plan "execute-action" running "" now
        apply wp_save trivial
        · exact fun _ e _ => herror e _ _ hunasked
        · exact fun _ _ => trivial
        · rintro later reply hpath (rfl : reply = .ok ())
          refine hok _ _ hunasked ⟨hplanId, ?_, ⟨step,
            step.enter running "" now, hstep, ?_, rfl, rfl⟩, ?_⟩
          · rw [← hplanId]
            exact hpath
          · have hentered := entered_getStep? plan "execute-action" running ""
              now "execute-action"
            rw [if_pos rfl, hstep] at hentered
            exact hentered
          · refine ⟨((plan.entered "execute-action" running "" now).note
              "execution" (.str "running")).stamped later, ?_, ?_⟩
            · rw [← hplanId]
              exact Function.update_self _ _ _
            · exact (Dict.get?_set _ _ _ _).trans (if_pos rfl)

theorem wp_entered {stepId : String} {step : PlanStep} {toStatus : StepStatus}
    {error : String} {Q : Except PyError PlanStep → Plan → ActionWorld → Prop}
    (hget : plan.getStep? stepId = some step) (h : Admits plan step toStatus)
    (hto : toStatus ∉ [running, skipped])
    (hQ : ∀ plan', plan'.planId = plan.planId →
      plan'.metadata = plan.metadata →
      plan'.getStep? stepId = some (step.enter toStatus error 0) →
      Q (.ok (step.enter toStatus error 0)) plan' world) :
    Script.wp ((actionProtocol criteria).pull DecisionOp.plan fun _ r => r)
      (enterStatus stepId toStatus error false) Q plan world := by
  obtain ⟨hrunning, hskipped⟩ := not_or.mp (mt List.mem_pair.mpr hto)
  have hentered := entered_getStep? plan stepId toStatus error 0 stepId
  rw [if_pos rfl, hget] at hentered
  rw [wp_enterStatus hrunning, transition_of_admits hget h hskipped]
  exact hQ _ (entered_planId _ _ _ _ _) (recomputePlanStatus_metadata _)
    hentered

/-- The end of a claimed action: a success without checks is refused. -/
theorem wp_finishes {result : ActionResult}
    {Q : Except PyError Unit → Plan → ActionWorld → Prop}
    (h : ShowsClaim loaded plan world)
    (hleft : ∀ e plan', ¬Settles loaded (.ok result) →
      Q (.error e) plan' world)
    (hok : ∀ plan', plan'.planId = loaded.planId →
      SettledAs result.success plan' →
      (result.success = true → ∃ step,
        loaded.getStep? "execute-action" = some step ∧ step.acceptance ≠ []) →
      Q (.ok ()) plan' world) :
    Script.wp ((actionProtocol criteria).pull DecisionOp.plan fun _ r => r)
      (finishAction result) Q plan world := by
  obtain ⟨first, step, hfirst, hget, hrunning, hacceptance⟩ := h.step
  unfold finishAction
  split
  case isTrue hsuccess =>
    rw [Script.wp_bind]
    refine wp_entered hget ⟨?_, (nomatch ·), (nomatch ·), (nomatch ·)⟩
      (by decide) ?_
    · rw [hrunning]
      rfl
    intro plan₁ hplanId₁ _ hget₁
    dsimp only
    rw [Script.wp_bind]
    by_cases hchecks : first.acceptance = []
    · -- no checks: the step may not enter `verifying`
      rw [wp_enterStatus (by decide)]
      rcases transition_cases "execute-action" verifying "" false false 0 plan₁
        with ⟨e, hrefused⟩ | ⟨found, hfound, hadmitted, _⟩
      · rw [hrefused]
        refine hleft e plan₁ ?_
        rintro ⟨_, _, ⟨⟩, _, hsettles⟩
        obtain ⟨other, hother, hsome⟩ := hsettles hsuccess
        cases hfirst.symm.trans hother
        exact hsome hchecks
      · cases hget₁.symm.trans hfound
        exact absurd (hacceptance.trans hchecks)
          ((admits_of_refusal hadmitted).checked rfl rfl)
    · refine wp_entered hget₁ ⟨rfl, (nomatch ·), (nomatch ·), fun _ _ => ?_⟩
        (by decide) ?_
      · exact fun hempty => hchecks (hacceptance.symm.trans hempty)
      intro plan₂ hplanId₂ _ hget₂
      dsimp only
      rw [Script.wp_bind]
      refine wp_entered hget₂ ⟨rfl, (nomatch ·), fun _ => (nomatch ·),
        (nomatch ·)⟩ (by decide) ?_
      intro plan₃ hplanId₃ _ hget₃
      refine hok _ (((hplanId₃.trans hplanId₂).trans hplanId₁).trans h.planId)
        ?_ fun _ => ⟨first, hfirst, hchecks⟩
      rw [hsuccess]
      refine ⟨(Dict.get?_set _ _ _ _).trans (if_pos rfl), ?_, rfl⟩
      exact congrArg (Option.map PlanStep.status) hget₃
  case isFalse hfailure =>
    rw [Script.wp_bind]
    refine wp_entered hget ⟨?_, (nomatch ·), (nomatch ·), (nomatch ·)⟩
      (by decide) ?_
    · rw [hrunning]
      rfl
    intro plan₁ hplanId₁ _ hget₁
    refine hok _ (hplanId₁.trans h.planId) ?_ fun hsuccess =>
      absurd hsuccess hfailure
    rw [Bool.eq_false_of_not_eq_true hfailure]
    refine ⟨(Dict.get?_set _ _ _ _).trans (if_pos rfl), ?_, rfl⟩
    exact congrArg (Option.map PlanStep.status) hget₁

theorem SettledAs.noted {success : Bool} {key : String} {value : Json}
    (h : SettledAs success plan) (hkey : key ≠ "execution") :
    SettledAs success (plan.note key value) :=
  ⟨((Dict.get?_set _ _ _ _).trans (if_neg hkey)).trans h.execution, h.step,
    h.status⟩

theorem wp_records {result : ActionResult}
    {Q : Except PyError Unit → Plan → ActionWorld → Prop}
    (h : ShowsClaim loaded plan world)
    (hanswered : world.answered = some (.ok result))
    (hQ : ∀ out plan' world', SettledIff loaded world' → Q out plan' world') :
    Script.wp ((actionProtocol criteria).pull DecisionOp.plan fun _ r => r)
      (recordAction result) Q plan world := by
  unfold recordAction
  rw [Script.wp_bind]
  apply wp_finishes h
  · exact fun e plan' hnot => hQ _ _ _ (h.left hnot hanswered)
  intro plan' hplanId hsettled hchecks
  dsimp only
  rw [Script.wp_ask_bind]
  refine ⟨trivial, fun (now : Rat) _ => ?_⟩
  rw [Script.wp_update_bind, Script.wp_run_bind]
  cases hreport : result.report with
  | error e =>
      refine hQ _ _ _ (h.left ?_ hanswered)
      rintro ⟨_, report, ⟨⟩, hwritten, _⟩
      cases hreport.symm.trans hwritten
  | ok report =>
      dsimp only
      rw [Script.wp_update_bind]
      apply wp_save trivial
      · intro _ e hpath
        have hrefused : storePath plan'.planId = .error e := hpath
        rw [hplanId, h.path] at hrefused
        cases hrefused
      · exact fun _ _ => trivial
      · rintro later reply _ (rfl : reply = .ok ())
        refine hQ _ _ _ fun reply hreply => ?_
        cases hanswered.symm.trans hreply
        refine iff_of_true
          ⟨((plan'.note "executed_at" (.num now)).note "action_report"
            (.obj report)).stamped later, ?_, ?_⟩
          ⟨result, report, rfl, hreport, hchecks⟩
        · rw [← hplanId]
          exact Function.update_self _ _ _
        · have hnoted : SettledAs result.success
              ((plan'.note "executed_at" (.num now)).note "action_report"
                (.obj report)) :=
            (hsettled.noted (by decide)).noted (by decide)
          exact ⟨hnoted.execution, hnoted.step, hnoted.status⟩

theorem wp_performs {config : Option ServiceConfig} {given : Bool}
    {kind : String} {payload : Dict Json} (hunasked : world.answered = none) :
    Script.wp (actionProtocol criteria)
      (performAction config given kind payload)
      (fun _ _ world' => SettledIff plan world') plan world := by
  unfold performAction
  rw [Script.wp_bind]
  apply wp_onPlanOps
  apply wp_claims hunasked
  · exact fun _ _ _ hnone => settledIff_unasked hnone
  intro plan' world' hnone hclaim
  dsimp only
  -- the writers do not change the plan files
  have hwriters : ∀ result plan₂ world₂, SettledIff plan world₂ →
      Script.wp (actionProtocol criteria) (do
        if config.isSome then do
          saveEvidence result
          emitTaskEvent
        else pure ()
        learn config
        Script.read)
        (fun _ _ world₃ => SettledIff plan world₃) plan₂ world₂ := by
    intro result plan₂ world₂ hsettled
    have hlearn : Script.wp (actionProtocol criteria)
        (learn config >>= fun _ => Script.read)
        (fun _ _ world₃ => SettledIff plan world₃) plan₂ world₂ := by
      rw [Script.wp_bind]
      unfold learn
      rw [Script.wp_read_bind]
      split
      · exact ⟨trivial, fun reply _ => by cases reply <;> exact hsettled⟩
      · exact hsettled
    split
    · refine ⟨trivial, fun saved _ => ?_⟩
      cases saved with
      | error e => exact hsettled
      | ok u =>
          refine ⟨trivial, fun emitted _ => ?_⟩
          cases emitted with
          | error e => exact hsettled
          | ok u => exact hlearn
    · exact hlearn
  have hact : Script.wp (actionProtocol criteria) (do
      let result ← Script.askOk (DecisionOp.runExecutor payload) id
      onPlanOps (recordAction result)
      if config.isSome then do
        saveEvidence result
        emitTaskEvent
      else pure ()
      learn config
      Script.read) (fun _ _ world₂ => SettledIff plan world₂) plan' world' := by
    rw [Script.wp_bind, Script.wp_askOk]
    refine ⟨trivial, fun reply _ => ?_⟩
    have hclaimed : ShowsClaim plan plan'
        { world' with answered := some reply } :=
      ⟨hclaim.planId, hclaim.path, hclaim.step, hclaim.file⟩
    cases reply with
    | error e =>
        refine hclaimed.left ?_ rfl
        rintro ⟨_, _, ⟨⟩, _⟩
    | ok result =>
        dsimp only [id]
        rw [Script.wp_bind]
        apply wp_onPlanOps
        apply wp_records hclaimed rfl
        rintro (e | u) plan₂ world₂ hsettled
        · exact hsettled
        · exact hwriters result plan₂ world₂ hsettled
  split
  · exact hact
  · refine ⟨trivial, fun built _ => ?_⟩
    cases built with
    | error e => exact settledIff_unasked hnone
    | ok u => exact hact

theorem wp_executes {config : Option ServiceConfig} {given : Bool}
    (hunasked : world.answered = none) :
    Script.wp (actionProtocol criteria) (executeLoaded config given)
      (fun _ _ world' => SettledIff plan world') plan world := by
  have hnone : SettledIff plan world := settledIff_unasked hunasked
  unfold executeLoaded
  rw [Script.wp_read_bind]
  split
  case isTrue => exact hnone
  case isFalse =>
    split
    case isTrue => exact hnone
    case isFalse =>
      split
      case isTrue => exact hnone
      case isFalse =>
        rw [Script.wp_run_bind]
        cases actionSpec plan with
        | error e => exact hnone
        | ok action =>
            dsimp only
            split
            · exact hnone
            · exact wp_performs hunasked

theorem wp_loads {A : Type} {planId : String} {Q : A → ActionWorld → Prop}
    {f : Except PyError (Option Plan) × Unit →
      Prog DecisionOp DecisionReply A}
    (herror : ∀ e, (f (.error e, ())).wp (actionProtocol criteria) Q world)
    (hread : (f (readFile criteria world.files planId, ())).wp
      (actionProtocol criteria) Q world) :
    ((loadDecision planId).bind f).wp (actionProtocol criteria) Q world := by
  rw [Prog.wp_bind]
  have hload : Script.wp ((actionProtocol criteria).pull DecisionOp.plan
      fun _ r => r) (storeLoad planId)
      (fun out _ world' => (f (out, ())).wp (actionProtocol criteria) Q world')
      () world := by
    apply wp_storeLoad herror
    · exact fun _ => trivial
    · rintro reply _ (rfl : reply = readFile criteria world.files planId)
      exact hread
  exact Prog.wp_embed_pull (fun _ _ => rfl) _ hload

end Wp

/-- One execution, with no other call on the store. -/
def runExecution (criteria : CriteriaCompiler) (config : Option ServiceConfig)
    (planId : String) (given : Bool) (files : String → Option Plan)
    (oracle : Nat → Oracle DecisionOp DecisionReply) : ActionWorld :=
  ((execute config planId given).exec (serveAction criteria) oracle 0
    ⟨files, none⟩).2

/-- Once the executor was called, the plan is settled iff its result can be
recorded. -/
theorem execution_settled_iff (criteria : CriteriaCompiler)
    (config : Option ServiceConfig) (planId : String) (given : Bool)
    (files : String → Option Plan)
    (oracle : Nat → Oracle DecisionOp DecisionReply) (loaded : Plan)
    (hread : readFile criteria files planId = .ok (some loaded))
    (reply : Except PyError ActionResult)
    (hcalled : (runExecution criteria config planId given files
      oracle).answered = some reply) :
    Settled reply ((runExecution criteria config planId given files
      oracle).files loaded.planId) ↔ Settles loaded reply := by
  have hexecute : (execute config planId given).wp (actionProtocol criteria)
      (fun _ world => SettledIff loaded world) ⟨files, none⟩ := by
    have hunasked : SettledIff loaded ⟨files, none⟩ := settledIff_unasked rfl
    refine wp_loads (fun e => hunasked) ?_
    rw [hread]
    dsimp only
    split
    · rw [Prog.wp_bind, Script.wp_started]
      exact wp_executes rfl
    · exact hunasked
  obtain ⟨world, hworld, hsettled⟩ := Prog.exec_of_wp (serveAction criteria)
    oracle (fun world view => world = view) (by
      rintro n world _ op rfl _
      cases op with
      | plan op => cases op <;> exact ⟨by trivial, rfl⟩
      | buildExecutor | runExecutor | learn | emitTaskEvent | saveEvidence =>
          exact ⟨trivial, rfl⟩) _ 0 ⟨files, none⟩ rfl hexecute
  rw [← hworld] at hsettled
  exact hsettled reply hcalled

namespace SettledWitness

open OnceWitness

def approved : Plan :=
  { proposal with
    metadata := proposal.metadata.set "decision" (.str "approved")
    steps := proposal.steps.map fun step =>
      if step.id = "approve-option" then { step with status := verified }
      else step }

def approvedFiles (planId : String) : Option Plan :=
  if planId = "o" then some approved else none

/-- The reply of the executor, and fine replies of everyone else. -/
def replying (reply : Except PyError ActionResult) :
    Nat → Oracle DecisionOp DecisionReply
  | _, .runExecutor _ => reply
  | _, op => fine op

def ran (reply : Except PyError ActionResult) : ActionWorld :=
  runExecution noDrafts none "o" true approvedFiles (replying reply)

theorem success_settled :
    Settled (.ok { success := true })
      ((ran (.ok { success := true })).files "o") := by
  have hiff := execution_settled_iff noDrafts none "o" true approvedFiles
    (replying (.ok { success := true })) approved rfl
    (.ok { success := true }) rfl
  exact hiff.mpr ⟨_, [], rfl, rfl, fun _ => ⟨_, rfl, by decide⟩⟩

def timedOut : Except PyError ActionResult := .error (.other "timed out")

/-- The executor raises, and the file still shows a running action. -/
theorem raised_running :
    (ran timedOut).answered = some timedOut ∧
      ((ran timedOut).files "o").map Plan.execution = some "running" ∧
      ¬Settled timedOut ((ran timedOut).files "o") := by
  have hrunning : ((ran timedOut).files "o").bind (·.metadata.get?
      "execution") = some (.str "running") := rfl
  refine ⟨rfl, rfl, ?_⟩
  rintro ⟨plan, hplan, hsettled⟩
  rw [hplan] at hrunning
  exact absurd (hrunning.symm.trans hsettled.execution)
    (by simp [actionSuccess, timedOut])

end SettledWitness

end Voly
