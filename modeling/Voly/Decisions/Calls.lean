/-
The calls of the decision service, each on its own, and the protocol that it
keeps.
-/
import Voly.Decisions.Service

namespace Voly

open Python Interaction StepStatus DecisionService

inductive ServiceCall where
  | decide (decision comment : String)
  | execute (given : Bool)

inductive ServiceOutcome where
  | decided (out : Except PyError DecisionResult)
  | executed (out : Except PyError Plan)

def ServiceCall.run (config : Option ServiceConfig) (planId : String) :
    ServiceCall → Prog DecisionOp DecisionReply ServiceOutcome
  | .decide decision comment =>
      (DecisionService.decide config planId decision comment).bind fun out =>
        .done (.decided out)
  | .execute given =>
      (DecisionService.execute config planId given).bind fun out =>
        .done (.executed out)

/-- The plan as last seen, the number of saves, and whether the executor ran. -/
structure ServiceView where
  held : Option Plan := none
  saves : Nat := 0
  ran : Bool := false

def ServiceView.next (view : ServiceView) (op : DecisionOp)
    (reply : DecisionReply op) : ServiceView :=
  match op, reply with
  | .plan (.load _), .ok (some plan) => { view with held := some plan }
  | .plan (.save plan), _ =>
      { view with held := some plan, saves := view.saves + 1 }
  | .runExecutor _, _ => { view with ran := true }
  | _, _ => view

/-- What a call may save: a decision on a pending plan, the claim of an approved
action, and its end. -/
inductive MaySave (view : ServiceView) (held plan : Plan) :
    ServiceCall → Prop
  | decided {decision comment : String} (first : view.saves = 0)
      (pending : held.decision = "pending")
      (decided : plan.decision = desiredDecision decision)
      (execution : plan.execution = held.execution) :
      MaySave view held plan (.decide decision comment)
  | claimed {given : Bool} (first : view.saves = 0)
      (approved : held.decision = "approved")
      (pending : held.execution = "pending")
      (decision : plan.decision = "approved")
      (running : plan.execution = "running") :
      MaySave view held plan (.execute given)
  | recorded {given : Bool} (second : view.saves = 1)
      (ran : view.ran = true)
      (decision : plan.decision = "approved")
      (ended : plan.execution ∈ ["completed", "failed"]) :
      MaySave view held plan (.execute given)

def serviceProtocol (planId : String) (call : ServiceCall) :
    Protocol DecisionOp DecisionReply ServiceView where
  allows view op :=
    match op with
    | .plan (.load other) => other = planId ∧ view.held = none
    | .plan .time => True
    | .plan (.save plan) => ∃ held, view.held = some held ∧
        plan.planId = held.planId ∧ MaySave view held plan call
    | .plan _ => False
    | .runExecutor _ =>
        (∃ given, call = .execute given) ∧ view.saves = 1 ∧ view.ran = false
    | _ => True
  relies _ op reply :=
    match op, reply with
    | .plan (.save _), reply => reply = .ok ()
    | .learn _, reply => reply = .ok ()
    | .emitTaskEvent _, reply => reply = .ok ()
    | .saveEvidence _ _, reply => reply = .ok ()
    | _, _ => True
  next := ServiceView.next

def planProtocol (planId : String) (call : ServiceCall) :
    Protocol PlanOp PlanReply ServiceView :=
  (serviceProtocol planId call).pull DecisionOp.plan fun _ r => r

theorem wp_onPlanOps {V A : Type} {x : PlanScript A}
    {protocol : Protocol DecisionOp DecisionReply V}
    {Q : Except PyError A → Plan → V → Prop} {plan : Plan} {view : V}
    (h : Script.wp (protocol.pull DecisionOp.plan fun _ r => r) x Q plan view) :
    Script.wp protocol (onPlanOps x) Q plan view :=
  Prog.wp_embed_pull (fun _ _ => rfl) (x plan) h

section Metadata

variable {plan : Plan}

theorem recomputePlanStatus_metadata (plan : Plan) :
    (recomputePlanStatus plan).metadata = plan.metadata := by
  unfold recomputePlanStatus
  split <;> rfl

theorem transition_metadata (stepId : String) (toStatus : StepStatus)
    (error : String) (allowSkip force : Bool) (now : Rat) (plan : Plan) :
    (transition stepId toStatus error allowSkip force now plan).2.planId =
        plan.planId ∧
      (transition stepId toStatus error allowSkip force now plan).2.metadata =
        plan.metadata := by
  rcases transition_cases stepId toStatus error allowSkip force now plan with
    ⟨e, h⟩ | ⟨step, _, _, h⟩
  · rw [h]
    exact ⟨rfl, rfl⟩
  · rw [h]
    exact ⟨entered_planId _ _ _ _ _, recomputePlanStatus_metadata _⟩

theorem note_decision {key : String} (hkey : key ≠ "decision") (value : Json) :
    (plan.note key value).decision = plan.decision := by
  simp only [Plan.decision, Plan.note, Dict.get?_set, if_neg hkey]

theorem note_execution {key : String} (hkey : key ≠ "execution")
    (value : Json) : (plan.note key value).execution = plan.execution := by
  simp only [Plan.execution, Plan.note, Dict.get?_set, if_neg hkey]

theorem recordDecision_decision (decision comment : String) (now : Rat) :
    (recordDecision decision comment now plan).decision =
      desiredDecision decision := by
  unfold recordDecision
  rw [note_decision (by decide), note_decision (by decide)]
  unfold desiredDecision
  simp only [Plan.decision, Plan.note, Dict.get?_set, if_pos, Json.text]
  split <;> rfl

theorem recordDecision_execution (decision comment : String) (now : Rat) :
    (recordDecision decision comment now plan).execution =
      plan.execution := by
  unfold recordDecision
  rw [note_execution (by decide), note_execution (by decide),
    note_execution (by decide)]

theorem desiredDecision_ne_pending (decision : String) :
    desiredDecision decision ≠ "pending" := by
  unfold desiredDecision
  split <;> decide

end Metadata

section Wp

variable {planId : String} {call : ServiceCall} {view : ServiceView}
  {plan : Plan}

/-- A status change of the service: unseen, and the metadata stays. -/
theorem wp_enter {stepId : String} {toStatus : StepStatus} {error : String}
    {Q : Except PyError PlanStep → Plan → ServiceView → Prop}
    (hQ : ∀ out plan', plan'.planId = plan.planId →
      plan'.metadata = plan.metadata → Q out plan' view) :
    Script.wp (planProtocol planId call) (enterStatus stepId toStatus error
      false) Q plan view := by
  by_cases hto : toStatus = running
  · subst hto
    rw [wp_enterRunning]
    refine ⟨trivial, fun now _ => ?_⟩
    obtain ⟨hplanId, hmetadata⟩ :=
      transition_metadata stepId running error false false now plan
    exact hQ _ _ hplanId hmetadata
  · rw [wp_enterStatus hto]
    obtain ⟨hplanId, hmetadata⟩ :=
      transition_metadata stepId toStatus error false false 0 plan
    exact hQ _ _ hplanId hmetadata

section

variable {A : Type} {stepId : String} {f : PlanStep → PlanScript A}
  {Q : Except PyError A → Plan → ServiceView → Prop}

theorem wp_enter_bind {toStatus : StepStatus} {error : String}
    (herror : ∀ e plan', Q (.error e) plan' view)
    (hQ : ∀ step plan', plan'.planId = plan.planId →
      plan'.metadata = plan.metadata →
      Script.wp (planProtocol planId call) (f step) Q plan' view) :
    Script.wp (planProtocol planId call) (enterStatus stepId toStatus error
      false >>= f) Q plan view := by
  rw [Script.wp_bind]
  apply wp_enter
  intro out plan' hplanId hmetadata
  cases out with
  | error e => exact herror e plan'
  | ok step => exact hQ step plan' hplanId hmetadata

theorem wp_serviceStep (herror : ∀ e plan', Q (.error e) plan' view)
    (hQ : ∀ step, Script.wp (planProtocol planId call) (f step) Q plan view) :
    Script.wp (planProtocol planId call) (getStep stepId >>= f) Q plan
      view := by
  unfold getStep
  rw [Script.wp_run_bind]
  cases plan.getStep stepId with
  | error e => exact herror e plan
  | ok step => exact hQ step

end

theorem wp_serviceSave {held : Plan}
    {Q : Except PyError Unit → Plan → ServiceView → Prop}
    (hheld : view.held = some held) (hplanId : plan.planId = held.planId)
    (hmay : ∀ now, MaySave view held (plan.stamped now) call)
    (hrefused : ∀ e plan', Q (.error e) plan' view)
    (hok : ∀ now, Q (.ok ()) (plan.stamped now)
      { view with held := some (plan.stamped now), saves := view.saves + 1 }) :
    Script.wp (planProtocol planId call) storeSave Q plan view := by
  apply wp_save trivial
  · exact fun now e _ => hrefused e _
  · exact fun now _ => ⟨held, hheld, hplanId, hmay now⟩
  · rintro now reply _ (rfl : reply = .ok ())
    exact hok now

theorem wp_takeDecision {decision comment : String}
    {Q : Except PyError Unit → Plan → ServiceView → Prop}
    (hcall : call = .decide decision comment)
    (hheld : view.held = some plan) (hfirst : view.saves = 0)
    (hpending : plan.decision = "pending")
    (hrefused : ∀ e plan', Q (.error e) plan' view)
    (hok : ∀ plan' view', view'.saves = 1 → Q (.ok ()) plan' view') :
    Script.wp (planProtocol planId call) (takeDecision decision comment) Q plan
      view := by
  unfold takeDecision
  apply wp_serviceStep hrefused
  intro step
  apply wp_enter_bind hrefused
  intro _ plan' hplanId hmetadata
  rw [Script.wp_ask_bind]
  refine ⟨trivial, fun (now : Rat) _ => ?_⟩
  rw [Script.wp_update_bind, Script.wp_update_bind]
  generalize hwritten : (if decision = "reject" then
    ({ recordDecision decision comment now plan' with status := .failed } : Plan)
      else recordDecision decision comment now plan') = written
  have hmeta : written.planId = plan.planId ∧
      written.decision = desiredDecision decision ∧
      written.execution = plan.execution := by
    have hdecision : (recordDecision decision comment now plan').decision =
        desiredDecision decision :=
      recordDecision_decision decision comment now
    have hexecution :
        (recordDecision decision comment now plan').execution =
          plan.execution := by
      rw [recordDecision_execution, Plan.execution, hmetadata]
      rfl
    rw [← hwritten]
    split
    · exact ⟨hplanId, hdecision, hexecution⟩
    · exact ⟨hplanId, hdecision, hexecution⟩
  apply wp_serviceSave hheld hmeta.1 ?_ hrefused
  · exact fun now => hok _ _ (by rw [hfirst])
  · intro now
    rw [hcall]
    exact .decided hfirst hpending hmeta.2.1 hmeta.2.2

/-- A decision returns that it changed the plan exactly if it has saved it. -/
def DecideTold (out : Except PyError DecisionResult) (view : ServiceView) :
    Prop :=
  view.saves = 0 ∧ (∀ result, out = .ok result → result.changed = false) ∨
    view.saves = 1 ∧ ∃ result, out = .ok result ∧ result.changed = true

theorem decideTold_error {e : PyError} (hfirst : view.saves = 0) :
    DecideTold (.error e) view := by
  refine Or.inl ⟨hfirst, ?_⟩
  intro result hresult
  cases hresult

theorem wp_learn_bind {A : Type} {config : Option ServiceConfig}
    {f : Unit → DecisionScript A}
    {Q : Except PyError A → Plan → ServiceView → Prop}
    (hQ : Script.wp (serviceProtocol planId call) (f ()) Q plan view) :
    Script.wp (serviceProtocol planId call) (learn config >>= f) Q plan
      view := by
  rw [Script.wp_bind]
  unfold learn
  rw [Script.wp_read_bind]
  split
  · refine ⟨trivial, ?_⟩
    rintro reply (rfl : reply = .ok ())
    exact hQ
  · exact hQ

theorem wp_decideLoaded {config : Option ServiceConfig}
    {decision comment : String} (hcall : call = .decide decision comment)
    (hheld : view.held = some plan) (hfirst : view.saves = 0) :
    Script.wp (serviceProtocol planId call)
      (decideLoaded config decision comment)
      (fun out _ view' => DecideTold out view') plan view := by
  unfold decideLoaded
  rw [Script.wp_read_bind]
  split
  case isTrue =>
    refine Or.inl ⟨hfirst, ?_⟩
    rintro result ⟨⟩
    rfl
  case isFalse =>
    split
    case isTrue => exact decideTold_error hfirst
    case isFalse hpending =>
      rw [Script.wp_bind]
      apply wp_onPlanOps
      apply wp_takeDecision hcall hheld hfirst (not_not.mp hpending)
      · exact fun _ _ => decideTold_error hfirst
      · intro plan' view' hsaves
        dsimp only
        have hdone : ∀ result : DecisionResult, result.changed = true →
            DecideTold (.ok result) view' :=
          fun result hchanged => Or.inr ⟨hsaves, result, rfl, hchanged⟩
        apply wp_learn_bind
        split
        · refine ⟨trivial, ?_⟩
          rintro reply (rfl : reply = .ok ())
          exact hdone _ rfl
        · exact hdone _ rfl

theorem wp_loadDecision {Q : ServiceOutcome → ServiceView → Prop}
    {f : Except PyError (Option Plan) × Unit →
      Prog DecisionOp DecisionReply ServiceOutcome}
    (hother : ∀ out, (∀ plan, out ≠ .ok (some plan)) →
      (f (out, ())).wp (serviceProtocol planId call) Q {})
    (hloaded : ∀ plan, (f (.ok (some plan), ())).wp
      (serviceProtocol planId call) Q { held := some plan }) :
    ((loadDecision planId).bind f).wp (serviceProtocol planId call) Q {} := by
  rw [Prog.wp_bind]
  have hload : Script.wp (planProtocol planId call) (storeLoad planId)
      (fun out _ view => (f (out, ())).wp (serviceProtocol planId call) Q view)
      () {} := by
    apply wp_storeLoad
    · exact fun e => hother (.error e) (by rintro _ ⟨⟩)
    · exact fun _ => ⟨rfl, rfl⟩
    · rintro (e | _ | plan) _ _
      · exact hother (.error e) (by rintro _ ⟨⟩)
      · exact hother (.ok none) (by rintro _ ⟨⟩)
      · exact hloaded plan
  exact Prog.wp_embed_pull (fun _ _ => rfl) _ hload

section

variable {given : Bool} {Q : Except PyError Unit → Plan → ServiceView → Prop}
  {result : ActionResult} {config : Option ServiceConfig}

theorem wp_claimAction (hcall : call = .execute given)
    (hheld : view.held = some plan) (hfirst : view.saves = 0)
    (hran : view.ran = false) (happroved : plan.decision = "approved")
    (hpending : plan.execution = "pending")
    (hrefused : ∀ e plan', Q (.error e) plan' view)
    (hok : ∀ plan', plan'.decision = "approved" →
      Q (.ok ()) plan' ⟨some plan', 1, false⟩) :
    Script.wp (planProtocol planId call) claimAction Q plan view := by
  unfold claimAction
  apply wp_serviceStep hrefused
  intro step
  apply wp_enter_bind hrefused
  intro _ plan' hplanId hmetadata
  rw [Script.wp_update_bind]
  have hdecision : (plan'.note "execution" (.str "running")).decision =
      "approved" := by
    rw [note_decision (by decide), Plan.decision, hmetadata]
    exact happroved
  have hrunning : (plan'.note "execution" (.str "running")).execution =
      "running" := by
    simp only [Plan.execution, Plan.note, Dict.get?_set, if_pos]
    rfl
  refine wp_serviceSave hheld (by exact hplanId) ?_ hrefused ?_
  · intro now
    rw [hcall]
    exact .claimed hfirst happroved hpending hdecision hrunning
  · intro now
    have hdone := hok ((plan'.note "execution" (.str "running")).stamped now)
      hdecision
    rw [hfirst, hran]
    exact hdone

theorem wp_finishAction (happroved : plan.decision = "approved")
    (herror : ∀ e plan', Q (.error e) plan' view)
    (hok : ∀ plan', plan'.planId = plan.planId →
      plan'.decision = "approved" →
      plan'.execution ∈ ["completed", "failed"] → Q (.ok ()) plan' view) :
    Script.wp (planProtocol planId call) (finishAction result) Q plan view := by
  have hended : ∀ (plan' : Plan) (text : String),
      text ∈ ["completed", "failed"] → plan'.metadata = plan.metadata →
      (plan'.note "execution" (.str text)).decision = "approved" ∧
        (plan'.note "execution" (.str text)).execution ∈
          ["completed", "failed"] := by
    intro plan' text htext hmetadata
    constructor
    · rw [note_decision (by decide), Plan.decision, hmetadata]
      exact happroved
    · simp only [Plan.execution, Plan.note, Dict.get?_set, if_pos, Json.text]
      rcases List.mem_cons.mp htext with rfl | htext
      · decide
      · rw [List.mem_singleton.mp htext]
        decide
  unfold finishAction
  split
  case isTrue =>
    apply wp_enter_bind fun e plan' => herror e plan'
    intro _ plan₁ hplanId₁ hmetadata₁
    apply wp_enter_bind fun e plan' => herror e plan'
    intro _ plan₂ hplanId₂ hmetadata₂
    apply wp_enter_bind fun e plan' => herror e plan'
    intro _ plan₃ hplanId₃ hmetadata₃
    obtain ⟨hdecision, hexecution⟩ := hended
      { plan₃ with status := .completed } "completed" (by decide)
      (hmetadata₃.trans (hmetadata₂.trans hmetadata₁))
    exact hok _ (hplanId₃.trans (hplanId₂.trans hplanId₁)) hdecision hexecution
  case isFalse =>
    apply wp_enter_bind fun e plan' => herror e plan'
    intro _ plan₁ hplanId₁ hmetadata₁
    obtain ⟨hdecision, hexecution⟩ := hended
      { plan₁ with status := .failed } "failed" (by decide) hmetadata₁
    exact hok _ hplanId₁ hdecision hexecution

theorem wp_recordAction (hcall : call = .execute given)
    (hheld : view.held = some plan) (hsecond : view.saves = 1)
    (hran : view.ran = true) (happroved : plan.decision = "approved")
    (hQ : ∀ out plan' view', Q out plan' view') :
    Script.wp (planProtocol planId call) (recordAction result) Q plan view := by
  unfold recordAction
  rw [Script.wp_bind]
  apply wp_finishAction happroved
  · exact fun e plan' => hQ _ _ _
  intro plan' hplanId hdecision hended
  dsimp only
  rw [Script.wp_ask_bind]
  refine ⟨trivial, fun (now : Rat) _ => ?_⟩
  rw [Script.wp_update_bind, Script.wp_run_bind]
  cases result.report with
  | error e => exact hQ _ _ _
  | ok report =>
      dsimp only
      rw [Script.wp_update_bind]
      have hdecided : ((plan'.note "executed_at" (.num now)).note
          "action_report" (.obj report)).decision = "approved" := by
        rw [note_decision (by decide), note_decision (by decide)]
        exact hdecision
      have hdone : ((plan'.note "executed_at" (.num now)).note
          "action_report" (.obj report)).execution ∈
            ["completed", "failed"] := by
        rw [note_execution (by decide), note_execution (by decide)]
        exact hended
      refine wp_serviceSave hheld (by exact hplanId) ?_ ?_ ?_
      · intro later
        rw [hcall]
        exact MaySave.recorded hsecond hran hdecided hdone
      · exact fun e plan' => hQ _ _ _
      · exact fun now => hQ _ _ _

theorem wp_performAction {kind : String} {payload : Dict Json}
    (hcall : call = .execute given) (hheld : view.held = some plan)
    (hfirst : view.saves = 0) (hran : view.ran = false)
    (happroved : plan.decision = "approved")
    (hpending : plan.execution = "pending") :
    Script.wp (serviceProtocol planId call)
      (performAction config given kind payload) (fun _ _ _ => True) plan
      view := by
  unfold performAction
  rw [Script.wp_bind]
  apply wp_onPlanOps
  apply wp_claimAction hcall hheld hfirst hran happroved hpending
  · exact fun _ _ => trivial
  intro plan' happroved'
  dsimp only
  have hend : ∀ plan view, Script.wp (serviceProtocol planId call)
      (learn config >>= fun _ => Script.read) (fun _ _ _ => True) plan view := by
    intro plan view
    apply wp_learn_bind
    trivial
  have hact : Script.wp (serviceProtocol planId call) (do
      let result ← Script.askOk (DecisionOp.runExecutor payload) id
      onPlanOps (recordAction result)
      if config.isSome then do
        saveEvidence result
        emitTaskEvent
      else pure ()
      learn config
      Script.read) (fun _ _ _ => True) plan' ⟨some plan', 1, false⟩ := by
    rw [Script.wp_bind, Script.wp_askOk]
    refine ⟨⟨⟨given, hcall⟩, rfl, rfl⟩, fun reply _ => ?_⟩
    cases reply with
    | error e => trivial
    | ok result =>
        dsimp only [id]
        rw [Script.wp_bind]
        apply wp_onPlanOps
        apply wp_recordAction hcall rfl rfl rfl happroved'
        rintro (e | u) plan₂ view₂
        · trivial
        · dsimp only
          split
          · refine ⟨trivial, ?_⟩
            rintro saved (rfl : saved = .ok ())
            refine ⟨trivial, ?_⟩
            rintro emitted (rfl : emitted = .ok ())
            exact hend _ _
          · exact hend _ _
  split
  · exact hact
  · refine ⟨trivial, fun built _ => ?_⟩
    cases built with
    | error e => trivial
    | ok u => exact hact

theorem wp_executeLoaded (hcall : call = .execute given)
    (hheld : view.held = some plan) (hfirst : view.saves = 0)
    (hran : view.ran = false) :
    Script.wp (serviceProtocol planId call) (executeLoaded config given)
      (fun _ _ _ => True) plan view := by
  unfold executeLoaded
  rw [Script.wp_read_bind]
  split
  case isTrue => trivial
  case isFalse hdecision =>
    split
    case isTrue => trivial
    case isFalse =>
      split
      case isTrue => trivial
      case isFalse hexecution =>
        rw [Script.wp_run_bind]
        cases actionSpec plan with
        | error e => trivial
        | ok action =>
            dsimp only
            split
            · trivial
            · exact wp_performAction hcall hheld hfirst hran
                (not_not.mp hdecision) (not_not.mp hexecution)

end

/-- What the outcome of a call says of its saves. -/
def ServiceTold : ServiceOutcome → ServiceView → Prop
  | .decided out, view => DecideTold out view
  | .executed _, _ => True

theorem wp_serviceCall (config : Option ServiceConfig) (planId : String)
    (call : ServiceCall) :
    (call.run config planId).wp (serviceProtocol planId call) ServiceTold
      {} := by
  cases call with
  | decide decision comment =>
      unfold ServiceCall.run DecisionService.decide
      dsimp only
      split
      case isTrue => exact decideTold_error rfl
      case isFalse =>
        rw [Prog.bind_assoc]
        apply wp_loadDecision
        · rintro (e | _ | plan) hout
          · exact decideTold_error rfl
          · exact decideTold_error rfl
          · exact absurd rfl (hout plan)
        · intro plan
          dsimp only
          split
          case isTrue =>
            rw [Prog.wp_bind, Prog.wp_bind, Script.wp_started]
            exact wp_decideLoaded rfl rfl rfl
          case isFalse => exact decideTold_error rfl
  | execute given =>
      unfold ServiceCall.run DecisionService.execute
      dsimp only
      rw [Prog.bind_assoc]
      apply wp_loadDecision
      · rintro (e | _ | plan) hout
        · trivial
        · trivial
        · exact absurd rfl (hout plan)
      · intro plan
        dsimp only
        split
        case isTrue =>
          rw [Prog.wp_bind, Prog.wp_bind, Script.wp_started]
          exact wp_executeLoaded rfl rfl rfl rfl
        case isFalse => trivial

end Wp

end Voly
