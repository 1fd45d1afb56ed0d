/-
What a plan run shows of a parked step, and that only external decisions park
one.
-/
import Voly.Interaction.Leaves
import Voly.Plan.RetryBudget

namespace Voly

open Python Interaction StepStatus

section ErrorKept

variable {config : RunnerConfig} {runMode stepId : String}

/-- The script does not write the error of the plan. -/
abbrev ErrorKept {A : Type} (x : PlanScript A) : Prop :=
  Script.Keeps Plan.error x

theorem errorKept : Overlooks ErrorKept where
  bind := Script.Keeps.bind
  ask _ := Script.Keeps.ask _
  run hrun := Script.Keeps.run fun plan => (hrun plan).error

theorem saved_errorKept (plan : Plan) :
    ErrorKept (Script.askOk (PlanOp.save plan) id) := Script.Keeps.askOk _ _

theorem storeSave_errorKept : ErrorKept storeSave :=
  errorKept.storeSave saved_errorKept

theorem attempt_errorKept : ErrorKept (attempt config stepId runMode) := by
  refine Script.Keeps.bind Script.Keeps.read fun plan => ?_
  refine Script.Keeps.bind errorKept.getStep fun step => ?_
  refine Script.Keeps.bind errorKept.gitSnapshot fun gitBefore => ?_
  apply Script.Keeps.ite (errorKept.failed _)
  refine Script.Keeps.bind (Script.Keeps.ask _) fun _ => ?_
  refine Script.Keeps.bind (Script.Keeps.ask _) fun reply => ?_
  refine Script.Keeps.bind (Script.Keeps.update fun _ => rfl) fun _ => ?_
  refine Script.Keeps.bind (Script.Keeps.update fun _ => rfl) fun _ => ?_
  exact Script.Keeps.bind errorKept.gitSnapshot fun gitAfter =>
    errorKept.concludeCall _ _ _

theorem runOneStep_errorKept (alreadyRunning : Bool) :
    ErrorKept (runOneStep config stepId runMode alreadyRunning) := by
  refine Script.Keeps.bind errorKept.getStep fun step => ?_
  apply Script.Keeps.ite attempt_errorKept
  refine Script.Keeps.bind (errorKept.enterStatus _ _ _) fun _ => ?_
  exact Script.Keeps.bind storeSave_errorKept fun _ => attempt_errorKept

theorem waveCalls_errorKept (n : Nat) (waiting calling : List String)
    (bodies : Dict CallOutcome) :
    ErrorKept (waveCalls n waiting calling bodies) := by
  induction n generalizing waiting calling bodies with
  | zero => exact Script.Keeps.pure bodies
  | succ n ih =>
      refine Script.Keeps.bind (Script.Keeps.ask _) fun choice => ?_
      dsimp only
      split
      · refine Script.Keeps.bind Script.Keeps.read fun plan => ?_
        refine Script.Keeps.bind errorKept.getStep fun step => ?_
        exact Script.Keeps.bind (Script.Keeps.ask _) fun _ => ih _ _ _
      · refine Script.Keeps.bind (Script.Keeps.ask _) fun reply => ?_
        exact Script.Keeps.bind (Script.Keeps.update fun _ => rfl) fun _ => ih _ _ _
      · exact Script.Keeps.pure bodies

theorem attemptUnit_errorKept (unit : List String × Bool) :
    ErrorKept (attemptUnit config runMode unit) := by
  obtain ⟨stepIds, isWave⟩ := unit
  cases isWave with
  | true =>
      refine Script.Keeps.bind (errorKept.enterRunning _) fun _ => ?_
      refine Script.Keeps.bind storeSave_errorKept fun _ => ?_
      exact Script.Keeps.bind (waveCalls_errorKept _ _ _ _)
        fun _ => errorKept.finalizeWave _ _
  | false =>
      cases stepIds with
      | nil => exact Script.Keeps.pure []
      | cons stepId rest =>
          exact Script.Keeps.bind (runOneStep_errorKept false)
            fun _ => Script.Keeps.pure _

end ErrorKept

/-- The end of a call, and whether it was a success. -/
def seeEnds : (op : PlanOp) → PlanReply op → List (String × Bool)
  | .callEnd stepId, reply => [(stepId, reply.success)]
  | _, _ => []

/-- A call of the step succeeded after another one had failed. -/
def LateSuccess (ends : List (String × Bool)) (stepId : String) : Prop :=
  [(stepId, false), (stepId, true)].Sublist ends

instance (ends : List (String × Bool)) (stepId : String) :
    Decidable (LateSuccess ends stepId) :=
  inferInstanceAs (Decidable (List.Sublist _ _))

theorem LateSuccess.of_mem {front : List (String × Bool)} {stepId : String}
    (h : (stepId, false) ∈ front) :
    LateSuccess (front ++ [(stepId, true)]) stepId :=
  (List.singleton_sublist.mpr h).append (List.Sublist.refl _)

theorem LateSuccess.append {front : List (String × Bool)} {stepId : String}
    (h : LateSuccess front stepId) (later : List (String × Bool)) :
    LateSuccess (front ++ later) stepId :=
  h.trans (List.sublist_append_left front later)

/-- The ends of the calls that an observer has seen. -/
def RunView.ends (view : RunView) : List (String × Bool) :=
  view.log.reverse.flatMap fun exchange => seeEnds exchange.op exchange.reply

theorem ends_next (view : RunView) (op : PlanOp) (reply : PlanReply op) :
    (view.next op reply).ends = view.ends ++ seeEnds op reply := by
  have hlog : (view.next op reply).log = ⟨op, reply⟩ :: view.log := by
    cases op <;> rfl
  rw [RunView.ends, hlog, List.reverse_cons, List.flatMap_append]
  simp [RunView.ends]

def EndsKnown (view : RunView) : Prop :=
  ∀ stepId ∈ view.failed, (stepId, false) ∈ view.ends

theorem EndsKnown.next {view : RunView} (h : EndsKnown view) (op : PlanOp)
    (reply : PlanReply op) : EndsKnown (view.next op reply) := by
  intro stepId hmem
  rw [ends_next]
  cases op with
  | callEnd other =>
      by_cases hsuccess : CallReply.success reply = true
      · have hsame : (view.next (.callEnd other) reply).failed =
            view.failed := by
          simp [RunView.next, hsuccess]
        rw [hsame] at hmem
        exact List.mem_append_left _ (h stepId hmem)
      · have hfailed : (view.next (.callEnd other) reply).failed =
            other :: view.failed := by
          simp [RunView.next, hsuccess]
        rw [hfailed] at hmem
        rcases List.mem_cons.mp hmem with rfl | hmem
        · apply List.mem_append_right
          simp [seeEnds, hsuccess]
        · exact List.mem_append_left _ (h stepId hmem)
  | load | save | callStart | time | monotonic | newTaskId | git | inspect
  | pick => exact List.mem_append_left _ (h stepId hmem)

structure EndsGrow (view view' : RunView) : Prop where
  known : EndsKnown view → EndsKnown view'
  later : ∃ later, view'.ends = view.ends ++ later

theorem wp_endsGrow {config : RunnerConfig} {runMode : String} {A : Type}
    {x : PlanScript A} {Q : Except PyError A → Plan → RunView → Prop}
    {plan : Plan} {view : RunView}
    (h : Script.wp (runProtocol config runMode) x Q plan view) :
    Script.wp (runProtocol config runMode) x (fun out plan' view' =>
      Q out plan' view' ∧ EndsGrow view view') plan view := by
  refine Script.wp_reaches (fun _ => ⟨id, [], (List.append_nil _).symm⟩) ?_
    ?_ h
  · rintro first second third ⟨hknown, later, hlater⟩ ⟨hknown', more, hmore⟩
    refine ⟨hknown' ∘ hknown, later ++ more, ?_⟩
    rw [hmore, hlater, List.append_assoc]
  · exact fun view op reply _ =>
      ⟨fun hknown => hknown.next op reply, _, ends_next view op reply⟩

section Parked

variable {config : RunnerConfig} {runMode stepId : String} {plan : Plan}

/-- A step left in `verifying` waits for an external decision. -/
def ParksExternally (stepId : String) (out : Except PyError Bool)
    (plan : Plan) : Prop :=
  ∀ ok, out = .ok ok → ∀ step, plan.getStep? stepId = some step →
    step.status = verifying → step.awaitsExternal = true

theorem ParksExternally.of_status {out : Except PyError Bool}
    {step : PlanStep} (hget : plan.getStep? stepId = some step)
    (hstatus : step.status ≠ verifying) : ParksExternally stepId out plan := by
  intro _ _ found hfound hverifying
  rw [hget] at hfound
  cases hfound
  exact absurd hverifying hstatus

theorem ParksExternally.error {e : PyError} :
    ParksExternally stepId (.error e) plan := fun _ hout => by cases hout

theorem inspectAll_ends (ctx : VerifyContext) (notes : List (String × Bool))
    (evals : List (AcceptanceCheck × Surroundings)) :
    inspectAll (noting seeEnds) ctx notes evals = notes := by
  induction evals generalizing notes with
  | nil => rfl
  | cons eval rest ih =>
      have hstep : inspectAll (noting seeEnds) ctx notes (eval :: rest) =
          inspectAll (noting seeEnds) ctx (notes ++ []) rest := rfl
      rw [hstep, List.append_nil, ih]

theorem verify_parks {step : PlanStep} (gitBefore gitAfter : Dict String)
    (hget : plan.getStep? stepId = some step)
    (hstatus : step.status = verifying) :
    Script.Leaves seeEnds (verify config stepId runMode gitBefore gitAfter)
      plan fun out plan' ends => ends = [] ∧ ParksExternally stepId out
        plan' := by
  intro notes
  have hstays : ∀ {out : Except PyError Bool} {plan' : Plan}
      {notes' : List (String × Bool)}, notes' = notes →
      ParksExternally stepId out plan' → ∃ ends, notes' = notes ++ ends ∧
        ends = [] ∧ ParksExternally stepId out plan' :=
    fun hnotes hparks => ⟨[], by rw [hnotes, List.append_nil], rfl, hparks⟩
  unfold verify getStep
  simp only [Script.wp_run_bind, plan.getStep_ok hget, Script.wp_read_bind]
  by_cases hext : step.awaitsExternal = true
  · have hwaits : ∀ {plan' : Plan} {step' : PlanStep},
        plan'.getStep? stepId = some step' → SameShape step step' →
        ParksExternally stepId (.ok false) plan' := by
      intro plan' step' hget' hshape _ _ found hfound _
      rw [hget'] at hfound
      cases hfound
      simpa [PlanStep.awaitsExternal, hshape.acceptance] using hext
    rw [if_pos hext, Script.wp_bind]
    refine wp_verifyStep (fun _ _ _ => trivial) hget ?_ ?_ ?_
    · exact fun evals e _ =>
        hstays (inspectAll_ends _ notes evals) ParksExternally.error
    · exact fun _ => hstays rfl (hwaits hget SameShape.rfl)
    · intro evals results _ _ _ _ _
      exact hstays (inspectAll_ends _ notes evals) (hwaits
        (plan.modifyStep_getStep?_self (PlanStep.logVerdicts results)
          (fun _ => rfl) hget) (logVerdicts_shape results step))
  · rw [if_neg hext, Script.wp_bind]
    refine wp_completeVerification (fun _ _ _ => trivial) hget ?_ ?_ ?_ ?_
    · exact fun hne => absurd hstatus hne
    · exact fun _ evals e _ =>
        hstays (inspectAll_ends _ notes evals) ParksExternally.error
    · intro _ _
      dsimp only
      rw [if_pos (Or.inr rfl)]
      have hpassed : (plan.entered stepId verified "" 0).getStep? stepId =
          some (step.enter verified "" 0) := by
        rw [entered_getStep?, if_pos rfl, hget]
        rfl
      exact hstays rfl (.of_status hpassed (by simp))
    · intro _ _ evals results _ _ _ _ toStatus error hto
      have hlogged : (plan.modifyStep stepId
          (PlanStep.logVerdicts results)).getStep? stepId =
            some (step.logVerdicts results) :=
        plan.modifyStep_getStep?_self (PlanStep.logVerdicts results)
          (fun _ => rfl) hget
      have hentered : ((plan.modifyStep stepId
          (PlanStep.logVerdicts results)).entered stepId toStatus error
            0).getStep? stepId =
          some ((step.logVerdicts results).enter toStatus error 0) := by
        rw [entered_getStep?, if_pos rfl, hlogged]
        rfl
      have hne : ((step.logVerdicts results).enter toStatus error 0).status ≠
          verifying := by
        rcases hto with ⟨rfl, _⟩ | ⟨rfl, _⟩ <;> simp
      have hnotes := inspectAll_ends (mergedContext plan step
        (stepContext config plan step gitBefore gitAfter)) notes evals
      dsimp only
      split
      · exact hstays hnotes (.of_status hentered hne)
      · split
        · have hopened : (recomputePlanStatus (((plan.modifyStep stepId
              (PlanStep.logVerdicts results)).entered stepId toStatus error
                0).modifyStep stepId PlanStep.softOpen)).getStep? stepId =
              some ((step.logVerdicts results).enter toStatus error
                0).softOpen := by
            rw [recomputePlanStatus_getStep?]
            exact Plan.modifyStep_getStep?_self _ PlanStep.softOpen
              (fun step => (softOpen_shape step).id) hentered
          exact hstays hnotes (.of_status hopened (by simp [PlanStep.softOpen]))
        · exact hstays hnotes (.of_status hentered hne)

theorem settle_parks (output : String) (files : List String)
    (gitBefore gitAfter : Dict String) : Script.Leaves seeEnds
      (settle config stepId runMode output files gitBefore gitAfter) plan
      fun out plan' ends => ends = [] ∧ ParksExternally stepId out plan' := by
  refine Script.Leaves.run_bind (fun _ finished _ => ?_)
    fun _ _ _ => ⟨rfl, ParksExternally.error⟩
  refine Script.Leaves.run_bind (fun _ advanced _ => ?_)
    fun _ _ _ => ⟨rfl, ParksExternally.error⟩
  refine Script.Leaves.run_bind (fun step after hrun => ?_)
    fun _ _ _ => ⟨rfl, ParksExternally.error⟩
  obtain ⟨hok, rfl⟩ := Prod.mk.inj hrun
  have hget := advanced.getStep_eq_ok hok
  apply Script.Leaves.ite
  · intro hverified
    exact Script.Leaves.pure
      ⟨rfl, .of_status hget (by rw [hverified]; decide)⟩
  intro _
  apply Script.Leaves.ite
  · exact fun hverifying => verify_parks gitBefore gitAfter hget hverifying
  · exact fun hne => Script.Leaves.pure ⟨rfl, .of_status hget hne⟩

theorem failStep_parks (error : String) : Script.Leaves seeEnds (do
      let _ ← enterStatus stepId failed error false
      pure false) plan fun out plan' ends => ends = [] ∧ ∀ ok, out = .ok ok →
        ∃ step, plan'.getStep? stepId = some step ∧ step.status = failed := by
  intro notes
  rw [Script.wp_bind, wp_enterStatus (by decide)]
  rcases transition_cases stepId failed error false false 0 plan with
    ⟨e, he⟩ | ⟨step, hget, _, hok⟩
  · rw [he]
    exact ⟨[], (List.append_nil notes).symm, rfl, fun _ hout => (by cases hout)⟩
  · rw [hok]
    refine ⟨[], (List.append_nil notes).symm, rfl, fun _ _ => ?_⟩
    refine ⟨step.enter failed error 0, ?_, rfl⟩
    rw [entered_getStep?, if_pos rfl, hget]
    rfl

theorem gitSnapshot_ends : Script.Leaves seeEnds gitSnapshot plan
    fun _ plan' ends => plan' = plan ∧ ends = [] := by
  apply Script.Leaves.read_bind
  apply Script.Leaves.ite
  · exact fun _ => Script.Leaves.pure ⟨rfl, rfl⟩
  · exact fun _ => Script.Leaves.askOk fun _ => ⟨rfl, rfl⟩

/-- An attempt that leaves `verifying` has succeeded and waits for a decision.
-/
theorem attempt_parks : Script.Leaves seeEnds
    (attempt config stepId runMode) plan fun out plan' ends =>
      ∀ ok step step', out = .ok ok → plan.getStep? stepId = some step →
        plan'.getStep? stepId = some step' → step'.status = verifying →
        step.mode ≠ .business ∧ step'.awaitsExternal = true ∧
          ends = [(stepId, true)] := by
  have hraised : ∀ {e : PyError} {plan' : Plan} {ends : List (String × Bool)},
      ∀ ok step step', (.error e : Except PyError Bool) = .ok ok →
        plan.getStep? stepId = some step →
        plan'.getStep? stepId = some step' → step'.status = verifying →
        step.mode ≠ .business ∧ step'.awaitsExternal = true ∧
          ends = [(stepId, true)] :=
    fun _ _ _ hout => by cases hout
  have hfailed : ∀ {out : Except PyError Bool} {plan' : Plan}
      {ends : List (String × Bool)}, (∀ ok, out = .ok ok → ∃ step,
        plan'.getStep? stepId = some step ∧ step.status = failed) →
      ∀ ok step step', out = .ok ok → plan.getStep? stepId = some step →
        plan'.getStep? stepId = some step' → step'.status = verifying →
        step.mode ≠ .business ∧ step'.awaitsExternal = true ∧
          ends = [(stepId, true)] := by
    intro out plan' ends hout ok _ step' hok _ hget' hverifying
    obtain ⟨found, hfound, hstatus⟩ := hout ok hok
    rw [hget'] at hfound
    cases hfound
    rw [hstatus] at hverifying
    cases hverifying
  apply Script.Leaves.read_bind
  refine Script.Leaves.run_bind (fun step after hrun => ?_)
    fun _ _ _ => hraised
  obtain ⟨hok, rfl⟩ := Prod.mk.inj hrun
  have hget := plan.getStep_eq_ok hok
  refine Script.Leaves.seq gitSnapshot_ends ?_ fun _ _ _ _ => hraised
  rintro gitBefore _ _ ⟨rfl, rfl⟩
  apply Script.Leaves.ite
  · exact fun _ => (failStep_parks _).mono fun _ _ _ hout => hfailed hout.2
  intro hmode
  apply Script.Leaves.ask_bind
  intro _
  apply Script.Leaves.ask_bind
  intro reply
  apply Script.Leaves.update_bind
  apply Script.Leaves.update_bind
  refine Script.Leaves.seq gitSnapshot_ends ?_ fun _ _ _ _ => hraised
  rintro gitAfter called _ ⟨_, rfl⟩
  apply Script.Leaves.update_bind
  rw [outcomeOf_success]
  apply Script.Leaves.ite
  · intro hsuccess
    refine Script.Leaves.run_bind (fun found after hrun' => ?_)
      fun _ _ _ => hraised
    refine (settle_parks _ _ gitBefore gitAfter).mono ?_
    rintro out plan' _ ⟨rfl, hparks⟩ ok step₀ step' hout hget₀ hget' hstatus
    rw [hget] at hget₀
    cases hget₀
    refine ⟨hmode, hparks ok hout step' hget' hstatus, ?_⟩
    change [(stepId, reply.success)] = _
    rw [hsuccess]
  · exact fun _ => (failStep_parks _).mono fun _ _ _ hout => hfailed hout.2

end Parked

end Voly
