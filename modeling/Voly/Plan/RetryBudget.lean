/-
The retry budget of a plan run: calls of a step and its last status against the
attempts that fail.
-/
import Voly.Plan.RetryRun

namespace Voly

open Python Interaction StepStatus

section Loop

variable {config : RunnerConfig} {runMode : String} {plan : Plan}
  {view : RunView} {order : List String}

theorem runnableSteps_sublist {runnable : List String}
    (horder : topoOrder plan = .ok order)
    (hrun : runnableSteps plan = .ok runnable) : runnable.Sublist order := by
  rw [runnableSteps, horder] at hrun
  cases hrun
  exact List.filter_sublist

theorem nextUnit_sublist (config : RunnerConfig) (plan : Plan)
    (runnable : List String) :
    (nextUnit config plan runnable).1.Sublist runnable := by
  unfold nextUnit
  dsimp only
  split
  · exact (List.take_sublist _ _).trans List.filter_sublist
  · exact List.take_sublist _ _

theorem leaveLoop_unnoted : Unnoted leaveLoop := by
  have hleave : ∀ (f : Plan → Plan) (exit : LoopExit), Unnoted (do
      Script.update f
      pure exit) := fun f exit =>
    unnoted.bind (Unnoted.update f) fun _ => unnoted.pure exit
  refine unnoted.bind unnoted.read fun plan => ?_
  apply Overlooks.ite (hleave _ _)
  apply Overlooks.ite (hleave _ _)
  exact Overlooks.ite (hleave _ _) (hleave _ _)

/-- The step is one that the loop may still start. -/
def Open (plan : Plan) (stepId : String) : Prop :=
  plan.statusOf stepId ∈ [some pending, some failed]

/-- What is seen of an unbroken loop: calls of open steps, paced by the budget.
-/
def LoopSeen (config : RunnerConfig) (order : List String) (before : Plan)
    (events : List RunEvent) : Prop :=
  .abortSeen ∉ events → Paced config.maxRetries order events ∧
    ∀ stepId, 0 < callsOf stepId events → Open before stepId

theorem LoopSeen.quiet {events : List RunEvent}
    (h : ∀ stepId, callsOf stepId events = 0) :
    LoopSeen config order plan events := fun _ =>
  ⟨Paced.quiet h, fun stepId hcalled =>
    absurd hcalled (by rw [h]; exact Nat.lt_irrefl 0)⟩

theorem RunnableUnit.open {unit : List String × Bool}
    (h : RunnableUnit plan unit) {stepId : String} (hmem : stepId ∈ unit.1) :
    Open plan stepId := by
  obtain ⟨step, hget, hstatus, _⟩ := h.startable stepId hmem
  rw [Open, Plan.statusOf, hget]
  simpa using hstatus

theorem UnitSeen.append {unit : List String} {plan' : Plan}
    {before : Retries} {out : Option (Bool × Retries)}
    {events later : List RunEvent} (h : UnitSeen config unit before out events)
    (horder : order.Nodup) (hsub : unit.Sublist order)
    (hopen : ∀ stepId ∈ unit, Open plan stepId)
    (hclosed : ∀ stepId ∈ unit, ¬Open plan' stepId)
    (hkept : ∀ stepId, Open plan' stepId → Open plan stepId)
    (hlater : LoopSeen config order plan' later) :
    LoopSeen config order plan (events ++ later) := by
  intro hquiet
  obtain ⟨hpaced, hcalled⟩ := hlater fun hmem =>
    hquiet (List.mem_append_right _ hmem)
  obtain ⟨front, last, rfl⟩ := h.last
  constructor
  · have hfirst := h.paced order horder hsub
    have hdisjoint : ∀ stepId, 0 < callsOf stepId (front ++ [.saved last]) →
        callsOf stepId later = 0 := by
      intro stepId hpos
      apply Nat.eq_zero_of_not_pos
      exact fun hpos' =>
        hclosed stepId (h.called stepId hpos) (hcalled stepId hpos')
    rw [List.append_assoc]
    exact hfirst.append hpaced hdisjoint
  · intro stepId hpos
    rw [callsOf_append] at hpos
    by_cases hmem : 0 < callsOf stepId (front ++ [.saved last])
    · exact hopen stepId (h.called stepId hmem)
    · exact hkept stepId (hcalled stepId (by omega))

theorem runLoop_returns (hpolicy : config.onFail = "retry")
    (timeout : Option Timeout) (t0 : Rat) (n : Nat) (retries : Retries)
    (h : Synced config runMode view plan) (horder : topoOrder plan = .ok order)
    (hfresh : ∀ stepId, Open plan stepId → retries stepId = 0) :
    Script.Returns seeRun (runLoop config runMode timeout t0 n retries) plan
      fun _ _ => LoopSeen config order plan := by
  induction n generalizing plan view retries with
  | zero => exact Script.Returns.pure (LoopSeen.quiet fun _ => rfl)
  | succ n ih =>
      apply Script.Returns.read_bind
      apply Script.Returns.ite
      · exact fun _ => Script.Returns.pure (LoopSeen.quiet fun _ => rfl)
      intro _
      have hcheck : Script.wp (runProtocol config runMode)
          externalAbortRequested (fun out plan' view' => ∀ found,
            out = .ok found → AbortChecked config runMode plan view found plan'
              view') plan view := by
        apply wp_externalAbortRequested h.toSteady h.entered
        rintro found _ _ hchecked _ hout
        cases hout
        exact hchecked
      refine Script.Returns.seq (externalAbortRequested_returns.also
        (fun _ _ _ => trivial) hcheck) ?_
      rintro found plan₁ seen ⟨⟨hsteps, hfound, hnone⟩, view₁, hchecked⟩
      have hsame : ∀ stepId, plan₁.getStep? stepId = plan.getStep? stepId := by
        intro stepId
        simp only [Plan.getStep?, hsteps]
      apply Script.Returns.ite
      · rintro rfl
        rw [hfound rfl]
        exact Script.Returns.pure (LoopSeen.quiet fun _ => rfl)
      intro hgoes
      have hno : found = false := by simpa using hgoes
      subst hno
      rw [hnone rfl]
      have hsynced₁ := (hchecked false rfl).synced h
      have htimeout : Script.wp (runProtocol config runMode)
          (timeoutReached timeout t0) (fun _ plan' view' => plan' = plan₁ ∧
            Synced config runMode view' plan₁) plan₁ view₁ :=
        wp_timeoutReached timeout t0 fun _ _ hsilent _ =>
          ⟨rfl, hsynced₁.silent hsilent⟩
      refine Script.Returns.seq (((unnoted.timeoutReached timeout t0).returns
        plan₁).also (fun _ _ _ => trivial) htimeout) ?_
      rintro reached plan₁ _ ⟨rfl, view₂, rfl, hsynced⟩
      apply Script.Returns.ite
      · exact fun _ => Script.Returns.pure (LoopSeen.quiet fun _ => rfl)
      intro _
      apply Script.Returns.run_bind
      intro runnable plan' hpath
      obtain ⟨hrun, hsame₂⟩ := Prod.mk.inj hpath
      subst hsame₂
      have horder₁ : topoOrder plan₁ = .ok order := by
        rw [← horder]
        exact topoOrder_congr (by simp only [Plan.nodes, hsteps])
      have hopen : ∀ {stepId}, Open plan₁ stepId ↔ Open plan stepId := by
        simp only [Open, Plan.statusOf, hsame, implies_true]
      refine Script.Returns.mono (?_ : Script.Returns seeRun _ plan₁
        fun _ _ => LoopSeen config order plan₁) fun _ _ _ hseen hquiet => ?_
      · apply Script.Returns.ite
        · intro _
          refine (leaveLoop_unnoted.returns plan₁).mono ?_
          rintro _ _ _ rfl
          exact LoopSeen.quiet fun _ => rfl
        intro hsome
        apply Script.Returns.read_bind
        have hunit := nextUnit_runnable config hsynced.wf hrun hsome
        have hsub := (nextUnit_sublist config plan₁ runnable).trans
          (runnableSteps_sublist horder₁ hrun)
        have hnodup := hsynced.wf.order_nodup horder₁
        refine Script.Returns.seq ((runUnit_returns hpolicy hsynced hunit
          fun stepId hmem => hfresh stepId (hopen.mp (hunit.open hmem))).also
            (fun _ _ _ => trivial)
            (wp_outline (wp_runUnit hsynced hunit retries
              fun _ _ _ => id))) ?_
        rintro out plan₃ events ⟨hseen, view₃, hiterated, hviews⟩
        by_cases hquiet : .abortSeen ∈ events
        · exact Script.Returns.of_forall _ fun _ _ _ hquiet' =>
            absurd (List.mem_append_left _ hquiet) hquiet'
        have hdone := hseen hquiet
        obtain ⟨goOn, after, rfl, hothers⟩ := hdone.result
        cases goOn with
        | false =>
            apply Script.Returns.pure
            rw [List.append_nil]
            exact fun _ => ⟨hdone.paced order hnodup hsub, fun stepId hpos =>
              hunit.open (hdone.called stepId hpos)⟩
        | true =>
            obtain ⟨hsynced₃, hframe, hlanded⟩ := hiterated.goesOn after rfl
            have hnodes := (hsynced.outline hviews hsynced₃.toSteady).nodes
              hsynced.wf.nodup
            have hclosed : ∀ stepId ∈ (nextUnit config plan₁ runnable).1,
                ¬Open plan₃ stepId := by
              intro stepId hmem
              obtain ⟨step, hget, hstatus⟩ := hlanded stepId hmem
              rw [Open, Plan.statusOf, hget]
              revert hstatus
              cases hstep : step.status <;> simp [hstep]
            have hkept : ∀ stepId, Open plan₃ stepId → Open plan₁ stepId ∧
                after stepId = retries stepId := by
              intro stepId hopen₃
              have hnot : stepId ∉ (nextUnit config plan₁ runnable).1 :=
                fun hmem => hclosed stepId hmem hopen₃
              rw [Open, Plan.statusOf, hframe stepId hnot] at hopen₃
              exact ⟨hopen₃, hothers stepId hnot⟩
            refine (ih after hsynced₃ ((topoOrder_congr hnodes).trans horder₁)
              fun stepId hopen₃ => ?_).mono fun _ _ later hlater => ?_
            · obtain ⟨hopen₁, hsame₁⟩ := hkept stepId hopen₃
              exact hsame₁.trans (hfresh stepId (hopen.mp hopen₁))
            · exact hdone.append hnodup hsub (fun _ => hunit.open) hclosed
                (fun stepId hopen₃ => (hkept stepId hopen₃).1) hlater
      · rw [List.nil_append, List.nil_append] at hquiet
        obtain ⟨hpaced, hcalled⟩ := hseen hquiet
        exact ⟨hpaced, fun stepId hpos => hopen.mp (hcalled stepId hpos)⟩

end Loop

section Run

variable {config : RunnerConfig} {plan : Plan} {view : RunView}
  {order : List String}

theorem openRun_returns (cwd : String) :
    Script.Returns seeRun (openRun config cwd) plan
      fun _ opened events => events = [.saved opened] := by
  apply Script.Returns.update_bind
  refine Script.Returns.seq (unnoted.ensureTaskId.returns _) ?_
  rintro _ named _ rfl
  apply Script.Returns.run_bind
  intro _ valid _
  refine Script.Returns.seq
    (unnoted.recoverStaleRunningSteps.returns valid) ?_
  rintro _ recovered _ rfl
  apply Script.Returns.update_bind
  exact storeSave_returns.mono fun _ _ _ hsaved => hsaved.2

theorem guardedLoop_returns {runMode : String}
    (hpolicy : config.onFail = "retry") (timeout : Option Timeout) (t0 : Rat)
    (h : Synced config runMode view plan)
    (horder : topoOrder plan = .ok order) :
    Script.Returns seeRun (guardedLoop config runMode timeout t0) plan
      fun exit _ events => exit ≠ .crashed →
        LoopSeen config order plan events := by
  apply Script.Returns.read_bind
  refine Script.Returns.handle ((runLoop_returns hpolicy timeout t0 _ _ h
    horder fun _ _ => rfl).mono fun _ _ _ hseen _ => hseen) ?_
  intro e plan' events
  apply Script.Returns.update_bind
  exact Script.Returns.pure fun hcrashed => absurd rfl hcrashed

theorem closeRun_returns (timeout : Option Timeout) (t0 : Rat)
    (exit : LoopExit) :
    Script.Returns seeRun (closeRun timeout t0 exit) plan
      fun result _ events => result.exit = exit ∧
        events = [.saved result.plan] := by
  apply Script.Returns.read_bind
  apply Script.Returns.update_bind
  apply Script.Returns.update_bind
  refine Script.Returns.seq storeSave_returns ?_
  rintro _ saved _ ⟨_, rfl⟩
  apply Script.Returns.read_bind
  apply Script.Returns.ask_bind
  intro t1
  exact Script.Returns.pure ⟨rfl, rfl⟩

theorem Open.mem {stepId : String} (h : Open plan stepId) :
    stepId ∈ plan.ids := by
  cases hget : plan.getStep? stepId with
  | none =>
      rw [Open, Plan.statusOf, hget] at h
      simp at h
  | some step =>
      rw [← plan.getStep?_id hget]
      exact List.mem_map_of_mem (plan.getStep?_mem hget)

theorem openRun_synced (runMode cwd : String) (t0 : Rat)
    (before : Plan) : Script.wp (runProtocol config runMode)
      (openRun config cwd) (fun out opened view => ∀ u, out = .ok u →
        Synced config runMode view opened) before
      (RunView.next { plan := before } .monotonic t0) := by
  have hview : Silent { plan := before }
      (RunView.next { plan := before } .monotonic t0) :=
    next_silent _ .monotonic t0 trivial rfl
  apply wp_openRun cwd hview
  · exact fun _ _ _ _ _ hout => (by cases hout)
  · exact fun _ _ _ _ _ hout => (by cases hout)
  · exact fun _ _ hsynced _ _ => hsynced

/-- A run without crash and abort is paced, and its last save shows its result.
-/
theorem run_returns (hpolicy : config.onFail = "retry") (mode cwd : String)
    (timeout : Option Timeout) (before : Plan)
    (horder : topoOrder before = .ok order) :
    Script.Returns seeRun (run config mode cwd timeout) before
      fun result _ events => result.exit ≠ .crashed → .abortSeen ∉ events →
        Paced config.maxRetries order events ∧
        (∀ stepId, 0 < callsOf stepId events → stepId ∈ before.ids) ∧
        ∃ front, events = front ++ [.saved result.plan] := by
  apply Script.Returns.ask_bind
  intro t0
  refine Script.Returns.seq ((openRun_returns cwd).also
    (fun _ _ _ => trivial) (wp_outline
      (openRun_synced (config.runMode mode) cwd t0 before))) ?_
  rintro _ opened _ ⟨rfl, view, hopened, hviews⟩
  have hsynced := hopened () rfl
  have houtline : SameOutline before opened :=
    SameOutline.trans hviews hsynced.evolves.outline
  have hnodup : before.ids.Nodup := houtline.ids ▸ hsynced.wf.nodup
  have horder' : topoOrder opened = .ok order :=
    (topoOrder_congr (houtline.nodes hnodup)).trans horder
  refine Script.Returns.seq
    (guardedLoop_returns hpolicy timeout t0 hsynced horder') ?_
  intro exit left events hloop
  refine (closeRun_returns timeout t0 exit).mono ?_
  rintro result _ _ ⟨rfl, rfl⟩ hcrashed hquiet
  have hall : seeRun .monotonic t0 ++ ([.saved opened] ++
      (events ++ [.saved result.plan])) =
        .saved opened :: (events ++ [.saved result.plan]) := rfl
  rw [hall] at hquiet ⊢
  obtain ⟨hpaced, hcalled⟩ := hloop hcrashed fun hmem =>
    hquiet (List.mem_cons_of_mem _ (List.mem_append_left _ hmem))
  have hstart : Paced config.maxRetries order ([] ++ [.saved opened]) :=
    Paced.quiet fun _ => rfl
  refine ⟨?_, fun stepId hpos => ?_, .saved opened :: events, rfl⟩
  · exact hstart.append (hpaced.snoc result.plan)
      fun _ hpos => absurd hpos (Nat.lt_irrefl 0)
  · have hpos' : 0 < callsOf stepId events := by
      simpa [callsOf] using hpos
    rw [← houtline.ids]
    exact (hcalled stepId hpos').mem

theorem run_ids (mode cwd : String) (timeout : Option Timeout)
    (before : Plan) : Script.wp (runProtocol config (config.runMode mode))
      (run config mode cwd timeout) (fun out _ _ => ∀ result,
        out = .ok result → result.plan.ids = before.ids) before
      { plan := before } := by
  have hrun : Script.wp (runProtocol config (config.runMode mode))
      (run config mode cwd timeout) (fun out plan view => ∀ result,
        out = .ok result → result.plan = view.plan) before
      { plan := before } := by
    apply wp_run
    · exact fun _ _ _ _ _ hout => (by cases hout)
    · rintro result plan view hreported _ hout
      cases hout
      rw [hreported.returned, hreported.saved]
  refine Script.wp_mono (wp_outline hrun) ?_
  rintro out plan view ⟨hresult, houtline⟩ result hout
  rw [hresult result hout]
  exact houtline.ids

end Run

/-- Attempts fail as often as `fails` says and then pass, as every save shows.
-/
def Follows (fails : String → Nat) (events : List RunEvent) : Prop :=
  ∀ stepId, ∀ entry ∈ shown stepId 0 events, 0 < entry.1 →
    entry.2 = if entry.1 ≤ fails stepId then failed else verified

/-- A step that fails within the budget is verified next; any other has failed.
-/
def Budgeted (maxRetries fails : Nat) (status : Option StepStatus)
    (calls : Nat) : Prop :=
  (fails ≤ maxRetries → status = some verified ∧ calls = fails + 1) ∧
  (maxRetries < fails → status = some failed ∧ calls = maxRetries + 1)

/-- No retry is needed, or one is enough and no earlier step fails twice. -/
def OneRetryEnough (maxRetries : Nat) (order : List String)
    (fails : String → Nat) (events : List RunEvent) (stepId : String) : Prop :=
  fails stepId = 0 ∨ maxRetries = 0 ∨
    ((fails stepId = 1 ∨ maxRetries = 1) ∧
      ∀ other, Ahead order events other stepId → fails other ≤ 1)

def RunEvent.ids : RunEvent → List String
  | .saved plan => plan.ids
  | _ => []

theorem mem_ids_of_shown {stepId : String} {n : Nat}
    {events : List RunEvent} {entry : Nat × StepStatus}
    (h : entry ∈ shown stepId n events) :
    ∃ event ∈ events, stepId ∈ event.ids := by
  induction events generalizing n with
  | nil => exact absurd h List.not_mem_nil
  | cons event events ih =>
      cases event with
      | called other =>
          obtain ⟨later, hmem, hid⟩ := ih h
          exact ⟨later, List.mem_cons_of_mem _ hmem, hid⟩
      | abortSeen =>
          obtain ⟨later, hmem, hid⟩ := ih h
          exact ⟨later, List.mem_cons_of_mem _ hmem, hid⟩
      | saved plan =>
          rcases List.mem_append.mp h with hfirst | hlater
          · refine ⟨.saved plan, List.mem_cons_self, ?_⟩
            cases hget : plan.getStep? stepId with
            | none => simp [Plan.statusOf, hget] at hfirst
            | some step =>
                rw [← plan.getStep?_id hget]
                exact List.mem_map_of_mem (plan.getStep?_mem hget)
          · obtain ⟨later, hmem, hid⟩ := ih hlater
            exact ⟨later, List.mem_cons_of_mem _ hmem, hid⟩

theorem Follows.of_ids {fails : String → Nat} {events : List RunEvent}
    (h : ∀ event ∈ events, ∀ stepId ∈ event.ids,
      ∀ entry ∈ shown stepId 0 events, 0 < entry.1 →
        entry.2 = if entry.1 ≤ fails stepId then failed else verified) :
    Follows fails events := by
  intro stepId entry hentry
  obtain ⟨event, hmem, hid⟩ := mem_ids_of_shown hentry
  exact h event hmem stepId hid entry hentry

section Budget

variable {maxRetries : Nat} {order : List String} {fails : String → Nat}
  {events : List RunEvent} {stepId : String} {status : StepStatus}

theorem budgeted_iff_calls {calls fails : Nat}
    (hstatus : status = if calls ≤ fails then failed else verified) :
    Budgeted maxRetries fails (some status) calls ↔
      calls = min fails maxRetries + 1 := by
  unfold Budgeted
  constructor
  · rintro ⟨hwithin, hover⟩
    rcases Nat.lt_or_ge maxRetries fails with hlt | hle
    · rw [(hover hlt).2, Nat.min_eq_right (Nat.le_of_lt hlt)]
    · rw [(hwithin hle).2, Nat.min_eq_left hle]
  · intro hmin
    refine ⟨fun hle => ?_, fun hlt => ?_⟩
    · rw [Nat.min_eq_left hle] at hmin
      rw [if_neg (by omega)] at hstatus
      exact ⟨congrArg some hstatus, hmin⟩
    · rw [Nat.min_eq_right (Nat.le_of_lt hlt)] at hmin
      rw [if_pos (by omega)] at hstatus
      exact ⟨congrArg some hstatus, hmin⟩

section

variable (h : Follows fails events) {calls : Nat} (hpos : 0 < calls)
  (hseen : (calls, status) ∈ shown stepId 0 events)
include h hpos hseen

theorem Follows.le (hne : status ≠ verified) : calls ≤ fails stepId := by
  by_contra hlt
  apply hne
  exact (h stepId _ hseen hpos).trans (if_neg hlt)

theorem Follows.lt (hne : status ≠ failed) : fails stepId < calls := by
  by_contra hle
  apply hne
  exact (h stepId _ hseen hpos).trans (if_pos (Nat.not_lt.mp hle))

end

theorem Paced.budgeted_iff (h : Paced maxRetries order events)
    (hfollows : Follows fails events) (hcalled : 0 < callsOf stepId events)
    (hlast : (callsOf stepId events, status) ∈ shown stepId 0 events) :
    Budgeted maxRetries (fails stepId) (some status) (callsOf stepId events) ↔
      OneRetryEnough maxRetries order fails events stepId := by
  rw [budgeted_iff_calls (hfollows stepId _ hlast hcalled)]
  have hmost := h.most stepId
  rcases Nat.lt_or_ge (callsOf stepId events) 2 with hlt | hge
  · have hone : callsOf stepId events = 1 := by omega
    rw [hone]
    constructor
    · intro hmin
      rcases Nat.eq_zero_or_pos maxRetries with hnone | hsome
      · exact Or.inr (Or.inl hnone)
      · exact Or.inl (by omega)
    · rintro (hpassed | hnone | ⟨_, hahead⟩)
      · omega
      · omega
      · -- a step that is not retried has passed or waits behind a failed retry
        rcases h.once stepId hone with hnone | ⟨_, hne, hseen⟩ |
          ⟨other, hother, htwice, _, hne, hseen⟩
        · omega
        · have := hfollows.lt Nat.one_pos hseen hne
          omega
        · have := hfollows.le Nat.two_pos hseen hne
          have := hahead other hother
          omega
  · have htwo : callsOf stepId events = 2 := by omega
    obtain ⟨hbudget, hfailed, hahead⟩ := h.twice stepId htwo
    have hfails := hfollows.le Nat.one_pos hfailed (by decide)
    rw [htwo]
    constructor
    · intro hmin
      refine Or.inr (Or.inr ⟨by omega, fun other hother => ?_⟩)
      obtain ⟨_, hne, hseen⟩ := hahead other hother
      have := hfollows.lt hother.called.1 hseen hne
      have := h.most other
      omega
    · rintro (hpassed | hnone | ⟨hone, _⟩) <;> omega

end Budget

namespace RetryBudgetWitness

def retrying : RunnerConfig :=
  { defaultOnVerifyFail := "retry", maxStepRetries := 2 }

def single : Plan :=
  { planId := "p"
    steps := [{ id := "a", acceptance := [{ type := "output_nonempty" }] }] }

theorem single_order : topoOrder single = .ok ["a"] := by decide

theorem eq_pair {A B : Type} {p : A × B} {a : A} (h : p.1 = a) :
    p = (a, p.2) := Prod.ext h rfl

def isAbort : RunEvent → Bool
  | .abortSeen => true
  | _ => false

theorem not_aborted {events : List RunEvent}
    (h : events.any isAbort = false) : .abortSeen ∉ events := by
  intro hmem
  rw [List.any_eq_false] at h
  exact h _ hmem rfl

def late (start n : Nat) : PlanOracle :=
  calm { success := true, output := if n < start then "" else "done" }

def onceFailing : (Except PyError PlanRunResult × Plan) × List RunEvent :=
  (run retrying "active" "" none single).exec (noted seeRun) (late 14) 0 []

def twiceFailing : (Except PyError PlanRunResult × Plan) × List RunEvent :=
  (run retrying "active" "" none single).exec (noted seeRun) (late 20) 0 []

end RetryBudgetWitness

end Voly
