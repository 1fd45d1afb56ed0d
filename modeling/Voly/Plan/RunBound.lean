/-
The work of a plan run is bounded: iterations by its steps, and calls of a step
by its retries.
-/
import Voly.Interaction.Leaves
import Voly.Plan.RetryBudget

namespace Voly

open Python Interaction StepStatus

/-- However the script ends, it calls the step at most `n` times. -/
abbrev CalledAtMost (stepId : String) {A : Type} (n : Nat) (x : PlanScript A)
    (plan : Plan) : Prop :=
  Script.Leaves seeRun x plan fun _ _ events => callsOf stepId events ≤ n

section Calls

variable {config : RunnerConfig} {runMode stepId other : String} {plan : Plan}
  {view : RunView} {A B : Type}

section

variable {x : PlanScript A} {f : A → PlanScript B}

theorem Unnoted.leaves (h : Unnoted x) (plan : Plan) :
    Script.Leaves seeRun x plan fun _ _ events => events = [] :=
  (Script.Only.leaves h seeRun_unseen).mono fun _ _ _ hout => hout.1

theorem Unnoted.calledAtMost (h : Unnoted x) (n : Nat) :
    CalledAtMost stepId n x plan := by
  refine (h.leaves plan).mono ?_
  rintro _ _ _ rfl
  exact Nat.zero_le n

theorem CalledAtMost.seq {m n : Nat} (hx : CalledAtMost stepId m x plan)
    (hf : ∀ a plan', CalledAtMost stepId n (f a) plan') :
    CalledAtMost stepId (m + n) (x >>= f) plan := by
  refine Script.Leaves.seq hx (fun a plan' events hcalls => ?_)
    fun _ _ _ hcalls => hcalls.trans (Nat.le_add_right m n)
  refine (hf a plan').mono fun _ _ later hlater => ?_
  rw [callsOf_append]
  exact Nat.add_le_add hcalls hlater

theorem CalledAtMost.silent {n : Nat} (hx : CalledAtMost stepId 0 x plan)
    (hf : ∀ a plan', CalledAtMost stepId n (f a) plan') :
    CalledAtMost stepId n (x >>= f) plan := by
  have h := CalledAtMost.seq hx hf
  rwa [Nat.zero_add] at h

theorem CalledAtMost.first {n : Nat} (hx : CalledAtMost stepId n x plan)
    (hf : ∀ a plan', CalledAtMost stepId 0 (f a) plan') :
    CalledAtMost stepId n (x >>= f) plan :=
  CalledAtMost.seq hx hf

theorem CalledAtMost.bind_unnoted {n : Nat} (hx : CalledAtMost stepId n x plan)
    (hf : ∀ a, Unnoted (f a)) : CalledAtMost stepId n (x >>= f) plan :=
  hx.first fun a _ => (hf a).calledAtMost 0

end

theorem storeSave_calledAtMost : CalledAtMost stepId 0 storeSave plan := by
  apply Script.Leaves.ask_bind
  intro now
  apply Script.Leaves.update_bind
  apply Script.Leaves.read_bind
  refine Script.Leaves.run_bind (fun _ _ _ => ?_) fun _ _ _ => Nat.le_refl 0
  exact Script.Leaves.askOk fun _ => Nat.le_refl 0

theorem getStep_calledAtMost {n : Nat} {f : PlanStep → PlanScript A}
    (h : ∀ step, plan.getStep? other = some step →
      CalledAtMost stepId n (f step) plan) :
    CalledAtMost stepId n (getStep other >>= f) plan := by
  refine Script.Leaves.run_bind (fun step after hrun => ?_)
    fun _ _ _ => Nat.zero_le n
  obtain ⟨hget, rfl⟩ := Prod.mk.inj hrun
  exact h step (plan.getStep_eq_ok hget)

def oneCall (other stepId : String) : Nat := if other = stepId then 1 else 0

theorem attempt_calledAtMost : CalledAtMost stepId (oneCall other stepId)
    (attempt config other runMode) plan := by
  apply Script.Leaves.read_bind
  apply getStep_calledAtMost
  intro step hget
  have hid := plan.getStep?_id hget
  apply CalledAtMost.silent (unnoted.gitSnapshot.calledAtMost 0)
  intro gitBefore plan'
  apply Script.Leaves.ite
  · intro _
    exact (unnoted.bind (unnoted.enterStatus _ _ _)
      fun _ => unnoted.pure false).calledAtMost _
  · intro _
    apply Script.Leaves.ask_bind
    intro _
    apply Script.Leaves.ask_bind
    intro reply
    refine ((afterCall_unnoted gitBefore step.mode reply).leaves plan').mono ?_
    rintro _ _ _ rfl
    change (if step.id = stepId then 1 else 0) + 0 ≤ _
    rw [hid]
    exact Nat.le_refl _

theorem runOneStep_calledAtMost (alreadyRunning : Bool) :
    CalledAtMost stepId (oneCall other stepId)
      (runOneStep config other runMode alreadyRunning) plan := by
  apply getStep_calledAtMost
  intro step _
  apply Script.Leaves.ite
  · exact fun _ => attempt_calledAtMost
  · intro _
    apply CalledAtMost.silent ((unnoted.enterStatus _ _ _).calledAtMost 0)
    intro _ entered
    apply CalledAtMost.silent storeSave_calledAtMost
    exact fun _ _ => attempt_calledAtMost

theorem waveCalls_calledAtMost (n : Nat) (waiting calling : List String)
    (bodies : Dict CallOutcome) :
    CalledAtMost stepId (waiting.count stepId)
      (waveCalls n waiting calling bodies) plan := by
  induction n generalizing waiting calling bodies plan with
  | zero => exact Script.Leaves.pure (Nat.zero_le _)
  | succ n ih =>
      apply Script.Leaves.ask_bind
      intro choice
      dsimp only
      generalize choice % (waiting.length + calling.length) = i
      change CalledAtMost stepId _ _ _
      cases hwaiting : waiting[i]? with
      | some other =>
          have hmem : other ∈ waiting := List.mem_of_getElem? hwaiting
          apply Script.Leaves.read_bind
          apply getStep_calledAtMost
          intro step hget
          apply Script.Leaves.ask_bind
          intro _
          refine (ih (waiting.erase other) (calling ++ [other]) bodies).mono ?_
          intro _ _ events hcalls
          change (if step.id = stepId then 1 else 0) + callsOf stepId events ≤ _
          rw [plan.getStep?_id hget,
            (List.perm_cons_erase hmem).count_eq stepId, List.count_cons]
          simp only [beq_iff_eq]
          omega
      | none =>
          cases calling[i - waiting.length]? with
          | some other =>
              apply Script.Leaves.ask_bind
              intro reply
              apply Script.Leaves.update_bind
              exact (ih waiting (calling.erase other) _).mono fun _ _ _ => id
          | none => exact Script.Leaves.pure (Nat.zero_le _)

theorem runChatWave_calledAtMost (stepIds : List String) :
    CalledAtMost stepId (stepIds.count stepId)
      (runChatWave config stepIds runMode) plan := by
  apply CalledAtMost.silent ((unnoted.enterRunning stepIds).calledAtMost 0)
  intro _ entered
  apply CalledAtMost.silent storeSave_calledAtMost
  intro _ claimed
  exact CalledAtMost.bind_unnoted (waveCalls_calledAtMost _ stepIds [] [])
    fun bodies => unnoted.finalizeWave bodies stepIds

theorem attemptUnit_calledAtMost (unit : List String × Bool) :
    CalledAtMost stepId (unit.1.count stepId)
      (attemptUnit config runMode unit) plan := by
  obtain ⟨stepIds, isWave⟩ := unit
  cases isWave with
  | true => exact runChatWave_calledAtMost stepIds
  | false =>
      cases stepIds with
      | nil => exact Script.Leaves.pure (Nat.zero_le _)
      | cons other rest =>
          have hone := CalledAtMost.bind_unnoted
            (@runOneStep_calledAtMost config runMode stepId other plan false)
            fun ok => unnoted.pure [(other, ok)]
          refine hone.mono fun _ _ _ hcalls => hcalls.trans ?_
          rw [oneCall, List.count_cons]
          simp

theorem externalAbortRequested_calledAtMost :
    CalledAtMost stepId 0 externalAbortRequested plan := by
  apply Script.Leaves.read_bind
  have hload : CalledAtMost stepId 0 ((storeLoad plan.planId :
      PlanScript (Option Plan)).handle fun _ => pure none) plan := by
    refine @Script.Leaves.handle _ _ _ _ _ _ seeRun plan
      (fun _ _ events => callsOf stepId events ≤ 0) _ _ _ ?_
      (fun _ _ _ => id) fun _ _ events hcalls => ?_
    · refine Script.Leaves.run_bind (fun _ _ _ => ?_)
        fun _ _ _ => Nat.le_refl 0
      apply Script.Leaves.askOk
      rintro (e | _ | fresh)
      · exact Nat.le_refl 0
      · exact Nat.le_refl 0
      · change callsOf stepId
          (if fresh.status = .aborted then [.abortSeen] else []) ≤ 0
        split <;> exact Nat.le_refl 0
    · apply Script.Leaves.pure
      rw [List.append_nil]
      exact hcalls
  apply CalledAtMost.silent hload
  intro fresh plan'
  cases fresh with
  | none => exact Script.Leaves.pure (Nat.le_refl 0)
  | some fresh =>
      apply Script.Leaves.ite
      · intro _
        apply Script.Leaves.update_bind
        exact Script.Leaves.pure (Nat.le_refl 0)
      · exact fun _ => Script.Leaves.pure (Nat.le_refl 0)

theorem checkAbortAndSave_calledAtMost :
    CalledAtMost stepId 0 checkAbortAndSave plan := by
  apply CalledAtMost.silent externalAbortRequested_calledAtMost
  intro aborted checked
  apply CalledAtMost.silent storeSave_calledAtMost
  exact fun _ _ => Script.Leaves.pure (Nat.le_refl 0)

theorem failOrContinue_calledAtMost (onFail : String) :
    CalledAtMost stepId 0 (failOrContinue other onFail) plan := by
  apply getStep_calledAtMost
  intro step _
  apply Script.Leaves.ite
  · intro _
    apply CalledAtMost.silent ((unnoted.enterStatus _ _ _).calledAtMost 0)
    intro _ entered
    apply Script.Leaves.update_bind
    apply CalledAtMost.silent storeSave_calledAtMost
    exact fun _ _ => Script.Leaves.pure (Nat.le_refl 0)
  · intro _
    apply Script.Leaves.update_bind
    exact Script.Leaves.pure (Nat.le_refl 0)

/-- The retries that the loop makes of one step. -/
def retriesOf (config : RunnerConfig) : Nat := min 1 config.maxRetries

theorem handleStepOutcome_calledAtMost (ok : Bool) (retries : Retries) :
    CalledAtMost stepId (retriesOf config * oneCall other stepId)
      (handleStepOutcome config other ok runMode retries) plan := by
  have hpolicy : ∀ (after : Retries) plan', CalledAtMost stepId 0 (do
      let goOn ← failOrContinue other config.onFail
      pure (goOn, after)) plan' := fun after plan' =>
    CalledAtMost.bind_unnoted (failOrContinue_calledAtMost config.onFail)
      fun goOn => unnoted.pure (goOn, after)
  apply Script.Leaves.ite
  · exact fun _ => Script.Leaves.pure (Nat.zero_le _)
  intro _
  apply getStep_calledAtMost
  intro step _
  apply Script.Leaves.ite
  · exact fun _ => Script.Leaves.pure (Nat.zero_le _)
  intro _
  apply Script.Leaves.ite
  · rintro ⟨_, hleft⟩
    have hone : retriesOf config = 1 := Nat.min_eq_left (by omega)
    rw [hone, Nat.one_mul]
    apply CalledAtMost.silent ((unnoted.enterStatus _ _ _).calledAtMost 0)
    intro _ entered
    refine CalledAtMost.first (runOneStep_calledAtMost true)
      fun ok2 tried => ?_
    apply CalledAtMost.silent checkAbortAndSave_calledAtMost
    intro aborted saved
    apply Script.Leaves.ite
    · exact fun _ => Script.Leaves.pure (Nat.le_refl 0)
    intro _
    apply Script.Leaves.ite
    · exact fun _ => Script.Leaves.pure (Nat.le_refl 0)
    · exact fun _ => hpolicy _ saved
  · exact fun _ => (hpolicy _ plan).mono fun _ _ _ hcalls =>
      hcalls.trans (Nat.zero_le _)

theorem handleWave_calledAtMost (outcomes : List (String × Bool))
    (retries : Retries) : CalledAtMost stepId
      (retriesOf config * (outcomes.map Prod.fst).count stepId)
      (handleWave config runMode outcomes retries) plan := by
  induction outcomes generalizing retries plan with
  | nil => exact Script.Leaves.pure (Nat.zero_le _)
  | cons outcome rest ih =>
      obtain ⟨other, ok⟩ := outcome
      have hsplit : retriesOf config * oneCall other stepId +
          retriesOf config * (rest.map Prod.fst).count stepId =
            retriesOf config *
              (((other, ok) :: rest).map Prod.fst).count stepId := by
        rw [← Nat.mul_add, List.map_cons, List.count_cons, oneCall]
        simp only [beq_iff_eq]
        rw [Nat.add_comm]
      rw [← hsplit]
      refine CalledAtMost.seq (handleStepOutcome_calledAtMost ok retries)
        fun result plan' => ?_
      obtain ⟨goOn, after⟩ := result
      apply Script.Leaves.ite
      · exact fun _ => ih after
      · exact fun _ => Script.Leaves.pure (Nat.zero_le _)

end Calls

section Loop

variable {config : RunnerConfig} {runMode stepId : String} {plan : Plan}
  {view : RunView}

/-- An iteration calls each step of its unit once, or twice with a retry. -/
theorem runUnit_calledAtMost {unit : List String × Bool}
    (h : Synced config runMode view plan) (hunit : RunnableUnit plan unit)
    (retries : Retries) : CalledAtMost stepId
      ((1 + retriesOf config) * unit.1.count stepId)
      (runUnit config runMode unit retries) plan := by
  have hids : Script.wp (runProtocol config runMode)
      (attemptUnit config runMode unit) (fun out _ _ => ∀ outcomes,
        out = .ok outcomes → outcomes.map Prod.fst = unit.1) plan view :=
    wp_attemptUnit h hunit fun _ _ _ _ hdone => hdone.ids
  have hfirst : CalledAtMost stepId (unit.1.count stepId)
      (attemptUnit config runMode unit) plan := attemptUnit_calledAtMost unit
  rw [Nat.add_mul, Nat.one_mul]
  refine Script.Leaves.seq (hfirst.also (fun _ _ _ => trivial) hids) ?_ ?_
  · rintro outcomes plan' events ⟨hcalls, _, hsame⟩
    have hrest : CalledAtMost stepId
        (retriesOf config * (outcomes.map Prod.fst).count stepId) (do
          let aborted ← checkAbortAndSave
          if aborted then pure none
          else do
            let result ← handleWave config runMode outcomes retries
            pure (some result)) plan' := by
      apply CalledAtMost.silent checkAbortAndSave_calledAtMost
      intro aborted saved
      apply Script.Leaves.ite
      · exact fun _ => Script.Leaves.pure (Nat.zero_le _)
      · exact fun _ => CalledAtMost.bind_unnoted
          (handleWave_calledAtMost outcomes retries)
          fun result => unnoted.pure (some result)
    refine hrest.mono fun _ _ later hlater => ?_
    rw [hsame outcomes rfl] at hlater
    rw [callsOf_append]
    exact Nat.add_le_add hcalls hlater
  · exact fun _ _ _ hcalls => hcalls.1.trans (Nat.le_add_right _ _)

/-- An open step is called within its budget, and no other step is. -/
def WithinBudget (config : RunnerConfig) (plan : Plan) (stepId : String)
    (events : List RunEvent) : Prop :=
  callsOf stepId events ≤ 1 + retriesOf config ∧
    (0 < callsOf stepId events → Open plan stepId)

theorem WithinBudget.quiet {events : List RunEvent}
    (h : callsOf stepId events ≤ 0) :
    WithinBudget config plan stepId events :=
  ⟨h.trans (Nat.zero_le _), fun hpos => absurd hpos (Nat.not_lt.mpr h)⟩

theorem WithinBudget.unit {unit : List String} {events : List RunEvent}
    (hnodup : unit.Nodup) (hfirst : callsOf stepId events ≤
      (1 + retriesOf config) * unit.count stepId)
    (hopen : stepId ∈ unit → Open plan stepId) :
    WithinBudget config plan stepId events := by
  by_cases hmem : stepId ∈ unit
  · rw [List.count_eq_one_of_mem hnodup hmem, Nat.mul_one] at hfirst
    exact ⟨hfirst, fun _ => hopen hmem⟩
  · rw [List.count_eq_zero_of_not_mem hmem, Nat.mul_zero] at hfirst
    exact WithinBudget.quiet hfirst

/-- A unit and a loop behind it, where the unit's steps are no longer open. -/
theorem WithinBudget.append {unit : List String} {plan' : Plan}
    {events later : List RunEvent} (hnodup : unit.Nodup)
    (hfirst : callsOf stepId events ≤
      (1 + retriesOf config) * unit.count stepId)
    (hopen : stepId ∈ unit → Open plan stepId)
    (hclosed : stepId ∈ unit → ¬Open plan' stepId)
    (hkept : stepId ∉ unit → Open plan' stepId → Open plan stepId)
    (hlater : WithinBudget config plan' stepId later) :
    WithinBudget config plan stepId (events ++ later) := by
  rw [WithinBudget, callsOf_append]
  by_cases hmem : stepId ∈ unit
  · have hnone : callsOf stepId later = 0 := Nat.eq_zero_of_not_pos
      fun hpos => hclosed hmem (hlater.2 hpos)
    rw [hnone, Nat.add_zero]
    exact WithinBudget.unit hnodup hfirst hopen
  · rw [List.count_eq_zero_of_not_mem hmem, Nat.mul_zero] at hfirst
    rw [Nat.le_zero.mp hfirst, Nat.zero_add]
    exact ⟨hlater.1, fun hpos => hkept hmem (hlater.2 hpos)⟩

theorem runUnit_thenLoop {timeout : Option Timeout} {t0 : Rat} {n : Nat}
    {retries : Retries} {runnable : List String}
    (hloop : ∀ {plan' : Plan} {view' : RunView} (retries : Retries),
      Synced config runMode view' plan' → Script.Leaves seeRun
        (runLoop config runMode timeout t0 n retries) plan'
        fun _ _ => WithinBudget config plan' stepId)
    (h : Synced config runMode view plan)
    (hrun : runnableSteps plan = .ok runnable) (hsome : runnable ≠ []) :
    Script.Leaves seeRun (do
        let plan ← Script.read
        let result ←
          runUnit config runMode (nextUnit config plan runnable) retries
        match result with
        | none => pure .aborted
        | some (false, _) => pure .stopped
        | some (true, retries) =>
            runLoop config runMode timeout t0 n retries) plan
      fun _ _ => WithinBudget config plan stepId := by
  apply Script.Leaves.read_bind
  have hunit := nextUnit_runnable config h.wf hrun hsome
  have halone : ∀ {events : List RunEvent}, callsOf stepId events ≤
      (1 + retriesOf config) * (nextUnit config plan runnable).1.count
        stepId → WithinBudget config plan stepId events :=
    fun hcalls => WithinBudget.unit hunit.nodup hcalls hunit.open
  refine Script.Leaves.seq ((runUnit_calledAtMost h hunit retries).also
    (fun _ _ _ => trivial) (wp_runUnit h hunit retries fun _ _ _ => id)) ?_
    fun _ _ _ hcalls => halone hcalls.1
  rintro out plan₃ events ⟨hcalls, view₃, hiterated⟩
  rcases out with _ | ⟨_ | _, after⟩
  · apply Script.Leaves.pure
    rw [List.append_nil]
    exact halone hcalls
  · apply Script.Leaves.pure
    rw [List.append_nil]
    exact halone hcalls
  · obtain ⟨hsynced₃, hframe, hlanded⟩ := hiterated.goesOn after rfl
    refine (hloop after hsynced₃).mono fun _ _ later hlater => ?_
    refine WithinBudget.append hunit.nodup hcalls hunit.open ?_ ?_ hlater
    · intro hmem
      obtain ⟨step, hget, hstatus⟩ := hlanded stepId hmem
      rw [Open, Plan.statusOf, hget]
      revert hstatus
      cases hstep : step.status <;> simp [hstep]
    · intro hmem hopen
      rwa [Open, Plan.statusOf, hframe stepId hmem] at hopen

theorem runLoop_withinBudget (timeout : Option Timeout) (t0 : Rat) (n : Nat)
    (retries : Retries) (h : Synced config runMode view plan) :
    Script.Leaves seeRun (runLoop config runMode timeout t0 n retries) plan
      fun _ _ => WithinBudget config plan stepId := by
  induction n generalizing plan view retries with
  | zero => exact Script.Leaves.pure (WithinBudget.quiet (Nat.le_refl 0))
  | succ n ih =>
      have hleft : ∀ {plan₀ : Plan} (exit : LoopExit) plan', Script.Leaves
          seeRun (pure exit : PlanScript LoopExit) plan'
          fun _ _ => WithinBudget config plan₀ stepId := fun _ _ =>
        Script.Leaves.pure (WithinBudget.quiet (Nat.le_refl 0))
      apply Script.Leaves.read_bind
      apply Script.Leaves.ite
      · exact fun _ => hleft .aborted plan
      intro _
      have hcheck : Script.wp (runProtocol config runMode)
          externalAbortRequested (fun out plan' view' => ∀ found,
            out = .ok found → AbortChecked config runMode plan view found plan'
              view') plan view := by
        apply wp_externalAbortRequested h.toSteady h.entered
        rintro found _ _ hchecked _ hout
        cases hout
        exact hchecked
      refine Script.Leaves.seq (externalAbortRequested_calledAtMost.also
        (fun _ _ _ => trivial) hcheck) ?_
        fun _ _ _ hcalls => WithinBudget.quiet hcalls.1
      rintro found plan₁ seen ⟨hseen, view₁, hchecked⟩
      have hchecked := hchecked found rfl
      have hopen : Open plan₁ stepId ↔ Open plan stepId := by
        simp only [Open, Plan.statusOf, Plan.getStep?, hchecked.steps]
      refine Script.Leaves.mono (?_ : Script.Leaves seeRun _ plan₁
        fun _ _ => WithinBudget config plan₁ stepId) fun _ _ later hlater => ?_
      · cases found with
        | true => exact hleft .aborted plan₁
        | false =>
            have hsynced₁ := hchecked.synced h
            have htimeout : Script.wp (runProtocol config runMode)
                (timeoutReached timeout t0) (fun _ plan' view' =>
                  plan' = plan₁ ∧ Synced config runMode view' plan₁) plan₁
                view₁ :=
              wp_timeoutReached timeout t0 fun _ _ hsilent _ =>
                ⟨rfl, hsynced₁.silent hsilent⟩
            refine Script.Leaves.seq (((unnoted.timeoutReached timeout
              t0).leaves plan₁).also (fun _ _ _ => trivial) htimeout) ?_ ?_
            · rintro reached plan₁ _ ⟨rfl, view₂, rfl, hsynced⟩
              apply Script.Leaves.ite
              · exact fun _ => hleft .timedOut plan₁
              intro _
              refine Script.Leaves.run_bind (fun runnable plan' hpath => ?_)
                fun _ _ _ => WithinBudget.quiet (Nat.le_refl 0)
              obtain ⟨hrun, rfl⟩ := Prod.mk.inj hpath
              apply Script.Leaves.ite
              · intro _
                refine (leaveLoop_unnoted.leaves plan₁).mono ?_
                rintro _ _ _ rfl
                exact WithinBudget.quiet (Nat.le_refl 0)
              intro hsome
              exact runUnit_thenLoop ih hsynced hrun hsome
            · rintro _ _ _ ⟨rfl, _⟩
              exact WithinBudget.quiet (Nat.le_refl 0)
      · rw [WithinBudget, callsOf_append, Nat.le_zero.mp hseen, Nat.zero_add]
        exact ⟨hlater.1, fun hpos => hopen.mp (hlater.2 hpos)⟩

end Loop

section Run

variable {config : RunnerConfig} {runMode stepId : String} {plan : Plan}
  {view : RunView}

theorem openRun_calledAtMost (cwd : String) :
    CalledAtMost stepId 0 (openRun config cwd) plan := by
  apply Script.Leaves.update_bind
  apply CalledAtMost.silent (unnoted.ensureTaskId.calledAtMost 0)
  intro _ named
  apply CalledAtMost.silent ((unnoted.look _).calledAtMost 0)
  intro _ valid
  apply CalledAtMost.silent
    (unnoted.recoverStaleRunningSteps.calledAtMost 0)
  intro _ recovered
  apply Script.Leaves.update_bind
  exact storeSave_calledAtMost

theorem closeRun_calledAtMost (timeout : Option Timeout) (t0 : Rat)
    (exit : LoopExit) :
    CalledAtMost stepId 0 (closeRun timeout t0 exit) plan := by
  apply Script.Leaves.read_bind
  apply Script.Leaves.update_bind
  apply Script.Leaves.update_bind
  apply CalledAtMost.silent storeSave_calledAtMost
  intro _ saved
  apply Script.Leaves.read_bind
  apply Script.Leaves.ask_bind
  exact fun _ => Script.Leaves.pure (Nat.le_refl 0)

theorem guardedLoop_calledAtMost (timeout : Option Timeout) (t0 : Rat)
    (h : Synced config runMode view plan) :
    CalledAtMost stepId (1 + retriesOf config)
      (guardedLoop config runMode timeout t0) plan := by
  apply Script.Leaves.read_bind
  refine Script.Leaves.handle (runLoop_withinBudget timeout t0 _ _ h)
    (fun _ _ _ hseen => hseen.1) fun e plan' events hseen => ?_
  apply Script.Leaves.update_bind
  apply Script.Leaves.pure
  rw [List.append_nil]
  exact hseen.1

theorem run_calledAtMost (mode cwd : String) (timeout : Option Timeout)
    (before : Plan) : CalledAtMost stepId (1 + retriesOf config)
      (run config mode cwd timeout) before := by
  apply Script.Leaves.ask_bind
  intro t0
  have hcalls : CalledAtMost stepId 0 (openRun config cwd) before :=
    openRun_calledAtMost cwd
  refine Script.Leaves.seq (hcalls.also (fun _ _ _ => trivial)
    (openRun_synced (config.runMode mode) cwd t0 before)) ?_
    fun _ _ _ hout => hout.1.trans (Nat.zero_le _)
  rintro _ opened events ⟨hnone, view, hsynced⟩
  have hloop : CalledAtMost stepId (1 + retriesOf config)
      (guardedLoop config (config.runMode mode) timeout t0) opened :=
    guardedLoop_calledAtMost timeout t0 (hsynced () rfl)
  refine (hloop.first fun exit plan' => closeRun_calledAtMost timeout t0
    exit).mono fun _ _ later hlater => ?_
  change callsOf stepId (events ++ later) ≤ _
  rw [callsOf_append, Nat.le_zero.mp hnone, Nat.zero_add]
  exact hlater

/-- Everything may be asked; a save raises what `F` allows. -/
def storing (F : PyError → Prop) : Protocol PlanOp PlanReply Unit where
  allows _ _ := True
  relies _ op r :=
    match op, r with
    | .save _, reply => ∀ e, reply = .error e → F e
    | _, _ => True
  next _ _ _ := ()

variable {F : PyError → Prop}

/-- An exception is one of the save. -/
def Unsaved (F : PyError → Prop) (planId : String) (e : PyError) : Prop :=
  storePath planId = .error e ∨ F e

theorem wp_storing_also {A : Type} {x : PlanScript A}
    {Q : Except PyError A → Plan → Unit → Prop}
    {Q' : Except PyError A → Plan → RunView → Prop}
    (h : Script.wp (storing F) x Q plan ())
    (h' : Script.wp (runProtocol config runMode) x Q' plan view) :
    Script.wp (storing F) x (fun out plan' seen => Q out plan' seen ∧
      ∃ view', Q' out plan' view') plan () :=
  Prog.wp_both (fun _ _ _ => trivial) (x plan) h h'

theorem storing_storeSave : Script.wp (storing F) storeSave
    (fun out plan' _ => plan'.planId = plan.planId ∧
      ∀ e, out = .error e → Unsaved F plan.planId e) plan () := by
  refine wp_save trivial ?_ (fun _ _ => trivial) ?_
  · intro now e hpath
    refine ⟨rfl, fun e' hout => Or.inl ?_⟩
    cases hout
    exact hpath
  · exact fun now reply _ hreply => ⟨rfl, fun e hout => Or.inr (hreply e hout)⟩

theorem storing_recoverSteps (now threshold : Rat) (steps : List PlanStep)
    (hnodup : (steps.map PlanStep.id).Nodup) (hseen : ∀ step ∈ steps,
      plan.getStep? step.id = some step) :
    Script.wp (storing F) (recoverSteps now threshold steps)
      (fun out plan' _ => out = .ok () ∧ plan'.planId = plan.planId) plan
      () := by
  induction steps generalizing plan with
  | nil => exact ⟨rfl, rfl⟩
  | cons step rest ih =>
      obtain ⟨hnotMem, hrest⟩ := List.nodup_cons.mp hnodup
      have hget := hseen step List.mem_cons_self
      have hlater := fun other hmem =>
        hseen other (List.mem_cons_of_mem step hmem)
      rw [recoverSteps]
      split
      case isFalse => exact ih hrest hlater
      case isTrue hstale =>
        have hadmits : Admits plan step failed :=
          ⟨by rw [hstale.1]; decide, fun h => (by cases h),
            fun h => (by cases h), fun h => (by cases h)⟩
        dsimp only
        rw [Script.wp_bind, wp_enterStatus (by decide),
          transition_of_admits hget hadmits (by decide)]
        refine Script.wp_mono (ih hrest fun other hmem => ?_)
          fun _ _ _ hout => ⟨hout.1, hout.2.trans (by simp)⟩
        rw [entered_getStep?, if_neg, hlater other hmem]
        intro heq
        apply hnotMem
        rw [← heq]
        exact List.mem_map_of_mem hmem

theorem storing_openRun (cwd : String) (hvalid : validate plan = .ok ()) :
    Script.wp (storing F) (openRun config cwd)
      (fun out opened _ => opened.planId = plan.planId ∧
        ∀ e, out = .error e → Unsaved F plan.planId e) plan () := by
  unfold openRun
  rw [Script.wp_update_bind, Script.wp_bind]
  have hnamed : Script.wp (storing F) ensureTaskId (fun out named _ =>
      out = .ok () ∧ named.planId = plan.planId ∧ named.steps = plan.steps)
      { plan with cwd := orElse cwd (orElse plan.cwd config.defaultCwd) }
      () := by
    unfold ensureTaskId
    rw [Script.wp_read_bind]
    split
    · exact ⟨trivial, fun _ _ => ⟨rfl, rfl, rfl⟩⟩
    · exact ⟨rfl, rfl, rfl⟩
  refine Script.wp_mono hnamed ?_
  rintro _ named _ ⟨rfl, hplanId, hsteps⟩
  dsimp only
  rw [Script.wp_run_bind, validate_congr hplanId hsteps, hvalid]
  dsimp only
  have hnodup := (wellFormed_of_validate hvalid).nodup
  have hrecover : Script.wp (storing F) (recoverStaleRunningSteps config)
      (fun out plan' _ => out = .ok () ∧ plan'.planId = named.planId) named
      () := by
    unfold recoverStaleRunningSteps
    split
    · exact ⟨rfl, rfl⟩
    · refine ⟨trivial, fun now _ => ?_⟩
      have hnodup' : named.ids.Nodup := by
        rw [Plan.ids, hsteps]
        exact hnodup
      exact storing_recoverSteps now config.staleRunningSeconds named.steps
        hnodup' fun step hmem => named.getStep?_of_mem hnodup' hmem
  rw [Script.wp_bind]
  refine Script.wp_mono hrecover ?_
  rintro _ recovered _ ⟨rfl, hsame⟩
  dsimp only
  rw [Script.wp_update_bind]
  have hid : recovered.planId = plan.planId := hsame.trans hplanId
  refine Script.wp_mono storing_storeSave fun out saved _ hout => ?_
  rw [← hid]
  exact hout

theorem storing_guardedLoop (timeout : Option Timeout) (t0 : Rat) :
    Script.wp (storing F) (guardedLoop config runMode timeout t0)
      (fun out _ _ => ∃ exit, out = .ok exit) plan () := by
  unfold guardedLoop
  rw [Script.wp_read_bind, Script.wp_handle]
  refine Prog.wp_mono _ (Prog.wp_true (fun _ _ => trivial) _ ()) ?_
  rintro ⟨e | exit, plan'⟩ _ _
  · exact ⟨_, rfl⟩
  · exact ⟨_, rfl⟩

theorem storing_closeRun (timeout : Option Timeout) (t0 : Rat)
    (exit : LoopExit) : Script.wp (storing F) (closeRun timeout t0 exit)
      (fun out _ _ => ∀ e, out = .error e → Unsaved F plan.planId e) plan
      () := by
  unfold closeRun
  rw [Script.wp_read_bind, Script.wp_update_bind, Script.wp_update_bind,
    Script.wp_bind]
  refine Script.wp_mono storing_storeSave ?_
  rintro (e | u) saved _ ⟨_, hraised⟩
  · rintro e' hout
    cases hout
    have hid : (finalStatus (timeoutError timeout exit plan)).planId =
        plan.planId := by simp
    rw [← hid]
    exact hraised e rfl
  · exact ⟨trivial, fun _ _ _ hout => (by cases hout)⟩

theorem storing_run (mode cwd : String) (timeout : Option Timeout)
    {before : Plan} (hvalid : validate before = .ok ()) :
    Script.wp (storing F) (run config mode cwd timeout)
      (fun out _ _ => ∀ e, out = .error e → Unsaved F before.planId e) before
      () := by
  unfold run
  rw [Script.wp_ask_bind]
  refine ⟨trivial, fun (t0 : Rat) _ => ?_⟩
  rw [Script.wp_bind]
  refine Script.wp_mono (wp_storing_also (storing_openRun cwd hvalid)
    (openRun_synced (config.runMode mode) cwd t0 before)) ?_
  rintro (e | u) opened _ ⟨⟨hid, hraised⟩, view, hsynced⟩
  · rintro e' hout
    cases hout
    exact hraised e rfl
  dsimp only
  have hsynced := hsynced u rfl
  have hloop : Script.wp (runProtocol config (config.runMode mode))
      (guardedLoop config (config.runMode mode) timeout t0)
      (fun _ plan' _ => plan'.planId = opened.planId) opened view := by
    have hkept : Script.wp (runProtocol config (config.runMode mode))
        (guardedLoop config (config.runMode mode) timeout t0)
        (fun _ plan' view' => plan'.planId = view'.plan.planId) opened view :=
      wp_guardedLoop timeout t0 hsynced
        fun _ _ _ hsteady _ => hsteady.evolves.planId
    refine Script.wp_mono (wp_grows hkept) ?_
    rintro _ plan' view' ⟨hkept, hgrows⟩
    rw [hkept, hgrows.planId, hsynced.evolves.planId]
  rw [Script.wp_bind]
  refine Script.wp_mono (wp_storing_also (storing_guardedLoop timeout t0)
    hloop) ?_
  rintro _ left _ ⟨⟨exit, rfl⟩, _, hkept⟩
  dsimp only
  have hclose := @storing_closeRun left F timeout t0 exit
  rw [hkept, hid] at hclose
  exact hclose

end Run

/-- The run of a valid plan returns at an exit unless a save raises, and calls
no step more than `maxRetries + 1` times. -/
theorem run_bounded (config : RunnerConfig) (mode cwd : String)
    (timeout : Option Timeout) (before : Plan)
    (hvalid : validate before = .ok ()) (oracle : Nat → PlanOracle) :
    let ended := (run config mode cwd timeout before).exec (noted seeRun) oracle
      0 []
    (∀ stepId, callsOf stepId ended.2 ≤ config.maxRetries + 1) ∧
      ((∃ result, ended.1.1 = .ok result ∧ result.exit ≠ .outOfFuel) ∨
        ∃ e, ended.1.1 = .error e ∧ (storePath before.planId = .error e ∨
          ∃ n saved, oracle n (.save saved) = .error e)) := by
  intro ended
  constructor
  · intro stepId
    have hcalls := (@run_calledAtMost config stepId mode cwd timeout
      before).exec oracle 0
    have hretries : retriesOf config ≤ config.maxRetries :=
      Nat.min_le_right 1 _
    exact hcalls.trans (by omega)
  · have hknown : Script.wp (runProtocol config (config.runMode mode))
        (run config mode cwd timeout) (fun out _ _ => ∀ result,
          out = .ok result → result.exit ≠ .outOfFuel) before
        { plan := before } := by
      apply wp_run
      · exact fun _ _ _ _ _ hout => (by cases hout)
      · rintro result plan view hreported _ hout hfuel
        cases hout
        have := hreported.known
        rwa [hfuel] at this
    have hboth := wp_storing_also (@storing_run config (fun e => ∃ n saved,
      oracle n (.save saved) = .error e) mode cwd timeout before hvalid) hknown
    obtain ⟨_, _, hraised, _, hexit⟩ := Prog.exec_of_wp (noted seeRun) oracle
      (fun _ _ => True) (fun n _ _ op _ _ => ⟨by
        cases op with
        | save saved => exact fun e hout => ⟨n, saved, hout⟩
        | _ => trivial, trivial⟩) _ 0 [] trivial hboth
    cases hout : ended.1.1 with
    | ok result => exact Or.inl ⟨result, rfl, hexit result hout⟩
    | error e => exact Or.inr ⟨e, rfl, hraised e hout⟩

namespace RunBoundWitness

open RetryBudgetWitness

/-- With two retries a step is called at most three times. -/
theorem single_bounded : validate single = .ok () ∧
    callsOf "a" twiceFailing.2 ≤ 3 :=
  ⟨by decide, (run_bounded retrying "active" "" none single (by decide)
    (late 20)).1 "a"⟩

end RunBoundWitness

end Voly
