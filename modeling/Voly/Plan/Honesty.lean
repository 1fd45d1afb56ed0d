/-
The status that a run ends with, which the loop, the recomputation after it and
a patch decide.
-/
import Voly.Plan.Run

namespace Voly

open Python Interaction StepStatus

theorem statusFor_eq_completed {statuses : List StepStatus} :
    statusFor statuses = .completed ↔
      (∀ s ∈ statuses, s ∈ [verified, skipped]) ∧ verified ∈ statuses := by
  constructor
  · intro h
    unfold statusFor at h
    split at h
    · cases h
    · split at h
      case isTrue hall =>
        split at h
        case isTrue hany => exact ⟨by simpa using hall, by simpa using hany⟩
        case isFalse => cases h
      case isFalse =>
        revert h
        repeat' split
        all_goals
          intro h
          cases h
  · exact fun ⟨hall, hany⟩ => statusFor_completed hall hany

theorem statusFor_eq_failed {statuses : List StepStatus}
    (h : statusFor statuses = .failed) :
    failed ∈ statuses ∨ ∀ s ∈ statuses, s = skipped := by
  unfold statusFor at h
  split at h
  · cases h
  · split at h
    case isTrue hall =>
      split at h
      case isTrue => cases h
      case isFalse hany =>
        right
        intro s hs
        have hterminal : s = verified ∨ s = skipped := by
          simpa using List.all_eq_true.mp hall s hs
        rcases hterminal with rfl | hskip
        · exact absurd (List.any_eq_true.mpr ⟨verified, hs, by decide⟩) hany
        · exact hskip
    case isFalse =>
      split at h
      · cases h
      · split at h
        case isTrue hfail =>
          left
          simpa using (Bool.and_eq_true_iff.mp
            (Bool.and_eq_true_iff.mp hfail).1).1
        case isFalse =>
          revert h
          repeat' split
          all_goals
            intro h
            cases h

/-- With no step in flight and none pending, nothing calls for `running`. -/
theorem statusFor_ne_running {statuses : List StepStatus}
    (hflight : statuses.any inFlight = false) (hpending : pending ∉ statuses)
    (hfailed : failed ∉ statuses) : statusFor statuses ≠ .running := by
  have hall : ∀ s ∈ statuses, s ∈ [verified, skipped] := by
    intro s hs
    have hquiet := List.any_eq_false.mp hflight s hs
    cases s with
    | pending => exact absurd hs hpending
    | failed => exact absurd hs hfailed
    | running | done | verifying => exact absurd rfl hquiet
    | verified | skipped => decide
  unfold statusFor
  split
  · decide
  · rw [if_pos (by simpa using hall)]
    split <;> decide

section Final

variable {plan : Plan} (hlive : plan.status ≠ .aborted)

include hlive

theorem finalStatus_of_failed (hfailed : failed ∈ plan.statuses) :
    (finalStatus plan).status = .failed := by
  rw [finalStatus_status, if_neg hlive]
  split
  case isTrue hdone =>
    have hne : statusFor plan.statuses ≠ .completed := fun hcompleted =>
      absurd ((statusFor_eq_completed.mp hcompleted).1 failed hfailed)
        (by decide)
    simpa [hne] using hdone
  case isFalse => rfl

theorem finalStatus_of_no_failed (hfailed : failed ∉ plan.statuses) :
    (finalStatus plan).status = statusFor plan.statuses := by
  rw [finalStatus_status, if_neg hlive, if_neg hfailed, ite_self]

theorem finalStatus_eq_completed :
    (finalStatus plan).status = .completed ↔
      (∀ s ∈ plan.statuses, s ∈ [verified, skipped]) ∧
        verified ∈ plan.statuses := by
  by_cases hfailed : failed ∈ plan.statuses
  · rw [finalStatus_of_failed hlive hfailed]
    constructor
    · intro h
      cases h
    · rintro ⟨hall, _⟩
      exact absurd (hall failed hfailed) (by decide)
  · rw [finalStatus_of_no_failed hlive hfailed, statusFor_eq_completed]

theorem finalStatus_eq_failed
    (h : (finalStatus plan).status = .failed)
    (hopen : ∃ s ∈ plan.statuses, s ≠ skipped) : failed ∈ plan.statuses := by
  by_contra hfailed
  rw [finalStatus_of_no_failed hlive hfailed] at h
  obtain ⟨s, hs, hne⟩ := hopen
  rcases statusFor_eq_failed h with hmem | hall
  · exact hfailed hmem
  · exact hne (hall s hs)

theorem finalStatus_of_current (hcurrent : StatusCurrent plan)
    (hfailed : plan.status = .failed) :
    (finalStatus plan).status = .failed := by
  rcases hcurrent with habort | hstatus
  · exact absurd habort hlive
  · by_cases hmem : failed ∈ plan.statuses
    · exact finalStatus_of_failed hlive hmem
    · rw [finalStatus_of_no_failed hlive hmem, ← hstatus, hfailed]

end Final

def PlanRunResult.SawFailed (result : PlanRunResult) : Prop :=
  ∃ step ∈ result.left.steps, step.status = failed

/-- A hard step failure, an exception, or pending steps with nothing to run. -/
def LoopExit.isFailure (exit : LoopExit) : Prop :=
  exit ∈ [.stopped, .crashed, .blocked]

/-- What the final status of a run is to promise. -/
structure Honest (result : PlanRunResult) : Prop where
  completed : result.plan.status = .completed ↔
    (∀ step ∈ result.plan.steps, step.status ∈ [verified, skipped]) ∧
      ∃ step ∈ result.plan.steps, step.status = verified
  failed : result.exit.isFailure → result.plan.status = .failed
  running : result.plan.status = .running →
    ∃ step ∈ result.plan.steps, step.status ∈ [running, done, verifying]
  kept : result.left.status = .failed → result.plan.status = .failed

/-- A run left `running` has a step in flight, unless it was left as a failure.
-/
theorem inFlight_of_running {timeout : Option Timeout} {plan : Plan}
    {view : RunView} {exit : LoopExit} (hlive : plan.status ≠ .aborted)
    (hknown : ExitKnown timeout plan view exit) (hexit : ¬ exit.isFailure)
    (habsent : view.aborted = false) (hnone : timeout = none)
    (hrun : (finalStatus plan).status = .running) :
    plan.statuses.any inFlight = true := by
  by_contra hflight
  rw [Bool.not_eq_true] at hflight
  have hfailed : failed ∉ plan.statuses := by
    intro hfailed
    rw [finalStatus_of_failed hlive hfailed] at hrun
    cases hrun
  rw [finalStatus_of_no_failed hlive hfailed] at hrun
  have hpending : pending ∉ plan.statuses := by
    intro hpending
    cases exit with
    | aborted => exact absurd (habsent.symm.trans hknown) (by decide)
    | timedOut => exact hknown hnone
    | allTerminal =>
        obtain ⟨step, hstep, hstatus⟩ := List.mem_map.mp hpending
        have := List.all_eq_true.mp hknown.2 step hstep
        rw [hstatus] at this
        exact absurd this (by decide)
    | inFlight => exact absurd (hflight.symm.trans hknown.2) (by decide)
    | drained => exact hknown.2.2.2 hpending
    | stopped | crashed | blocked =>
        exact hexit (by unfold LoopExit.isFailure; decide)
    | outOfFuel => exact hknown
  exact statusFor_ne_running hflight hpending hfailed hrun

theorem honest_iff {config : RunnerConfig} {runMode : String}
    {result : PlanRunResult} {plan : Plan} {view : RunView}
    (h : Reported config runMode none result plan view)
    (hpresent : view.aborted = false) :
    Honest result ↔ (result.exit.isFailure → result.SawFailed) := by
  obtain ⟨hsteady, rfl, hsaved, hsteps, hstatus, hknown⟩ := h
  have hlive : result.left.status ≠ .aborted := by
    have := hsteady.evolves.aborted.status_ne hpresent
    rw [hstatus] at this
    simpa using this
  have hfailed : result.SawFailed ↔ failed ∈ result.left.statuses := by
    simp [PlanRunResult.SawFailed, Plan.statuses]
  rw [hfailed]
  constructor
  · intro hhonest hexit
    have hfinal := hhonest.failed hexit
    rw [hstatus] at hfinal
    apply finalStatus_eq_failed hlive hfinal
    revert hknown
    cases hx : result.exit with
    | stopped | crashed => exact id
    | blocked => exact fun hknown => ⟨pending, hknown.2, by decide⟩
    | aborted | timedOut | allTerminal | inFlight | drained | outOfFuel =>
        rw [hx] at hexit
        exact absurd hexit (by unfold LoopExit.isFailure; decide)
  · intro hcond
    have hfinal : result.exit.isFailure → result.plan.status = .failed := by
      intro hexit
      rw [hstatus]
      exact finalStatus_of_failed hlive (hcond hexit)
    refine ⟨?_, hfinal, ?_, ?_⟩
    · rw [hstatus, hsteps, finalStatus_eq_completed hlive]
      simp [Plan.statuses]
    · intro hrun
      have hexit : ¬ result.exit.isFailure := by
        intro hexit
        rw [hfinal hexit] at hrun
        cases hrun
      rw [hstatus] at hrun
      have hflight := inFlight_of_running hlive hknown hexit hpresent rfl hrun
      rw [hsteps]
      simpa [Plan.statuses, inFlight] using hflight
    · intro hleft
      by_cases hexit : result.exit.isFailure
      · exact hfinal hexit
      · rw [hstatus]
        refine finalStatus_of_current hlive ?_ hleft
        revert hknown
        cases hx : result.exit with
        | allTerminal | inFlight | drained => exact fun hknown => hknown.1
        | aborted =>
            exact fun hknown => absurd (hpresent.symm.trans hknown) (by decide)
        | timedOut => exact fun hknown => absurd rfl hknown
        | outOfFuel => exact fun hknown => hknown.elim
        | stopped | crashed | blocked =>
            rw [hx] at hexit
            exact absurd (by unfold LoopExit.isFailure; decide) hexit

/-- No load of the run shows an abort. -/
def NoCancel (oracle : Nat → PlanOracle) : Prop :=
  ∀ n planId fresh, oracle n (.load planId) = .ok (some fresh) →
    fresh.status ≠ .aborted

theorem NoCancel.next {oracle : Nat → PlanOracle} (h : NoCancel oracle)
    (n : Nat) (op : PlanOp) {view : RunView} (habsent : view.aborted = false) :
    (view.next op (oracle n op)).aborted = false := by
  cases op with
  | load planId =>
      have hshows : ∀ reply, oracle n (.load planId) = reply →
          Exchange.showsAbort ⟨.load planId, reply⟩ = false := by
        rintro (_ | _ | fresh) hreply
        · rfl
        · rfl
        · simp [Exchange.showsAbort, h n planId fresh hreply]
      simp [RunView.next, habsent, hshows _ rfl]
  | time | monotonic | newTaskId | save | git | inspect | pick | callStart
  | callEnd => exact habsent

namespace HonestyWitness

def chain : Plan :=
  { planId := "p"
    steps := [{ id := "a" }, { id := "b", dependsOn := ["a"] }] }

def behindSkipped : Plan :=
  { planId := "p"
    steps := [{ id := "a", status := skipped },
      { id := "b", dependsOn := ["a"] }] }

def fine (_ : Nat) : PlanOracle := calm { success := true, output := "out" }

theorem fine_noCancel : NoCancel fine := by
  intro n planId fresh h
  cases h

end HonestyWitness

end Voly
