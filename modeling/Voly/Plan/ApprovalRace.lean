/-
An approval beside a run of the same plan on one store, in every interleaving.
-/
import Voly.Plan.Approval
import Voly.Plan.Cancel

namespace Voly

open Python Interaction StepStatus Approval

/-- The two programs. -/
inductive ReviewParty where
  | runner | decider
deriving DecidableEq, Repr

@[reducible] def ReviewParty.Returns : ReviewParty → Type
  | .runner => Except PyError PlanRunResult × Plan
  | .decider => Except PyError ApprovalResult

@[reducible] def ReviewParty.View : ReviewParty → Type
  | .runner => RunView
  | .decider => DecideView

/-- Who made the latest save of a log. -/
def lastSaver {I : Type} (log : List (I × Exchange)) : Option I :=
  (log.find? fun entry => entry.2.isSave).map Prod.fst

theorem lastSaver_save {I : Type} {who : I} {exchange : Exchange}
    {log : List (I × Exchange)} (h : exchange.isSave = true) :
    lastSaver ((who, exchange) :: log) = some who := by
  simp [lastSaver, h]

theorem lastSaver_other {I : Type} {who : I} {exchange : Exchange}
    {log : List (I × Exchange)} (h : exchange.isSave = false) :
    lastSaver ((who, exchange) :: log) = lastSaver log := by
  simp [lastSaver, h]

section Pool

variable (config : RunnerConfig) (mode cwd : String) (timeout : Option Timeout)
  (plan : Plan) (stepId decision comment : String) (criteria : CriteriaCompiler)

/-- A run of the plan and a decision on one of its steps. -/
def reviewProcs : (who : ReviewParty) → Prog PlanOp PlanReply who.Returns
  | .runner => run config mode cwd timeout plan
  | .decider => Approval.decide plan.planId stepId decision comment

def reviewProtocol :
    (who : ReviewParty) → Protocol PlanOp PlanReply who.View
  | .runner => runProtocol config (config.runMode mode)
  | .decider => decideProtocol plan.planId stepId decision comment

def runAndDecide (files : String → Option Plan)
    (schedule : List (ReviewParty × PlanOracle)) :
    Pool PlanOp PlanReply ReviewParty (PlanWorld ReviewParty)
      ReviewParty.Returns :=
  Pool.run (serveStore criteria)
    ⟨⟨files, []⟩,
      reviewProcs config mode cwd timeout plan stepId decision comment⟩
    schedule

/-- The persisted plan has the step in the given status. -/
def FileShows (files : String → Option Plan) (planId stepId : String)
    (status : StepStatus) : Prop :=
  ∃ stored, files planId = some stored ∧ stored.statusOf stepId = some status

/-- The run holds the step parked, and the file shows the last writer's status.
-/
structure Reviewing (world : PlanWorld ReviewParty)
    (views : (who : ReviewParty) → who.View) : Prop where
  keyed : Keyed world.files
  planId : (views .runner).plan.planId = plan.planId
  parked : (views .runner).plan.statusOf stepId = some verifying
  loaded : ∀ found, (views .decider).loaded = some found →
    found.planId = plan.planId
  decided : lastSaver world.log = some .decider →
    FileShows world.files plan.planId stepId (desiredStatus decision)
  overwritten : lastSaver world.log = some .runner →
    FileShows world.files plan.planId stepId verifying
  unsaved : lastSaver world.log = none → (views .decider).saved = none

variable {config mode cwd timeout plan stepId decision comment criteria}

theorem FileShows.save {files : String → Option Plan} {saved : Plan}
    {planId : String} {status : StepStatus} (hplanId : saved.planId = planId)
    (hstatus : saved.statusOf stepId = some status) :
    FileShows (Function.update files saved.planId (some saved)) planId stepId
      status := by
  refine ⟨saved, ?_, hstatus⟩
  rw [hplanId, Function.update_self]

theorem parked_of_evolves {view : RunView} {runMode : String} {shown : Plan}
    (h : Evolves config runMode view shown)
    (hparked : view.plan.statusOf stepId = some verifying) :
    shown.statusOf stepId = some verifying := by
  obtain ⟨step, hget, hstatus⟩ := Option.map_eq_some_iff.mp hparked
  have hsame := h.untouched hget (by rw [hstatus]; decide)
  rw [Plan.statusOf, hsame, Option.map_some, hstatus]

section Serve

variable {world : PlanWorld ReviewParty}
  {views : (who : ReviewParty) → who.View}

section

variable (h : Reviewing plan stepId decision world views)
include h

theorem Reviewing.runner {op : PlanOp} {reply : PlanReply op}
    (hsave : Exchange.isSave ⟨op, reply⟩ = false)
    (hplanId : ((views .runner).next op reply).plan.planId = plan.planId)
    (hparked : ((views .runner).next op reply).plan.statusOf stepId =
      some verifying) :
    Reviewing plan stepId decision
      ⟨world.files, (.runner, ⟨op, reply⟩) :: world.log⟩
      (Function.update views .runner ((views .runner).next op reply)) where
  keyed := h.keyed
  planId := by
    rw [Function.update_self]
    exact hplanId
  parked := by
    rw [Function.update_self]
    exact hparked
  loaded := by
    rw [Function.update_of_ne (by decide)]
    exact h.loaded
  decided := by
    rw [lastSaver_other hsave]
    exact h.decided
  overwritten := by
    rw [lastSaver_other hsave]
    exact h.overwritten
  unsaved := by
    rw [lastSaver_other hsave, Function.update_of_ne (by decide)]
    exact h.unsaved

theorem reviewRunner_serves (op : PlanOp) (proposed : PlanReply op)
    (hallow : (runProtocol config (config.runMode mode)).allows
      (views .runner) op) :
    Reviewing plan stepId decision
      (serveStore criteria .runner world op proposed).2
      (Function.update views .runner ((views .runner).next op
        (serveStore criteria .runner world op proposed).1)) := by
  cases op with
  | save saved =>
      obtain ⟨_, hevolves, _⟩ := hallow
      have hplanId := hevolves.planId.trans h.planId
      have hparked := parked_of_evolves hevolves h.parked
      have hlast : lastSaver ((ReviewParty.runner,
          (⟨.save saved, .ok ()⟩ : Exchange)) :: world.log) = some .runner :=
        lastSaver_save rfl
      constructor
      · exact h.keyed.save saved
      · rw [Function.update_self]
        exact hplanId
      · rw [Function.update_self]
        exact hparked
      · rw [Function.update_of_ne (by decide)]
        exact h.loaded
      · intro hdecider
        exact absurd (hlast.symm.trans hdecider) (by decide)
      · intro _
        exact .save hplanId hparked
      · intro hnone
        exact absurd (hlast.symm.trans hnone) (by decide)
  | callStart step current instruction =>
      have hevolves := MayCall.evolves hallow
      exact h.runner rfl (hevolves.planId.trans h.planId)
        (parked_of_evolves hevolves h.parked)
  | load | time | monotonic | newTaskId | git | inspect | pick | callEnd =>
      exact h.runner rfl h.planId h.parked

theorem Reviewing.decider {op : PlanOp} {reply : PlanReply op}
    (hsave : Exchange.isSave ⟨op, reply⟩ = false)
    (hloaded : ∀ found, ((views .decider).next op reply).loaded = some found →
      found.planId = plan.planId)
    (hsaved : ((views .decider).next op reply).saved =
      (views .decider).saved) :
    Reviewing plan stepId decision
      ⟨world.files, (.decider, ⟨op, reply⟩) :: world.log⟩
      (Function.update views .decider ((views .decider).next op reply)) where
  keyed := h.keyed
  planId := by
    rw [Function.update_of_ne (by decide)]
    exact h.planId
  parked := by
    rw [Function.update_of_ne (by decide)]
    exact h.parked
  loaded := by
    rw [Function.update_self]
    exact hloaded
  decided := by
    rw [lastSaver_other hsave]
    exact h.decided
  overwritten := by
    rw [lastSaver_other hsave]
    exact h.overwritten
  unsaved := by
    rw [lastSaver_other hsave, Function.update_self, hsaved]
    exact h.unsaved

theorem reviewDecider_serves (op : PlanOp) (proposed : PlanReply op)
    (hallow : (decideProtocol plan.planId stepId decision comment).allows
      (views .decider) op) :
    Reviewing plan stepId decision
      (serveStore criteria .decider world op proposed).2
      (Function.update views .decider ((views .decider).next op
        (serveStore criteria .decider world op proposed).1)) := by
  cases op with
  | load planId =>
      obtain ⟨rfl, _⟩ := hallow
      change Reviewing plan stepId decision
        ⟨world.files, (.decider, ⟨.load plan.planId,
          readFile criteria world.files plan.planId⟩) :: world.log⟩
        (Function.update views .decider ((views .decider).next
          (.load plan.planId) (readFile criteria world.files plan.planId)))
      cases hread : readFile criteria world.files plan.planId with
      | error e => exact h.decider rfl h.loaded rfl
      | ok result =>
          cases result with
          | none => exact h.decider rfl h.loaded rfl
          | some fresh =>
              apply h.decider rfl ?_ rfl
              intro found hfound
              cases hfound
              obtain ⟨stored, hfile, rfl, _⟩ := readFile_some hread
              exact h.keyed plan.planId stored hfile
  | save saved =>
      obtain ⟨_, loaded, hloaded, hdecides⟩ := hallow
      have hlast : lastSaver ((ReviewParty.decider,
          (⟨.save saved, .ok ()⟩ : Exchange)) :: world.log) = some .decider :=
        lastSaver_save rfl
      constructor
      · exact h.keyed.save saved
      · rw [Function.update_of_ne (by decide)]
        exact h.planId
      · rw [Function.update_of_ne (by decide)]
        exact h.parked
      · rw [Function.update_self]
        exact h.loaded
      · intro _
        exact .save (hdecides.planId.trans (h.loaded loaded hloaded))
          hdecides.statusOf
      · intro hrunner
        exact absurd (hlast.symm.trans hrunner) (by decide)
      · intro hnone
        exact absurd (hlast.symm.trans hnone) (by decide)
  | time => exact h.decider rfl h.loaded rfl
  | monotonic | newTaskId | git | inspect | pick | callStart | callEnd =>
      exact hallow.elim

end

end Serve

theorem reviewing_serves :
    Pool.Serves (reviewProtocol config mode plan stepId decision comment)
      (serveStore criteria) (fun _ _ _ => True)
      (Reviewing plan stepId decision) := by
  intro world views who op proposed h hallow _
  cases who with
  | runner => exact ⟨trivial, reviewRunner_serves h op proposed hallow⟩
  | decider => exact ⟨trivial, reviewDecider_serves h op proposed hallow⟩

variable (stepId decision) in
def reviewResult : (who : ReviewParty) → who.Returns → who.View → Prop
  | .runner, _, _ => True
  | .decider, out, view => Told stepId decision out view

theorem runAndDecide_follows {files : String → Option Plan}
    (hkeyed : Keyed files) (hparked : plan.statusOf stepId = some verifying)
    (schedule : List (ReviewParty × PlanOracle)) :
    (runAndDecide config mode cwd timeout plan stepId decision comment criteria
      files schedule).Follows
        (reviewProtocol config mode plan stepId decision comment)
        (reviewResult stepId decision)
        (Reviewing plan stepId decision) := by
  apply Pool.run_follows reviewing_serves schedule (Pool.meets_true _ _ _)
  refine ⟨fun who => match who with
    | .runner => { plan }
    | .decider => {}, ?_, ?_⟩
  · exact ⟨hkeyed, rfl, hparked, fun _ hfound => (by cases hfound),
      fun hsome => (by cases hsome), fun hsome => (by cases hsome),
      fun _ => rfl⟩
  · rintro (_ | _)
    · have hrun : Script.wp (runProtocol config (config.runMode mode))
          (run config mode cwd timeout) (fun _ _ _ => True) plan { plan } :=
        wp_run config mode cwd timeout plan (fun _ _ _ _ => trivial)
          fun _ _ _ _ => trivial
      exact hrun
    · exact wp_decide plan.planId stepId decision comment

theorem Reviewing.kept_iff {world : PlanWorld ReviewParty}
    {views : (who : ReviewParty) → who.View}
    (h : Reviewing plan stepId decision world views)
    (hsaved : (views .decider).saved ≠ none) :
    FileShows world.files plan.planId stepId (desiredStatus decision) ↔
      lastSaver world.log = some .decider := by
  refine ⟨fun ⟨stored, hfile, hstatus⟩ => ?_, h.decided⟩
  cases hlast : lastSaver world.log with
  | none => exact absurd (h.unsaved hlast) hsaved
  | some who =>
      cases who with
      | decider => rfl
      | runner =>
          obtain ⟨stored', hfile', hstatus'⟩ := h.overwritten hlast
          cases hfile.symm.trans hfile'
          exact absurd (Option.some.inj (hstatus.symm.trans hstatus'))
            (desiredStatus_ne_verifying decision)

end Pool

/-- A decision taken while a step is parked is kept iff the run saves no more.
-/
theorem decision_kept_iff (config : RunnerConfig) (mode cwd : String)
    (timeout : Option Timeout) (plan : Plan) (stepId decision comment : String)
    (criteria : CriteriaCompiler) (files : String → Option Plan)
    (hkeyed : Keyed files) (hparked : plan.statusOf stepId = some verifying)
    (schedule : List (ReviewParty × PlanOracle)) (result : ApprovalResult)
    (hdone : (runAndDecide config mode cwd timeout plan stepId decision comment
      criteria files schedule).procs .decider = .done (.ok result))
    (hchanged : result.changed = true) :
    FileShows (runAndDecide config mode cwd timeout plan stepId decision comment
        criteria files schedule).world.files plan.planId stepId
        (desiredStatus decision) ↔
      lastSaver (runAndDecide config mode cwd timeout plan stepId decision
        comment criteria files schedule).world.log = some .decider := by
  obtain ⟨views, h, hprocs⟩ : Pool.Follows
      (reviewProtocol config mode plan stepId decision comment)
      (reviewResult stepId decision)
      (Reviewing plan stepId decision)
      (runAndDecide config mode cwd timeout plan stepId decision comment
        criteria files schedule) :=
    runAndDecide_follows hkeyed hparked schedule
  have htold := hprocs .decider
  rw [hdone] at htold
  have hsaved := (htold result rfl).2.1 hchanged
  exact h.kept_iff (by rw [hsaved]; exact Option.some_ne_none _)

namespace ApprovalRaceWitness

def gated : Plan :=
  { planId := "p"
    steps := [
      { id := "review", status := verifying,
        acceptance := [{ type := "human_review" }] },
      { id := "work" }] }

theorem none_drafted (_ : String) : ∀ check ∈ ([] : List AcceptanceCheck),
    check.type ∈ draftedCheckTypes :=
  List.forall_mem_nil _

def noDrafts : CriteriaCompiler := ⟨fun _ => [], none_drafted⟩

def fine : PlanOracle := calm { success := true, output := "out" }

def approveAfter (n : Nat) : Pool PlanOp PlanReply ReviewParty
    (PlanWorld ReviewParty) ReviewParty.Returns :=
  runAndDecide {} "" "" none gated "review" "approve" "" noDrafts
    (fun _ => none)
    (List.replicate n (.runner, fine) ++
      List.replicate 3 (.decider, fine) ++
      List.replicate 20 (.runner, fine))

def approved (pool : Pool PlanOp PlanReply ReviewParty
    (PlanWorld ReviewParty) ReviewParty.Returns) : Bool :=
  match pool.procs .decider with
  | .done (.ok result) => result.changed
  | _ => false

theorem approved_result {pool : Pool PlanOp PlanReply ReviewParty
    (PlanWorld ReviewParty) ReviewParty.Returns} (h : approved pool = true) :
    ∃ result, pool.procs .decider = .done (.ok result) ∧
      result.changed = true := by
  unfold approved at h
  split at h
  case h_1 result hdone => exact ⟨result, hdone, h⟩
  case h_2 => cases h

/-- An approval after the last save of the run is kept. -/
theorem approve_after_run_kept :
    (∀ who, ((approveAfter 17).procs who).isDone = true) ∧
    (∃ result, (approveAfter 17).procs .decider = .done (.ok result) ∧
      result.changed = true) ∧
    FileShows (approveAfter 17).world.files "p" "review" verified := by
  obtain ⟨result, hdone, hchanged⟩ := approved_result
    (show approved (approveAfter 17) = true by decide +kernel)
  refine ⟨by rintro (_ | _) <;> decide +kernel, ⟨result, hdone, hchanged⟩, ?_⟩
  exact (decision_kept_iff {} "" "" none gated "review" "approve" "" noDrafts
    (fun _ => none) (fun _ _ hfile => (by cases hfile)) (by decide) _ result
    hdone hchanged).mpr (by decide +kernel)

/-- An approval during the other branch's call is lost: the step waits again. -/
theorem approve_during_call_lost :
    (∀ who, ((approveAfter 10).procs who).isDone = true) ∧
    (∃ result, (approveAfter 10).procs .decider = .done (.ok result) ∧
      result.changed = true) ∧
    ¬ FileShows (approveAfter 10).world.files "p" "review" verified := by
  refine ⟨by rintro (_ | _) <;> decide +kernel,
    approved_result (by decide +kernel), ?_⟩
  rintro ⟨stored, hfile, hstatus⟩
  have hshown : ((approveAfter 10).world.files "p").map
      (fun plan => plan.statusOf "review") = some (some verifying) := by
    decide +kernel
  rw [hfile, Option.map_some, hstatus] at hshown
  cases hshown

end ApprovalRaceWitness

end Voly
