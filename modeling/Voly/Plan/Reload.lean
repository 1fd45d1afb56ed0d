/-
What a plan document looks like after it was saved and loaded.
-/
import Voly.Plan.Store
import Voly.Plan.Validate

namespace Voly

open Python Interaction StepStatus

/-- What `from_dict` needs of a document. -/
structure Plan.Storable (plan : Plan) : Prop where
  planId : plan.planId ≠ ""
  stepId : ∀ step ∈ plan.steps, step.id ≠ ""
  checks : ∀ step ∈ plan.steps, ∀ check ∈ step.acceptance, check.type ≠ ""

/-- A check after a round trip. -/
def AcceptanceCheck.normal (check : AcceptanceCheck) : AcceptanceCheck :=
  { check with
    expectExit := if check.run = "" then 0 else check.expectExit
    maxLines := if 0 < check.maxLines then check.maxLines else 0
    approvedMaxLines :=
      if 0 < check.approvedMaxLines then check.approvedMaxLines else 0 }

def PlanStep.reloadedChecks (criteria : CriteriaCompiler) (step : PlanStep) :
    List AcceptanceCheck :=
  if step.acceptance = [] ∧ strip step.successCriteria ≠ "" then
    criteria.compile step.successCriteria
  else step.acceptance.map AcceptanceCheck.normal

/-- A step after a round trip. -/
def PlanStep.reloaded (criteria : CriteriaCompiler) (step : PlanStep) :
    PlanStep :=
  { step with
    role := orElse step.role "developer"
    acceptance := step.reloadedChecks criteria }

/-- A plan after a round trip. -/
def Plan.reloaded (criteria : CriteriaCompiler) (plan : Plan) : Plan :=
  { plan with
    steps := plan.steps.map (PlanStep.reloaded criteria)
    schemaVersion :=
      if plan.schemaVersion = 0 then Voly.schemaVersion
      else plan.schemaVersion }

theorem reloadAcceptance_eq (checks : List AcceptanceCheck) :
    (∃ e, reloadAcceptance checks = .error e ∧
      ∃ check ∈ checks, check.type = "") ∨
    (reloadAcceptance checks = .ok (checks.map AcceptanceCheck.normal) ∧
      ∀ check ∈ checks, check.type ≠ "") := by
  induction checks with
  | nil => exact Or.inr ⟨rfl, by simp⟩
  | cons check rest ih =>
      unfold reloadAcceptance AcceptanceCheck.reload
      by_cases htype : check.type = ""
      · exact Or.inl ⟨_, by rw [if_pos htype], check, List.mem_cons_self, htype⟩
      · rw [if_neg htype]
        rcases ih with ⟨e, he, bad, hbad, hempty⟩ | ⟨hok, hrest⟩
        · exact Or.inl ⟨e, by rw [he], bad, List.mem_cons_of_mem _ hbad, hempty⟩
        · exact Or.inr ⟨by rw [hok]; rfl, List.forall_mem_cons.mpr
            ⟨htype, hrest⟩⟩

theorem reloadSteps_eq (criteria : CriteriaCompiler) (steps : List PlanStep) :
    (∃ e, reloadSteps criteria steps = .error e ∧
      ∃ step ∈ steps, step.id = "" ∨
        ∃ check ∈ step.acceptance, check.type = "") ∨
    (reloadSteps criteria steps =
        .ok (steps.map (PlanStep.reloaded criteria)) ∧
      ∀ step ∈ steps, step.id ≠ "" ∧
        ∀ check ∈ step.acceptance, check.type ≠ "") := by
  induction steps with
  | nil => exact Or.inr ⟨rfl, by simp⟩
  | cons step rest ih =>
      unfold reloadSteps PlanStep.reload
      by_cases hid : step.id = ""
      · exact Or.inl ⟨_, by rw [if_pos hid], step, List.mem_cons_self,
          Or.inl hid⟩
      · rw [if_neg hid]
        rcases reloadAcceptance_eq step.acceptance with
          ⟨e, he, hbad⟩ | ⟨hok, hchecks⟩
        · exact Or.inl ⟨e, by rw [he], step, List.mem_cons_self, Or.inr hbad⟩
        · rw [hok]
          rcases ih with ⟨e, he, bad, hbad, hwhy⟩ | ⟨hrestOk, hrest⟩
          · exact Or.inl ⟨e, by simp only [he], bad,
              List.mem_cons_of_mem _ hbad, hwhy⟩
          · refine Or.inr ⟨?_, List.forall_mem_cons.mpr
              ⟨⟨hid, hchecks⟩, hrest⟩⟩
            simp only [hrestOk, List.map_cons, PlanStep.reloaded,
              PlanStep.reloadedChecks, List.map_eq_nil_iff]

theorem Plan.reload_eq (criteria : CriteriaCompiler) (plan : Plan) :
    (∃ e, plan.reload criteria = .error e ∧ ¬ plan.Storable) ∨
    (plan.reload criteria = .ok (plan.reloaded criteria) ∧ plan.Storable) := by
  unfold Plan.reload
  by_cases hid : plan.planId = ""
  · exact Or.inl ⟨_, by rw [if_pos hid], fun h => h.planId hid⟩
  · rw [if_neg hid]
    rcases reloadSteps_eq criteria plan.steps with
      ⟨e, he, step, hstep, hbad⟩ | ⟨hok, hsteps⟩
    · refine Or.inl ⟨e, by rw [he], fun h => ?_⟩
      rcases hbad with hempty | ⟨check, hcheck, hempty⟩
      · exact h.stepId step hstep hempty
      · exact h.checks step hstep check hcheck hempty
    · exact Or.inr ⟨by rw [hok]; rfl, hid, fun step hstep => (hsteps step hstep).1,
        fun step hstep => (hsteps step hstep).2⟩

theorem Plan.reload_ok {criteria : CriteriaCompiler} {plan plan' : Plan}
    (h : plan.reload criteria = .ok plan') :
    plan' = plan.reloaded criteria ∧ plan.Storable := by
  rcases plan.reload_eq criteria with ⟨e, he, _⟩ | ⟨hok, hstorable⟩
  · rw [he] at h
    cases h
  · rw [hok] at h
    exact ⟨(Except.ok.inj h).symm, hstorable⟩

theorem Plan.Storable.reload {plan : Plan} (h : plan.Storable)
    (criteria : CriteriaCompiler) :
    plan.reload criteria = .ok (plan.reloaded criteria) := by
  rcases plan.reload_eq criteria with ⟨e, _, hnot⟩ | ⟨hok, _⟩
  · exact absurd h hnot
  · exact hok

theorem PlanStep.reloadedChecks_type {criteria : CriteriaCompiler}
    {step : PlanStep} (h : ∀ check ∈ step.acceptance, check.type ≠ "") :
    ∀ check ∈ step.reloadedChecks criteria, check.type ≠ "" := by
  intro check hcheck
  unfold PlanStep.reloadedChecks at hcheck
  split at hcheck
  · have hdrafted := criteria.drafted _ check hcheck
    intro hempty
    rw [hempty] at hdrafted
    exact absurd hdrafted (by decide)
  · obtain ⟨original, hmem, rfl⟩ := List.mem_map.mp hcheck
    exact h original hmem

theorem Plan.Storable.reloaded {plan : Plan} (h : plan.Storable)
    (criteria : CriteriaCompiler) : (plan.reloaded criteria).Storable where
  planId := h.planId
  stepId := by
    intro step hstep
    obtain ⟨original, hmem, rfl⟩ := List.mem_map.mp hstep
    exact h.stepId original hmem
  checks := by
    intro step hstep
    obtain ⟨original, hmem, rfl⟩ := List.mem_map.mp hstep
    exact PlanStep.reloadedChecks_type (h.checks original hmem)

theorem Plan.Storable.of_steps {plan plan' : Plan} (h : plan.Storable)
    (hplanId : plan'.planId = plan.planId)
    (hsteps : plan'.steps = plan.steps) : plan'.Storable := by
  refine ⟨by rw [hplanId]; exact h.planId, ?_, ?_⟩
  · rw [hsteps]
    exact h.stepId
  · rw [hsteps]
    exact h.checks

section

variable (criteria : CriteriaCompiler) (plan : Plan)

end

/-- Every file is stored under the id of its plan, as `save` does. -/
def Keyed (files : String → Option Plan) : Prop :=
  ∀ planId plan, files planId = some plan → plan.planId = planId

section

variable {files : String → Option Plan} {criteria : CriteriaCompiler}

theorem Keyed.save (h : Keyed files) (plan : Plan) :
    Keyed (Function.update files plan.planId (some plan)) := by
  intro planId found hfound
  by_cases hid : planId = plan.planId
  · subst hid
    rw [Function.update_self] at hfound
    rw [← Option.some.inj hfound]
  · rw [Function.update_of_ne hid] at hfound
    exact h planId found hfound

theorem readFile_some {planId : String} {plan : Plan}
    (h : readFile criteria files planId = .ok (some plan)) :
    ∃ stored, files planId = some stored ∧
      plan = stored.reloaded criteria ∧ stored.Storable := by
  unfold readFile at h
  split at h
  case h_1 => cases h
  case h_2 stored hstored =>
    split at h
    case h_1 => cases h
    case h_2 reloaded hreload =>
      obtain ⟨heq, hstorable⟩ := Plan.reload_ok hreload
      cases h
      exact ⟨stored, hstored, heq, hstorable⟩

theorem readFile_of_storable {planId : String} {stored : Plan}
    (hfile : files planId = some stored) (h : stored.Storable) :
    readFile criteria files planId = .ok (some (stored.reloaded criteria)) := by
  unfold readFile
  rw [hfile]
  simp only [h.reload criteria]

end

section Own

variable {I : Type} [DecidableEq I]

/-- The exchanges of one program, latest first. -/
def own (who : I) : List (I × Exchange) → List Exchange
  | [] => []
  | (other, exchange) :: rest =>
      if other = who then exchange :: own who rest else own who rest

@[simp] theorem own_nil (who : I) : own who [] = [] := rfl

@[simp] theorem own_self (who : I) (exchange : Exchange)
    (rest : List (I × Exchange)) :
    own who ((who, exchange) :: rest) = exchange :: own who rest := by
  simp [own]

theorem own_other {who other : I} (h : other ≠ who) (exchange : Exchange)
    (rest : List (I × Exchange)) :
    own who ((other, exchange) :: rest) = own who rest := by
  simp [own, h]

end Own

end Voly
