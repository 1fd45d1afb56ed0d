/-
When the verdict of an evaluation can be trusted, whatever the run and the
feedback.
-/
import Voly.Evaluation.Engine

namespace Voly

open Python

def EvalReport.afterFeedback (report : EvalReport) (kinds : List String) :
    EvalReport :=
  kinds.foldl (fun report kind => (applyHumanFeedback report kind).2) report

def EvalCheckResult.reviseAll (kinds : List String)
    (check : EvalCheckResult) : EvalCheckResult :=
  kinds.foldl EvalCheckResult.revise check

/-- The requirements up to the first one that ends the loop. -/
def evaluated (run : EvalRun) : List EvalRequirement → List EvalRequirement
  | [] => []
  | requirement :: rest =>
      requirement :: if requirement.stops run then [] else evaluated run rest

/-- The checks of each requirement, as they stand after feedback. -/
def checkBlocks (policy : EvalPolicy) (run : EvalRun) (kinds : List String) :
    List (List EvalCheckResult) :=
  (evaluated run policy.requirements).map fun requirement =>
    (requirement.evaluate run).map (·.reviseAll kinds)

def checksOf (policy : EvalPolicy) (run : EvalRun) (kinds : List String)
    (index : Nat) : List EvalCheckResult :=
  (checkBlocks policy run kinds)[index]?.getD []

/-- A check of neither a human nor the judge. -/
def EvalCheckResult.deterministic (check : EvalCheckResult) : Prop :=
  check.evaluator ≠ "human_review" ∧ check.evaluator ≠ "llm_judge"

/-- A verified report has only passed required checks; feedback passes no failed
one. -/
structure VerdictSound (policy : EvalPolicy) (run : EvalRun)
    (kinds : List String) : Prop where
  verified :
    ((evaluateRun policy run).afterFeedback kinds).state =
        "verified_success" →
      (∃ requirement ∈ policy.requirements, requirement.required = true) ∧
      ∀ index requirement, policy.requirements[index]? = some requirement →
        requirement.required = true →
        checksOf policy run kinds index ≠ [] ∧
          ∀ check ∈ checksOf policy run kinds index, check.status = "passed"
  deterministic : ∀ check ∈ (evaluateRun policy run).checks,
    check.deterministic → check.status = "failed" →
      (check.reviseAll kinds).status = "failed"

def JudgeCall.status : JudgeCall → String
  | .absent => "skipped"
  | .raises => "skipped"
  | .answers status _ _ => status

/-- The status does not keep a report from being verified. -/
def countsAsPassed (status : String) : Bool :=
  !(["failed", "error", "pending", "skipped"].contains status)

def knownEvaluators : List String :=
  ["executor_success", "safety_policy", "file_changes", "trajectory_policy",
    "baseline_replay", "markdown_links", "test_artifacts",
    "changed_security_scan", "human_review"]

def EvalRequirement.passable (judge : JudgeCall)
    (requirement : EvalRequirement) : Bool :=
  if requirement.evaluator = "llm_judge" then countsAsPassed judge.status
  else knownEvaluators.contains requirement.evaluator

/-- Some run meets all required requirements, and there is one. -/
structure MayVerify (judge : JudgeCall) (requirements : List EvalRequirement) :
    Prop where
  some_required : ∃ requirement ∈ requirements, requirement.required = true
  passable : ∀ requirement ∈ requirements, requirement.required = true →
    requirement.passable judge = true

/-- A judge that has not passed the run is required. -/
def Misjudged (judge : JudgeCall) (requirements : List EvalRequirement) :
    Prop :=
  judge.status ≠ "passed" ∧ ∃ requirement ∈ requirements,
    requirement.required = true ∧ requirement.evaluator = "llm_judge"

/-- The judge's status is known, and no optional executor stands between
required. -/
structure Reliable (judge : JudgeCall) (requirements : List EvalRequirement) :
    Prop where
  judged : MayVerify judge requirements → ¬Misjudged judge requirements
  stopped : ∀ front last rest, requirements = front ++ last :: rest →
    (∀ requirement ∈ front, requirement.evaluator ≠ "executor_success") →
    last.evaluator = "executor_success" → last.required = false →
    MayVerify judge front →
      ¬Misjudged judge front ∧
        ∀ requirement ∈ rest, requirement.required = false

section Loop

variable (run : EvalRun) (requirements : List EvalRequirement)

theorem evaluateRequirements_eq :
    evaluateRequirements run requirements =
      ((evaluated run requirements).map (·.evaluate run)).flatten := by
  induction requirements with
  | nil => rfl
  | cons requirement rest ih =>
      by_cases hstops : requirement.stops run = true
      · simp [evaluateRequirements, evaluated, hstops]
      · simp [evaluateRequirements, evaluated, hstops, ih]

/-- The loop evaluates all, or ends at the first executor that failed. -/
theorem evaluated_cases :
    evaluated run requirements = requirements ∨
    ∃ front last rest, requirements = front ++ last :: rest ∧
      evaluated run requirements = front ++ [last] ∧
      (∀ requirement ∈ front, requirement.evaluator ≠ "executor_success") ∧
      last.evaluator = "executor_success" ∧ run.success = false := by
  induction requirements with
  | nil => exact Or.inl rfl
  | cons requirement rest ih =>
      by_cases hstops : requirement.stops run = true
      · have hfailed := hstops
        simp only [EvalRequirement.stops, Bool.and_eq_true, decide_eq_true_eq,
          Bool.not_eq_true'] at hfailed
        refine Or.inr ⟨[], requirement, rest, rfl, ?_, by simp, hfailed.1,
          hfailed.2⟩
        simp [evaluated, hstops]
      · rcases ih with hall |
          ⟨front, last, others, hrest, hevaluated, hfront, hlast, hsuccess⟩
        · exact Or.inl (by simp [evaluated, hstops, hall])
        · refine Or.inr ⟨requirement :: front, last, others, by simp [hrest],
            by simp [evaluated, hstops, hevaluated], ?_, hlast, hsuccess⟩
          intro other hother
          rcases List.mem_cons.mp hother with hother | hother
          · subst hother
            simpa [EvalRequirement.stops, hsuccess] using hstops
          · exact hfront other hother

theorem evaluated_of_failure {run : EvalRun} (hsuccess : run.success = false)
    {front rest : List EvalRequirement} {last : EvalRequirement}
    (hfront : ∀ requirement ∈ front,
      requirement.evaluator ≠ "executor_success")
    (hlast : last.evaluator = "executor_success") :
    evaluated run (front ++ last :: rest) = front ++ [last] := by
  induction front with
  | nil => simp [evaluated, EvalRequirement.stops, hlast, hsuccess]
  | cons requirement front ih =>
      have hother := hfront requirement (by simp)
      have hrest := ih fun other hother => hfront other (by simp [hother])
      simp [evaluated, EvalRequirement.stops, hother, hrest]

theorem evaluated_of_success {run : EvalRun} (hsuccess : run.success = true) :
    evaluated run requirements = requirements := by
  induction requirements with
  | nil => rfl
  | cons requirement rest ih =>
      simp [evaluated, EvalRequirement.stops, hsuccess, ih]

end Loop

section Checks

variable {run : EvalRun} {requirement : EvalRequirement}
variable {check : EvalCheckResult}

/-- The statuses of all checks but the judge's. -/
def ownStatuses : List String :=
  ["passed", "failed", "skipped", "pending", "error"]

@[simp] theorem found_status (finding : EvalFinding) :
    (requirement.found finding).status =
      if finding.ok then "passed" else "failed" := rfl

theorem found_status_mem (finding : EvalFinding) :
    (requirement.found finding).status ∈ ownStatuses := by
  cases hok : finding.ok <;> simp [hok, ownStatuses]

theorem replayed_status_mem (original : BaselineCheck) :
    (requirement.replayed run original).status ∈ ownStatuses := by
  unfold EvalRequirement.replayed
  dsimp only
  split_ifs
  · simp [EvalRequirement.result, ownStatuses]
  · simp [EvalRequirement.result, ownStatuses]
  · exact found_status_mem _

theorem judgedBy_status (judge : JudgeCall) :
    (requirement.judgedBy judge).status = judge.status := by
  cases judge <;> rfl

theorem evaluate_ne_nil (run : EvalRun) (requirement : EvalRequirement) :
    requirement.evaluate run ≠ [] := by
  unfold EvalRequirement.evaluate
  split
  case h_5 =>
    split
    · simp
    · next hbaseline => simpa using hbaseline
  all_goals simp

structure Adds (run : EvalRun) (requirement : EvalRequirement)
    (check : EvalCheckResult) : Prop where
  evaluator : check.evaluator = requirement.evaluator
  required : check.required = requirement.required
  judged : requirement.evaluator = "llm_judge" →
    check.status = run.judge.status
  own : requirement.evaluator ≠ "llm_judge" → check.status ∈ ownStatuses
  unknown : requirement.evaluator ≠ "llm_judge" →
    requirement.evaluator ∉ knownEvaluators → check.status = "error"

theorem Adds.of_known (hknown : requirement.evaluator ∈ knownEvaluators)
    (hevaluator : check.evaluator = requirement.evaluator)
    (hrequired : check.required = requirement.required)
    (hstatus : check.status ∈ ownStatuses) : Adds run requirement check := by
  refine ⟨hevaluator, hrequired, ?_, fun _ => hstatus,
    fun _ hunknown => absurd hknown hunknown⟩
  intro hjudge
  simp [hjudge, knownEvaluators] at hknown

theorem evaluate_adds (h : check ∈ requirement.evaluate run) :
    Adds run requirement check := by
  unfold EvalRequirement.evaluate at h
  split at h
  case h_5 heq =>
    have hknown : requirement.evaluator ∈ knownEvaluators := by
      simp [heq, knownEvaluators]
    split at h
    · rw [List.mem_singleton.mp h]
      exact .of_known hknown rfl rfl (by simp [EvalRequirement.result,
        ownStatuses])
    · obtain ⟨original, _, rfl⟩ := List.mem_map.mp h
      refine .of_known hknown ?_ ?_ (replayed_status_mem original)
      · unfold EvalRequirement.replayed
        dsimp only
        split_ifs <;> rfl
      · unfold EvalRequirement.replayed
        dsimp only
        split_ifs <;> rfl
  case h_10 heq =>
    rw [List.mem_singleton.mp h]
    have hcarries : (requirement.judgedBy run.judge).evaluator =
        requirement.evaluator ∧ (requirement.judgedBy run.judge).required =
          requirement.required := by
      cases run.judge <;> exact ⟨rfl, rfl⟩
    exact ⟨hcarries.1, hcarries.2, fun _ => judgedBy_status run.judge,
      fun hother => absurd heq hother, fun hother => absurd heq hother⟩
  case h_11 =>
    rw [List.mem_singleton.mp h]
    refine ⟨rfl, rfl, ?_, ?_, fun _ _ => rfl⟩
    · exact fun heq => absurd heq (by assumption)
    · exact fun _ => by simp [EvalRequirement.result, ownStatuses]
  case h_8 heq =>
    rw [List.mem_singleton.mp h]
    refine .of_known (by simp [heq, knownEvaluators]) rfl rfl ?_
    cases hscan : run.securityScan.1 <;>
      simp [EvalRequirement.result, ScanStatus.text, ownStatuses]
  case h_9 heq =>
    rw [List.mem_singleton.mp h]
    exact .of_known (by simp [heq, knownEvaluators]) rfl rfl
      (by simp [EvalRequirement.result, ownStatuses])
  all_goals
    rw [List.mem_singleton.mp h]
    exact .of_known (by simp [*, knownEvaluators]) rfl rfl
      (found_status_mem _)

end Checks

section Feedback

variable (kinds : List String) (check : EvalCheckResult)

@[simp] theorem reviseAll_evaluator :
    (check.reviseAll kinds).evaluator = check.evaluator := by
  induction kinds generalizing check with
  | nil => rfl
  | cons kind rest ih =>
      exact (ih (check.revise kind)).trans (check.revise_evaluator kind)

@[simp] theorem reviseAll_required :
    (check.reviseAll kinds).required = check.required := by
  induction kinds generalizing check with
  | nil => rfl
  | cons kind rest ih =>
      exact (ih (check.revise kind)).trans (check.revise_required kind)

theorem reviseAll_status (h : check.evaluator ≠ "human_review") :
    (check.reviseAll kinds).status = check.status := by
  induction kinds generalizing check with
  | nil => rfl
  | cons kind rest ih =>
      have hrest := ih (check.revise kind) (by simpa using h)
      exact hrest.trans (check.revise_status kind h)

theorem reviseAll_status_mem (h : check.status ∈ ownStatuses) :
    (check.reviseAll kinds).status ∈ ownStatuses := by
  induction kinds generalizing check with
  | nil => exact h
  | cons kind rest ih =>
      apply ih
      by_cases hreview : check.evaluator = "human_review"
      · rw [check.revise_review kind hreview]
        split <;> simp [ownStatuses]
      · rwa [check.revise_status kind hreview]

variable (report : EvalReport)

theorem afterFeedback_checks : (report.afterFeedback kinds).checks =
    report.checks.map (·.reviseAll kinds) := by
  induction kinds generalizing report with
  | nil =>
      have hnone : (fun check : EvalCheckResult => check.reviseAll []) = id :=
        rfl
      simp [EvalReport.afterFeedback, hnone]
  | cons kind rest ih =>
      refine (ih (applyHumanFeedback report kind).2).trans ?_
      simp only [applyHumanFeedback, List.map_map]
      rfl

def stateOf (statuses : List String) : String :=
  if statuses.any ["failed", "error"].contains then "soft_failure"
  else if statuses.isEmpty || statuses.any ["pending", "skipped"].contains then
    "partial_success"
  else "verified_success"

def requiredStatuses (checks : List EvalCheckResult) : List String :=
  (checks.filter (·.required)).map (·.status)

theorem finalState_eq (checks : List EvalCheckResult) :
    finalState checks = stateOf (requiredStatuses checks) := by
  simp only [finalState, stateOf, requiredStatuses, List.any_map,
    List.isEmpty_map]
  rfl

theorem finalState_congr {checks : List EvalCheckResult}
    {f : EvalCheckResult → EvalCheckResult}
    (hrequired : ∀ check ∈ checks, (f check).required = check.required)
    (hstatus : ∀ check ∈ checks, (f check).status = check.status) :
    finalState (checks.map f) = finalState checks := by
  have hstatuses : requiredStatuses (checks.map f) =
      requiredStatuses checks := by
    unfold requiredStatuses
    induction checks with
    | nil => rfl
    | cons check rest ih =>
        have hrest := ih (fun other hother => hrequired other (by simp [hother]))
          (fun other hother => hstatus other (by simp [hother]))
        have hsame := hrequired check (by simp)
        cases hflag : check.required with
        | true => simp [hsame, hflag, hstatus check (by simp), hrest]
        | false => simp [hsame, hflag, hrest]
  rw [finalState_eq, hstatuses, finalState_eq]

theorem stateOf_eq_verified_iff (statuses : List String) :
    stateOf statuses = "verified_success" ↔
      statuses ≠ [] ∧ ∀ status ∈ statuses, countsAsPassed status = true := by
  constructor
  · intro h
    unfold stateOf at h
    split at h
    · exact absurd h (by decide)
    · next hfailed =>
        split at h
        · exact absurd h (by decide)
        · next hopen =>
            simp only [List.any_eq_true, not_exists, not_and] at hfailed
            simp only [Bool.or_eq_true, List.isEmpty_iff, List.any_eq_true,
              not_or, not_exists, not_and] at hopen
            refine ⟨hopen.1, fun status hstatus => ?_⟩
            have hnot := hfailed status hstatus
            have hdecided := hopen.2 status hstatus
            simp only [List.contains_iff_mem, List.mem_cons,
              List.not_mem_nil, or_false, not_or] at hnot hdecided
            simp [countsAsPassed, hnot, hdecided]
  · rintro ⟨hsome, hall⟩
    have hfailed : statuses.any ["failed", "error"].contains = false := by
      simp only [List.any_eq_false]
      intro status hstatus hmem
      have hcounts := hall status hstatus
      simp only [List.contains_iff_mem, List.mem_cons, List.not_mem_nil,
        or_false] at hmem
      rcases hmem with rfl | rfl <;> cases hcounts
    have hopen : statuses.any ["pending", "skipped"].contains = false := by
      simp only [List.any_eq_false]
      intro status hstatus hmem
      have hcounts := hall status hstatus
      simp only [List.contains_iff_mem, List.mem_cons, List.not_mem_nil,
        or_false] at hmem
      rcases hmem with rfl | rfl <;> cases hcounts
    simp [stateOf, hfailed, hopen, hsome]

theorem afterFeedback_state (h : report.state = finalState report.checks) :
    (report.afterFeedback kinds).state =
      finalState (report.afterFeedback kinds).checks := by
  induction kinds generalizing report with
  | nil => exact h
  | cons kind rest ih =>
      apply ih
      simp only [applyHumanFeedback]
      split
      · rfl
      · next hchanged =>
          rw [h]
          refine (finalState_congr ?_ ?_).symm
          · intro check _
            exact check.revise_required kind
          · intro check hcheck
            apply check.revise_status
            intro hreview
            apply hchanged
            simp only [List.any_eq_true]
            exact ⟨check, hcheck, by simp [hreview]⟩

end Feedback

/-- Verified means that some check is required, and that no status of a
required one tells against it. -/
theorem finalState_eq_verified_iff (checks : List EvalCheckResult) :
    finalState checks = "verified_success" ↔
      (∃ check ∈ checks, check.required = true) ∧
      ∀ check ∈ checks, check.required = true →
        countsAsPassed check.status = true := by
  rw [finalState_eq, stateOf_eq_verified_iff]
  have hmem : ∀ status, status ∈ requiredStatuses checks ↔
      ∃ check ∈ checks, check.required = true ∧ check.status = status := by
    intro status
    simp [requiredStatuses, and_assoc]
  constructor
  · rintro ⟨hsome, hall⟩
    obtain ⟨status, hstatus⟩ := List.exists_mem_of_ne_nil _ hsome
    obtain ⟨check, hcheck, hrequired, _⟩ := (hmem status).mp hstatus
    refine ⟨⟨check, hcheck, hrequired⟩, ?_⟩
    intro other hother hflag
    exact hall _ ((hmem _).mpr ⟨other, hother, hflag, rfl⟩)
  · rintro ⟨⟨check, hcheck, hrequired⟩, hall⟩
    constructor
    · exact List.ne_nil_of_mem
        ((hmem _).mpr ⟨check, hcheck, hrequired, rfl⟩)
    · intro status hstatus
      obtain ⟨other, hother, hflag, rfl⟩ := (hmem status).mp hstatus
      exact hall other hother hflag

section Verified

variable (policy : EvalPolicy) (run : EvalRun) (kinds : List String)

theorem checkBlocks_flatten : (checkBlocks policy run kinds).flatten =
    ((evaluateRun policy run).afterFeedback kinds).checks := by
  rw [afterFeedback_checks]
  simp only [evaluateRun, checkBlocks, evaluateRequirements_eq,
    List.map_flatten, List.map_map]
  rfl

/-- A report is verified exactly when something is required and no required
check tells against it. -/
theorem verified_iff :
    ((evaluateRun policy run).afterFeedback kinds).state =
        "verified_success" ↔
      (∃ requirement ∈ evaluated run policy.requirements,
        requirement.required = true) ∧
      ∀ requirement ∈ evaluated run policy.requirements,
        requirement.required = true → ∀ check ∈ requirement.evaluate run,
          countsAsPassed (check.reviseAll kinds).status = true := by
  rw [afterFeedback_state kinds _ rfl, finalState_eq_verified_iff,
    ← checkBlocks_flatten]
  simp only [checkBlocks, List.mem_flatten, List.mem_map]
  constructor
  · rintro ⟨⟨check, ⟨block, ⟨requirement, hmem, rfl⟩, hcheck⟩, hrequired⟩,
      hall⟩
    obtain ⟨first, hfirst, rfl⟩ := List.mem_map.mp hcheck
    rw [reviseAll_required, (evaluate_adds hfirst).required] at hrequired
    refine ⟨⟨requirement, hmem, hrequired⟩, ?_⟩
    intro other hother hflag held hheld
    apply hall _ ⟨_, ⟨other, hother, rfl⟩, List.mem_map_of_mem hheld⟩
    rw [reviseAll_required, (evaluate_adds hheld).required]
    exact hflag
  · rintro ⟨⟨requirement, hmem, hrequired⟩, hall⟩
    obtain ⟨first, hfirst⟩ := List.exists_mem_of_ne_nil _
      (evaluate_ne_nil run requirement)
    refine ⟨⟨_, ⟨_, ⟨requirement, hmem, rfl⟩, List.mem_map_of_mem hfirst⟩, ?_⟩,
      ?_⟩
    · rw [reviseAll_required, (evaluate_adds hfirst).required]
      exact hrequired
    · rintro check ⟨block, ⟨other, hother, rfl⟩, hcheck⟩ hflag
      obtain ⟨held, hheld, rfl⟩ := List.mem_map.mp hcheck
      rw [reviseAll_required, (evaluate_adds hheld).required] at hflag
      exact hall other hother hflag held hheld

theorem checksOf_evaluated {index : Nat} {requirement : EvalRequirement}
    (h : (evaluated run policy.requirements)[index]? = some requirement) :
    checksOf policy run kinds index =
      (requirement.evaluate run).map (·.reviseAll kinds) := by
  simp [checksOf, checkBlocks, h]

theorem checksOf_unevaluated {index : Nat}
    (h : (evaluated run policy.requirements)[index]? = none) :
    checksOf policy run kinds index = [] := by
  simp [checksOf, checkBlocks, h]

variable {policy run kinds} {requirement : EvalRequirement}

theorem passable_of_counts
    (h : ∀ check ∈ requirement.evaluate run,
      countsAsPassed (check.reviseAll kinds).status = true) :
    requirement.passable run.judge = true := by
  obtain ⟨check, hcheck⟩ := List.exists_mem_of_ne_nil _
    (evaluate_ne_nil run requirement)
  have hadds := evaluate_adds hcheck
  have hcounts := h check hcheck
  unfold EvalRequirement.passable
  split
  · next hjudge =>
      rw [reviseAll_status kinds check (by simp [hadds.evaluator, hjudge]),
        hadds.judged hjudge] at hcounts
      exact hcounts
  · next hjudge =>
      rw [List.contains_iff_mem]
      by_contra hunknown
      have hreview : check.evaluator ≠ "human_review" := by
        rw [hadds.evaluator]
        intro hsame
        exact hunknown (by simp [hsame, knownEvaluators])
      rw [reviseAll_status kinds check hreview,
        hadds.unknown hjudge hunknown] at hcounts
      cases hcounts

theorem passed_of_counts {status : String} (hown : status ∈ ownStatuses)
    (hcounts : countsAsPassed status = true) : status = "passed" := by
  simp only [ownStatuses, List.mem_cons, List.not_mem_nil, or_false] at hown
  rcases hown with rfl | rfl | rfl | rfl | rfl
  · rfl
  all_goals cases hcounts

theorem passed_of_not_misjudged
    (hcounts : ∀ check ∈ requirement.evaluate run,
      countsAsPassed (check.reviseAll kinds).status = true)
    (hjudge : requirement.evaluator = "llm_judge" →
      run.judge.status = "passed") :
    ∀ check ∈ requirement.evaluate run,
      (check.reviseAll kinds).status = "passed" := by
  intro check hcheck
  have hadds := evaluate_adds hcheck
  by_cases hevaluator : requirement.evaluator = "llm_judge"
  · rw [reviseAll_status kinds check (by simp [hadds.evaluator, hevaluator]),
      hadds.judged hevaluator]
    exact hjudge hevaluator
  · exact passed_of_counts
      (reviseAll_status_mem kinds check (hadds.own hevaluator))
      (hcounts check hcheck)

theorem optional_of_failure (hsuccess : run.success = false)
    (hexecutor : requirement.evaluator = "executor_success")
    (hcounts : requirement.required = true →
      ∀ check ∈ requirement.evaluate run,
        countsAsPassed (check.reviseAll kinds).status = true) :
    requirement.required = false := by
  by_contra hrequired
  have hmem : requirement.found ⟨false, "executor failed", []⟩ ∈
      requirement.evaluate run := by
    simp [EvalRequirement.evaluate, hexecutor, hsuccess]
  have hcount := hcounts (by simpa using hrequired) _ hmem
  rw [reviseAll_status kinds _ (by
    simp [EvalRequirement.found, EvalRequirement.result, hexecutor])] at hcount
  cases hcount

theorem checksOf_passed {index : Nat}
    (hat : (evaluated run policy.requirements)[index]? = some requirement)
    (hcounts : ∀ check ∈ requirement.evaluate run,
      countsAsPassed (check.reviseAll kinds).status = true)
    (hjudge : requirement.evaluator = "llm_judge" →
      run.judge.status = "passed") :
    checksOf policy run kinds index ≠ [] ∧
      ∀ check ∈ checksOf policy run kinds index, check.status = "passed" := by
  rw [checksOf_evaluated policy run kinds hat]
  constructor
  · simpa using evaluate_ne_nil run requirement
  · intro check hcheck
    obtain ⟨held, hheld, rfl⟩ := List.mem_map.mp hcheck
    exact passed_of_not_misjudged hcounts hjudge held hheld

theorem passed_of_not {judge : JudgeCall}
    {requirements : List EvalRequirement}
    (h : ¬Misjudged judge requirements) (hmem : requirement ∈ requirements)
    (hrequired : requirement.required = true) :
    requirement.evaluator = "llm_judge" → judge.status = "passed" := by
  intro hevaluator
  by_contra hstatus
  exact h ⟨hstatus, requirement, hmem, hrequired, hevaluator⟩

theorem Reliable.sound (h : Reliable run.judge policy.requirements) :
    VerdictSound policy run kinds := by
  constructor
  · intro hverified
    obtain ⟨⟨chosen, hchosen, hflag⟩, hall⟩ :=
      (verified_iff policy run kinds).mp hverified
    rcases evaluated_cases run policy.requirements with hevaluated |
      ⟨front, last, rest, hrequirements, hevaluated, hfront, hlast, hfailed⟩
    · rw [hevaluated] at hchosen hall
      have hjudged := h.judged ⟨⟨chosen, hchosen, hflag⟩,
        fun other hother hrequired =>
          passable_of_counts (hall other hother hrequired)⟩
      refine ⟨⟨chosen, hchosen, hflag⟩, ?_⟩
      intro index requirement hindex hrequired
      have hmem := List.mem_of_getElem? hindex
      have hat : (evaluated run policy.requirements)[index]? =
          some requirement := by
        rw [hevaluated]
        exact hindex
      exact checksOf_passed hat (hall requirement hmem hrequired)
        (passed_of_not hjudged hmem hrequired)
    · rw [hevaluated] at hchosen hall
      have hoptional : last.required = false :=
        optional_of_failure hfailed hlast (hall last (by simp))
      have hinfront : chosen ∈ front := by
        rcases List.mem_append.mp hchosen with hmem | hmem
        · exact hmem
        · rw [List.mem_singleton.mp hmem, hoptional] at hflag
          cases hflag
      obtain ⟨hjudged, hrest⟩ := h.stopped front last rest hrequirements hfront
        hlast hoptional ⟨⟨chosen, hinfront, hflag⟩,
          fun other hother hrequired =>
            passable_of_counts (hall other (by simp [hother]) hrequired)⟩
      refine ⟨⟨chosen, by simp [hrequirements, hinfront], hflag⟩, ?_⟩
      intro index requirement hindex hrequired
      rw [hrequirements] at hindex
      rcases Nat.lt_or_ge index front.length with hbefore | hafter
      · rw [List.getElem?_append_left hbefore] at hindex
        have hmem := List.mem_of_getElem? hindex
        refine checksOf_passed ?_ (hall requirement (by simp [hmem]) hrequired)
          (passed_of_not hjudged hmem hrequired)
        rw [hevaluated, List.getElem?_append_left hbefore]
        exact hindex
      · rw [List.getElem?_append_right hafter] at hindex
        have hnot : requirement.required = false := by
          rcases List.mem_cons.mp (List.mem_of_getElem? hindex) with
            hmem | hmem
          · rw [hmem]
            exact hoptional
          · exact hrest requirement hmem
        rw [hnot] at hrequired
        cases hrequired
  · intro check _ hdeterministic hfailed
    rw [reviseAll_status kinds check hdeterministic.1]
    exact hfailed

end Verified

section Ideal

/-- A run without findings, whose executor may have failed. -/
def idealRun (success : Bool) (judge : JudgeCall) : EvalRun where
  success := success
  fileChanges := ⟨true, "", []⟩
  trajectory := ⟨true, "", []⟩
  markdownLinks := ⟨true, "", []⟩
  testArtifacts := ⟨true, "", []⟩
  securityScan := (.passed, "", [])
  baseline := [⟨"tests", "passed", ["pytest"]⟩]
  replay := fun _ => ⟨true, "", []⟩
  judge := judge

variable {success : Bool} {judge : JudgeCall} {policy : EvalPolicy}
variable {requirement : EvalRequirement}

theorem idealRun_counts
    (hexecutor : requirement.evaluator = "executor_success" → success = true)
    (hpassable : requirement.passable judge = true) :
    ∀ check ∈ requirement.evaluate (idealRun success judge),
      countsAsPassed (check.reviseAll ["accepted"]).status = true := by
  intro check hcheck
  have hadds := evaluate_adds hcheck
  by_cases hjudge : requirement.evaluator = "llm_judge"
  · rw [reviseAll_status _ check (by simp [hadds.evaluator, hjudge]),
      hadds.judged hjudge]
    rw [EvalRequirement.passable, if_pos hjudge] at hpassable
    exact hpassable
  · by_cases hreview : requirement.evaluator = "human_review"
    · have hevaluator := hadds.evaluator.trans hreview
      change countsAsPassed (check.revise "accepted").status = true
      rw [check.revise_review "accepted" hevaluator]
      rfl
    · have hknown : requirement.evaluator ∈ knownEvaluators := by
        simpa [EvalRequirement.passable, hjudge] using hpassable
      have hstatus : check.status = "passed" := by
        simp only [knownEvaluators, List.mem_cons, List.not_mem_nil, or_false]
          at hknown
        rcases hknown with heq | heq | heq | heq | heq | heq | heq | heq | heq
        · have hsuccess := hexecutor heq
          simp [EvalRequirement.evaluate, heq, idealRun, hsuccess] at hcheck
          simp [hcheck]
        · simp [EvalRequirement.evaluate, heq, idealRun] at hcheck
          simp [hcheck]
        · simp [EvalRequirement.evaluate, heq, idealRun] at hcheck
          simp [hcheck]
        · simp [EvalRequirement.evaluate, heq, idealRun] at hcheck
          simp [hcheck]
        · simp [EvalRequirement.evaluate, heq, idealRun,
            EvalRequirement.replayed] at hcheck
          simp [hcheck]
        · simp [EvalRequirement.evaluate, heq, idealRun] at hcheck
          simp [hcheck]
        · simp [EvalRequirement.evaluate, heq, idealRun] at hcheck
          simp [hcheck]
        · simp [EvalRequirement.evaluate, heq, idealRun, ScanStatus.text]
            at hcheck
          simp [hcheck, EvalRequirement.result]
        · exact absurd heq hreview
      rw [reviseAll_status _ check (by rw [hadds.evaluator]; exact hreview),
        hstatus]
      rfl

theorem idealRun_verified
    (hmay : MayVerify judge (evaluated (idealRun success judge)
      policy.requirements))
    (hexecutor : ∀ requirement ∈ evaluated (idealRun success judge)
      policy.requirements, requirement.required = true →
        requirement.evaluator = "executor_success" → success = true) :
    ((evaluateRun policy (idealRun success judge)).afterFeedback
      ["accepted"]).state = "verified_success" := by
  rw [verified_iff]
  refine ⟨hmay.some_required, ?_⟩
  intro requirement hmem hrequired
  exact idealRun_counts (hexecutor requirement hmem hrequired)
    (hmay.passable requirement hmem hrequired)

end Ideal

section Converse

variable {policy : EvalPolicy} {run : EvalRun} {kinds : List String}
variable {requirement : EvalRequirement} {judge : JudgeCall}

theorem judge_passed {index : Nat}
    (hat : (evaluated run policy.requirements)[index]? = some requirement)
    (hjudge : requirement.evaluator = "llm_judge")
    (hpassed : ∀ check ∈ checksOf policy run kinds index,
      check.status = "passed") : run.judge.status = "passed" := by
  obtain ⟨check, hcheck⟩ :=
    List.exists_mem_of_ne_nil _ (evaluate_ne_nil run requirement)
  have hadds := evaluate_adds hcheck
  rw [checksOf_evaluated policy run kinds hat] at hpassed
  have hstatus := hpassed _ (List.mem_map_of_mem hcheck)
  rw [reviseAll_status kinds check (by simp [hadds.evaluator, hjudge]),
    hadds.judged hjudge] at hstatus
  exact hstatus

theorem reliable_of_sound
    (h : ∀ run : EvalRun, run.judge = judge → ∀ kinds,
      VerdictSound policy run kinds) :
    Reliable judge policy.requirements := by
  constructor
  · rintro hmay ⟨hstatus, requirement, hmem, hrequired, hjudge⟩
    have hall : evaluated (idealRun true judge) policy.requirements =
        policy.requirements := evaluated_of_success _ rfl
    have hverified : ((evaluateRun policy (idealRun true judge)).afterFeedback
        ["accepted"]).state = "verified_success" :=
      idealRun_verified (by rwa [hall]) (fun _ _ _ _ => rfl)
    obtain ⟨index, hindex⟩ := List.getElem?_of_mem hmem
    have hpassed := ((h (idealRun true judge) rfl ["accepted"]).verified
      hverified).2 index requirement hindex hrequired
    exact hstatus (judge_passed (by rwa [hall]) hjudge hpassed.2)
  · intro front last rest hrequirements hfront hlast hoptional hmay
    have hstopped : evaluated (idealRun false judge) policy.requirements =
        front ++ [last] := by
      rw [hrequirements]
      exact evaluated_of_failure rfl hfront hlast
    have hverified : ((evaluateRun policy (idealRun false judge)).afterFeedback
        ["accepted"]).state = "verified_success" := by
      apply idealRun_verified
      · rw [hstopped]
        obtain ⟨requirement, hmem, hrequired⟩ := hmay.some_required
        refine ⟨⟨requirement, by simp [hmem], hrequired⟩, ?_⟩
        intro other hother hflag
        rcases List.mem_append.mp hother with hother | hother
        · exact hmay.passable other hother hflag
        · rw [List.mem_singleton.mp hother, hoptional] at hflag
          cases hflag
      · rw [hstopped]
        intro other hother hflag hexecutor
        rcases List.mem_append.mp hother with hother | hother
        · exact absurd hexecutor (hfront other hother)
        · rw [List.mem_singleton.mp hother, hoptional] at hflag
          cases hflag
    have hsound := ((h (idealRun false judge) rfl ["accepted"]).verified
      hverified).2
    constructor
    · rintro ⟨hstatus, requirement, hmem, hrequired, hjudge⟩
      obtain ⟨index, hindex⟩ := List.getElem?_of_mem hmem
      have hbefore := (List.getElem?_eq_some_iff.mp hindex).1
      have hpassed := hsound index requirement (by
        rw [hrequirements, List.getElem?_append_left hbefore]
        exact hindex) hrequired
      refine hstatus (judge_passed ?_ hjudge hpassed.2)
      rw [hstopped, List.getElem?_append_left hbefore]
      exact hindex
    · intro requirement hmem
      by_contra hrequired
      obtain ⟨offset, hoffset⟩ := List.getElem?_of_mem hmem
      have hpassed := hsound (front.length + (offset + 1)) requirement (by
        rw [hrequirements, List.getElem?_append_right (Nat.le_add_right _ _)]
        simpa using hoffset) (by simpa using hrequired)
      apply hpassed.1
      apply checksOf_unevaluated
      rw [hstopped, List.getElem?_eq_none]
      simp

/-- The verdicts are sound for every run and feedback iff the policy is
reliable. -/
theorem verdicts_sound_iff (policy : EvalPolicy) (judge : JudgeCall) :
    (∀ run : EvalRun, run.judge = judge → ∀ kinds,
      VerdictSound policy run kinds) ↔
      Reliable judge policy.requirements := by
  constructor
  · exact reliable_of_sound
  · intro h run hjudge kinds
    subst hjudge
    exact h.sound

end Converse

namespace VerdictsWitness

def policy : EvalPolicy where
  id := "custom"
  version := "1"
  taskTypes := ["backend"]
  requirements := [{ id := "changes", evaluator := "file_changes" },
    { id := "executor", evaluator := "executor_success", required := false },
    { id := "post_checks", evaluator := "baseline_replay" }]

def judgedPolicy : EvalPolicy where
  id := "judged"
  version := "1"
  taskTypes := ["backend"]
  requirements := [{ id := "llm_judge", evaluator := "llm_judge" }]

/-- A failed executor ends the loop before the required replay, and an unknown
status counts as passed. -/
theorem verified_without_replay :
    ¬VerdictSound policy (idealRun false .absent) [] ∧
      ¬VerdictSound judgedPolicy
        (idealRun true (.answers "uncertain" "" [])) [] := by
  constructor
  · intro h
    have hchecks := ((h.verified (by decide)).2 2 _ rfl rfl).1
    exact hchecks (by decide)
  · intro h
    have hpassed := ((h.verified (by decide)).2 0 _ rfl rfl).2
    revert hpassed
    decide

end VerdictsWitness

end Voly
