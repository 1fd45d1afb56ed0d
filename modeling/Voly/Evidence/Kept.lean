/-
What a saved record keeps while any number of calls add feedback to it under the
lock of the store.
-/
import Voly.Evidence.Stored
import Voly.Interaction.Guarded

namespace Voly.Evidence

open Python Interaction

def validHumanFeedback : List String :=
  ["accepted", "edited", "major_rewrite", "reverted", "pr_rejected",
    "manual_fix"]

def maxFeedbackCommentChars : Nat := 2000

def maxFeedbackSourceChars : Nat := 64

/-- The arguments of `add_human_feedback`. -/
structure FeedbackCall where
  kind : String
  source : String := "explicit"
  comment : String := ""

/-- The arguments as they are stored; those that are not valid raise. -/
def FeedbackCall.normalized (call : FeedbackCall) : Option FeedbackCall :=
  let normalized := lower (strip call.kind)
  let normalizedSource := strip call.source
  if !validHumanFeedback.contains normalized then none
  else if normalizedSource = "" ∨
      maxFeedbackSourceChars < normalizedSource.length then none
  else if maxFeedbackCommentChars < call.comment.length then none
  else some ⟨normalized, normalizedSource, call.comment⟩

/-- The clock when the feedback is recorded and when the report is completed. -/
structure Clock where
  recordedAt : String
  completedAt : String

variable {I : Type}

def feedbackOf (calls : I → FeedbackCall) (turn : I × Clock) :
    Option HumanFeedback :=
  (calls turn.1).normalized.map fun call =>
    { kind := call.kind
      recordedAt := turn.2.recordedAt
      source := call.source
      comment := call.comment }

/-- `add_human_feedback`, by any number of calls on the file of one record. -/
def feedbackStore (calls : I → FeedbackCall) :
    Guard I Clock (Dict Json) EvidenceRecord where
  admits i := (calls i).normalized.isSome
  read := EvidenceRecord.fromDict
  write := EvidenceRecord.toDict
  change turn record :=
    match feedbackOf calls turn with
    | some feedback => record.addFeedback feedback turn.2.completedAt
    | none => record

/-- The store after `save`. -/
def EvidenceRecord.saved (record : EvidenceRecord) :
    Guarded I (Dict Json) EvidenceRecord where
  cell := record.toDict

/-- The record loads as saved, with the feedback of every call once and its
outcome. -/
structure FactsKept (inputs : BuildInputs) (calls : I → FeedbackCall)
    (world : Guarded I (Dict Json) EvidenceRecord) (stored : EvidenceRecord) :
    Prop where
  saved : world.cell = stored.toDict
  loads : EvidenceRecord.fromDict world.cell = some stored
  feedback : ∃ order : List (I × Clock), (order.map Prod.fst).Nodup ∧
    (∀ i record, world.stand i = .returned record → i ∈ order.map Prod.fst) ∧
    (∀ i ∈ order.map Prod.fst, (world.stand i).saved.isSome = true) ∧
    order.map (feedbackOf calls) = stored.humanFeedback.map some
  failure : inputs.success = false →
    stored.outcome.state = inputs.rootCause.state
  verified : stored.outcome.state = "verified_success" →
    stored.outcome.success = true

/-- Feedback changes the report: a human reviews it, or a judge's check gathers
it. -/
def StoredReport.reviewable (report : StoredReport) : Bool :=
  report.checks.any fun check =>
    check.evaluator = "human_review" || check.calibrates

/-- A required check failed that no human decides. -/
def StoredReport.fails (report : StoredReport) : Bool :=
  report.checks.any fun check =>
    check.required && check.evaluator ≠ "human_review" &&
      ["failed", "error"].contains check.status

def BuildInputs.timedOut (inputs : BuildInputs) : Prop :=
  lower (strip inputs.errorClass) = "timeout"

/-- The report has all of its names; on a failed run feedback leaves it alone or
finds it failed. -/
structure BuildInputs.Fits (inputs : BuildInputs) : Prop where
  named : ∀ report, inputs.evaluation = some report → report.Named
  settled : inputs.success = false → ∀ report,
    inputs.evaluation = some report → report.reviewable = true →
      inputs.timedOut ∧ report.fails = true

section

variable {inputs : BuildInputs} (hfailed : inputs.success = false)
include hfailed

theorem rootCause_timedOut (h : inputs.timedOut) :
    inputs.rootCause.state = "soft_failure" := by
  rw [BuildInputs.timedOut] at h
  simp [BuildInputs.rootCause, classifyRootCause, hfailed, h]

theorem rootCause_state (h : ¬inputs.timedOut) :
    inputs.rootCause.state ∈
      ["hard_failure", "policy_violation", "environment_failure"] := by
  rw [BuildInputs.timedOut] at h
  simp only [BuildInputs.rootCause, classifyRootCause, hfailed, h,
    Bool.false_eq_true, if_false]
  repeat' split
  all_goals decide

theorem rootCause_ne_verified :
    inputs.rootCause.state ≠ "verified_success" := by
  by_cases h : inputs.timedOut
  · rw [rootCause_timedOut hfailed h]
    decide
  · intro hstate
    have hmem := rootCause_state hfailed h
    rw [hstate] at hmem
    revert hmem
    decide

end

theorem revise_id (check : EvalCheckResult) (kind : String) :
    (check.revise kind).id = check.id := by
  by_cases hreview : check.evaluator = "human_review"
  · simp [EvalCheckResult.revise, hreview]
  · by_cases hjudged : check.judged = true
    · simp only [EvalCheckResult.revise, hreview, hjudged, if_true, if_false,
        EvalCheckResult.calibrate]
      cases calibrationEvents check.detail <;> rfl
    · simp [EvalCheckResult.revise, hreview, hjudged]

theorem revise_status_ne {check : EvalCheckResult} (kind : String)
    (h : check.status ≠ "") : (check.revise kind).status ≠ "" := by
  by_cases hreview : check.evaluator = "human_review"
  · rw [check.revise_review kind hreview]
    split <;> decide
  · rw [check.revise_status kind hreview]
    exact h

theorem revise_eq_self {check : EvalCheckResult} (kind : String)
    (hreview : check.evaluator ≠ "human_review")
    (hcalibrates : check.calibrates = false) : check.revise kind = check := by
  by_cases hjudged : check.judged = true
  · have hevents : calibrationEvents check.detail = none := by
      simpa [EvalCheckResult.calibrates, hjudged] using hcalibrates
    simp [EvalCheckResult.revise, hreview, hjudged, EvalCheckResult.calibrate,
      hevents]
  · simp [EvalCheckResult.revise, hreview, hjudged]

theorem finalState_ne_empty (checks : List EvalCheckResult) :
    finalState checks ≠ "" := by
  rw [finalState]
  split
  · decide
  · split <;> decide

theorem finalState_mem (checks : List EvalCheckResult) :
    finalState checks ∈
      ["soft_failure", "partial_success", "verified_success"] := by
  rw [finalState]
  split
  · decide
  · split <;> decide

theorem finalState_soft_iff (checks : List EvalCheckResult) :
    finalState checks = "soft_failure" ↔
      ∃ check ∈ checks, check.required = true ∧
        ["failed", "error"].contains check.status = true := by
  rw [finalState]
  split
  · next h => simpa [and_assoc] using h
  · next h =>
      have hnone : ¬∃ check ∈ checks, check.required = true ∧
          ["failed", "error"].contains check.status = true := by
        simpa [and_assoc] using h
      refine ⟨fun hsoft => absurd hsoft ?_, fun hsome => absurd hsome hnone⟩
      split <;> decide

namespace StoredReport

variable (report : StoredReport) (kind now : String)

theorem apply_changed : (report.apply kind now).1 = report.reviewable := by
  simp only [apply, applyHumanFeedback, untimed, reviewable, List.any_map]
  rfl

theorem apply_of_not_reviewable (h : report.reviewable = false) :
    (report.apply kind now).2 = report := by
  have hchanged := report.apply_changed kind now
  have hsame : ∀ check ∈ report.checks,
      check.toEvalCheckResult.revise kind = check.toEvalCheckResult := by
    intro check hcheck
    have hboth := List.any_eq_false.mp h check hcheck
    simp only [Bool.or_eq_true, decide_eq_true_eq, not_or,
      Bool.not_eq_true] at hboth
    exact revise_eq_self kind hboth.1 hboth.2
  have hchecks : report.checks.map (fun check =>
      { check with
        toEvalCheckResult := check.toEvalCheckResult.revise kind }) =
      report.checks := by
    rw [map_eq_self_iff]
    intro check hcheck
    rw [hsame check hcheck]
  rw [h] at hchanged
  simp only [apply, applyHumanFeedback, untimed] at hchanged ⊢
  simp only [hchanged, hchecks, Bool.false_eq_true, if_false]

theorem apply_named (h : report.Named) :
    (report.apply kind now).2.Named := by
  refine ⟨h.policyId, h.policyVersion, ?_, h.schemaVersion, ?_⟩
  · simp only [apply, applyHumanFeedback]
    split
    · exact finalState_ne_empty _
    · exact h.state
  · intro check hcheck
    obtain ⟨before, hbefore, rfl⟩ := List.mem_map.mp hcheck
    have hnamed := h.checks before hbefore
    refine ⟨?_, ?_, ?_⟩
    · rw [revise_id]
      exact hnamed.id
    · rw [EvalCheckResult.revise_evaluator]
      exact hnamed.evaluator
    · exact revise_status_ne kind hnamed.status

theorem apply_state (h : report.reviewable = true) :
    (report.apply kind now).2.state =
      finalState (report.untimed.checks.map (·.revise kind)) := by
  have hchanged := report.apply_changed kind now
  rw [h] at hchanged
  simp only [apply, applyHumanFeedback] at hchanged ⊢
  rw [if_pos hchanged]

theorem apply_fails : (report.apply kind now).2.fails = report.fails := by
  simp only [fails, apply, List.any_map]
  congr 1
  funext check
  by_cases hreview : check.evaluator = "human_review"
  · simp [hreview]
  · have hstatus := check.toEvalCheckResult.revise_status kind hreview
    simp [hreview, hstatus]

/-- With a failure that no human decides, any feedback finds the run failed. -/
theorem apply_soft (h : report.reviewable = true)
    (hfails : report.fails = true) :
    (report.apply kind now).2.state = "soft_failure" := by
  rw [report.apply_state _ _ h, finalState_soft_iff]
  obtain ⟨check, hcheck, hone⟩ := List.any_eq_true.mp hfails
  simp only [Bool.and_eq_true, decide_eq_true_eq] at hone
  obtain ⟨⟨hrequired, hreview⟩, hstatus⟩ := hone
  refine ⟨check.toEvalCheckResult.revise kind, ?_, ?_, ?_⟩
  · exact List.mem_map.mpr ⟨_, List.mem_map_of_mem hcheck, rfl⟩
  · rw [EvalCheckResult.revise_required]
    exact hrequired
  · rw [check.revise_status _ hreview]
    exact hstatus

theorem accepted_soft_iff (h : report.reviewable = true) :
    (report.apply "accepted" now).2.state = "soft_failure" ↔
      report.fails = true := by
  constructor
  · rw [report.apply_state _ _ h, finalState_soft_iff, fails, List.any_eq_true]
    rintro ⟨_, hmem, hrequired, hstatus⟩
    obtain ⟨base, hbase, rfl⟩ := List.mem_map.mp hmem
    obtain ⟨check, hcheck, rfl⟩ := List.mem_map.mp hbase
    rw [EvalCheckResult.revise_required] at hrequired
    by_cases hreview : check.evaluator = "human_review"
    · rw [check.revise_review _ hreview] at hstatus
      exact absurd hstatus (by decide)
    · rw [check.revise_status _ hreview] at hstatus
      refine ⟨check, hcheck, ?_⟩
      rw [hrequired, hstatus]
      simp [hreview]
  · exact report.apply_soft "accepted" now h

end StoredReport

/-- What feedback keeps of a record that was built from the inputs. -/
structure EvidenceRecord.Sound (inputs : BuildInputs)
    (record : EvidenceRecord) : Prop where
  taskType : record.taskType ≠ ""
  schemaVersion : record.schemaVersion ≠ 0
  named : ∀ report, record.evaluation = some report → report.Named
  success : record.outcome.success = inputs.success
  failure : inputs.success = false →
    record.outcome.state = inputs.rootCause.state
  settled : inputs.success = false → ∀ report,
    record.evaluation = some report → report.reviewable = true →
      inputs.timedOut ∧ report.fails = true

namespace EvidenceRecord

variable {inputs : BuildInputs} {record : EvidenceRecord}

theorem Sound.filled (h : record.Sound inputs) : record.filled = record := by
  have hevaluation :
      record.evaluation.map StoredReport.filled = record.evaluation := by
    cases hreport : record.evaluation with
    | none => rfl
    | some report =>
        exact congrArg some (report.filled_eq_iff.mpr (h.named report hreport))
  rw [EvidenceRecord.filled, hevaluation, if_neg h.schemaVersion,
    (orElse_eq_self_iff (by decide)).mpr h.taskType]

theorem Sound.loads (h : record.Sound inputs) :
    fromDict record.toDict = some record := by
  rw [fromDict_toDict, h.filled]

theorem addFeedback_humanFeedback (feedback : HumanFeedback) (now : String) :
    (record.addFeedback feedback now).humanFeedback =
      record.humanFeedback ++ [feedback] := by
  rw [addFeedback]
  cases record.evaluation <;> rfl

theorem addFeedback_of_none {feedback : HumanFeedback} {now : String}
    (h : record.evaluation = none) :
    record.addFeedback feedback now =
      { record with humanFeedback := record.humanFeedback ++ [feedback] } := by
  simp [addFeedback, h]

theorem addFeedback_of_some {feedback : HumanFeedback} {now : String}
    {report : StoredReport} (h : record.evaluation = some report) :
    record.addFeedback feedback now =
      { record with
        humanFeedback := record.humanFeedback ++ [feedback]
        evaluation := some (report.apply feedback.kind now).2
        outcome :=
          if report.reviewable then
            { record.outcome with
                state := (report.apply feedback.kind now).2.state }
          else record.outcome } := by
  simp [addFeedback, h, report.apply_changed feedback.kind now]

theorem Sound.addFeedback (h : record.Sound inputs) (feedback : HumanFeedback)
    (now : String) : (record.addFeedback feedback now).Sound inputs := by
  cases hreport : record.evaluation with
  | none =>
      rw [addFeedback_of_none hreport]
      exact ⟨h.taskType, h.schemaVersion, h.named, h.success, h.failure,
        h.settled⟩
  | some report =>
      rw [addFeedback_of_some hreport]
      have hnamed := h.named report hreport
      by_cases hreviewable : report.reviewable = true
      · rw [if_pos hreviewable]
        refine ⟨h.taskType, h.schemaVersion, ?_, h.success, ?_, ?_⟩
        · rintro _ ⟨⟩
          exact report.apply_named _ _ hnamed
        · intro hfailed
          obtain ⟨htimed, hfails⟩ :=
            h.settled hfailed report hreport hreviewable
          rw [rootCause_timedOut hfailed htimed]
          exact report.apply_soft feedback.kind now hreviewable hfails
        · rintro hfailed _ ⟨⟩ _
          obtain ⟨htimed, hfails⟩ :=
            h.settled hfailed report hreport hreviewable
          exact ⟨htimed, (report.apply_fails _ now).trans hfails⟩
      · rw [Bool.not_eq_true] at hreviewable
        rw [report.apply_of_not_reviewable _ _ hreviewable]
        simp only [hreviewable, Bool.false_eq_true, if_false]
        refine ⟨h.taskType, h.schemaVersion, ?_, h.success, h.failure, ?_⟩
        · rintro _ ⟨⟩
          exact hnamed
        · rintro _ _ ⟨⟩ htrue
          rw [hreviewable] at htrue
          cases htrue

end EvidenceRecord

theorem BuildInputs.Fits.sound {inputs : BuildInputs} (h : inputs.Fits) :
    inputs.record.Sound inputs where
  taskType := by
    change orElse inputs.taskType "unknown" ≠ ""
    by_cases htype : inputs.taskType = "" <;> simp [orElse, htype]
  schemaVersion := by
    change evidenceSchemaVersion ≠ 0
    decide
  named := h.named
  success := rfl
  failure := by
    intro hfailed
    rw [BuildInputs.record]
    cases inputs.evaluation with
    | none => rfl
    | some report => exact if_neg (by rw [hfailed]; exact Bool.false_ne_true)
  settled := h.settled

section Runs

variable {inputs : BuildInputs} {calls : I → FeedbackCall}

theorem feedbackStore_admits (i : I) :
    (feedbackStore calls).admits i = (calls i).normalized.isSome := by
  rw [feedbackStore]

theorem change_humanFeedback {turn : I × Clock} {record : EvidenceRecord}
    (h : (feedbackStore calls).admits turn.1 = true) :
    ((feedbackStore calls).change turn record).humanFeedback.map some =
      record.humanFeedback.map some ++ [feedbackOf calls turn] := by
  rw [feedbackStore_admits] at h
  obtain ⟨call, hcall⟩ := Option.isSome_iff_exists.mp h
  have hfeedback : feedbackOf calls turn =
      some ⟨call.kind, turn.2.recordedAt, call.source, call.comment⟩ := by
    rw [feedbackOf, hcall]
    rfl
  simp only [feedbackStore, hfeedback]
  rw [EvidenceRecord.addFeedback_humanFeedback, List.map_append]
  rfl

theorem change_sound {turn : I × Clock} {record : EvidenceRecord}
    (h : record.Sound inputs) :
    ((feedbackStore calls).change turn record).Sound inputs := by
  simp only [feedbackStore]
  cases feedbackOf calls turn with
  | none => exact h
  | some feedback => exact h.addFeedback feedback _

theorem value_humanFeedback {base : EvidenceRecord}
    {order : List (I × Clock)} (hbase : base.humanFeedback = [])
    (h : ∀ turn ∈ order, (feedbackStore calls).admits turn.1 = true) :
    ((feedbackStore calls).value base order).humanFeedback.map some =
      order.map (feedbackOf calls) := by
  induction order using List.reverseRecOn with
  | nil => simp [Guard.value, hbase]
  | append_singleton order turn ih =>
      have hearlier : ∀ earlier ∈ order,
          (feedbackStore calls).admits earlier.1 = true :=
        fun earlier hmem => h earlier (List.mem_append_left _ hmem)
      rw [Guard.value_snoc, change_humanFeedback (h turn (by simp)),
        ih hearlier, List.map_append]
      rfl

variable [DecidableEq I]

theorem BuildInputs.Fits.kept (h : inputs.Fits)
    {turns : List (I × Option Clock)}
    {world : Guarded I (Dict Json) EvidenceRecord}
    (hrun : follow (feedbackStore calls).step inputs.record.saved turns =
      some world) : ∃ stored, FactsKept inputs calls world stored := by
  have hread : ∀ record : EvidenceRecord, record.Sound inputs →
      EvidenceRecord.fromDict record.toDict = some record :=
    fun record hsound => hsound.loads
  have hkeep : ∀ (turn : I × Clock) (record : EvidenceRecord),
      (feedbackStore calls).admits turn.1 = true → record.Sound inputs →
      ((feedbackStore calls).change turn record).Sound inputs :=
    fun turn record _ hsound => change_sound hsound
  obtain ⟨order, hserial⟩ := Serial.run hread hkeep h.sound hrun
  have hsound := Guard.value_good h.sound hkeep hserial.admitted
  refine ⟨(feedbackStore calls).value inputs.record order, hserial.cell, ?_,
    ⟨order, hserial.once, ?_, ?_, ?_⟩, hsound.failure, ?_⟩
  · rw [hserial.cell]
    exact hread _ hsound
  · intro i record hreturned
    rw [hserial.savers, hreturned]
    rfl
  · intro i hmem
    exact (hserial.savers i).mp hmem
  · have hempty : inputs.record.humanFeedback = [] := rfl
    exact (value_humanFeedback hempty hserial.admitted).symm
  · intro hverified
    by_contra hfailed
    rw [hsound.success, Bool.not_eq_true] at hfailed
    rw [hsound.failure hfailed] at hverified
    exact rootCause_ne_verified hfailed hverified

end Runs

def acceptance : Unit → FeedbackCall := fun _ => { kind := "accepted" }

def EvidenceRecord.accepted (record : EvidenceRecord) : EvidenceRecord :=
  record.addFeedback { kind := "accepted", recordedAt := "" } ""

theorem acceptance_change (record : EvidenceRecord) :
    (feedbackStore acceptance).change ((), ⟨"", ""⟩) record =
      record.accepted := by
  have hfeedback : feedbackOf acceptance ((), ⟨"", ""⟩) =
      some { kind := "accepted", recordedAt := "" } := by decide
  simp only [feedbackStore, hfeedback]
  rfl

theorem acceptance_run {record : EvidenceRecord}
    (h : EvidenceRecord.fromDict record.toDict = some record) :
    ∃ world : Guarded Unit (Dict Json) EvidenceRecord,
      follow (feedbackStore acceptance).step record.saved
        (List.replicate 3 ((), some ⟨"", ""⟩)) = some world ∧
        world.cell = record.accepted.toDict := by
  have hadmits : (feedbackStore acceptance).admits () = true := by decide
  have hread : (feedbackStore acceptance).read
      (record.saved : Guarded Unit _ _).cell = some record := h
  obtain ⟨world, hrun, hcell⟩ :=
    Guard.turn (⟨"", ""⟩ : Clock) hadmits rfl rfl hread
  refine ⟨world, hrun, ?_⟩
  rw [hcell, acceptance_change]
  rfl

theorem FactsKept.unique {inputs : BuildInputs} {calls : I → FeedbackCall}
    {world : Guarded I (Dict Json) EvidenceRecord}
    {stored record : EvidenceRecord}
    (h : FactsKept inputs calls world stored)
    (hcell : world.cell = record.toDict) : stored = record := by
  have hloads := h.loads
  rw [hcell, record.fromDict_toDict] at hloads
  have hstored : record.filled = stored := Option.some.inj hloads
  have hwritten : record.toDict = record.filled.toDict := by
    rw [hstored, ← hcell, h.saved]
  rw [← hstored, EvidenceRecord.filled_of_toDict hwritten]

theorem fits_of_kept {inputs : BuildInputs}
    (h : ∀ (turns : List (Unit × Option Clock))
      (world : Guarded Unit (Dict Json) EvidenceRecord),
      follow (feedbackStore acceptance).step inputs.record.saved turns =
        some world → ∃ stored, FactsKept inputs acceptance world stored) :
    inputs.Fits := by
  -- before any feedback the record is read back, so nothing is missing
  have hloads : EvidenceRecord.fromDict inputs.record.toDict =
      some inputs.record := by
    obtain ⟨stored, hkept⟩ := h [] inputs.record.saved rfl
    have hback := hkept.loads
    rw [hkept.unique rfl] at hback
    exact hback
  have hnamed : ∀ report, inputs.evaluation = some report →
      report.Named := by
    intro report hreport
    rw [EvidenceRecord.fromDict_toDict] at hloads
    have hfilled := congrArg EvidenceRecord.evaluation
      (Option.some.inj hloads)
    have hevaluation : inputs.record.evaluation = some report := hreport
    rw [EvidenceRecord.filled, hevaluation] at hfilled
    exact report.filled_eq_iff.mp (Option.some.inj hfilled)
  refine ⟨hnamed, ?_⟩
  intro hfailed report hreport hreviewable
  -- the client that accepts the run writes the state of the report
  have hevaluation : inputs.record.evaluation = some report := hreport
  obtain ⟨world, hrun, hcell⟩ := acceptance_run hloads
  obtain ⟨stored, hkept⟩ := h _ world hrun
  have hstate := hkept.failure hfailed
  rw [hkept.unique hcell, EvidenceRecord.accepted,
    EvidenceRecord.addFeedback_of_some hevaluation, if_pos hreviewable]
    at hstate
  by_cases htimed : inputs.timedOut
  · rw [rootCause_timedOut hfailed htimed] at hstate
    exact ⟨htimed, (report.accepted_soft_iff "" hreviewable).mp hstate⟩
  · have hroot := rootCause_state hfailed htimed
    have hfinal := finalState_mem
      (report.untimed.checks.map (·.revise "accepted"))
    rw [← hstate, report.apply_state "accepted" "" hreviewable] at hroot
    simp only [List.mem_cons, List.not_mem_nil, or_false] at hroot hfinal
    grind

/-- The record keeps its facts in every run and all calls iff its inputs fit. -/
theorem facts_kept_iff (inputs : BuildInputs) :
    (∀ (I : Type) [DecidableEq I] (calls : I → FeedbackCall)
      (turns : List (I × Option Clock))
      (world : Guarded I (Dict Json) EvidenceRecord),
      follow (feedbackStore calls).step inputs.record.saved turns =
        some world → ∃ stored, FactsKept inputs calls world stored) ↔
      inputs.Fits := by
  constructor
  · intro h
    exact fits_of_kept (h Unit acceptance)
  · intro h I _ calls turns world hrun
    exact h.kept hrun

namespace KeptWitness

def failedReview : BuildInputs where
  taskId := "task-1"
  createdAt := "2026-01-01T00:00:00+00:00"
  taskType := "code"
  taskFingerprint := "e3b0"
  agent := "coder"
  executor := "claude"
  runtimeVersion := "0.1.0"
  success := false
  error := "exit status 1"
  baseline := { capturedAt := "2026-01-01T00:00:00+00:00", health := "healthy" }
  evaluation := some
    { policyId := "review-only"
      policyVersion := "1"
      state := "partial_success"
      startedAt := "2026-01-01T00:00:00+00:00"
      completedAt := "2026-01-01T00:00:01+00:00"
      checks := [{ id := "review", evaluator := "human_review",
                   status := "pending" }] }

/-- The acceptance makes the failed run a verified one. -/
theorem failed_run_verified : ¬∀ (turns : List (Unit × Option Clock))
    (world : Guarded Unit (Dict Json) EvidenceRecord),
    follow (feedbackStore acceptance).step failedReview.record.saved turns =
      some world → ∃ stored, FactsKept failedReview acceptance world stored := by
  intro h
  have hsettled := (fits_of_kept h).settled rfl _ rfl (by decide +kernel)
  exact absurd hsettled.2 (by decide +kernel)

end KeptWitness

end Voly.Evidence
