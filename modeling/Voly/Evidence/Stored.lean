/-
Loading a saved record: what comes back, and which empty names become defaults.
-/
import Voly.Evidence.Record

namespace Voly.Evidence

open Python

def TimedCheck.filled (check : TimedCheck) : TimedCheck :=
  { check with
    id := orElse check.id "unknown"
    evaluator := orElse check.evaluator "unknown"
    status := orElse check.status "error" }

def StoredReport.filled (report : StoredReport) : StoredReport :=
  { report with
    policyId := orElse report.policyId "unknown"
    policyVersion := orElse report.policyVersion "1"
    state := orElse report.state "partial_success"
    checks := report.checks.map TimedCheck.filled
    schemaVersion :=
      if report.schemaVersion = 0 then 1 else report.schemaVersion }

structure TimedCheck.Named (check : TimedCheck) : Prop where
  id : check.id ≠ ""
  evaluator : check.evaluator ≠ ""
  status : check.status ≠ ""

structure StoredReport.Named (report : StoredReport) : Prop where
  policyId : report.policyId ≠ ""
  policyVersion : report.policyVersion ≠ ""
  state : report.state ≠ ""
  schemaVersion : report.schemaVersion ≠ 0
  checks : ∀ check ∈ report.checks, check.Named

theorem orElse_eq_self_iff {text default : String} (h : default ≠ "") :
    orElse text default = text ↔ text ≠ "" := by
  by_cases htext : text = "" <;> simp [orElse, htext, h]

theorem TimedCheck.filled_eq_iff (check : TimedCheck) :
    check.filled = check ↔ check.Named := by
  constructor
  · intro h
    have hchecks := congrArg TimedCheck.toEvalCheckResult h
    refine ⟨?_, ?_, ?_⟩
    · have hid := congrArg EvalCheckResult.id hchecks
      exact (orElse_eq_self_iff (by decide)).mp hid
    · have hevaluator := congrArg EvalCheckResult.evaluator hchecks
      exact (orElse_eq_self_iff (by decide)).mp hevaluator
    · have hstatus := congrArg EvalCheckResult.status hchecks
      exact (orElse_eq_self_iff (by decide)).mp hstatus
  · intro h
    rw [filled, (orElse_eq_self_iff (by decide)).mpr h.id,
      (orElse_eq_self_iff (by decide)).mpr h.evaluator,
      (orElse_eq_self_iff (by decide)).mpr h.status]

theorem map_eq_self_iff {A : Type} {f : A → A} (items : List A) :
    items.map f = items ↔ ∀ item ∈ items, f item = item := by
  induction items with
  | nil => simp
  | cons item items ih => simp [ih]

theorem StoredReport.filled_eq_iff (report : StoredReport) :
    report.filled = report ↔ report.Named := by
  constructor
  · intro h
    refine ⟨?_, ?_, ?_, ?_, ?_⟩
    · exact (orElse_eq_self_iff (by decide)).mp (congrArg policyId h)
    · exact (orElse_eq_self_iff (by decide)).mp (congrArg policyVersion h)
    · exact (orElse_eq_self_iff (by decide)).mp (congrArg state h)
    · intro hzero
      have hversion := congrArg schemaVersion h
      simp [filled, hzero] at hversion
    · intro check hcheck
      rw [← check.filled_eq_iff]
      exact (map_eq_self_iff report.checks).mp (congrArg checks h) check hcheck
  · intro h
    have hchecks : report.checks.map TimedCheck.filled = report.checks := by
      rw [map_eq_self_iff]
      exact fun check hcheck => check.filled_eq_iff.mpr (h.checks check hcheck)
    rw [filled, (orElse_eq_self_iff (by decide)).mpr h.policyId,
      (orElse_eq_self_iff (by decide)).mpr h.policyVersion,
      (orElse_eq_self_iff (by decide)).mpr h.state, hchecks,
      if_neg h.schemaVersion]

theorem mapM_map {A B : Type} {read : B → Option A} {write : A → B}
    {back : A → A} (h : ∀ a, read (write a) = some (back a)) (items : List A) :
    (items.map write).mapM read = some (items.map back) := by
  induction items with
  | nil => rfl
  | cons item items ih => simp [h, ih]

theorem mapM_map_self {A B : Type} {read : B → Option A} {write : A → B}
    (h : ∀ a, read (write a) = some a) (items : List A) :
    (items.map write).mapM read = some items := by
  rw [@mapM_map _ _ read write id h, List.map_id]

@[simp] theorem Json.orNull?_exitCode (code : Option Int) :
    Json.orNull? Json.integer? (Json.orNull (fun n : Int => .num n) code) =
      some code :=
  Json.orNull?_orNull Json.integer?_intCast nofun code

@[simp] theorem BaselineCheck.fromDict_toDict (check : BaselineCheck) :
    fromDict check.toDict = some check := by
  simp [fromDict, toDict, onlyKeys, argument, argumentOr, Dict.get?,
    Json.text?, Json.number?]

@[simp] theorem RepositoryBaseline.fromDict_toDict
    (baseline : RepositoryBaseline) :
    fromDict baseline.toDict = some baseline := by
  have hchecks : objectsAt baseline.toDict "checks" =
      some (baseline.checks.map BaselineCheck.toDict) := by
    apply objectsAt_arr
    rw [List.map_map]
    rfl
  have hread : (baseline.checks.map BaselineCheck.toDict).mapM
      BaselineCheck.fromDict = some baseline.checks :=
    mapM_map_self BaselineCheck.fromDict_toDict _
  rw [fromDict, hchecks]
  simp [hread, toDict, onlyKeys, argument, argumentOr, Dict.get?, Json.text?]

@[simp] theorem ExecutionBundle.fromDict_toDict (execution : ExecutionBundle) :
    fromDict execution.toDict = some execution := by
  simp [fromDict, toDict, onlyKeys, argument, argumentOr, Dict.get?,
    Json.text?]

@[simp] theorem EvidenceOutcome.fromDict_toDict (outcome : EvidenceOutcome) :
    fromDict outcome.toDict = some outcome := by
  simp [fromDict, toDict, onlyKeys, argument, argumentOr, Dict.get?,
    Json.text?, Json.number?, Json.flag?]

@[simp] theorem HumanFeedback.fromDict_toDict (feedback : HumanFeedback) :
    fromDict feedback.toDict = some feedback := by
  simp [fromDict, toDict, onlyKeys, argument, argumentOr, Dict.get?,
    Json.text?]

theorem TimedCheck.fromDict_toDict (check : TimedCheck) :
    fromDict check.toDict = some check.filled := by
  have hduration : numberAt check.toDict "duration_ms" =
      some check.durationMs := numberAt_num rfl
  have hdetail : objectAt check.toDict "detail" = some check.detail :=
    objectAt_obj rfl
  have hrequired : flagAt check.toDict "required" true = check.required :=
    flagAt_bool rfl
  have hmessage : textAt check.toDict "message" "" = check.message := by
    rw [textAt_str rfl, orElse_empty]
  rw [fromDict, hduration, hdetail, hrequired, hmessage]
  rfl

theorem StoredReport.fromDict_toDict (report : StoredReport) :
    fromDict report.toDict = some report.filled := by
  have hchecks : objectsAt report.toDict "checks" =
      some (report.checks.map TimedCheck.toDict) := by
    apply objectsAt_arr
    rw [List.map_map]
    rfl
  have hread : (report.checks.map TimedCheck.toDict).mapM
      TimedCheck.fromDict = some (report.checks.map TimedCheck.filled) :=
    mapM_map TimedCheck.fromDict_toDict _
  have hversion : integerAt report.toDict "schema_version" 1 =
      some (if report.schemaVersion = 0 then 1 else report.schemaVersion) :=
    integerAt_num rfl
  have hstarted : textAt report.toDict "started_at" "" = report.startedAt := by
    rw [textAt_str rfl, orElse_empty]
  have hcompleted : textAt report.toDict "completed_at" "" =
      report.completedAt := by
    rw [textAt_str rfl, orElse_empty]
  have honly : flagAt report.toDict "deterministic_only" true =
      report.deterministicOnly := flagAt_bool rfl
  rw [fromDict, hchecks, hversion, hstarted, hcompleted, honly]
  simp only [Option.bind_eq_bind, Option.bind_some, hread]
  rfl

def EvidenceRecord.filled (record : EvidenceRecord) : EvidenceRecord :=
  { record with
    taskType := orElse record.taskType "unknown"
    evaluation := record.evaluation.map StoredReport.filled
    schemaVersion :=
      if record.schemaVersion = 0 then evidenceSchemaVersion
      else record.schemaVersion }

theorem EvidenceRecord.fromDict_toDict (record : EvidenceRecord) :
    fromDict record.toDict = some record.filled := by
  have hbaseline : objectAt record.toDict "baseline" =
      some record.baseline.toDict := objectAt_obj rfl
  have hfeedback : objectsAt record.toDict "human_feedback" =
      some (record.humanFeedback.map HumanFeedback.toDict) := by
    apply objectsAt_arr
    rw [List.map_map]
    rfl
  have hread : (record.humanFeedback.map HumanFeedback.toDict).mapM
      HumanFeedback.fromDict = some record.humanFeedback :=
    mapM_map_self HumanFeedback.fromDict_toDict _
  have htask : argument record.toDict "task_id" Json.text? =
      some record.taskId := rfl
  have hexecution : objectAt record.toDict "execution" =
      some record.execution.toDict := objectAt_obj rfl
  have houtcome : objectAt record.toDict "outcome" =
      some record.outcome.toDict := objectAt_obj rfl
  have hevaluation : record.toDict.get? "evaluation" =
      some (.orNull (fun report : StoredReport => .obj report.toDict)
        record.evaluation) := rfl
  have hversion : integerAt record.toDict "schema_version"
      evidenceSchemaVersion = some (if record.schemaVersion = 0
        then evidenceSchemaVersion else record.schemaVersion) :=
    integerAt_num rfl
  have hcreated : textAt record.toDict "created_at" "" = record.createdAt := by
    rw [textAt_str rfl, orElse_empty]
  have hfingerprint : textAt record.toDict "task_fingerprint" "" =
      record.taskFingerprint := by
    rw [textAt_str rfl, orElse_empty]
  have haction : (record.toDict.get? "action_report").bind Json.object? =
      record.actionReport := by
    cases haction : record.actionReport <;>
      simp [toDict, Dict.get?, haction, Json.orNull, Json.object?]
  have htype : textAt record.toDict "task_type" "unknown" =
      orElse record.taskType "unknown" := textAt_str rfl
  rw [fromDict, hbaseline, hfeedback, htask, hexecution, houtcome, hevaluation,
    hversion, hcreated, htype, hfingerprint, haction]
  simp only [Option.bind_eq_bind, Option.bind_some, hread,
    RepositoryBaseline.fromDict_toDict, ExecutionBundle.fromDict_toDict,
    EvidenceOutcome.fromDict_toDict]
  cases hreport : record.evaluation with
  | none => simp [Json.orNull, filled, hreport]
  | some report =>
      simp [Json.orNull, StoredReport.fromDict_toDict, filled, hreport]

theorem TimedCheck.toDict_injective : Function.Injective TimedCheck.toDict := by
  rintro ⟨⟨id, evaluator, status, required, message, detail⟩, durationMs⟩
    ⟨⟨id', evaluator', status', required', message', detail'⟩, durationMs'⟩ h
  simp only [toDict, List.cons.injEq, Prod.mk.injEq, Json.str.injEq,
    Json.bool.injEq, Json.num.injEq, Json.obj.injEq, true_and, and_true] at h
  obtain ⟨rfl, rfl, rfl, rfl, rfl, rfl, rfl⟩ := h
  rfl

theorem StoredReport.toDict_injective :
    Function.Injective StoredReport.toDict := by
  rintro ⟨policyId, policyVersion, state, startedAt, completedAt, checks,
      schemaVersion, deterministicOnly⟩
    ⟨policyId', policyVersion', state', startedAt', completedAt', checks',
      schemaVersion', deterministicOnly'⟩ h
  simp only [toDict, List.cons.injEq, Prod.mk.injEq, Json.str.injEq,
    Json.bool.injEq, Json.num.injEq, Json.arr.injEq, true_and, and_true,
    Rat.intCast_inj] at h
  obtain ⟨rfl, rfl, rfl, rfl, rfl, hchecks, rfl, rfl⟩ := h
  have hinjective : Function.Injective fun check : TimedCheck =>
      Json.obj check.toDict :=
    fun _ _ hobj => TimedCheck.toDict_injective (Json.obj.inj hobj)
  rw [hinjective.list_map hchecks]

theorem EvidenceRecord.filled_of_toDict {record : EvidenceRecord}
    (h : record.toDict = record.filled.toDict) : record.filled = record := by
  simp only [toDict, List.cons.injEq, Prod.mk.injEq, Json.str.injEq,
    Json.num.injEq, true_and, and_true, Rat.intCast_inj] at h
  obtain ⟨-, -, htype, -, -, -, -, hreport, -, -, hversion⟩ := h
  have hevaluation : record.filled.evaluation = record.evaluation := by
    cases hsome : record.evaluation with
    | none => simp [filled, hsome]
    | some report =>
        simp only [filled, hsome, Option.map_some, Json.orNull,
          Json.obj.injEq] at hreport
        rw [filled, hsome, Option.map_some,
          ← StoredReport.toDict_injective hreport]
  simp only [filled] at htype hversion hevaluation ⊢
  rw [← htype, ← hversion, hevaluation]

end Voly.Evidence
