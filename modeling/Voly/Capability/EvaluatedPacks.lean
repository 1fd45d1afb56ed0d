/-
The store of evaluated capability packs: a JSON list of packs and a log of
evidence.  Numbers stand by the value of their digits, so averages are exact.
-/
import Voly.Python.JsonLines

namespace Voly

open Python

inductive PackState where
  | pilot
  | active
  | retired
deriving DecidableEq

def PackState.value : PackState → String
  | .pilot => "pilot"
  | .active => "active"
  | .retired => "retired"

def PackState.parse (value : String) : Option PackState :=
  if value = "pilot" then some .pilot
  else if value = "active" then some .active
  else if value = "retired" then some .retired
  else none

structure SuccessCriteria where
  minCompletionRate : JsonNumber := ⟨"0.7".toList, by decide +kernel⟩
  minTestPassRate : JsonNumber := ⟨"0.7".toList, by decide +kernel⟩
  minReviewerAcceptance : JsonNumber := ⟨"0.6".toList, by decide +kernel⟩
  maxRollbackRate : JsonNumber := ⟨"0.2".toList, by decide +kernel⟩
  maxCorrectionRate : JsonNumber := ⟨"0.3".toList, by decide +kernel⟩
  minPairedDelta : JsonNumber := ⟨"0.01".toList, by decide +kernel⟩
  maxAvgLatencyDeltaMs : JsonNumber := ⟨"30000".toList, by decide +kernel⟩
  maxAvgTokenDelta : JsonNumber := ⟨"100000".toList, by decide +kernel⟩
  minSamples : Int := 3
deriving DecidableEq

structure EvaluatedCapabilityPack where
  capabilityId : String
  version : Int
  role : String
  dimension : String
  triggers : List String
  inputContract : String
  outputContract : String
  successCriteria : SuccessCriteria
  state : PackState := .pilot
  origin : String := "builtin"
  evidenceCount : Int := 0
  sourcePackId : String := "ecc-universal"
  instructionSources : List String := []
deriving DecidableEq

/-- `asdict(criteria)`. -/
def SuccessCriteria.toDoc (criteria : SuccessCriteria) : Doc := .dict [
  ("min_completion_rate", criteria.minCompletionRate.toDoc),
  ("min_test_pass_rate", criteria.minTestPassRate.toDoc),
  ("min_reviewer_acceptance", criteria.minReviewerAcceptance.toDoc),
  ("max_rollback_rate", criteria.maxRollbackRate.toDoc),
  ("max_correction_rate", criteria.maxCorrectionRate.toDoc),
  ("min_paired_delta", criteria.minPairedDelta.toDoc),
  ("max_avg_latency_delta_ms", criteria.maxAvgLatencyDeltaMs.toDoc),
  ("max_avg_token_delta", criteria.maxAvgTokenDelta.toDoc),
  ("min_samples", intDoc criteria.minSamples)]

def EvaluatedCapabilityPack.toDict (pack : EvaluatedCapabilityPack) : Doc :=
  .dict [
    ("capability_id", .str pack.capabilityId),
    ("version", intDoc pack.version),
    ("role", .str pack.role),
    ("dimension", .str pack.dimension),
    ("triggers", stringsDoc pack.triggers),
    ("input_contract", .str pack.inputContract),
    ("output_contract", .str pack.outputContract),
    ("success_criteria", pack.successCriteria.toDoc),
    ("state", .str pack.state.value),
    ("origin", .str pack.origin),
    ("evidence_count", intDoc pack.evidenceCount),
    ("source_pack_id", .str pack.sourcePackId),
    ("instruction_sources", stringsDoc pack.instructionSources)]

/-- `SuccessCriteria(**data)`. -/
def SuccessCriteria.fromDoc (data : Doc) : Option SuccessCriteria :=
  let standard : SuccessCriteria := {}
  if knownKeys data ["min_completion_rate", "min_test_pass_rate",
      "min_reviewer_acceptance", "max_rollback_rate", "max_correction_rate",
      "min_paired_delta", "max_avg_latency_delta_ms", "max_avg_token_delta",
      "min_samples"] then do
    let minCompletionRate ← defaulted data "min_completion_rate" Doc.num?
      standard.minCompletionRate
    let minTestPassRate ← defaulted data "min_test_pass_rate" Doc.num?
      standard.minTestPassRate
    let minReviewerAcceptance ← defaulted data "min_reviewer_acceptance"
      Doc.num? standard.minReviewerAcceptance
    let maxRollbackRate ← defaulted data "max_rollback_rate" Doc.num?
      standard.maxRollbackRate
    let maxCorrectionRate ← defaulted data "max_correction_rate" Doc.num?
      standard.maxCorrectionRate
    let minPairedDelta ← defaulted data "min_paired_delta" Doc.num?
      standard.minPairedDelta
    let maxAvgLatencyDeltaMs ← defaulted data "max_avg_latency_delta_ms"
      Doc.num? standard.maxAvgLatencyDeltaMs
    let maxAvgTokenDelta ← defaulted data "max_avg_token_delta" Doc.num?
      standard.maxAvgTokenDelta
    let minSamples ← defaulted data "min_samples" Doc.int?
      standard.minSamples
    some {
      minCompletionRate, minTestPassRate, minReviewerAcceptance,
      maxRollbackRate, maxCorrectionRate, minPairedDelta,
      maxAvgLatencyDeltaMs, maxAvgTokenDelta, minSamples }
  else none

def EvaluatedCapabilityPack.fromDict (data : Doc) :
    Option EvaluatedCapabilityPack := do
  let capabilityId ← required data "capability_id" Doc.str?
  let version ← required data "version" Doc.int?
  let role ← required data "role" Doc.str?
  let dimension ← required data "dimension" Doc.str?
  let triggers ← required data "triggers" Doc.strings?
  let inputContract ← required data "input_contract" Doc.str?
  let outputContract ← required data "output_contract" Doc.str?
  let successCriteria ← required data "success_criteria"
    SuccessCriteria.fromDoc
  let state ← defaulted data "state"
    (fun value => value.str? >>= PackState.parse) .pilot
  let origin ← defaulted data "origin" Doc.str? "builtin"
  let evidenceCount ← defaulted data "evidence_count" Doc.int? 0
  let sourcePackId ← defaulted data "source_pack_id" Doc.str? "ecc-universal"
  let instructionSources ← defaulted data "instruction_sources"
    stringsOrEmpty []
  some {
    capabilityId, version, role, dimension, triggers, inputContract,
    outputContract, successCriteria, state, origin, evidenceCount,
    sourcePackId, instructionSources }

theorem parse_value (state : PackState) :
    PackState.parse state.value = some state := by
  cases state <;> decide +kernel

theorem criteria_fromDoc (criteria : SuccessCriteria) :
    SuccessCriteria.fromDoc criteria.toDoc = some criteria := by
  simp [SuccessCriteria.fromDoc, SuccessCriteria.toDoc, knownKeys, defaulted,
    Doc.field?, Dict.get?]

theorem pack_fromDict (pack : EvaluatedCapabilityPack) :
    EvaluatedCapabilityPack.fromDict pack.toDict = some pack := by
  simp [EvaluatedCapabilityPack.fromDict, EvaluatedCapabilityPack.toDict,
    required, defaulted, Doc.field?, Dict.get?, criteria_fromDoc, parse_value,
    stringsOrEmpty_stringsDoc, strings?_stringsDoc]

structure CapabilityRunEvidence where
  capabilityId : String
  executorId : String
  runId : String
  completion : Bool
  testsPassed : Bool
  rollback : Bool
  corrections : Int
  costUsd : JsonNumber
  latencyMs : JsonNumber
  retries : Int
  reviewerAccepted : Bool
  baselineScore : JsonNumber
  variantScore : JsonNumber
  heldOut : Bool := false
  experimentId : String := ""
  changedCapabilities : List String := []
  costMeasured : Bool := true
  baselineLatencyMs : JsonNumber := ⟨"0.0".toList, by decide +kernel⟩
  baselineTokens : Int := 0
  variantTokens : Int := 0
  tokensMeasured : Bool := true
  createdAt : JsonNumber
deriving DecidableEq

/-- `asdict(evidence)`. -/
def CapabilityRunEvidence.toDoc (row : CapabilityRunEvidence) : Doc := .dict [
  ("capability_id", .str row.capabilityId),
  ("executor_id", .str row.executorId),
  ("run_id", .str row.runId),
  ("completion", boolDoc row.completion),
  ("tests_passed", boolDoc row.testsPassed),
  ("rollback", boolDoc row.rollback),
  ("corrections", intDoc row.corrections),
  ("cost_usd", row.costUsd.toDoc),
  ("latency_ms", row.latencyMs.toDoc),
  ("retries", intDoc row.retries),
  ("reviewer_accepted", boolDoc row.reviewerAccepted),
  ("baseline_score", row.baselineScore.toDoc),
  ("variant_score", row.variantScore.toDoc),
  ("held_out", boolDoc row.heldOut),
  ("experiment_id", .str row.experimentId),
  ("changed_capabilities", stringsDoc row.changedCapabilities),
  ("cost_measured", boolDoc row.costMeasured),
  ("baseline_latency_ms", row.baselineLatencyMs.toDoc),
  ("baseline_tokens", intDoc row.baselineTokens),
  ("variant_tokens", intDoc row.variantTokens),
  ("tokens_measured", boolDoc row.tokensMeasured),
  ("created_at", row.createdAt.toDoc)]

/-- `CapabilityRunEvidence(**data)`, for rows that say when they were created.
-/
def CapabilityRunEvidence.fromDoc (data : Doc) :
    Option CapabilityRunEvidence :=
  if knownKeys data ["capability_id", "executor_id", "run_id", "completion",
      "tests_passed", "rollback", "corrections", "cost_usd", "latency_ms",
      "retries", "reviewer_accepted", "baseline_score", "variant_score",
      "held_out", "experiment_id", "changed_capabilities", "cost_measured",
      "baseline_latency_ms", "baseline_tokens", "variant_tokens",
      "tokens_measured", "created_at"] then do
    let capabilityId ← required data "capability_id" Doc.str?
    let executorId ← required data "executor_id" Doc.str?
    let runId ← required data "run_id" Doc.str?
    let completion ← required data "completion" Doc.bool?
    let testsPassed ← required data "tests_passed" Doc.bool?
    let rollback ← required data "rollback" Doc.bool?
    let corrections ← required data "corrections" Doc.int?
    let costUsd ← required data "cost_usd" Doc.num?
    let latencyMs ← required data "latency_ms" Doc.num?
    let retries ← required data "retries" Doc.int?
    let reviewerAccepted ← required data "reviewer_accepted" Doc.bool?
    let baselineScore ← required data "baseline_score" Doc.num?
    let variantScore ← required data "variant_score" Doc.num?
    let heldOut ← defaulted data "held_out" Doc.bool? false
    let experimentId ← defaulted data "experiment_id" Doc.str? ""
    let changedCapabilities ← defaulted data "changed_capabilities"
      Doc.strings? []
    let costMeasured ← defaulted data "cost_measured" Doc.bool? true
    let baselineLatencyMs ← defaulted data "baseline_latency_ms" Doc.num?
      ⟨"0.0".toList, by decide +kernel⟩
    let baselineTokens ← defaulted data "baseline_tokens" Doc.int? 0
    let variantTokens ← defaulted data "variant_tokens" Doc.int? 0
    let tokensMeasured ← defaulted data "tokens_measured" Doc.bool? true
    let createdAt ← required data "created_at" Doc.num?
    some {
      capabilityId, executorId, runId, completion, testsPassed, rollback,
      corrections, costUsd, latencyMs, retries, reviewerAccepted,
      baselineScore, variantScore, heldOut, experimentId,
      changedCapabilities, costMeasured, baselineLatencyMs, baselineTokens,
      variantTokens, tokensMeasured, createdAt }
  else none

theorem evidence_fromDoc (row : CapabilityRunEvidence) :
    CapabilityRunEvidence.fromDoc row.toDoc = some row := by
  simp [CapabilityRunEvidence.fromDoc, CapabilityRunEvidence.toDoc, knownKeys,
    required, defaulted, Doc.field?, Dict.get?, strings?_stringsDoc]

/-- The texts of `packs.json` and `evidence.jsonl`, where there is one. -/
structure StoreFiles where
  packs : Option (List Char) := none
  evidence : Option (List Char) := none
deriving DecidableEq

inductive StoreError where
  | valueError (message : String)
  | unreadable
  | stopIteration
deriving DecidableEq

def pilotPacks : List EvaluatedCapabilityPack := [
  { capabilityId := "security-reviewer"
    version := 1
    role := "security"
    dimension := "security"
    triggers := ["security", "secret", "vulnerability", "auth", "threat"]
    inputContract := "CapabilityInput.v1"
    outputContract := "CapabilityOutput.v1"
    successCriteria := {}
    instructionSources := [
      "content/agents/security-reviewer.md",
      "content/skills/security-review/SKILL.md"] },
  { capabilityId := "tdd-workflow"
    version := 1
    role := "tester"
    dimension := "testing"
    triggers := ["tdd", "test-first", "regression", "failing test", "pytest"]
    inputContract := "CapabilityInput.v1"
    outputContract := "CapabilityOutput.v1"
    successCriteria := {}
    instructionSources := ["content/skills/tdd-workflow/SKILL.md"] },
  { capabilityId := "python-reviewer"
    version := 1
    role := "reviewer"
    dimension := "backend"
    triggers := ["python", "pytest", "ruff", "type hint", "pyproject"]
    inputContract := "CapabilityInput.v1"
    outputContract := "CapabilityOutput.v1"
    successCriteria := {}
    instructionSources := ["content/agents/python-reviewer.md"] }]

namespace StoreFiles

variable (files : StoreFiles)

def loadPacks : Except StoreError (List EvaluatedCapabilityPack) :=
  match files.packs with
  | none => .ok []
  | some text =>
      match (loads text).filter Doc.proper with
      | some (.list items) =>
          match items.mapM EvaluatedCapabilityPack.fromDict with
          | some packs => .ok packs
          | none => .error .unreadable
      | _ => .error .unreadable

def savePacks (packs : List EvaluatedCapabilityPack) : StoreFiles :=
  { files with
    packs := some (dumpsIndented
      (.list (packs.map EvaluatedCapabilityPack.toDict))) }

/-- What `initialize` does to a stored pack without instruction sources. -/
def addSources (pack : EvaluatedCapabilityPack) : EvaluatedCapabilityPack :=
  match pilotPacks.reverse.find? fun definition =>
      definition.capabilityId = pack.capabilityId with
  | some definition =>
      if pack.instructionSources = [] then
        { pack with
          sourcePackId := definition.sourcePackId
          instructionSources := definition.instructionSources }
      else pack
  | none => pack

def initializeStore :
    Except StoreError (List EvaluatedCapabilityPack) × StoreFiles :=
  match files.packs with
  | some _ =>
      match files.loadPacks with
      | .ok packs =>
          if packs.map addSources = packs then (.ok packs, files)
          else (.ok (packs.map addSources),
            files.savePacks (packs.map addSources))
      | .error e => (.error e, files)
  | none =>
      let saved := files.savePacks pilotPacks
      (saved.loadPacks, saved)

def rowText (row : CapabilityRunEvidence) : List Char :=
  row.toDoc.write true ++ ['\n']

/-- `record`: the row is appended before the packs are read. -/
def record (row : CapabilityRunEvidence) :
    Except StoreError Unit × StoreFiles :=
  if row.changedCapabilities ≠ [] ∧
      row.changedCapabilities ≠ [row.capabilityId] then
    (.error (.valueError
      "paired experiment must change exactly one capability"), files)
  else
    let files : StoreFiles :=
      { files with evidence := some (files.evidence.getD [] ++ rowText row) }
    match files.loadPacks with
    | .error e => (.error e, files)
    | .ok packs =>
        (.ok (), files.savePacks (packs.map fun pack =>
          if pack.capabilityId = row.capabilityId then
            { pack with evidenceCount := pack.evidenceCount + 1 }
          else pack))

/-- One line of the log. -/
def readRow (line : List Char) : Option CapabilityRunEvidence :=
  (loads line).filter Doc.proper >>= CapabilityRunEvidence.fromDoc

/-- `evidence(capability_id)`. -/
def evidenceRows (capabilityId : String) :
    Except StoreError (List CapabilityRunEvidence) :=
  match files.evidence with
  | none => .ok []
  | some text =>
      let lines := (splitLines text).filter fun line =>
        !line.all isSpace
      match lines.mapM readRow with
      | some rows =>
          .ok (rows.filter fun row =>
            capabilityId = "" ∨ row.capabilityId = capabilityId)
      | none => .error .unreadable

end StoreFiles

structure CapabilityMetrics where
  capabilityId : String
  executorId : String
  samples : Nat := 0
  completionRate : Rat := 0
  testPassRate : Rat := 0
  rollbackRate : Rat := 0
  correctionRate : Rat := 0
  avgCostUsd : Rat := 0
  avgLatencyMs : Rat := 0
  avgRetries : Rat := 0
  reviewerAcceptance : Rat := 0
  pairedDelta : Rat := 0
  heldOutSamples : Nat := 0
  costSamples : Nat := 0
  avgLatencyDeltaMs : Rat := 0
  avgTokenDelta : Rat := 0
  tokenSamples : Nat := 0
deriving DecidableEq

/-- `sum(values) / len(values)`, zero without values. -/
def average (values : List Rat) : Rat := values.sum / values.length

/-- `float(flag)`. -/
def indicator (flag : Bool) : Rat := if flag then 1 else 0

/-- The metrics of the rows of one capability and executor. -/
def metricsOf (capabilityId executorId : String)
    (rows : List CapabilityRunEvidence) : CapabilityMetrics :=
  let measured := rows.filter fun row => row.costMeasured
  let tokens := rows.filter fun row => row.tokensMeasured
  { capabilityId, executorId
    samples := rows.length
    completionRate := average (rows.map fun row => indicator row.completion)
    testPassRate := average (rows.map fun row => indicator row.testsPassed)
    rollbackRate := average (rows.map fun row => indicator row.rollback)
    correctionRate :=
      average (rows.map fun row => indicator (0 < row.corrections))
    avgCostUsd := average (measured.map fun row => row.costUsd.value)
    avgLatencyMs := average (rows.map fun row => row.latencyMs.value)
    avgRetries := average (rows.map fun row => (row.retries : Rat))
    reviewerAcceptance :=
      average (rows.map fun row => indicator row.reviewerAccepted)
    pairedDelta := average (rows.map fun row =>
      row.variantScore.value - row.baselineScore.value)
    heldOutSamples := rows.countP fun row => row.heldOut
    costSamples := measured.length
    avgLatencyDeltaMs := average (rows.map fun row =>
      row.latencyMs.value - row.baselineLatencyMs.value)
    avgTokenDelta := average (tokens.map fun row =>
      ((row.variantTokens - row.baselineTokens : Int) : Rat))
    tokenSamples := tokens.length }

/-- The thresholds that the metrics miss, in the order they are checked. -/
def failures (criteria : SuccessCriteria) (metrics : CapabilityMetrics) :
    List String :=
  (if metrics.pairedDelta < criteria.minPairedDelta.value then
    ["no_measurable_added_value"] else []) ++
  (if metrics.completionRate < criteria.minCompletionRate.value then
    ["completion_below_threshold"] else []) ++
  (if metrics.testPassRate < criteria.minTestPassRate.value then
    ["test_pass_below_threshold"] else []) ++
  (if metrics.rollbackRate > criteria.maxRollbackRate.value then
    ["rollback_above_threshold"] else []) ++
  (if metrics.correctionRate > criteria.maxCorrectionRate.value then
    ["correction_above_threshold"] else []) ++
  (if metrics.reviewerAcceptance < criteria.minReviewerAcceptance.value then
    ["reviewer_acceptance_below_threshold"] else []) ++
  (if metrics.avgLatencyDeltaMs > criteria.maxAvgLatencyDeltaMs.value then
    ["latency_overhead_above_threshold"] else []) ++
  (if metrics.tokenSamples ≠ 0 ∧
      metrics.avgTokenDelta > criteria.maxAvgTokenDelta.value then
    ["token_overhead_above_threshold"] else [])

def changeFirst (capabilityId : String)
    (change : EvaluatedCapabilityPack → EvaluatedCapabilityPack) :
    List EvaluatedCapabilityPack → List EvaluatedCapabilityPack
  | [] => []
  | pack :: rest =>
      if pack.capabilityId = capabilityId then change pack :: rest
      else pack :: changeFirst capabilityId change rest

namespace StoreFiles

variable (files : StoreFiles)

def metrics (capabilityId executorId : String) :
    Except StoreError CapabilityMetrics := do
  let rows ← files.evidenceRows capabilityId
  let rows := rows.filter fun row => row.executorId = executorId
  .ok (metricsOf capabilityId executorId rows)

/-- `next(item for item in packs if item.capability_id == capability_id)`. -/
def findPack (capabilityId : String) :
    Except StoreError (List EvaluatedCapabilityPack × EvaluatedCapabilityPack) :=
  do
    let packs ← files.loadPacks
    match packs.find? fun pack => pack.capabilityId = capabilityId with
    | some pack => .ok (packs, pack)
    | none => .error .stopIteration

def activate (capabilityId : String) :
    Except StoreError EvaluatedCapabilityPack × StoreFiles :=
  match files.findPack capabilityId with
  | .error e => (.error e, files)
  | .ok (packs, pack) =>
      if pack.origin = "imported" ∧ pack.evidenceCount = 0 then
        (.error (.valueError
          "active imported capability requires measured evidence"), files)
      else if pack.evidenceCount = 0 then
        (.error (.valueError "activation requires measured evidence"), files)
      else
        (.ok { pack with state := .active },
          files.savePacks (changeFirst capabilityId
            (fun pack => { pack with state := .active }) packs))

def evaluateRetirement (capabilityId executorId : String)
    (requiredHeldOut : Int) :
    Except StoreError (Bool × List String) × StoreFiles :=
  match files.findPack capabilityId with
  | .error e => (.error e, files)
  | .ok (packs, pack) =>
      match files.metrics capabilityId executorId with
      | .error e => (.error e, files)
      | .ok metrics =>
          if (metrics.samples : Int) < pack.successCriteria.minSamples then
            (.ok (false, ["insufficient_samples"]), files)
          else if (metrics.heldOutSamples : Int) < requiredHeldOut then
            (.ok (false, ["insufficient_held_out_evidence"]), files)
          else
            let reasons := failures pack.successCriteria metrics
            if reasons ≠ [] then
              (.ok (true, reasons),
                files.savePacks (changeFirst capabilityId
                  (fun pack => { pack with state := .retired }) packs))
            else (.ok (false, reasons), files)

end StoreFiles

theorem proper_stringsDoc (items : List String) :
    (stringsDoc items).proper = true := by
  rw [stringsDoc, proper_list, List.all_map]
  exact List.all_eq_true.mpr fun item _ => proper_str item

theorem proper_criteria (criteria : SuccessCriteria) :
    criteria.toDoc.proper = true := by
  rw [SuccessCriteria.toDoc, proper_dict]
  simp only [List.all_cons, List.all_nil, proper_num, proper_intDoc,
    Bool.and_self]

theorem proper_pack (pack : EvaluatedCapabilityPack) :
    pack.toDict.proper = true := by
  rw [EvaluatedCapabilityPack.toDict, proper_dict]
  simp only [List.all_cons, List.all_nil, proper_str, proper_intDoc,
    proper_stringsDoc, proper_criteria, Bool.and_self]

theorem proper_evidence (row : CapabilityRunEvidence) :
    row.toDoc.proper = true := by
  rw [CapabilityRunEvidence.toDoc, proper_dict]
  simp only [List.all_cons, List.all_nil, proper_str, proper_num,
    proper_intDoc, proper_boolDoc, proper_stringsDoc, Bool.and_self]

theorem packs_fromDict (packs : List EvaluatedCapabilityPack) :
    (packs.map EvaluatedCapabilityPack.toDict).mapM
      EvaluatedCapabilityPack.fromDict = some packs := by
  induction packs with
  | nil => rfl
  | cons pack packs ih => simp [pack_fromDict, ih]

theorem loads_packs (packs : List EvaluatedCapabilityPack) :
    (loads (dumpsIndented
        (.list (packs.map EvaluatedCapabilityPack.toDict)))).filter
      Doc.proper =
      some (.list (packs.map EvaluatedCapabilityPack.toDict)) := by
  have hproper : (Doc.list (packs.map
      EvaluatedCapabilityPack.toDict)).proper = true := by
    rw [proper_list, List.all_map]
    exact List.all_eq_true.mpr fun pack _ => proper_pack pack
  rw [loads_dumpsIndented, Option.filter_some, if_pos hproper]

@[simp] theorem loadPacks_savePacks (files : StoreFiles)
    (packs : List EvaluatedCapabilityPack) :
    (files.savePacks packs).loadPacks = .ok packs := by
  unfold StoreFiles.loadPacks StoreFiles.savePacks
  dsimp only
  rw [loads_packs]
  dsimp only
  rw [packs_fromDict]

@[simp] theorem evidence_savePacks (files : StoreFiles)
    (packs : List EvaluatedCapabilityPack) :
    (files.savePacks packs).evidence = files.evidence := rfl

theorem readRow_write (row : CapabilityRunEvidence) :
    StoreFiles.readRow (row.toDoc.write true) = some row := by
  unfold StoreFiles.readRow
  rw [loads_write, Option.filter_some, if_pos (proper_evidence row),
    Option.bind_eq_bind, Option.bind_some, evidence_fromDoc]

end Voly
