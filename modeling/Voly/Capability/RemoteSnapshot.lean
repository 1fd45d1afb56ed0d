/-
The snapshot of a store for one executor: definitions, states, decisions,
metrics and hashes.
-/
import Voly.Capability.PackEvidence
import Voly.Evaluation.Golden
import Voly.Python.Repr

namespace Voly

open Python Binary64

inductive ActivationDecision where
  | activate
  | keepPilot
  | retire
deriving DecidableEq

def ActivationDecision.value : ActivationDecision → String
  | .activate => "activate"
  | .keepPilot => "keep-pilot"
  | .retire => "retire"

structure CapabilityDecision where
  capabilityId : String
  executorId : String
  decision : ActivationDecision
  reasons : List String
  samples : Nat
  heldOutSamples : Nat
  pairedDelta : Rat
deriving DecidableEq

/-- The verdict of `decide_capability` and its reasons. -/
def verdict (criteria : SuccessCriteria) (metrics : CapabilityMetrics)
    (requiredSamples requiredHeldOut earlyRetireSamples : Nat) :
    ActivationDecision × List String :=
  if earlyRetireSamples ≤ metrics.samples ∧
      metrics.samples < requiredSamples ∧
      requiredHeldOut ≤ metrics.heldOutSamples ∧
      metrics.pairedDelta < criteria.minPairedDelta.value then
    (.retire, ["early_falsification_no_measurable_added_value"])
  else
    let insufficient :=
      (if metrics.samples < requiredSamples then
        ["insufficient_measured_samples"] else []) ++
      (if metrics.heldOutSamples < requiredHeldOut then
        ["insufficient_held_out_evidence"] else [])
    if insufficient ≠ [] then (.keepPilot, insufficient)
    else if failures criteria metrics ≠ [] then
      (.retire, failures criteria metrics)
    else (.activate, ["measured_value_passed"])

def decideCapability (files : StoreFiles) (capabilityId executorId : String)
    (requiredSamples : Nat) : Except StoreError CapabilityDecision := do
  let (_, pack) ← files.findPack capabilityId
  let metrics ← files.metrics capabilityId executorId
  let (decision, reasons) :=
    verdict pack.successCriteria metrics requiredSamples 2 3
  .ok {
    capabilityId, executorId, decision, reasons
    samples := metrics.samples
    heldOutSamples := metrics.heldOutSamples
    pairedDelta := metrics.pairedDelta }

/-- Where the hashes of the instructions come from. -/
structure ProvenanceSource where
  staged : String → Option (Dict String) := fun _ => none
  additional : String → Dict String := fun _ => []

def ProvenanceSource.manifestHashes (source : ProvenanceSource)
    (pack : EvaluatedCapabilityPack) : Dict String :=
  match source.staged pack.sourcePackId with
  | none => []
  | some components =>
      pack.instructionSources.foldl (fun hashes name =>
        match components.get? name with
        | some hash => hashes.set name hash
        | none => hashes) []

/-- The hashes of a pack, the additional ones last. -/
def ProvenanceSource.hashes (source : ProvenanceSource)
    (pack : EvaluatedCapabilityPack) : Dict String :=
  (source.additional pack.capabilityId).foldl
    (fun hashes item => hashes.set item.1 item.2) (source.manifestHashes pack)

structure SnapshotItem where
  capabilityId : String
  version : Int
  state : PackState
  definitionHash : String
  definition : EvaluatedCapabilityPack
  instructionHashes : Dict String
  decision : CapabilityDecision
  metrics : CapabilityMetrics
deriving DecidableEq

structure SnapshotContent where
  executorId : String
  packs : List SnapshotItem
deriving DecidableEq

structure RemoteSnapshot where
  snapshotId : String
  content : SnapshotContent
deriving DecidableEq

/-- `len(value) != 64 or any(char not in "0123456789abcdef" ...)`. -/
def invalidHash (value : String) : Bool :=
  value.toList.length != 64 ||
    value.toList.any fun c => !(c.isDigit || ('a' ≤ c && c ≤ 'f'))

section Text

-- The float that Python's arithmetic gives for a value.
variable (float : Rat → Finite)

/-- A number as `json.loads` reads it. -/
def numberOf (x : JsonNumber) : Number :=
  if x.text.any floatMark || x.text.contains 'E' then .float (float x.value)
  else .int x.value.floor

def stringsContent (items : List String) : Content :=
  .list (items.map Content.str)

def EvaluatedCapabilityPack.definitionContent
    (pack : EvaluatedCapabilityPack) : Content :=
  let number (x : JsonNumber) : Content := .number (numberOf float x)
  let criteria := pack.successCriteria
  .dict [
    ("capability_id", .str pack.capabilityId),
    ("version", .number (.int pack.version)),
    ("role", .str pack.role),
    ("dimension", .str pack.dimension),
    ("triggers", stringsContent pack.triggers),
    ("input_contract", .str pack.inputContract),
    ("output_contract", .str pack.outputContract),
    ("success_criteria", .dict [
      ("min_completion_rate", number criteria.minCompletionRate),
      ("min_test_pass_rate", number criteria.minTestPassRate),
      ("min_reviewer_acceptance", number criteria.minReviewerAcceptance),
      ("max_rollback_rate", number criteria.maxRollbackRate),
      ("max_correction_rate", number criteria.maxCorrectionRate),
      ("min_paired_delta", number criteria.minPairedDelta),
      ("max_avg_latency_delta_ms", number criteria.maxAvgLatencyDeltaMs),
      ("max_avg_token_delta", number criteria.maxAvgTokenDelta),
      ("min_samples", .number (.int criteria.minSamples))]),
    ("origin", .str pack.origin),
    ("source_pack_id", .str pack.sourcePackId),
    ("instruction_sources", stringsContent pack.instructionSources)]

/-- `asdict(decision)`. -/
def CapabilityDecision.toContent (decision : CapabilityDecision) : Content :=
  .dict [
    ("capability_id", .str decision.capabilityId),
    ("executor_id", .str decision.executorId),
    ("decision", .str decision.decision.value),
    ("reasons", stringsContent decision.reasons),
    ("samples", .number (.int decision.samples)),
    ("held_out_samples", .number (.int decision.heldOutSamples)),
    ("paired_delta", .number (.float (float decision.pairedDelta)))]

/-- `asdict(metrics)`. -/
def CapabilityMetrics.toContent (metrics : CapabilityMetrics) : Content :=
  let mean (x : Rat) : Content := .number (.float (float x))
  .dict [
    ("capability_id", .str metrics.capabilityId),
    ("executor_id", .str metrics.executorId),
    ("samples", .number (.int metrics.samples)),
    ("completion_rate", mean metrics.completionRate),
    ("test_pass_rate", mean metrics.testPassRate),
    ("rollback_rate", mean metrics.rollbackRate),
    ("correction_rate", mean metrics.correctionRate),
    ("avg_cost_usd", mean metrics.avgCostUsd),
    ("avg_latency_ms", mean metrics.avgLatencyMs),
    ("avg_retries", mean metrics.avgRetries),
    ("reviewer_acceptance", mean metrics.reviewerAcceptance),
    ("paired_delta", mean metrics.pairedDelta),
    ("held_out_samples", .number (.int metrics.heldOutSamples)),
    ("cost_samples", .number (.int metrics.costSamples)),
    ("avg_latency_delta_ms", mean metrics.avgLatencyDeltaMs),
    ("avg_token_delta", mean metrics.avgTokenDelta),
    ("token_samples", .number (.int metrics.tokenSamples))]

def SnapshotItem.toContent (item : SnapshotItem) : Content := .dict [
  ("capability_id", .str item.capabilityId),
  ("version", .number (.int item.version)),
  ("state", .str item.state.value),
  ("definition_hash", .str item.definitionHash),
  ("definition", item.definition.definitionContent float),
  ("provenance", .dict [
    ("source_pack_id", .str item.definition.sourcePackId),
    ("instruction_hashes",
      .dict (item.instructionHashes.map fun hash => (hash.1, .str hash.2)))]),
  ("decision", item.decision.toContent float),
  ("metrics", item.metrics.toContent float)]

end Text

def snapshotBody (executorId : String) (packs : List Content) : Content :=
  .dict [
    ("schema_version", .number (.int 1)),
    ("executor_id", .str executorId),
    ("packs", .list packs)]

/-- `_canonical(value)`. -/
def canonical (value : Content) : List Char := canonicalText value.toDoc

section Build

variable (sha256 : List UInt8 → String) (float : Rat → Finite)

/-- `_sha256(text)`. -/
def textHash (text : List Char) : String := sha256 (utf8 text)

def SnapshotContent.toContent (content : SnapshotContent) : Content :=
  snapshotBody content.executorId
    (content.packs.map (SnapshotItem.toContent float))

def snapshotItem (files : StoreFiles) (executorId : String)
    (source : ProvenanceSource) (pack : EvaluatedCapabilityPack) :
    Except StoreError SnapshotItem := do
  let decision ← decideCapability files pack.capabilityId executorId 6
  let metrics ← files.metrics pack.capabilityId executorId
  let hashes := source.hashes pack
  if 64 < hashes.length then
    throw (.valueError "remote snapshot supports at most 64 provenance hashes")
  match hashes.find? fun hash => invalidHash hash.2 with
  | some hash =>
      throw (.valueError ("invalid provenance hash: " ++ hash.1))
  | none =>
      return {
        capabilityId := pack.capabilityId
        version := pack.version
        state := pack.state
        definitionHash := textHash sha256
          (canonical (pack.definitionContent float))
        definition := pack.definition
        instructionHashes :=
          hashes.insertionSort fun hash other => hash.1 ≤ other.1
        decision, metrics }

def buildRemoteSnapshot (files : StoreFiles) (executorId : String)
    (source : ProvenanceSource) : Except StoreError RemoteSnapshot := do
  let packs ← files.loadPacks
  let packs := packs.insertionSort fun pack other =>
    pack.capabilityId ≤ other.capabilityId
  if 32 < packs.length then
    throw (.valueError "remote snapshot supports at most 32 packs")
  let items ← packs.mapM (snapshotItem sha256 float files executorId source)
  let content : SnapshotContent := ⟨executorId, items⟩
  return {
    snapshotId := textHash sha256
      (canonical (content.toContent float).normalizeNumbers)
    content }

end Build

end Voly
