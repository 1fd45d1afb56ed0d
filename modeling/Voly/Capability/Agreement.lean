/-
The decision to activate a capability and the decision to retire it, made on
the same store.
-/
import Voly.Capability.SnapshotInputs

namespace Voly

/-- `decide_capability` with all its parameters.  Counts are not negative, so
a bound below zero is met like zero. -/
def decideCapabilityWith (files : StoreFiles)
    (capabilityId executorId : String)
    (requiredSamples requiredHeldOut earlyRetireSamples : Int) :
    Except StoreError CapabilityDecision := do
  let (_, pack) ← files.findPack capabilityId
  let metrics ← files.metrics capabilityId executorId
  let (decision, reasons) :=
    verdict pack.successCriteria metrics requiredSamples.toNat
      requiredHeldOut.toNat earlyRetireSamples.toNat
  .ok {
    capabilityId, executorId, decision, reasons
    samples := metrics.samples
    heldOutSamples := metrics.heldOutSamples
    pairedDelta := metrics.pairedDelta }

example (files : StoreFiles) (capabilityId executorId : String)
    (requiredSamples : Nat) :
    decideCapability files capabilityId executorId requiredSamples =
      decideCapabilityWith files capabilityId executorId requiredSamples 2 3 :=
  rfl

/-- An active capability is not retired, a retired one is, a pilot only while it
waits. -/
structure DecisionsAgree (earlyRetireSamples : Int)
    (decision : CapabilityDecision) (retired : Bool) (reasons : List String) :
    Prop where
  activate : decision.decision = .activate → retired = false
  retire : decision.decision = .retire → retired = true
  keepPilot : decision.decision = .keepPilot → retired = true →
    decision.reasons = ["insufficient_measured_samples"] ∧
      (earlyRetireSamples ≤ decision.samples →
        "no_measurable_added_value" ∉ reasons)

theorem eq_of_mem_reason {p : Prop} [Decidable p] {reason other : String}
    (h : reason ∈ if p then [other] else []) : reason = other := by
  split at h
  · exact List.mem_singleton.mp h
  · cases h

theorem value_mem_failures {criteria : SuccessCriteria}
    {metrics : CapabilityMetrics}
    (h : "no_measurable_added_value" ∈ failures criteria metrics) :
    metrics.pairedDelta < criteria.minPairedDelta.value := by
  by_contra hdelta
  simp only [failures, if_neg hdelta, List.nil_append, List.mem_append,
    or_assoc] at h
  rcases h with h | h | h | h | h | h | h <;>
    exact absurd (eq_of_mem_reason h) (by decide)

theorem failures_of_value {criteria : SuccessCriteria}
    {metrics : CapabilityMetrics}
    (h : metrics.pairedDelta < criteria.minPairedDelta.value) :
    failures criteria metrics ≠ [] := by
  rw [failures, if_pos h]
  simp

/-- What `evaluate_retirement` answers for a pack and its metrics. -/
def retirement (criteria : SuccessCriteria) (metrics : CapabilityMetrics)
    (requiredHeldOut : Int) : Bool × List String :=
  if (metrics.samples : Int) < criteria.minSamples then
    (false, ["insufficient_samples"])
  else if (metrics.heldOutSamples : Int) < requiredHeldOut then
    (false, ["insufficient_held_out_evidence"])
  else (decide (failures criteria metrics ≠ []), failures criteria metrics)

theorem evaluateRetirement_eq {files : StoreFiles}
    {capabilityId executorId : String} {requiredHeldOut : Int}
    {packs : List EvaluatedCapabilityPack} {pack : EvaluatedCapabilityPack}
    {metrics : CapabilityMetrics}
    (hpack : files.findPack capabilityId = .ok (packs, pack))
    (hmetrics : files.metrics capabilityId executorId = .ok metrics) :
    (files.evaluateRetirement capabilityId executorId requiredHeldOut).1 =
      .ok (retirement pack.successCriteria metrics requiredHeldOut) := by
  unfold StoreFiles.evaluateRetirement retirement
  rw [hpack, hmetrics]
  dsimp only
  split
  · rfl
  split
  · rfl
  split
  · next hreasons => rw [decide_eq_true hreasons]
  · next hreasons => rw [decide_eq_false hreasons]

theorem decideCapabilityWith_eq {files : StoreFiles}
    {capabilityId executorId : String}
    {requiredSamples requiredHeldOut earlyRetireSamples : Int}
    {packs : List EvaluatedCapabilityPack} {pack : EvaluatedCapabilityPack}
    {metrics : CapabilityMetrics}
    (hpack : files.findPack capabilityId = .ok (packs, pack))
    (hmetrics : files.metrics capabilityId executorId = .ok metrics) :
    decideCapabilityWith files capabilityId executorId requiredSamples
      requiredHeldOut earlyRetireSamples =
      let found := verdict pack.successCriteria metrics
        requiredSamples.toNat requiredHeldOut.toNat earlyRetireSamples.toNat
      .ok ⟨capabilityId, executorId, found.1, found.2, metrics.samples,
        metrics.heldOutSamples, metrics.pairedDelta⟩ := by
  unfold decideCapabilityWith
  rw [hpack]
  dsimp only [Bind.bind, Except.bind]
  rw [hmetrics]

theorem verdicts_agree {criteria : SuccessCriteria}
    {metrics : CapabilityMetrics}
    {requiredSamples requiredHeldOut earlyRetireSamples : Int}
    (hmin : criteria.minSamples ≤ earlyRetireSamples)
    (hearly : earlyRetireSamples ≤ requiredSamples)
    {decision : CapabilityDecision}
    (hsamples : decision.samples = metrics.samples)
    (h : verdict criteria metrics requiredSamples.toNat requiredHeldOut.toNat
      earlyRetireSamples.toNat = (decision.decision, decision.reasons)) :
    DecisionsAgree earlyRetireSamples decision
      (retirement criteria metrics requiredHeldOut).1
      (retirement criteria metrics requiredHeldOut).2 := by
  unfold verdict at h
  by_cases hvalue : earlyRetireSamples.toNat ≤ metrics.samples ∧
      metrics.samples < requiredSamples.toNat ∧
      requiredHeldOut.toNat ≤ metrics.heldOutSamples ∧
      metrics.pairedDelta < criteria.minPairedDelta.value
  · -- no value, seen early
    rw [if_pos hvalue] at h
    obtain ⟨hcount, _, hheld, hdelta⟩ := hvalue
    obtain ⟨hdecision, _⟩ := Prod.mk.inj h
    rw [retirement, if_neg (by omega), if_neg (by omega)]
    refine ⟨?_, fun _ => decide_eq_true (failures_of_value hdelta), ?_⟩ <;>
      rw [← hdecision] <;> exact nofun
  rw [if_neg hvalue] at h
  by_cases hlow : metrics.heldOutSamples < requiredHeldOut.toNat
  · -- kept, and not retired without held-out evidence
    have hretired : (retirement criteria metrics requiredHeldOut).1 =
        false := by
      unfold retirement
      split
      · rfl
      · rw [if_pos (by omega)]
    simp [hlow] at h
    refine ⟨?_, ?_, ?_⟩ <;> rw [← h.1]
    · exact nofun
    · exact nofun
    · rw [hretired]
      exact fun _ => nofun
  by_cases hfew : metrics.samples < requiredSamples.toNat
  · -- kept for more samples
    simp [hlow, hfew] at h
    refine ⟨?_, ?_, fun _ hretired => ⟨h.2.symm, fun hcount hreason => ?_⟩⟩
    · rw [← h.1]
      exact nofun
    · rw [← h.1]
      exact nofun
    · rw [hsamples] at hcount
      rw [retirement, if_neg (by omega), if_neg (by omega)] at hreason
      exact hvalue ⟨by omega, hfew, by omega, value_mem_failures hreason⟩
  · rw [retirement, if_neg (by omega), if_neg (by omega)]
    by_cases hfails : failures criteria metrics = []
    · simp [hlow, hfew, hfails] at h
      refine ⟨fun _ => by simp [hfails], ?_, ?_⟩ <;> rw [← h.1] <;>
        exact nofun
    · simp [hlow, hfew, hfails] at h
      refine ⟨?_, fun _ => decide_eq_true hfails, ?_⟩ <;> rw [← h.1] <;>
        exact nofun

/-- The decision about a capability and its retirement on the same store agree.
-/
theorem decisions_agree (files : StoreFiles)
    (capabilityId executorId : String)
    (requiredSamples requiredHeldOut earlyRetireSamples : Int)
    (packs : List EvaluatedCapabilityPack) (pack : EvaluatedCapabilityPack)
    (hpack : files.findPack capabilityId = .ok (packs, pack))
    (hmin : pack.successCriteria.minSamples ≤ earlyRetireSamples)
    (hearly : earlyRetireSamples ≤ requiredSamples)
    (decision : CapabilityDecision)
    (hdecision : decideCapabilityWith files capabilityId executorId
      requiredSamples requiredHeldOut earlyRetireSamples = .ok decision) :
    ∃ retired reasons,
      (files.evaluateRetirement capabilityId executorId requiredHeldOut).1 =
        .ok (retired, reasons) ∧
      DecisionsAgree earlyRetireSamples decision retired reasons := by
  unfold decideCapabilityWith at hdecision
  rw [hpack] at hdecision
  dsimp only [Bind.bind, Except.bind] at hdecision
  cases hmetrics : files.metrics capabilityId executorId with
  | error e =>
      rw [hmetrics] at hdecision
      cases hdecision
  | ok metrics =>
      rw [hmetrics] at hdecision
      cases hdecision
      exact ⟨_, _, evaluateRetirement_eq hpack hmetrics,
        verdicts_agree hmin hearly rfl rfl⟩

namespace AgreementWitness

def row (runId : String) : CapabilityRunEvidence :=
  { EvidenceStoreWitness.rowOf runId with
    completion := false
    heldOut := true }

def files : StoreFiles :=
  ["a", "b", "c"].foldl (fun files runId => (files.record (row runId)).2)
    ({} : StoreFiles).initializeStore.2

def rows : List CapabilityRunEvidence := [row "a", row "b", row "c"]

theorem rows_saved {files : StoreFiles}
    {packs : List EvaluatedCapabilityPack} (hload : files.loadPacks = .ok packs)
    {after : StoreFiles}
    (hafter : after = ["a", "b", "c"].foldl
      (fun files runId => (files.record (row runId)).2) files) :
    after.loadPacks = .ok (rows.foldr countFor packs) ∧
      after.evidence = some (files.evidence.getD [] ++ logText rows) := by
  have hpass (runId : String) : ¬((row runId).changedCapabilities ≠ [] ∧
      (row runId).changedCapabilities ≠ [(row runId).capabilityId]) :=
    fun hchanged => hchanged.1 rfl
  simp only [List.foldl_cons, List.foldl_nil] at hafter
  rw [hafter, record_files (hpass "a") hload,
    record_files (hpass "b") (loadPacks_savePacks _ _),
    record_files (hpass "c") (loadPacks_savePacks _ _)]
  refine ⟨loadPacks_savePacks _ _, ?_⟩
  simp [logText, rows]

theorem files_saved :
    files.loadPacks = .ok (rows.foldr countFor pilotPacks) ∧
      files.evidence = some (logText rows) :=
  rows_saved (loadPacks_savePacks {} pilotPacks) rfl

theorem files_metrics : files.metrics "tdd-workflow" "codex" =
    .ok (metricsOf "tdd-workflow" "codex" rows) := by
  have hrows : files.evidenceRows "" = .ok rows :=
    evidenceRows_log files_saved.2 (by decide +kernel)
  unfold StoreFiles.metrics
  rw [evidenceRows_about, hrows]
  rfl

def pack : EvaluatedCapabilityPack :=
  { pilotPacks.get ⟨1, by decide⟩ with evidenceCount := 3 }

theorem files_found : files.findPack "tdd-workflow" =
    .ok (rows.foldr countFor pilotPacks, pack) := by
  unfold StoreFiles.findPack
  rw [files_saved.1]
  rfl

/-- A pilot is kept for more samples while its completion rate would retire it.
-/
theorem kept_and_retired :
    (decideCapabilityWith files "tdd-workflow" "codex" 6 2 3).map
      CapabilityDecision.decision = .ok .keepPilot ∧
    (files.findPack "tdd-workflow").map
      (fun found => found.2.successCriteria.minSamples) = .ok 3 ∧
    (files.evaluateRetirement "tdd-workflow" "codex" 2).1 =
      .ok (true, ["completion_below_threshold"]) := by
  refine ⟨?_, ?_, ?_⟩
  · rw [decideCapabilityWith_eq files_found files_metrics]
    decide +kernel
  · rw [files_found]
    rfl
  · rw [evaluateRetirement_eq files_found files_metrics]
    decide +kernel

def decision : CapabilityDecision :=
  (decideCapabilityWith files "tdd-workflow" "codex" 3 2 3).toOption.getD
    ⟨"", "", .keepPilot, [], 0, 0, 0⟩

theorem files_decision :
    decideCapabilityWith files "tdd-workflow" "codex" 3 2 3 =
      .ok decision := by
  unfold decision
  rw [decideCapabilityWith_eq files_found files_metrics]
  rfl

/-- With three required samples both retire it. -/
theorem retired_by_both : ∃ retired reasons,
    (files.evaluateRetirement "tdd-workflow" "codex" 2).1 =
      .ok (retired, reasons) ∧ DecisionsAgree 3 decision retired reasons :=
  decisions_agree files "tdd-workflow" "codex" 3 2 3 _ pack files_found
    (by decide +kernel) (by decide) decision files_decision

end AgreementWitness

end Voly
