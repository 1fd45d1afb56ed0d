/-
What the evaluated content of a snapshot is made of: the packs without their
counts, and their rows.
-/
import Voly.Capability.RemoteSnapshot
import Voly.Python.Loops

namespace Voly

open Python Binary64

/-- The packs in their stored order and the rows of one executor. -/
structure SnapshotInputs where
  packs : List EvaluatedCapabilityPack
  rows : List CapabilityRunEvidence
deriving DecidableEq

def EvaluatedCapabilityPack.uncounted (pack : EvaluatedCapabilityPack) :
    EvaluatedCapabilityPack :=
  { pack with evidenceCount := 0 }

/-- The row is of the capability; the empty name stands for any. -/
def CapabilityRunEvidence.about (row : CapabilityRunEvidence)
    (capabilityId : String) : Bool :=
  capabilityId = "" ∨ row.capabilityId = capabilityId

/-- A store without packs is not read any further. -/
def StoreFiles.inputs (files : StoreFiles) (executorId : String) :
    Except StoreError SnapshotInputs :=
  match files.loadPacks with
  | .error e => .error e
  | .ok [] => .ok ⟨[], []⟩
  | .ok packs =>
      match files.evidenceRows "" with
      | .error e => .error e
      | .ok rows => .ok {
          packs := packs.map EvaluatedCapabilityPack.uncounted
          rows := rows.filter fun row => row.executorId = executorId ∧
            packs.any fun pack => row.about pack.capabilityId }

/-- What the snapshot says of one pack, the instruction hashes left out. -/
structure EvaluatedItem where
  capabilityId : String
  version : Int
  state : PackState
  definition : EvaluatedCapabilityPack
  decision : CapabilityDecision
  metrics : CapabilityMetrics
deriving DecidableEq

def SnapshotItem.evaluated (item : SnapshotItem) : EvaluatedItem where
  capabilityId := item.capabilityId
  version := item.version
  state := item.state
  definition := item.definition
  decision := item.decision
  metrics := item.metrics

/-- The executor and what is said of each pack. -/
def SnapshotContent.evaluated (content : SnapshotContent) :
    String × List EvaluatedItem :=
  (content.executorId, content.packs.map SnapshotItem.evaluated)

namespace SnapshotInputs

variable (inputs : SnapshotInputs) (executorId : String)

def metrics (capabilityId : String) : CapabilityMetrics :=
  metricsOf capabilityId executorId
    (inputs.rows.filter fun row => row.about capabilityId)

def decision (pack : EvaluatedCapabilityPack) : CapabilityDecision :=
  let metrics := inputs.metrics executorId pack.capabilityId
  let first := (inputs.packs.find? fun other =>
    other.capabilityId = pack.capabilityId).getD pack
  let (decision, reasons) := verdict first.successCriteria metrics 6 2 3
  { capabilityId := pack.capabilityId, executorId, decision, reasons
    samples := metrics.samples
    heldOutSamples := metrics.heldOutSamples
    pairedDelta := metrics.pairedDelta }

def item (pack : EvaluatedCapabilityPack) : EvaluatedItem where
  capabilityId := pack.capabilityId
  version := pack.version
  state := pack.state
  definition := pack.definition
  decision := inputs.decision executorId pack
  metrics := inputs.metrics executorId pack.capabilityId

/-- The evaluated content of a snapshot of these inputs. -/
def evaluated : String × List EvaluatedItem :=
  (executorId, (inputs.packs.insertionSort fun pack other =>
    pack.capabilityId ≤ other.capabilityId).map (inputs.item executorId))

end SnapshotInputs

variable {files : StoreFiles} {executorId : String} {inputs : SnapshotInputs}
  {packs : List EvaluatedCapabilityPack}

theorem evidenceRows_about (files : StoreFiles) (capabilityId : String) :
    files.evidenceRows capabilityId = (files.evidenceRows "").map fun rows =>
      rows.filter fun row => row.about capabilityId := by
  unfold StoreFiles.evidenceRows
  cases files.evidence with
  | none => rfl
  | some text =>
      dsimp only
      cases ((splitLines text).filter fun line => !line.all isSpace).mapM
          StoreFiles.readRow with
      | none => rfl
      | some rows =>
          have hall : (rows.filter fun row => decide (("" : String) = "" ∨
              row.capabilityId = "")) = rows :=
            List.filter_eq_self.mpr fun row _ => by simp
          change Except.ok _ = Except.ok (List.filter _ (List.filter _ rows))
          rw [hall]
          rfl

section

variable (h : files.inputs executorId = .ok inputs)
  (hload : files.loadPacks = .ok packs)
include h hload

theorem inputs_cases :
    inputs.packs = packs.map EvaluatedCapabilityPack.uncounted ∧
      (packs = [] ∨ ∃ rows, files.evidenceRows "" = .ok rows ∧
        inputs.rows = rows.filter fun row => row.executorId = executorId ∧
          packs.any fun pack => row.about pack.capabilityId) := by
  unfold StoreFiles.inputs at h
  rw [hload] at h
  cases packs with
  | nil =>
      cases h
      exact ⟨rfl, Or.inl rfl⟩
  | cons pack rest =>
      dsimp only at h
      split at h
      · cases h
      · next rows hrows =>
          cases h
          exact ⟨rfl, Or.inr ⟨rows, hrows, rfl⟩⟩

theorem metrics_of_inputs {pack : EvaluatedCapabilityPack}
    (hpack : pack ∈ packs) :
    files.metrics pack.capabilityId executorId =
      .ok (inputs.metrics executorId pack.capabilityId) := by
  obtain ⟨_, hnil | ⟨rows, hrows, hinputs⟩⟩ := inputs_cases h hload
  · rw [hnil] at hpack
    cases hpack
  · have hfilter : (rows.filter fun row => row.about pack.capabilityId).filter
          (fun row => row.executorId = executorId) =
        inputs.rows.filter fun row => row.about pack.capabilityId := by
      rw [hinputs, List.filter_filter, List.filter_filter]
      apply List.filter_congr
      intro row _
      have hany : row.about pack.capabilityId = true →
          (packs.any fun pack => row.about pack.capabilityId) = true :=
        fun habout => List.any_eq_true.mpr ⟨pack, hpack, habout⟩
      rw [Bool.eq_iff_iff]
      simp only [Bool.and_eq_true, decide_eq_true_eq]
      tauto
    unfold StoreFiles.metrics
    rw [evidenceRows_about, hrows]
    change Except.ok (metricsOf _ _ (List.filter _ (List.filter _ rows))) = _
    rw [hfilter]
    rfl

theorem decision_of_inputs {pack : EvaluatedCapabilityPack}
    (hpack : pack ∈ packs) :
    decideCapability files pack.capabilityId executorId 6 =
      .ok (inputs.decision executorId pack.uncounted) := by
  have hmetrics := metrics_of_inputs h hload hpack
  obtain ⟨first, hfirst⟩ : ∃ first, packs.find? (fun other =>
      decide (other.capabilityId = pack.capabilityId)) = some first := by
    rw [← Option.isSome_iff_exists, List.find?_isSome]
    exact ⟨pack, hpack, decide_eq_true rfl⟩
  have hfind : files.findPack pack.capabilityId = .ok (packs, first) := by
    unfold StoreFiles.findPack
    rw [hload]
    dsimp only [Bind.bind, Except.bind]
    rw [hfirst]
  have hinputs : inputs.packs.find? (fun other =>
      decide (other.capabilityId = pack.capabilityId)) =
        some first.uncounted := by
    rw [(inputs_cases h hload).1, List.find?_map]
    change (packs.find? fun other =>
      decide (other.capabilityId = pack.capabilityId)).map _ = _
    rw [hfirst]
    rfl
  have hfirstInputs : (inputs.packs.find? fun other =>
      decide (other.capabilityId = pack.uncounted.capabilityId)).getD
        pack.uncounted = first.uncounted := by
    rw [show pack.uncounted.capabilityId = pack.capabilityId from rfl, hinputs]
    rfl
  unfold decideCapability SnapshotInputs.decision
  rw [hfind, hmetrics]
  dsimp only
  rw [hfirstInputs]
  rfl

end

section Build

variable (sha256 : List UInt8 → String) (float : Rat → Finite)

section

variable (h : files.inputs executorId = .ok inputs)
  (hload : files.loadPacks = .ok packs) {pack : EvaluatedCapabilityPack}
  (hpack : pack ∈ packs)
include h hload hpack

theorem evaluated_item {source : ProvenanceSource} {item : SnapshotItem}
    (hitem : snapshotItem sha256 float files executorId source pack =
      .ok item) :
    item.evaluated = inputs.item executorId pack.uncounted := by
  unfold snapshotItem at hitem
  rw [decision_of_inputs h hload hpack, metrics_of_inputs h hload hpack]
    at hitem
  simp only [bind, Except.bind] at hitem
  split at hitem
  · cases hitem
  split at hitem
  · cases hitem
  · cases hitem
    rfl

theorem exists_item :
    ∃ item, snapshotItem sha256 float files executorId {} pack =
      .ok item := by
  unfold snapshotItem
  rw [decision_of_inputs h hload hpack, metrics_of_inputs h hload hpack]
  exact ⟨_, rfl⟩

end

theorem map_sorted (packs : List EvaluatedCapabilityPack) :
    (packs.insertionSort fun pack other =>
      pack.capabilityId ≤ other.capabilityId).map
        EvaluatedCapabilityPack.uncounted =
      (packs.map EvaluatedCapabilityPack.uncounted).insertionSort
        fun pack other => pack.capabilityId ≤ other.capabilityId :=
  List.map_insertionSort _ _ _ _ fun _ _ _ _ => Iff.rfl

section

variable {source : ProvenanceSource} {snapshot : RemoteSnapshot}
  (hbuild : buildRemoteSnapshot sha256 float files executorId source = .ok
    snapshot)
include hbuild

theorem build_cases :
    ∃ packs, files.loadPacks = .ok packs ∧ packs.length ≤ 32 ∧
      snapshot.content.executorId = executorId ∧
      (packs.insertionSort fun pack other =>
        pack.capabilityId ≤ other.capabilityId).mapM
          (snapshotItem sha256 float files executorId source) =
        .ok snapshot.content.packs := by
  unfold buildRemoteSnapshot at hbuild
  cases hload : files.loadPacks with
  | error e =>
      rw [hload] at hbuild
      cases hbuild
  | ok packs =>
      rw [hload] at hbuild
      simp only [bind, Except.bind] at hbuild
      rw [List.length_insertionSort] at hbuild
      refine ⟨packs, rfl, ?_⟩
      split at hbuild
      · cases hbuild
      · next hlength =>
          split at hbuild
          · cases hbuild
          · next items hitems =>
              cases hbuild
              exact ⟨Nat.le_of_not_lt hlength, rfl, hitems⟩

theorem inputs_of_build :
    ∃ inputs, files.inputs executorId = .ok inputs := by
  obtain ⟨packs, hload, _, _, hitems⟩ := build_cases sha256 float hbuild
  unfold StoreFiles.inputs
  rw [hload]
  cases packs with
  | nil => exact ⟨_, rfl⟩
  | cons pack rest =>
      dsimp only
      cases hrows : files.evidenceRows "" with
      | ok rows => exact ⟨_, rfl⟩
      | error e =>
          obtain ⟨item, hitem⟩ := exists_of_mapM hitems pack
            ((List.mem_insertionSort _).mpr List.mem_cons_self)
          have hmetrics : files.metrics pack.capabilityId executorId =
              .error e := by
            unfold StoreFiles.metrics
            rw [evidenceRows_about, hrows]
            rfl
          unfold snapshotItem decideCapability at hitem
          rw [hmetrics] at hitem
          cases hfind : files.findPack pack.capabilityId with
          | error e =>
              rw [hfind] at hitem
              cases hitem
          | ok found =>
              rw [hfind] at hitem
              cases hitem

theorem evaluated_build (h : files.inputs executorId = .ok inputs) :
    inputs.packs.length ≤ 32 ∧
      snapshot.content.evaluated = inputs.evaluated executorId := by
  obtain ⟨packs, hload, hlength, hexecutor, hitems⟩ :=
    build_cases sha256 float hbuild
  have hinputs := (inputs_cases h hload).1
  constructor
  · rw [hinputs, List.length_map]
    exact hlength
  · have hmap := map_of_mapM (k := SnapshotItem.evaluated)
      (g := fun pack => inputs.item executorId pack.uncounted)
      (fun pack hpack item hitem => evaluated_item sha256 float h hload
        ((List.mem_insertionSort _).mp hpack) hitem) hitems
    unfold SnapshotContent.evaluated SnapshotInputs.evaluated
    rw [hexecutor, hmap, hinputs, ← map_sorted, List.map_map]
    rfl

end

theorem exists_build (h : files.inputs executorId = .ok inputs)
    (hlength : inputs.packs.length ≤ 32) :
    ∃ snapshot, buildRemoteSnapshot sha256 float files executorId {} =
      .ok snapshot := by
  cases hload : files.loadPacks with
  | error e =>
      unfold StoreFiles.inputs at h
      rw [hload] at h
      cases h
  | ok packs =>
      rw [(inputs_cases h hload).1, List.length_map] at hlength
      obtain ⟨items, hitems⟩ := exists_mapM
        (f := snapshotItem sha256 float files executorId {})
        (l := packs.insertionSort fun pack other =>
          pack.capabilityId ≤ other.capabilityId)
        fun pack hpack => exists_item sha256 float h hload
          ((List.mem_insertionSort _).mp hpack)
      unfold buildRemoteSnapshot
      rw [hload]
      simp only [bind, Except.bind]
      rw [List.length_insertionSort, if_neg (Nat.not_lt.mpr hlength), hitems]
      exact ⟨_, rfl⟩

end Build

end Voly
