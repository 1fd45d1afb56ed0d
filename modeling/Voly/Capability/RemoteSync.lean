/-
Uploading a snapshot, the receipt of an upload that was read back, and when a
receipt is current.
-/
import Voly.Capability.SnapshotInputs
import Voly.Python.Controls

namespace Voly

open Python Binary64 Framing Interaction

def fileField (name : String) (text : Option (List Char)) : List UInt8 :=
  utf8 name.toList ++ 0 :: (utf8 (text.getD []) ++ [0])

def StoreFiles.encoded (files : StoreFiles) : List UInt8 :=
  fileField "packs.json" files.packs ++
    fileField "evidence.jsonl" files.evidence

def storeStateHash (sha256 : List UInt8 → String) (files : StoreFiles) :
    String :=
  sha256 files.encoded

structure RemoteSyncReceipt where
  schemaVersion : Int
  snapshotId : String
  executorId : String
  workerUrl : String
  storeStateHash : String
  verified : Bool
deriving DecidableEq

/-- The Worker's answers to the upload and the read-back, or messages. -/
structure WorkerAnswers where
  uploaded : Except String (Option String)
  readBack : Except String (Option String × Option SnapshotContent)

section Sync

variable (sha256 : List UInt8 → String)

/-- `sync_remote_snapshot`: the receipt, or the message of the error. -/
def syncRemoteSnapshot (files : StoreFiles) (snapshot : RemoteSnapshot)
    (workerUrl token : String) (answers : WorkerAnswers) :
    Except String RemoteSyncReceipt := do
  if workerUrl.toList.all isSpace then
    throw "capability worker URL is required"
  if token = "" then
    throw "VOLY_CAPABILITY_SYNC_TOKEN is required"
  let uploaded ← answers.uploaded
  if uploaded ≠ some snapshot.snapshotId then
    throw "remote upload returned a different snapshot"
  let remote ← answers.readBack
  if remote.1 ≠ some snapshot.snapshotId ∨
      remote.2 ≠ some snapshot.content then
    throw "remote read-back verification failed"
  return {
    schemaVersion := 1
    snapshotId := snapshot.snapshotId
    executorId := snapshot.content.executorId
    workerUrl := String.ofList (workerUrl.toList.rdropWhile (· == '/'))
    storeStateHash := storeStateHash sha256 files
    verified := true }

def hasCurrentVerifiedReceipt (files : StoreFiles) (executorId : String)
    (receipt : Option RemoteSyncReceipt) : Bool :=
  match receipt with
  | none => false
  | some receipt =>
      receipt.schemaVersion == 1 && receipt.executorId == executorId &&
        receipt.verified && receipt.storeStateHash == storeStateHash sha256 files

end Sync

structure BuiltSnapshot where
  snapshot : RemoteSnapshot
  executorId : String
  source : ProvenanceSource
  files : StoreFiles

/-- A receipt, and the snapshot that was verified under it. -/
structure Delivery where
  receipt : RemoteSyncReceipt
  snapshot : RemoteSnapshot

/-- The files, the snapshots built so far, and the receipts by their path. -/
structure ReceiptWorld where
  files : StoreFiles
  built : List BuiltSnapshot := []
  deliveries : Dict Delivery := []

inductive ReceiptEvent where
  | store (event : PackEvent)
  | build (executorId : String) (source : ProvenanceSource)
  | sync (index : Nat) (workerUrl token : String) (answers : WorkerAnswers)
      (path : String)

def StoreFiles.after (files : StoreFiles) (event : PackEvent) : StoreFiles :=
  (PackWorld.after ⟨files, []⟩ event).files

section Steps

variable (sha256 : List UInt8 → String) (float : Rat → Finite)

/-- One call; one that raises changes nothing but the files. -/
def receiptStep (world : ReceiptWorld) : ReceiptEvent → Option ReceiptWorld
  | .store event => some { world with files := world.files.after event }
  | .build executorId source =>
      match buildRemoteSnapshot sha256 float world.files executorId source with
      | .ok snapshot => some { world with
          built := world.built ++ [⟨snapshot, executorId, source, world.files⟩] }
      | .error _ => some world
  | .sync index workerUrl token answers path =>
      match world.built[index]? with
      | none => none
      | some built =>
          match syncRemoteSnapshot sha256 world.files built.snapshot workerUrl
              token answers with
          | .ok receipt => some { world with
              deliveries :=
                world.deliveries.set path ⟨receipt, built.snapshot⟩ }
          | .error _ => some world

/-- Where a receipt is current, snapshots built now say what the verified one
says. -/
def CurrentReceipts (world : ReceiptWorld) : Prop :=
  ∀ path executorId delivery, world.deliveries.get? path = some delivery →
    hasCurrentVerifiedReceipt sha256 world.files executorId
      (some delivery.receipt) = true →
    (∃ source now, buildRemoteSnapshot sha256 float world.files executorId
      source = .ok now) ∧
    ∀ source now, buildRemoteSnapshot sha256 float world.files executorId
      source = .ok now →
      delivery.snapshot.content.evaluated = now.content.evaluated

/-- A snapshot is sent while the store holds its sources, the counts aside. -/
def SentInTime (world : ReceiptWorld) : ReceiptEvent → Prop
  | .sync index _ _ _ _ =>
      match world.built[index]? with
      | some built => built.files.inputs built.executorId =
          world.files.inputs built.executorId
      | none => True
  | .store _ => True
  | .build _ _ => True

end Steps

theorem loads_nil : loads [] = none := rfl

theorem packs_of_loadPacks {files : StoreFiles}
    {packs : List EvaluatedCapabilityPack}
    (h : files.loadPacks = .ok packs) :
    nul ∉ files.packs.getD [] ∧ files.packs ≠ some [] := by
  unfold StoreFiles.loadPacks at h
  cases htext : files.packs with
  | none => exact ⟨List.not_mem_nil, nofun⟩
  | some text =>
      rw [htext] at h
      cases hloads : loads text with
      | none =>
          simp only [hloads, Option.filter_none] at h
          cases h
      | some value =>
          refine ⟨nul_not_mem_of_loads hloads, ?_⟩
          intro hempty
          rw [Option.some.inj hempty, loads_nil] at hloads
          cases hloads

theorem encoded_inj {files other : StoreFiles}
    (hfiles : nul ∉ files.packs.getD []) (hother : nul ∉ other.packs.getD [])
    (h : files.encoded = other.encoded) :
    files.packs.getD [] = other.packs.getD [] ∧
      files.evidence.getD [] = other.evidence.getD [] := by
  unfold StoreFiles.encoded fileField at h
  simp only [List.append_assoc, List.cons_append, List.nil_append] at h
  have hrest := (List.cons.inj (List.append_cancel_left h)).2
  obtain ⟨hpacks, hbehind⟩ := field_inj (zero_not_mem_utf8 hfiles)
    (zero_not_mem_utf8 hother) (opens_cons _) (opens_cons _) hrest
  have hevidence := (List.cons.inj (List.append_cancel_left
    (List.cons.inj hbehind).2)).2
  exact ⟨utf8_injective hpacks,
    utf8_injective (List.append_cancel_right hevidence)⟩

theorem evidenceRows_getD (files : StoreFiles) (capabilityId : String) :
    files.evidenceRows capabilityId =
      StoreFiles.evidenceRows ⟨none, some (files.evidence.getD [])⟩
        capabilityId := by
  unfold StoreFiles.evidenceRows
  cases files.evidence with
  | none => rfl
  | some text => rfl

theorem loadPacks_getD {files other : StoreFiles}
    (hfiles : files.packs ≠ some []) (hother : other.packs ≠ some [])
    (h : files.packs.getD [] = other.packs.getD []) :
    files.loadPacks = other.loadPacks := by
  have hpacks : files.packs = other.packs := by
    cases hone : files.packs with
    | none =>
        cases htwo : other.packs with
        | none => rfl
        | some text =>
            rw [hone, htwo] at h
            exact absurd (htwo.trans (congrArg some h.symm)) hother
    | some text =>
        cases htwo : other.packs with
        | none =>
            rw [hone, htwo] at h
            exact absurd (hone.trans (congrArg some h)) hfiles
        | some text' =>
            rw [hone, htwo] at h
            exact congrArg some h
  unfold StoreFiles.loadPacks
  rw [hpacks]

theorem inputs_of_storeStateHash {sha256 : List UInt8 → String}
    (hsha : Function.Injective sha256) {files other : StoreFiles}
    {packs packs' : List EvaluatedCapabilityPack}
    (hfiles : files.loadPacks = .ok packs)
    (hother : other.loadPacks = .ok packs')
    (h : storeStateHash sha256 files = storeStateHash sha256 other)
    (executorId : String) :
    files.inputs executorId = other.inputs executorId := by
  obtain ⟨hfree, hsome⟩ := packs_of_loadPacks hfiles
  obtain ⟨hfree', hsome'⟩ := packs_of_loadPacks hother
  obtain ⟨hpacks, hevidence⟩ := encoded_inj hfree hfree' (hsha h)
  unfold StoreFiles.inputs
  rw [loadPacks_getD hsome hsome' hpacks, evidenceRows_getD files,
    evidenceRows_getD other, hevidence]

theorem loadPacks_congr {files other : StoreFiles}
    (h : files.packs = other.packs) : files.loadPacks = other.loadPacks := by
  unfold StoreFiles.loadPacks
  rw [h]

/-- The stored packs are what they were, or were saved. -/
def Resaved (files next : StoreFiles) : Prop :=
  next.packs = files.packs ∨
    ∃ packs, next.packs = (files.savePacks packs).packs

theorem resaved_after (files : StoreFiles) (event : PackEvent) :
    Resaved files (files.after event) := by
  cases event with
  | initializeStore =>
      change Resaved files files.initializeStore.2
      unfold StoreFiles.initializeStore
      split
      · split
        · split
          · exact Or.inl rfl
          · exact Or.inr ⟨_, rfl⟩
        · exact Or.inl rfl
      · exact Or.inr ⟨_, rfl⟩
  | record row =>
      change Resaved files (files.record row).2
      unfold StoreFiles.record
      split
      · exact Or.inl rfl
      · dsimp only
        split
        · exact Or.inl rfl
        · exact Or.inr ⟨_, rfl⟩
  | activate capabilityId =>
      change Resaved files (files.activate capabilityId).2
      unfold StoreFiles.activate
      split
      · exact Or.inl rfl
      · split
        · exact Or.inl rfl
        split
        · exact Or.inl rfl
        · exact Or.inr ⟨_, rfl⟩
  | evaluateRetirement capabilityId executorId requiredHeldOut =>
      change Resaved files
        (files.evaluateRetirement capabilityId executorId requiredHeldOut).2
      unfold StoreFiles.evaluateRetirement
      split
      · exact Or.inl rfl
      · split
        · exact Or.inl rfl
        · split
          · exact Or.inl rfl
          split
          · exact Or.inl rfl
          · dsimp only
            split
            · exact Or.inr ⟨_, rfl⟩
            · exact Or.inl rfl

def StoreFiles.Readable (files : StoreFiles) : Prop :=
  ∃ packs, files.loadPacks = .ok packs

theorem StoreFiles.Readable.after {files : StoreFiles} (h : files.Readable)
    (event : PackEvent) : (files.after event).Readable := by
  rcases resaved_after files event with hsame | ⟨packs, hsaved⟩
  · unfold StoreFiles.Readable
    rw [loadPacks_congr hsame]
    exact h
  · refine ⟨packs, ?_⟩
    rw [loadPacks_congr hsaved, loadPacks_savePacks]

section Invariant

variable {sha256 : List UInt8 → String} {float : Rat → Finite}
  {world : ReceiptWorld}

def BuiltSnapshot.Genuine (sha256 : List UInt8 → String)
    (float : Rat → Finite) (built : BuiltSnapshot) : Prop :=
  buildRemoteSnapshot sha256 float built.files built.executorId built.source =
    .ok built.snapshot

/-- The receipt has the hash of a store with the inputs of the snapshot. -/
def Delivery.Genuine (sha256 : List UInt8 → String) (float : Rat → Finite)
    (delivery : Delivery) : Prop :=
  ∃ built : BuiltSnapshot, ∃ files : StoreFiles,
    built.Genuine sha256 float ∧ delivery.snapshot = built.snapshot ∧
      delivery.receipt.executorId = built.executorId ∧
      delivery.receipt.storeStateHash = storeStateHash sha256 files ∧
      built.files.inputs built.executorId = files.inputs built.executorId ∧
      files.Readable

structure SoundReceipts (sha256 : List UInt8 → String) (float : Rat → Finite)
    (world : ReceiptWorld) : Prop where
  readable : world.files.Readable ∨ world.built = [] ∧ world.deliveries = []
  built : ∀ built ∈ world.built, built.Genuine sha256 float
  delivered : ∀ path delivery, world.deliveries.get? path = some delivery →
    delivery.Genuine sha256 float

theorem syncRemoteSnapshot_cases {files : StoreFiles}
    {snapshot : RemoteSnapshot} {workerUrl token : String}
    {answers : WorkerAnswers} {receipt : RemoteSyncReceipt}
    (h : syncRemoteSnapshot sha256 files snapshot workerUrl token answers =
      .ok receipt) :
    receipt.executorId = snapshot.content.executorId ∧
      receipt.storeStateHash = storeStateHash sha256 files := by
  unfold syncRemoteSnapshot at h
  simp only [bind, Except.bind] at h
  split at h
  · cases h
  split at h
  · cases h
  split at h
  · cases h
  split at h
  · cases h
  split at h
  · cases h
  split at h
  · cases h
  · cases h
    exact ⟨rfl, rfl⟩

theorem readable_of_build {files : StoreFiles} {executorId : String}
    {source : ProvenanceSource} {snapshot : RemoteSnapshot}
    (h : buildRemoteSnapshot sha256 float files executorId source =
      .ok snapshot) : files.Readable := by
  obtain ⟨packs, hload, _⟩ := build_cases sha256 float h
  exact ⟨packs, hload⟩

theorem SoundReceipts.step (h : SoundReceipts sha256 float world)
    {event : ReceiptEvent} (hintime : SentInTime world event)
    {next : ReceiptWorld}
    (hstep : receiptStep sha256 float world event = some next) :
    SoundReceipts sha256 float next := by
  cases event with
  | store event =>
      cases hstep
      refine ⟨?_, h.built, h.delivered⟩
      exact h.readable.imp_left fun hread => hread.after event
  | build executorId source =>
      unfold receiptStep at hstep
      dsimp only at hstep
      split at hstep
      · next snapshot hbuild =>
          cases hstep
          refine ⟨Or.inl (readable_of_build hbuild), ?_, h.delivered⟩
          intro built hbuilt
          rcases List.mem_append.mp hbuilt with hold | hnew
          · exact h.built built hold
          · rw [List.mem_singleton.mp hnew]
            exact hbuild
      · cases hstep
        exact h
  | sync index workerUrl token answers path =>
      unfold receiptStep at hstep
      dsimp only [SentInTime] at hintime
      dsimp only at hstep
      split at hstep
      · cases hstep
      · next built hindex =>
          rw [hindex] at hintime
          have hmem := List.mem_of_getElem? hindex
          split at hstep
          · next receipt hsync =>
              cases hstep
              have hread : world.files.Readable := by
                rcases h.readable with hread | ⟨hnone, _⟩
                · exact hread
                · rw [hnone] at hmem
                  cases hmem
              refine ⟨Or.inl hread, h.built, ?_⟩
              intro other delivery hget
              rw [Dict.get?_set] at hget
              split at hget
              · cases hget
                obtain ⟨hexecutor, hhash⟩ := syncRemoteSnapshot_cases hsync
                obtain ⟨_, _, _, hsame, _⟩ :=
                  build_cases sha256 float (h.built built hmem)
                exact ⟨built, world.files, h.built built hmem, rfl,
                  hexecutor.trans hsame, hhash, hintime, hread⟩
              · exact h.delivered other delivery hget
          · cases hstep
            exact h

theorem SoundReceipts.current (hsha : Function.Injective sha256)
    (h : SoundReceipts sha256 float world) :
    CurrentReceipts sha256 float world := by
  intro path executorId delivery hget hcurrent
  obtain ⟨built, files, hbuilt, hsnapshot, hexecutor, hhash, hinputs, hread⟩ :=
    h.delivered path delivery hget
  simp only [hasCurrentVerifiedReceipt, Bool.and_eq_true, beq_iff_eq]
    at hcurrent
  obtain ⟨⟨⟨_, hfor⟩, _⟩, hnow⟩ := hcurrent
  rw [hexecutor] at hfor
  subst hfor
  have hnowRead : world.files.Readable := by
    rcases h.readable with hread | ⟨_, hnone⟩
    · exact hread
    · rw [hnone] at hget
      cases hget
  obtain ⟨packs, hload⟩ := hread
  obtain ⟨packs', hload'⟩ := hnowRead
  have hsame := inputs_of_storeStateHash hsha hload hload'
    (hhash.symm.trans hnow) built.executorId
  obtain ⟨inputs, hbuiltInputs⟩ := inputs_of_build sha256 float hbuilt
  have hnowInputs : world.files.inputs built.executorId = .ok inputs := by
    rw [← hsame, ← hinputs, hbuiltInputs]
  obtain ⟨hlength, hevaluated⟩ :=
    evaluated_build sha256 float hbuilt hbuiltInputs
  constructor
  · obtain ⟨now, hnow⟩ := exists_build sha256 float hnowInputs hlength
    exact ⟨{}, now, hnow⟩
  · intro source now hbuild
    rw [hsnapshot, hevaluated,
      (evaluated_build sha256 float hbuild hnowInputs).2]

end Invariant

/-- As long as each snapshot is sent while the store holds what it was built
from, a current receipt tells the truth. -/
theorem receipts_current (sha256 : List UInt8 → String) (float : Rat → Finite)
    (hsha : Function.Injective sha256) (files : StoreFiles)
    (events : List ReceiptEvent) (world : ReceiptWorld)
    (h : Throughout (receiptStep sha256 float) SentInTime { files } events)
    (hrun : follow (receiptStep sha256 float) { files } events = some world) :
    CurrentReceipts sha256 float world := by
  have hstart : SoundReceipts sha256 float { files } :=
    ⟨Or.inr ⟨rfl, rfl⟩, List.forall_mem_nil _, nofun⟩
  have hsound := follow_invariant
    (fun _ _ _ hs hok hstep => SoundReceipts.step hs hok hstep) hstart h hrun
  exact hsound.current hsha

namespace RemoteSyncWitness

def pack : EvaluatedCapabilityPack where
  capabilityId := "tdd-workflow"
  version := 1
  role := "tester"
  dimension := "testing"
  triggers := ["tdd"]
  inputContract := "CapabilityInput.v1"
  outputContract := "CapabilityOutput.v1"
  successCriteria := {}

def files : StoreFiles := ({} : StoreFiles).savePacks [pack]

def row : CapabilityRunEvidence := EvidenceStoreWitness.rowOf "run-one"

def sha256 (bytes : List UInt8) : String := knownDigest [] (latin1 bytes)

theorem sha256_injective : Function.Injective sha256 :=
  (knownDigest_injective (by decide)).comp latin1_injective

section Runs

variable (snapshot : RemoteSnapshot)

def answers : WorkerAnswers where
  uploaded := .ok (some snapshot.snapshotId)
  readBack := .ok (some snapshot.snapshotId, some snapshot.content)

def receipt (store : StoreFiles) : RemoteSyncReceipt where
  schemaVersion := 1
  snapshotId := snapshot.snapshotId
  executorId := snapshot.content.executorId
  workerUrl := "https://worker"
  storeStateHash := storeStateHash sha256 store
  verified := true

def synced (store : StoreFiles) : ReceiptWorld where
  files := store
  built := [⟨snapshot, "codex", {}, files⟩]
  deliveries := [("receipt.json", ⟨receipt snapshot store, snapshot⟩)]

def build : ReceiptEvent := .build "codex" {}

def sync : ReceiptEvent :=
  .sync 0 "https://worker/" "token" (answers snapshot) "receipt.json"

theorem synced_snapshot (store : StoreFiles) :
    syncRemoteSnapshot sha256 store snapshot "https://worker/" "token"
      (answers snapshot) = .ok (receipt snapshot store) := by
  have hurl : "https://worker/".toList.all isSpace = false := by
    decide +kernel
  have htoken : ¬("token" = "") := by decide +kernel
  have hbase : String.ofList ("https://worker/".toList.rdropWhile
      (· == '/')) = "https://worker" := by decide +kernel
  unfold syncRemoteSnapshot answers
  rw [hurl, hbase, if_neg htoken]
  simp only [bind, Except.bind, ne_eq, not_true_eq_false, or_self, if_false,
    Bool.false_eq_true]
  rfl

theorem step_sync (store : StoreFiles) :
    receiptStep sha256 Finite.ofRat
        { files := store, built := [⟨snapshot, "codex", {}, files⟩] }
        (sync snapshot) =
      some (synced snapshot store) := by
  unfold receiptStep sync
  dsimp only [List.getElem?_cons_zero]
  rw [synced_snapshot]
  rfl

variable {snapshot}
  (hbuilt : buildRemoteSnapshot sha256 Finite.ofRat files "codex" {} =
    .ok snapshot)

include hbuilt

theorem step_build :
    receiptStep sha256 Finite.ofRat { files } build =
      some { files, built := [⟨snapshot, "codex", {}, files⟩] } := by
  unfold receiptStep build
  dsimp only
  rw [hbuilt]
  rfl

theorem throughout_in_time :
    Throughout (receiptStep sha256 Finite.ofRat) SentInTime { files }
      [build, sync snapshot] := by
  refine ⟨trivial, ?_⟩
  rw [step_build hbuilt]
  refine ⟨rfl, ?_⟩
  rw [step_sync snapshot files]
  trivial

theorem follow_in_time :
    follow (receiptStep sha256 Finite.ofRat) { files }
      [build, sync snapshot] = some (synced snapshot files) := by
  rw [follow_cons (step_build hbuilt)]
  exact follow_cons (step_sync snapshot files) []

theorem follow_overtaken (event : PackEvent) :
    follow (receiptStep sha256 Finite.ofRat) { files }
        [build, .store event, sync snapshot] =
      some (synced snapshot (files.after event)) := by
  have hstore : receiptStep sha256 Finite.ofRat
      { files, built := [⟨snapshot, "codex", {}, files⟩] } (.store event) =
      some { files := files.after event,
             built := [⟨snapshot, "codex", {}, files⟩] } := rfl
  rw [follow_cons (step_build hbuilt), follow_cons hstore,
    follow_cons (step_sync snapshot (files.after event))]
  rfl

theorem overtaken {store : StoreFiles} {before after : SnapshotInputs}
    (hbefore : files.inputs "codex" = .ok before)
    (hafter : store.inputs "codex" = .ok after)
    (hdiffer : before.evaluated "codex" ≠ after.evaluated "codex") :
    ¬CurrentReceipts sha256 Finite.ofRat (synced snapshot store) := by
  intro hcurrent
  obtain ⟨_, _, _, hexecutor, _⟩ := build_cases sha256 Finite.ofRat hbuilt
  have hreceipt : hasCurrentVerifiedReceipt sha256 store "codex"
      (some (receipt snapshot store)) = true := by
    simp [hasCurrentVerifiedReceipt, receipt, hexecutor]
  obtain ⟨⟨source, now, hnow⟩, hall⟩ :=
    hcurrent "receipt.json" "codex" _ rfl hreceipt
  have hsame := hall source now hnow
  rw [(evaluated_build sha256 Finite.ofRat hnow hafter).2] at hsame
  exact hdiffer
    ((evaluated_build sha256 Finite.ofRat hbuilt hbefore).2.symm.trans hsame)

end Runs

def snapshot : RemoteSnapshot :=
  match buildRemoteSnapshot sha256 Finite.ofRat files "codex" {} with
  | .ok snapshot => snapshot
  | .error _ => ⟨"", ⟨"", []⟩⟩

theorem inputs_files : files.inputs "codex" = .ok ⟨[pack], []⟩ := by
  decide +kernel

theorem built_snapshot :
    buildRemoteSnapshot sha256 Finite.ofRat files "codex" {} =
      .ok snapshot := by
  obtain ⟨other, hother⟩ :=
    exists_build sha256 Finite.ofRat inputs_files (by decide)
  unfold snapshot
  rw [hother]

/-- A run is recorded before the snapshot is sent: the receipt counts as
current. -/
theorem stale_snapshot_current :
    follow (receiptStep sha256 Finite.ofRat) { files }
        [build, .store (.record row), sync snapshot] =
        some (synced snapshot (files.after (.record row))) ∧
      ¬CurrentReceipts sha256 Finite.ofRat
        (synced snapshot (files.after (.record row))) := by
  have hafter : (files.after (.record row)).inputs "codex" =
      .ok ⟨[pack], [row]⟩ := by decide +kernel
  constructor
  · exact follow_overtaken built_snapshot (.record row)
  · exact overtaken built_snapshot inputs_files hafter (by decide +kernel)

theorem sent_in_time :
    CurrentReceipts sha256 Finite.ofRat (synced snapshot files) :=
  receipts_current sha256 Finite.ofRat sha256_injective files
    [build, sync snapshot] (synced snapshot files)
    (throughout_in_time built_snapshot) (follow_in_time built_snapshot)

end RemoteSyncWitness

end Voly
