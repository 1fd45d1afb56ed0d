/-
The text of a snapshot that is hashed before the upload, and the one that the
Worker hashes.
-/
import Voly.Capability.RemoteSnapshot
import Voly.Worker.Number
import Voly.Worker.Snapshots

namespace Voly

open Python Binary64 Worker

/-- What `_sha256` is taken of for the id of a snapshot. -/
def hashedText (executorId : String) (packs : List Content) : List Char :=
  canonical (snapshotBody executorId packs).normalizeNumbers

def uploadText (snapshotId executorId : String) (packs : List Content) :
    List Char :=
  canonical (.dict [
    ("snapshot_id", .str snapshotId),
    ("schema_version", .number (.int 1)),
    ("executor_id", .str executorId),
    ("packs", .list (Content.normalizeItems packs))])

def workerText (upload : List Char) : Option (List Char) :=
  match parseJson upload with
  | some body =>
      match property body "executor_id", property body "packs" with
      | .ok (some (.str executorId)), .ok (some (.list packs)) =>
          some (Snapshot.payloadJson ⟨executorId, packs⟩)
      | _, _ => none
  | none => none

structure HashedAlike (executorId : String) (packs : List Content) : Prop where
  text : ∀ snapshotId, workerText (uploadText snapshotId executorId packs) =
    some (hashedText executorId packs)
  accepted : ∀ (sha256 : List Char → String) (secret : String) (db : Database)
    (authorization : Option String),
    (postSnapshots sha256 secret db {
      authorization
      body := parseJson (uploadText (sha256 (hashedText executorId packs))
        executorId packs) }).1 ≠ .error 400 "snapshot hash mismatch"

/-- No two keys stand the other way round in UTF-16 code units. -/
def SameOrder (keys : List String) : Prop :=
  ∀ a ∈ keys, ∀ b ∈ keys, byCodePoint a b = true → keyLe a b = true

instance (keys : List String) : Decidable (SameOrder keys) := by
  unfold SameOrder
  infer_instance

theorem byCodePoint_antisymm (a b : String) (hab : byCodePoint a b = true)
    (hba : byCodePoint b a = true) : a = b :=
  String.le_antisymm (of_decide_eq_true hab) (of_decide_eq_true hba)

theorem byCodePoint_total (a b : String) :
    byCodePoint a b = true ∨ byCodePoint b a = true := by
  rcases String.le_total a b with h | h
  · exact Or.inl (decide_eq_true h)
  · exact Or.inr (decide_eq_true h)

theorem byCodePoint_trans (a b c : String) (hab : byCodePoint a b = true)
    (hbc : byCodePoint b c = true) : byCodePoint a c = true :=
  decide_eq_true
    (String.le_trans (of_decide_eq_true hab) (of_decide_eq_true hbc))

/-- The packs of an upload as documents in the order of their keys. -/
def sortedPacks (packs : List Content) : List Doc :=
  Doc.sortItems byCodePoint (Content.toDocs (Content.normalizeItems packs))

theorem sortKeys_upload (snapshotId executorId : String) (packs : List Doc) :
    (Doc.dict [("snapshot_id", .str snapshotId),
        ("schema_version", .atom (Number.toAtom (.int 1))),
        ("executor_id", .str executorId),
        ("packs", .list packs)]).sortKeys byCodePoint =
      .dict [("executor_id", .str executorId),
        ("packs", .list (Doc.sortItems byCodePoint packs)),
        ("schema_version", .atom (Number.toAtom (.int 1))),
        ("snapshot_id", .str snapshotId)] := by
  have hone : byCodePoint "executor_id" "packs" = true := by decide +kernel
  have htwo : byCodePoint "schema_version" "executor_id" = false := by
    decide +kernel
  have hthree : byCodePoint "schema_version" "packs" = false := by
    decide +kernel
  have hfour : byCodePoint "snapshot_id" "executor_id" = false := by
    decide +kernel
  have hfive : byCodePoint "snapshot_id" "packs" = false := by decide +kernel
  have hsix : byCodePoint "snapshot_id" "schema_version" = false := by
    decide +kernel
  simp [Doc.sortKeys, Doc.sortFields, insertField, hone, htwo, hthree, hfour,
    hfive, hsix]

theorem numberAtom_schemaVersion :
    numberAtom (Number.toAtom (.int 1)) = Worker.schemaVersion := by
  decide +kernel

theorem parseJson_upload (snapshotId executorId : String)
    (packs : List Content) :
    parseJson (uploadText snapshotId executorId packs) =
      some (.dict [("executor_id", .str executorId),
        ("packs", .list (Doc.mapItems numberAtom (sortedPacks packs))),
        ("schema_version", .atom Worker.schemaVersion),
        ("snapshot_id", .str snapshotId)]) := by
  unfold parseJson uploadText canonical canonicalText
  rw [loads_write]
  change some (Doc.mapAtoms numberAtom (Doc.sortKeys byCodePoint
    (Doc.dict [("snapshot_id", .str snapshotId),
      ("schema_version", .atom (Number.toAtom (.int 1))),
      ("executor_id", .str executorId),
      ("packs", .list (Content.toDocs _))]))) = _
  rw [sortKeys_upload]
  change some (Doc.dict [_, _, ("schema_version",
    .atom (numberAtom (Number.toAtom (.int 1)))), _]) = _
  rw [numberAtom_schemaVersion]
  rfl

theorem sortKeys_body (executorId : String) (packs : List Doc) :
    (Doc.dict [("schema_version", .atom (Number.toAtom (.int 1))),
        ("executor_id", .str executorId),
        ("packs", .list packs)]).sortKeys byCodePoint =
      .dict [("executor_id", .str executorId),
        ("packs", .list (Doc.sortItems byCodePoint packs)),
        ("schema_version", .atom (Number.toAtom (.int 1)))] := by
  have hone : byCodePoint "executor_id" "packs" = true := by decide +kernel
  have htwo : byCodePoint "schema_version" "executor_id" = false := by
    decide +kernel
  have hthree : byCodePoint "schema_version" "packs" = false := by
    decide +kernel
  simp [Doc.sortKeys, Doc.sortFields, insertField, hone, htwo, hthree]

theorem hashedText_eq (executorId : String) (packs : List Content) :
    hashedText executorId packs =
      (Doc.dict [("executor_id", .str executorId),
        ("packs", .list (sortedPacks packs)),
        ("schema_version", .atom (Number.toAtom (.int 1)))]).write false := by
  change ((Doc.dict [("schema_version", .atom (Number.toAtom (.int 1))),
    ("executor_id", .str executorId),
    ("packs", .list (Content.toDocs (Content.normalizeItems packs)))]).sortKeys
      byCodePoint).write false = _
  rw [sortKeys_body]
  rfl

def parsedSnapshot (executorId : String) (packs : List Content) :
    Worker.Snapshot :=
  ⟨executorId, Doc.mapItems numberAtom (sortedPacks packs)⟩

theorem workerText_upload (snapshotId executorId : String)
    (packs : List Content) :
    workerText (uploadText snapshotId executorId packs) =
      some (parsedSnapshot executorId packs).payloadJson := by
  have hpacks : ("executor_id" = "packs") = False := by decide +kernel
  unfold workerText
  rw [parseJson_upload]
  simp only [property, Dict.get?, hpacks, ite_true, ite_false]
  rfl

theorem schemaVersion_text : Number.toAtom (.int 1) = Worker.schemaVersion := by
  decide +kernel

/-- The Worker's text is Python's iff every number is written alike and every
object has its keys in one order. -/
theorem payloadJson_iff (executorId : String) (packs : List Content) :
    (parsedSnapshot executorId packs).payloadJson =
        hashedText executorId packs ↔
      (∀ x ∈ Content.numbersOfItems packs, PlainNumber x.normalize) ∧
        ∀ keys ∈ Content.keyListsOfItems packs, SameOrder keys := by
  have hdocs : (parsedSnapshot executorId packs).payloadJson =
        hashedText executorId packs ↔
      ((Doc.list (Content.toDocs (Content.normalizeItems packs))).sortKeys
        byCodePoint |>.mapAtoms numberAtom).sortKeys keyLe =
        (Doc.list (Content.toDocs (Content.normalizeItems packs))).sortKeys
          byCodePoint := by
    rw [hashedText_eq, Snapshot.payloadJson, stableStringify,
      (write_injective false).eq_iff, Snapshot.sortKeys_content,
      schemaVersion_text]
    simp only [parsedSnapshot, Doc.dict.injEq, List.cons.injEq,
      Prod.mk.injEq, true_and, and_true]
    rfl
  have hnumbers : (∀ x ∈ (Doc.list (Content.toDocs
      (Content.normalizeItems packs))).atoms, numberAtom x = x) ↔
      ∀ x ∈ Content.numbersOfItems packs, PlainNumber x.normalize := by
    change (∀ x ∈ Doc.atomsOfItems _, numberAtom x = x) ↔ _
    rw [atoms_toDocs, List.forall_mem_map]
    refine forall₂_congr fun x _ => ?_
    rw [← numberText_normalize_iff]
    exact ⟨fun h => congrArg AtomText.text h, fun h => AtomText.ext h⟩
  rw [hdocs, sortKeys_mapAtoms_iff byCodePoint_antisymm byCodePoint_total
    byCodePoint_trans keyLe_total keyLe_trans, hnumbers]
  refine and_congr_right' ?_
  change (∀ keys ∈ Doc.objectsOfItems _, _) ↔ _
  rw [objects_toDocs]
  rfl

/-- The messages of `validatePack`. -/
def packMessages : List String := [
  "capability_id required", "version must be a positive integer",
  "invalid pack state", "definition_hash must be sha256",
  "too many provenance hashes", "provenance values must be sha256"]

def Refuses (messages : List String) (check : Except Unit (Option String)) :
    Prop :=
  ∀ message, check = .ok (some message) → message ∈ messages

theorem Refuses.bind {A : Type} {messages : List String} {x : Except Unit A}
    {f : A → Except Unit (Option String)} (h : ∀ a, Refuses messages (f a)) :
    Refuses messages (x >>= f) := by
  intro message hrefused
  cases x with
  | error e => cases hrefused
  | ok a => exact h a message hrefused

theorem Refuses.some {messages : List String} {message : String}
    (h : message ∈ messages) : Refuses messages (.ok (some message)) := by
  intro other hother
  cases hother
  exact h

theorem refuses_validatePack (pack : Doc) :
    Refuses packMessages (validatePack pack) := by
  unfold validatePack
  refine Refuses.bind fun capabilityId => Refuses.bind fun blank => ?_
  split
  · exact Refuses.some (by decide)
  refine Refuses.bind fun version => ?_
  split
  · exact Refuses.some (by decide)
  refine Refuses.bind fun state => ?_
  split
  · exact Refuses.some (by decide)
  refine Refuses.bind fun hash => ?_
  dsimp only
  split
  · exact Refuses.some (by decide)
  refine Refuses.bind fun provenance => ?_
  have hrest (hashes : Option Doc) : Refuses packMessages (
      if ((Worker.present hashes).elim [] objectValues).length > 64 then
        pure (Option.some "too many provenance hashes")
      else if (((Worker.present hashes).elim [] objectValues).any fun value =>
          !isSha256 (coerce value)) = true then
        pure (Option.some "provenance values must be sha256")
      else pure none) := by
    split
    · exact Refuses.some (by decide)
    split
    · exact Refuses.some (by decide)
    · intro message hnone
      cases hnone
  split
  · exact Refuses.bind hrest
  · exact Refuses.bind hrest

theorem validatePacks_ne {packs : List Doc} :
    validatePacks packs ≠ .error (.error 400 "snapshot hash mismatch") := by
  induction packs with
  | nil =>
      intro h
      cases h
  | cons pack rest ih =>
      intro h
      rw [validatePacks] at h
      split at h
      · cases h
      · next message hmessage =>
          have hmem := refuses_validatePack pack message hmessage
          cases h
          revert hmem
          decide +kernel
      · exact ih h

theorem checkSnapshot_ne {sha256 : List Char → String} {body : Doc}
    {executorId snapshotId : String} {packs : List Doc}
    (hversion : property body "schema_version" =
      .ok (some (.atom Worker.schemaVersion)))
    (hexecutor : property body "executor_id" = .ok (some (.str executorId)))
    (hpacks : property body "packs" = .ok (some (.list packs)))
    (hid : property body "snapshot_id" = .ok (some (.str snapshotId)))
    (h : snapshotId = Snapshot.id sha256 ⟨executorId, packs⟩) :
    checkSnapshot sha256 body ≠
      .error (.error 400 "snapshot hash mismatch") := by
  have hmissing : missing (some (.str executorId)) =
      .ok (isBlank executorId) := rfl
  have hvalid := @validatePacks_ne packs
  intro hmismatch
  unfold checkSnapshot at hmismatch
  rw [hversion, hexecutor, hpacks, hid] at hmismatch
  simp only [orFailed, bind, Except.bind, ne_eq, not_true_eq_false,
    if_false, h, hmissing] at hmismatch
  have hmessage (message : String) (hne : message ≠ "snapshot hash mismatch") :
      (throw (.error 400 message) : Except Response Worker.Snapshot) ≠
        .error (.error 400 "snapshot hash mismatch") := by
    intro heq
    exact hne (Response.error.inj (Except.error.inj heq)).2
  split at hmismatch
  · exact hmessage _ (by decide +kernel) hmismatch
  split at hmismatch
  · exact hmessage _ (by decide +kernel) hmismatch
  split at hmismatch
  · next error herror =>
      rw [Except.error.inj hmismatch] at herror
      exact hvalid herror
  · cases hmismatch

theorem storeSnapshot_ne (sha256 : List Char → String) (db : Database)
    (snapshot : Worker.Snapshot) :
    (storeSnapshot sha256 db snapshot).1 ≠
      .error 400 "snapshot hash mismatch" := by
  unfold storeSnapshot
  dsimp only
  split
  · split
    · intro h
      cases h
    · intro h
      cases h
  · split
    · intro h
      cases h
    · intro h
      cases h

theorem postSnapshots_ne {executorId : String} {packs : List Content}
    (h : (parsedSnapshot executorId packs).payloadJson =
      hashedText executorId packs) (sha256 : List Char → String)
    (secret : String) (db : Database) (authorization : Option String) :
    (postSnapshots sha256 secret db {
      authorization
      body := parseJson (uploadText (sha256 (hashedText executorId packs))
        executorId packs) }).1 ≠ .error 400 "snapshot hash mismatch" := by
  have hcheck := @checkSnapshot_ne sha256
    (.dict [("executor_id", .str executorId),
      ("packs", .list (Doc.mapItems numberAtom (sortedPacks packs))),
      ("schema_version", .atom Worker.schemaVersion),
      ("snapshot_id", .str (sha256 (hashedText executorId packs)))])
    executorId (sha256 (hashedText executorId packs))
    (Doc.mapItems numberAtom (sortedPacks packs))
    (by simp [property, Dict.get?]) (by simp [property, Dict.get?])
    (by simp [property, Dict.get?]) (by simp [property, Dict.get?])
    (congrArg sha256 h.symm)
  unfold postSnapshots checkRequest
  rw [parseJson_upload]
  dsimp only
  by_cases hauthorized : authorized sha256 secret authorization = true
  · rw [if_pos hauthorized]
    split
    · next response hresponse =>
        rw [hresponse] at hcheck
        intro heq
        exact hcheck (congrArg Except.error heq)
    · exact storeSnapshot_ne sha256 db _
  · rw [if_neg hauthorized]
    intro heq
    cases heq

/-- The Worker hashes what was hashed iff all numbers have one text and all keys
one order. -/
theorem hashed_alike_iff (executorId : String) (packs : List Content) :
    HashedAlike executorId packs ↔
      (∀ x ∈ Content.numbersOfItems packs, PlainNumber x.normalize) ∧
        ∀ keys ∈ Content.keyListsOfItems packs, SameOrder keys := by
  rw [← payloadJson_iff executorId packs]
  constructor
  · intro h
    have htext := h.text ""
    rw [workerText_upload] at htext
    exact Option.some.inj htext
  · intro h
    refine ⟨?_, postSnapshots_ne h⟩
    intro snapshotId
    rw [workerText_upload, h]

namespace SnapshotTextWitness

def pack : EvaluatedCapabilityPack where
  capabilityId := "tdd-workflow"
  version := 1
  role := "tester"
  dimension := "testing"
  triggers := ["tdd"]
  inputContract := "CapabilityInput.v1"
  outputContract := "CapabilityOutput.v1"
  successCriteria := {}
  instructionSources := ["content/skills/tdd-workflow/SKILL.md"]

def row : CapabilityRunEvidence :=
  { EvidenceStoreWitness.rowOf "run-one" with
    costUsd := EvidenceStoreWitness.number "5e-05".toList (by decide +kernel) }

def files : StoreFiles := ((({} : StoreFiles).savePacks [pack]).record row).2

def digests : List (List Char × String) :=
  [(canonical (pack.definitionContent Finite.ofRat),
    "360bf1ea97022e3ccc7465c96a5cf8600f6bc701b069097eac13c4ea77e7068d")]

def sha256 (bytes : List UInt8) : String := knownDigest digests (latin1 bytes)

def packs : List Content :=
  match buildRemoteSnapshot sha256 Finite.ofRat files "codex" {} with
  | .ok snapshot =>
      snapshot.content.packs.map (SnapshotItem.toContent Finite.ofRat)
  | .error _ => []

/-- The average cost is written with an exponent before the upload, and without
one by the Worker. -/
theorem small_cost_hashed_differently :
    packs ≠ [] ∧ ¬HashedAlike "codex" packs := by
  have hnumbers : (Content.numbersOfItems packs).all (fun x =>
      decide (PlainNumber x.normalize)) = false := by decide +kernel
  constructor
  · intro hnil
    rw [hnil] at hnumbers
    cases hnumbers
  · intro h
    have htext := h.text ""
    rw [workerText_upload] at htext
    have hplain := ((payloadJson_iff "codex" packs).mp
      (Option.some.inj htext)).1
    rw [← Bool.not_eq_true] at hnumbers
    apply hnumbers
    rw [List.all_eq_true]
    exact fun x hx => decide_eq_true (hplain x hx)

end SnapshotTextWitness

end Voly
