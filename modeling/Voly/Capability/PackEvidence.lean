/-
Runs of the evaluated pack store: what the log reads back as, the stored packs,
and their counts.
-/
import Voly.Capability.EvaluatedPacks
import Voly.Interaction.Steps

namespace Voly

open Python Interaction

/-- The string values of a row. -/
def CapabilityRunEvidence.texts (row : CapabilityRunEvidence) : List String :=
  [row.capabilityId, row.executorId, row.runId, row.experimentId] ++
    row.changedCapabilities

/-- No string of the row holds a line boundary that JSON leaves as it is. -/
def CapabilityRunEvidence.Unbroken (row : CapabilityRunEvidence) : Prop :=
  ∀ s ∈ row.texts, ∀ c ∈ s.toList, bareBreak c = false

instance (row : CapabilityRunEvidence) : Decidable row.Unbroken := by
  unfold CapabilityRunEvidence.Unbroken
  infer_instance

theorem row_strings {p : String → Prop} (row : CapabilityRunEvidence)
    (hkeys : ∀ key ∈ ["capability_id", "executor_id", "run_id", "completion",
      "tests_passed", "rollback", "corrections", "cost_usd", "latency_ms",
      "retries", "reviewer_accepted", "baseline_score", "variant_score",
      "held_out", "experiment_id", "changed_capabilities", "cost_measured",
      "baseline_latency_ms", "baseline_tokens", "variant_tokens",
      "tokens_measured", "created_at"], p key)
    (htexts : ∀ s ∈ row.texts, p s) :
    ∀ s ∈ Layout.strings row.toDoc, p s := by
  have hnum (x : JsonNumber) : Layout.strings x.toDoc = [] := rfl
  have hint (n : Int) : Layout.strings (intDoc n) = [] := rfl
  have hstr (s : String) : Layout.strings (.str s) = [s] := rfl
  rw [CapabilityRunEvidence.toDoc, strings_dict]
  simp only [List.flatMap_cons, List.flatMap_nil, hnum, hint, hstr,
    strings_boolDoc, strings_stringsDoc, List.cons_append, List.nil_append,
    List.append_nil, List.forall_mem_cons, List.forall_mem_append,
    CapabilityRunEvidence.texts] at hkeys htexts ⊢
  tauto

theorem row_strings_unbroken {row : CapabilityRunEvidence}
    (h : row.Unbroken) : ∀ s ∈ Layout.strings row.toDoc, Unbroken s :=
  row_strings row (by decide +kernel) h

def logText (rows : List CapabilityRunEvidence) : List Char :=
  rows.flatMap StoreFiles.rowText

theorem readRow_rows (rows : List CapabilityRunEvidence) :
    (rows.map fun row => row.toDoc.write true).mapM StoreFiles.readRow =
      some rows := by
  induction rows with
  | nil => rfl
  | cons row rows ih => simp [readRow_write, ih]

theorem evidenceRows_log {files : StoreFiles}
    {rows : List CapabilityRunEvidence}
    (hlog : files.evidence = some (logText rows))
    (hrows : ∀ row ∈ rows, row.Unbroken) :
    files.evidenceRows "" = .ok rows := by
  have hlines := @filledLines_linesText
    (rows.map CapabilityRunEvidence.toDoc) (by
      intro doc hdoc
      obtain ⟨row, _, rfl⟩ := List.mem_map.mp hdoc
      exact ⟨_, rfl⟩) (by
      intro doc hdoc
      obtain ⟨row, hrow, rfl⟩ := List.mem_map.mp hdoc
      exact row_strings_unbroken (hrows row hrow))
  rw [linesText, List.flatMap_map, List.map_map] at hlines
  have hsplit : (splitLines (logText rows)).filter
      (fun line => !line.all isSpace) =
      rows.map fun row => row.toDoc.write true := hlines
  unfold StoreFiles.evidenceRows
  rw [hlog]
  dsimp only
  rw [hsplit, readRow_rows]
  simp

inductive PackEvent where
  | initializeStore
  | record (row : CapabilityRunEvidence)
  | activate (capabilityId : String)
  | evaluateRetirement (capabilityId executorId : String)
      (requiredHeldOut : Int)

/-- The files, and the rows that were recorded so far. -/
structure PackWorld where
  files : StoreFiles := {}
  recorded : List CapabilityRunEvidence := []

/-- `record` does not refuse the row. -/
def CapabilityRunEvidence.Accepted (row : CapabilityRunEvidence) : Prop :=
  row.changedCapabilities = [] ∨ row.changedCapabilities = [row.capabilityId]

instance (row : CapabilityRunEvidence) : Decidable row.Accepted := by
  unfold CapabilityRunEvidence.Accepted
  infer_instance

namespace PackWorld

variable (world : PackWorld)

def after : PackEvent → PackWorld
  | .initializeStore => { world with files := world.files.initializeStore.2 }
  | .record row => {
      files := (world.files.record row).2
      recorded :=
        if row.Accepted then world.recorded ++ [row] else world.recorded }
  | .activate capabilityId =>
      { world with files := (world.files.activate capabilityId).2 }
  | .evaluateRetirement capabilityId executorId requiredHeldOut =>
      { world with
        files := (world.files.evaluateRetirement capabilityId executorId
          requiredHeldOut).2 }

end PackWorld

def packStep (world : PackWorld) (event : PackEvent) : Option PackWorld :=
  some (world.after event)

def EvaluatedCapabilityPack.definition (pack : EvaluatedCapabilityPack) :
    EvaluatedCapabilityPack :=
  { pack with state := .pilot, evidenceCount := 0 }

/-- The log reads back as the recorded rows, every built-in pack is there,
counts are right. -/
structure KeepsEvidence (world : PackWorld) (event : PackEvent) : Prop where
  rows : (world.after event).files.evidenceRows "" =
    .ok (world.after event).recorded
  builtins : event = .initializeStore →
    ∃ packs, (world.after event).files.loadPacks = .ok packs ∧
      ∀ builtin ∈ pilotPacks, ∃ pack ∈ packs,
        pack.definition = builtin
  counts : ∃ packs, (world.after event).files.loadPacks = .ok packs ∧
    ∀ pack ∈ packs, pack.evidenceCount =
      ((world.after event).recorded.countP fun row =>
        row.capabilityId = pack.capabilityId : Nat)

/-- Accepted rows hold no line boundary that JSON leaves, and no store is
initialized over an empty list. -/
def FitsEvidence (world : PackWorld) : PackEvent → Prop
  | .record row => row.Accepted → row.Unbroken
  | .initializeStore =>
      world.files.packs = none ∨ world.files.loadPacks ≠ .ok []
  | .activate _ => True
  | .evaluateRetirement _ _ _ => True

/-- The counts of the packs over the recorded rows. -/
def Counted (packs : List EvaluatedCapabilityPack)
    (recorded : List CapabilityRunEvidence) : Prop :=
  ∀ pack ∈ packs, pack.evidenceCount =
    (recorded.countP fun row => row.capabilityId = pack.capabilityId : Nat)

/-- The packs of a store that was set up, or of one that a record made. -/
structure SoundPacks (packs : List EvaluatedCapabilityPack)
    (recorded : List CapabilityRunEvidence) : Prop where
  known : packs = [] ∨
    packs.map EvaluatedCapabilityPack.definition = pilotPacks
  counted : Counted packs recorded

structure SoundWorld (world : PackWorld) : Prop where
  log : world.files.evidence = some (logText world.recorded) ∨
    world.files.evidence = none ∧ world.recorded = []
  unbroken : ∀ row ∈ world.recorded, row.Unbroken
  packs : world.files.packs = none ∧ world.recorded = [] ∨
    world.files.packs ≠ none ∧ ∃ packs,
      world.files.loadPacks = .ok packs ∧ SoundPacks packs world.recorded

theorem SoundWorld.evidenceRows {world : PackWorld} (h : SoundWorld world) :
    world.files.evidenceRows "" = .ok world.recorded := by
  rcases h.log with hlog | ⟨hlog, hnone⟩
  · exact evidenceRows_log hlog h.unbroken
  · unfold StoreFiles.evidenceRows
    rw [hlog, hnone]

/-- The packs with one more row about the capability of `row`. -/
def countFor (row : CapabilityRunEvidence)
    (packs : List EvaluatedCapabilityPack) : List EvaluatedCapabilityPack :=
  packs.map fun pack =>
    if pack.capabilityId = row.capabilityId then
      { pack with evidenceCount := pack.evidenceCount + 1 }
    else pack

theorem record_files {files : StoreFiles} {row : CapabilityRunEvidence}
    {packs : List EvaluatedCapabilityPack}
    (hpass : ¬(row.changedCapabilities ≠ [] ∧
      row.changedCapabilities ≠ [row.capabilityId]))
    (hload : files.loadPacks = .ok packs) :
    (files.record row).2 = StoreFiles.savePacks
      ⟨files.packs, some (files.evidence.getD [] ++ StoreFiles.rowText row)⟩
      (countFor row packs) := by
  have hread : StoreFiles.loadPacks ⟨files.packs,
      some (files.evidence.getD [] ++ StoreFiles.rowText row)⟩ =
      .ok packs := hload
  unfold StoreFiles.record
  rw [if_neg hpass]
  dsimp only
  rw [hread]
  rfl

theorem loadPacks_none {files : StoreFiles} (h : files.packs = none) :
    files.loadPacks = .ok [] := by
  unfold StoreFiles.loadPacks
  rw [h]

theorem SoundWorld.loads {world : PackWorld} (h : SoundWorld world) :
    ∃ packs, world.files.loadPacks = .ok packs ∧
      SoundPacks packs world.recorded := by
  rcases h.packs with ⟨hnone, _⟩ | ⟨_, packs, hload, hsound⟩
  · refine ⟨[], loadPacks_none hnone, Or.inl rfl, ?_⟩
    intro pack hpack
    cases hpack
  · exact ⟨packs, hload, hsound⟩

theorem SoundWorld.save {world : PackWorld} (h : SoundWorld world)
    {packs : List EvaluatedCapabilityPack}
    (hpacks : SoundPacks packs world.recorded) :
    SoundWorld { world with files := world.files.savePacks packs } where
  log := h.log
  unbroken := h.unbroken
  packs := Or.inr ⟨Option.some_ne_none _, packs,
    loadPacks_savePacks world.files packs, hpacks⟩

section

variable {packs : List EvaluatedCapabilityPack}
  {recorded : List CapabilityRunEvidence}

theorem SoundPacks.changeState (h : SoundPacks packs recorded)
    (capabilityId : String) (state : PackState) :
    SoundPacks (changeFirst capabilityId
      (fun pack => { pack with state := state }) packs) recorded := by
  have hdefinition : (changeFirst capabilityId
      (fun pack => { pack with state := state }) packs).map
        EvaluatedCapabilityPack.definition =
      packs.map EvaluatedCapabilityPack.definition := by
    clear h
    induction packs with
    | nil => rfl
    | cons pack packs ih =>
        rw [changeFirst]
        split
        · rfl
        · rw [List.map_cons, ih, List.map_cons]
  refine ⟨?_, ?_⟩
  · rcases h.known with rfl | hknown
    · exact Or.inl rfl
    · exact Or.inr (hdefinition.trans hknown)
  · have hcounted := h.counted
    clear h hdefinition
    induction packs with
    | nil => exact hcounted
    | cons pack packs ih =>
        obtain ⟨hpack, hrest⟩ := List.forall_mem_cons.mp hcounted
        rw [changeFirst]
        split
        · exact List.forall_mem_cons.mpr ⟨hpack, hrest⟩
        · exact List.forall_mem_cons.mpr ⟨hpack, ih hrest⟩

theorem SoundPacks.count (h : SoundPacks packs recorded)
    (row : CapabilityRunEvidence) :
    SoundPacks (packs.map fun pack =>
      if pack.capabilityId = row.capabilityId then
        { pack with evidenceCount := pack.evidenceCount + 1 }
      else pack) (recorded ++ [row]) := by
  refine ⟨?_, ?_⟩
  · rcases h.known with rfl | hknown
    · exact Or.inl rfl
    · right
      rw [List.map_map, ← hknown]
      apply List.map_congr_left
      intro pack _
      change EvaluatedCapabilityPack.definition (if _ then _ else _) = _
      split
      · rfl
      · rfl
  · intro pack hpack
    obtain ⟨old, hold, rfl⟩ := List.mem_map.mp hpack
    have hcount := h.counted old hold
    rw [List.countP_append]
    split
    · next hid =>
        change old.evidenceCount + 1 = _
        rw [hcount, List.countP_cons_of_pos (by simpa using hid.symm)]
        rfl
    · next hid =>
        rw [hcount, List.countP_cons_of_neg (by simpa using Ne.symm hid)]
        rfl

/-- Packs with sources are left as they are by `initialize`. -/
theorem addSources_known
    (h : packs.map EvaluatedCapabilityPack.definition = pilotPacks) :
    packs.map StoreFiles.addSources = packs := by
  have hsources : ∀ builtin ∈ pilotPacks, builtin.instructionSources ≠ [] := by
    decide
  calc
    packs.map StoreFiles.addSources = packs.map id := by
      apply List.map_congr_left
      intro pack hpack
      have hbuiltin : pack.definition ∈ pilotPacks := by
        rw [← h]
        exact List.mem_map_of_mem hpack
      have hne : pack.instructionSources ≠ [] :=
        hsources pack.definition hbuiltin
      unfold StoreFiles.addSources
      split
      · exact if_neg hne
      · rfl
    _ = packs := List.map_id packs

end

section

variable {world : PackWorld} (h : SoundWorld world)
include h

theorem after_initializeStore :
    SoundWorld (world.after .initializeStore) ∧
      (world.files.packs = none ∨ world.files.loadPacks ≠ .ok [] →
        ∃ packs, (world.after .initializeStore).files.loadPacks = .ok packs ∧
          packs.map EvaluatedCapabilityPack.definition = pilotPacks) := by
  have hpilots : pilotPacks.map EvaluatedCapabilityPack.definition =
      pilotPacks := by decide +kernel
  rcases h.packs with ⟨hnone, hrecorded⟩ | ⟨hsome, packs, hload, hsound⟩
  · -- the first call creates the list
    have hfiles : world.files.initializeStore.2 =
        world.files.savePacks pilotPacks := by
      unfold StoreFiles.initializeStore
      rw [hnone]
    have hsound : SoundPacks pilotPacks world.recorded := by
      refine ⟨Or.inr hpilots, ?_⟩
      intro pack hpack
      have hzero : ∀ pack ∈ pilotPacks, pack.evidenceCount = 0 := by decide
      rw [hzero pack hpack, hrecorded]
      rfl
    have hsaved := h.save hsound
    rw [← hfiles] at hsaved
    refine ⟨hsaved, fun _ => ⟨pilotPacks, ?_, hpilots⟩⟩
    change world.files.initializeStore.2.loadPacks = _
    rw [hfiles, loadPacks_savePacks]
  · -- a later call changes nothing
    have hsame : packs.map StoreFiles.addSources = packs := by
      rcases hsound.known with rfl | hknown
      · rfl
      · exact addSources_known hknown
    have hfiles : world.files.initializeStore.2 = world.files := by
      obtain ⟨text, htext⟩ := Option.ne_none_iff_exists'.mp hsome
      unfold StoreFiles.initializeStore
      rw [htext]
      dsimp only
      rw [hload]
      dsimp only
      rw [if_pos hsame]
    have hafter : world.after .initializeStore = world := by
      change { world with files := world.files.initializeStore.2 } = world
      rw [hfiles]
    rw [hafter]
    refine ⟨h, ?_⟩
    rintro (hnone | hne)
    · exact absurd hnone hsome
    · refine ⟨packs, hload, ?_⟩
      rcases hsound.known with rfl | hknown
      · exact absurd hload hne
      · exact hknown

theorem after_record (row : CapabilityRunEvidence)
    (hrow : row.Accepted → row.Unbroken) :
    SoundWorld (world.after (.record row)) := by
  by_cases haccepted : row.Accepted
  · obtain ⟨packs, hload, hsound⟩ := h.loads
    have hpass : ¬(row.changedCapabilities ≠ [] ∧
        row.changedCapabilities ≠ [row.capabilityId]) := by
      rintro ⟨hne, hother⟩
      exact haccepted.elim hne hother
    have hlog : world.files.evidence.getD [] ++ StoreFiles.rowText row =
        logText (world.recorded ++ [row]) := by
      have hold : world.files.evidence.getD [] = logText world.recorded := by
        rcases h.log with hlog | ⟨hlog, hnone⟩
        · rw [hlog]
          rfl
        · rw [hlog, hnone]
          rfl
      rw [hold, logText, logText, List.flatMap_append,
        List.flatMap_singleton]
    have hfiles : (world.files.record row).2 =
        StoreFiles.savePacks
          ⟨world.files.packs, some (logText (world.recorded ++ [row]))⟩
          (countFor row packs) := by
      rw [record_files hpass hload, hlog]
    refine ⟨?_, ?_, ?_⟩
    · left
      change (world.files.record row).2.evidence = _
      rw [hfiles, evidence_savePacks]
      exact congrArg (fun rows => some (logText rows)) (if_pos haccepted).symm
    · change ∀ other ∈ if row.Accepted then _ else _, _
      rw [if_pos haccepted]
      intro other hother
      rcases List.mem_append.mp hother with hother | hother
      · exact h.unbroken other hother
      · rw [List.mem_singleton.mp hother]
        exact hrow haccepted
    · right
      change (world.files.record row).2.packs ≠ none ∧ ∃ packs,
        (world.files.record row).2.loadPacks = .ok packs ∧
          SoundPacks packs (if row.Accepted then _ else _)
      rw [hfiles, if_pos haccepted]
      exact ⟨Option.some_ne_none _, _, loadPacks_savePacks _ _,
        hsound.count row⟩
  · have hrefused : row.changedCapabilities ≠ [] ∧
        row.changedCapabilities ≠ [row.capabilityId] :=
      not_or.mp haccepted
    have hafter : world.after (.record row) = world := by
      have hfiles : (world.files.record row).2 = world.files := by
        unfold StoreFiles.record
        rw [if_pos hrefused]
      change PackWorld.mk (world.files.record row).2 (if _ then _ else _) = _
      rw [hfiles, if_neg haccepted]
    rw [hafter]
    exact h

theorem SoundWorld.changeState {packs : List EvaluatedCapabilityPack}
    (hload : world.files.loadPacks = .ok packs) (capabilityId : String)
    (state : PackState) :
    SoundWorld { world with
      files := world.files.savePacks (changeFirst capabilityId
        (fun pack => { pack with state := state }) packs) } := by
  obtain ⟨packs', hload', hsound⟩ := h.loads
  rw [hload] at hload'
  cases hload'
  exact h.save (hsound.changeState capabilityId state)

end

theorem loadPacks_of_findPack {files : StoreFiles} {capabilityId : String}
    {packs : List EvaluatedCapabilityPack} {pack : EvaluatedCapabilityPack}
    (h : files.findPack capabilityId = .ok (packs, pack)) :
    files.loadPacks = .ok packs := by
  unfold StoreFiles.findPack at h
  cases hload : files.loadPacks with
  | error e =>
      rw [hload] at h
      cases h
  | ok packs' =>
      rw [hload] at h
      dsimp only [Bind.bind, Except.bind] at h
      split at h
      · cases h
        rfl
      · cases h

section

variable {world : PackWorld} (h : SoundWorld world) {event : PackEvent}
include h

theorem after_activate (capabilityId : String) :
    SoundWorld (world.after (.activate capabilityId)) := by
  change SoundWorld { world with
    files := (world.files.activate capabilityId).2 }
  unfold StoreFiles.activate
  split
  · exact h
  · next packs pack hfind =>
      split
      · exact h
      split
      · exact h
      · exact h.changeState (loadPacks_of_findPack hfind) capabilityId .active

theorem after_evaluateRetirement (capabilityId executorId : String)
    (requiredHeldOut : Int) :
    SoundWorld (world.after
      (.evaluateRetirement capabilityId executorId requiredHeldOut)) := by
  change SoundWorld { world with
    files := (world.files.evaluateRetirement capabilityId executorId
      requiredHeldOut).2 }
  unfold StoreFiles.evaluateRetirement
  split
  · exact h
  · next packs pack hfind =>
      split
      · exact h
      · split
        · exact h
        split
        · exact h
        · dsimp only
          split
          · exact h.changeState (loadPacks_of_findPack hfind) capabilityId
              .retired
          · exact h

theorem after_sound (hfits : FitsEvidence world event) :
    SoundWorld (world.after event) := by
  cases event with
  | initializeStore => exact (after_initializeStore h).1
  | record row => exact after_record h row hfits
  | activate capabilityId => exact after_activate h capabilityId
  | evaluateRetirement capabilityId executorId requiredHeldOut =>
      exact after_evaluateRetirement h capabilityId executorId requiredHeldOut

theorem after_keeps (hfits : FitsEvidence world event) :
    KeepsEvidence world event := by
  have hafter := after_sound h hfits
  refine ⟨hafter.evidenceRows, ?_, ?_⟩
  · rintro rfl
    obtain ⟨packs, hload, hknown⟩ := (after_initializeStore h).2 hfits
    refine ⟨packs, hload, ?_⟩
    intro builtin hbuiltin
    rw [← hknown] at hbuiltin
    exact List.mem_map.mp hbuiltin
  · obtain ⟨packs, hload, hsound⟩ := hafter.loads
    exact ⟨packs, hload, hsound.counted⟩

end

theorem empty_sound : SoundWorld {} where
  log := Or.inr ⟨rfl, rfl⟩
  unbroken := by
    intro row hrow
    cases hrow
  packs := Or.inl ⟨rfl, rfl⟩

/-- On accepted rows of one line and with no `initialize` over an empty list,
every event keeps the evidence. -/
theorem evidence_store_kept (events : List PackEvent)
    (h : Throughout packStep FitsEvidence {} events) :
    Throughout packStep KeepsEvidence {} events := by
  refine h.implies SoundWorld ?_ empty_sound
  intro world event hsound hfits
  refine ⟨after_keeps hsound hfits, ?_⟩
  intro world' hstep
  cases hstep
  exact after_sound hsound hfits

namespace EvidenceStoreWitness

instance (world : PackWorld) (event : PackEvent) :
    Decidable (FitsEvidence world event) := by
  cases event <;> unfold FitsEvidence <;> infer_instance

def number (text : List Char)
    (shape : (isJsonNumber text && !text.isEmpty && text.all atomic) = true) :
    JsonNumber := ⟨text, shape⟩

def rowOf (runId : String) : CapabilityRunEvidence where
  capabilityId := "tdd-workflow"
  executorId := "codex"
  runId := runId
  completion := true
  testsPassed := true
  rollback := false
  corrections := 0
  costUsd := number "0.05".toList (by decide +kernel)
  latencyMs := number "1200.0".toList (by decide +kernel)
  retries := 0
  reviewerAccepted := true
  baselineScore := number "0.5".toList (by decide +kernel)
  variantScore := number "0.75".toList (by decide +kernel)
  createdAt := number "1751000000.25".toList (by decide +kernel)

/-- NEL makes the log unreadable; a record before `initialize` leaves no
built-in packs. -/
theorem broken_log_and_missing_packs :
    ((({} : PackWorld).after .initializeStore).after
        (.record (rowOf "run\u0085one"))).files.evidenceRows "" =
        .error .unreadable ∧
      ((({} : PackWorld).after (.record (rowOf "run-one"))).after
        .initializeStore).files.loadPacks = .ok [] := by
  decide +kernel

theorem recorded_after_set_up :
    Throughout packStep KeepsEvidence {}
      [.initializeStore, .record (rowOf "run\none"), .activate "tdd-workflow",
        .evaluateRetirement "tdd-workflow" "codex" 2] :=
  evidence_store_kept _ (by decide +kernel)

end EvidenceStoreWitness

end Voly
