/-
Evidence of executor runs: scores, profile updates, and updates that interleave
on one directory.
-/
import Voly.Capability.Registry
import Voly.Interaction.SharedCell
import Voly.Interaction.System
import Mathlib.Data.Finset.Card
import Mathlib.Data.Fintype.Basic
import Mathlib.Algebra.Order.Field.Basic

namespace Voly

open Python Interaction

structure RunRecord where
  executorId : String
  dimension : String
  success : Bool
  filesChanged : Int := 0
  retryCount : Nat := 0
  billingError : Bool := false
  notAvailable : Bool := false
  penalizeAgent : Bool := true
deriving DecidableEq

def computeRunScore (record : RunRecord) : Option Rat :=
  if record.billingError || record.notAvailable then none
  else if !record.success && !record.penalizeAgent then none
  else if !record.success then some 0
  else if record.filesChanged ≤ 0 then some (35 / 100)
  else some (clamp (75 / 100 * (90 / 100) ^ record.retryCount))

def emaAlpha : Rat := 15 / 100

def confidenceStep : Rat := 2 / 100

/-- The update that `_update_local_ema` makes to the profile it has loaded. -/
def ExecutorProfile.learn (profile : ExecutorProfile) (dimension : String)
    (runScore : Rat) (success : Bool) : ExecutorProfile :=
  let domain := (profile.capabilities.get? dimension).getD
    { score := 1 / 2, confidence := 0 }
  { profile with
    capabilities := profile.capabilities.set dimension
      { domain with
        score := clamp (domain.score * (1 - emaAlpha) + runScore * emaAlpha)
        confidence := min 1 (domain.confidence + confidenceStep) }
    evidence :=
      { profile.evidence with
        internalRuns := profile.evidence.internalRuns + 1
        successfulRuns :=
          if success then profile.evidence.successfulRuns + 1
          else profile.evidence.successfulRuns } }

inductive EvidenceOp where
  | load (executorId : String)
  | save (profile : ExecutorProfile)
  | post (record : RunRecord) (runScore : Rat) (workerUrl : String)

abbrev EvidenceReply : EvidenceOp → Type
  | .load _ => Except String ExecutorProfile
  | .save _ => Except String Unit
  | .post _ _ _ => Unit

abbrev EvidenceCall := Script EvidenceOp EvidenceReply Unit String Unit

def updateLocalEma (executorId dimension : String) (runScore : Rat)
    (success : Bool) : EvidenceCall :=
  Script.handle (do
    let profile ← Script.askOk (.load executorId) id
    Script.askOk (.save (profile.learn dimension runScore success)) id)
    fun _ => pure ()

def recordRun (record : RunRecord) (workerUrl : String) : EvidenceCall :=
  Script.handle (do
    if record.billingError || record.notAvailable then pure ()
    else
      match computeRunScore record with
      | none => pure ()
      | some runScore =>
          updateLocalEma record.executorId record.dimension runScore
            record.success
          let url := rstripSlash (strip workerUrl)
          if url = "" then pure ()
          else Script.ask (EvidenceOp.post record runScore url))
    fun _ => pure ()

/-- Every score and every confidence of the profile lies between 0 and 1. -/
def ExecutorProfile.Within (profile : ExecutorProfile) : Prop :=
  ∀ entry ∈ profile.capabilities,
    (0 ≤ entry.2.score ∧ entry.2.score ≤ 1) ∧
      0 ≤ entry.2.confidence ∧ entry.2.confidence ≤ 1

section Learn

variable (profile : ExecutorProfile) (dimension : String) (runScore : Rat)
  (success : Bool)

@[simp] theorem learn_id :
    (profile.learn dimension runScore success).id = profile.id := rfl

@[simp] theorem learn_internalRuns :
    (profile.learn dimension runScore success).evidence.internalRuns =
      profile.evidence.internalRuns + 1 := rfl

theorem learn_successfulRuns :
    (profile.learn dimension runScore success).evidence.successfulRuns =
      profile.evidence.successfulRuns + if success then 1 else 0 := by
  cases success <;> rfl

theorem learn_within (h : profile.Within) :
    (profile.learn dimension runScore success).Within := by
  intro entry hentry
  rcases Dict.mem_set hentry with hnew | hold
  · rw [hnew]
    refine ⟨⟨clamp_nonneg _, clamp_le_one _⟩, ?_, min_le_left _ _⟩
    have hconfidence : 0 ≤ ((profile.capabilities.get? dimension).getD
        { score := 1 / 2, confidence := 0 }).confidence := by
      cases hget : profile.capabilities.get? dimension with
      | none => exact le_refl 0
      | some domain => exact (h _ (Dict.mem_of_get? hget)).2.1
    have hstep : (0 : Rat) ≤ confidenceStep := by decide +kernel
    exact le_min zero_le_one (add_nonneg hconfidence hstep)
  · exact h entry hold

end Learn

def RunRecord.scored (record : RunRecord) : Bool :=
  (computeRunScore record).isSome

/-- The profile directory, and the log of loads and saves, latest first. -/
structure EvidenceWorld (I : Type) where
  registry : CapabilityRegistry
  log : List (I × Access String) := []

variable {I : Type} [DecidableEq I]

/-- Loads and saves are single steps on a reliable disk. -/
def serveEvidence (who : I) :
    Serve EvidenceOp EvidenceReply (EvidenceWorld I) :=
  fun world op proposed =>
    match op, proposed with
    | .load executorId, _ =>
        (.ok (world.registry.load executorId).1,
          ⟨(world.registry.load executorId).2,
            (who, .load executorId) :: world.log⟩)
    | .save profile, _ =>
        (.ok (),
          ⟨world.registry.save profile, (who, .save profile.id) :: world.log⟩)
    | .post _ _ _, proposed => (proposed, world)

def evidenceThreads (calls : I → RunRecord) (workerUrl : String)
    (registry : CapabilityRegistry) :
    Pool EvidenceOp EvidenceReply I (EvidenceWorld I)
      (fun _ => Except String Unit × Unit) :=
  ⟨⟨registry, []⟩, fun i => recordRun (calls i) workerUrl ()⟩

/-- No other thread has saved the profile since this thread has loaded it. -/
def SaveUpToDate (world : EvidenceWorld I) (who : I) : EvidenceOp → Prop
  | .save profile => UpToDate who profile.id world.log
  | _ => True

instance (world : EvidenceWorld I) (who : I) (op : EvidenceOp) :
    Decidable (SaveUpToDate world who op) := by
  unfold SaveUpToDate
  cases op <;> infer_instance

def scoredCalls [Fintype I] (calls : I → RunRecord) (executorId : String) :
    Finset I :=
  Finset.univ.filter fun i =>
    (calls i).executorId = executorId ∧ (calls i).scored

structure EvidenceKept [Fintype I] (calls : I → RunRecord)
    (before after : CapabilityRegistry) : Prop where
  internalRuns : ∀ executorId,
    (after.profile executorId).evidence.internalRuns =
      (before.profile executorId).evidence.internalRuns +
        (scoredCalls calls executorId).card
  successfulRuns : ∀ executorId,
    (after.profile executorId).evidence.successfulRuns =
      (before.profile executorId).evidence.successfulRuns +
        ((scoredCalls calls executorId).filter fun i => (calls i).success).card
  within : (∀ executorId, (before.profile executorId).Within) →
    ∀ executorId, (after.profile executorId).Within

structure EvidenceView where
  held : Option ExecutorProfile := none
  saved : Bool := false

/-- What a thread adds to the profile it holds. -/
def RunRecord.learnt (record : RunRecord) (profile : ExecutorProfile) :
    ExecutorProfile :=
  profile.learn record.dimension ((computeRunScore record).getD 0)
    record.success

/-- A thread loads its profile, then saves it once with its own run added. -/
def evidenceProtocol (record : RunRecord) :
    Protocol EvidenceOp EvidenceReply EvidenceView where
  allows view op :=
    match op with
    | .load executorId => executorId = record.executorId ∧ view.saved = false
    | .save profile => ∃ held, view.held = some held ∧
        profile = record.learnt held ∧ view.saved = false
    | .post _ _ _ => True
  relies _ op reply :=
    match op, reply with
    | .load _, reply => ∃ profile, reply = .ok profile
    | .save _, reply => reply = .ok ()
    | .post _ _ _, _ => True
  next view op reply :=
    match op, reply with
    | .load _, .ok profile => { view with held := some profile }
    | .load _, .error _ => view
    | .save _, _ => ⟨none, true⟩
    | .post _ _ _, _ => view

theorem wp_updateLocalEma {record : RunRecord} {runScore : Rat}
    (hscore : computeRunScore record = some runScore) :
    Script.wp (evidenceProtocol record)
      (updateLocalEma record.executorId record.dimension runScore
        record.success)
      (fun out _ view => out = .ok () ∧ view.saved = true) () {} := by
  unfold updateLocalEma
  rw [Script.wp_handle, Script.wp_bind, Script.wp_askOk]
  refine ⟨⟨rfl, rfl⟩, ?_⟩
  rintro _ ⟨profile, rfl⟩
  dsimp only [id]
  rw [Script.wp_askOk]
  refine ⟨⟨profile, rfl, ?_, rfl⟩, ?_⟩
  · rw [RunRecord.learnt, hscore]
    rfl
  · rintro _ rfl
    exact ⟨rfl, rfl⟩

theorem wp_recordRun (record : RunRecord) (workerUrl : String) :
    Script.wp (evidenceProtocol record) (recordRun record workerUrl)
      (fun _ _ view => view.saved = record.scored) () {} := by
  unfold recordRun
  generalize rstripSlash (strip workerUrl) = url
  rw [Script.wp_handle]
  by_cases hbilling : (record.billingError || record.notAvailable) = true
  · rw [if_pos hbilling, Script.wp_pure]
    simp [RunRecord.scored, computeRunScore, hbilling]
  · rw [if_neg hbilling]
    cases hscore : computeRunScore record with
    | none =>
        rw [Script.wp_pure]
        simp [RunRecord.scored, hscore]
    | some runScore =>
        have hscored : true = record.scored := by
          rw [RunRecord.scored, hscore]
          rfl
        rw [Script.wp_bind]
        apply Script.wp_mono (wp_updateLocalEma hscore)
        rintro _ _ view ⟨rfl, hsaved⟩
        dsimp only
        by_cases hurl : url = ""
        · rw [if_pos hurl, Script.wp_pure]
          exact hsaved.trans hscored
        · rw [if_neg hurl, Script.wp_ask]
          exact ⟨trivial, fun _ _ => hsaved.trans hscored⟩

/-- What the threads hold, with the name of its file. -/
def heldBy (calls : I → RunRecord) (views : I → EvidenceView) (i : I) :
    Option (String × ExecutorProfile) :=
  (views i).held.map fun profile => ((calls i).executorId, profile)

/-- The views of the threads explain the directory. -/
structure EvidenceLaw (calls : I → RunRecord) (before : CapabilityRegistry)
    (world : EvidenceWorld I) (views : I → EvidenceView) : Prop where
  shared : Shared (fun i => (calls i).learnt)
    (fun profile => profile.evidence.internalRuns) before.profile
    world.registry.profile (heldBy calls views) world.log
  named : ∀ i profile, (views i).held = some profile →
    profile.id = (calls i).executorId
  nodup : ∀ executorId, (savers executorId world.log).Nodup
  savers : ∀ executorId i, i ∈ savers executorId world.log ↔
    (views i).saved = true ∧ (calls i).executorId = executorId
  within : (∀ executorId, (before.profile executorId).Within) →
    (∀ executorId, (world.registry.profile executorId).Within) ∧
      ∀ i profile, (views i).held = some profile → profile.Within

section Law

variable {calls : I → RunRecord} {before : CapabilityRegistry}
  {world : EvidenceWorld I} {views : I → EvidenceView} {i : I}

theorem heldBy_update (calls : I → RunRecord) (views : I → EvidenceView)
    (i : I) (view : EvidenceView) :
    heldBy calls (Function.update views i view) =
      Function.update (heldBy calls views) i
        (view.held.map fun profile => ((calls i).executorId, profile)) := by
  funext j
  exact Function.apply_update (fun j (view : EvidenceView) =>
    view.held.map fun profile => ((calls j).executorId, profile)) views i view j

theorem learnt_internalRuns (record : RunRecord) (profile : ExecutorProfile) :
    (record.learnt profile).evidence.internalRuns =
      profile.evidence.internalRuns + 1 := rfl

theorem EvidenceLaw.initial (calls : I → RunRecord)
    (before : CapabilityRegistry) :
    EvidenceLaw calls before ⟨before, []⟩ fun _ => {} := by
  constructor
  case shared => exact Shared.initial _ _ _
  case named =>
    intro i profile hheld
    cases hheld
  case nodup => exact fun _ => List.nodup_nil
  case savers =>
    intro executorId i
    simp [Interaction.savers]
  case within =>
    intro hbefore
    refine ⟨hbefore, ?_⟩
    intro i profile hheld
    cases hheld

theorem EvidenceLaw.load (h : EvidenceLaw calls before world views) (i : I) :
    EvidenceLaw calls before
      ⟨(world.registry.load (calls i).executorId).2,
        (i, .load (calls i).executorId) :: world.log⟩
      (Function.update views i { views i with
        held := some (world.registry.profile (calls i).executorId) }) := by
  constructor
  case shared =>
    rw [CapabilityRegistry.load_profile, heldBy_update]
    exact h.shared.load i (calls i).executorId
  case named =>
    intro j profile hheld
    by_cases hj : j = i
    · rw [hj, Function.update_self] at hheld
      cases hheld
      rw [hj]
      exact CapabilityRegistry.profile_id _ _
    · rw [Function.update_of_ne hj] at hheld
      exact h.named j profile hheld
  case nodup =>
    intro executorId
    rw [savers_load]
    exact h.nodup executorId
  case savers =>
    intro executorId j
    rw [savers_load, h.savers executorId j]
    by_cases hj : j = i
    · rw [hj, Function.update_self]
    · rw [Function.update_of_ne hj]
  case within =>
    intro hbefore
    obtain ⟨hfiles, hheld⟩ := h.within hbefore
    rw [CapabilityRegistry.load_profile]
    refine ⟨hfiles, ?_⟩
    intro j profile hprofile
    by_cases hj : j = i
    · rw [hj, Function.update_self] at hprofile
      cases hprofile
      exact hfiles _
    · rw [Function.update_of_ne hj] at hprofile
      exact hheld j profile hprofile

theorem EvidenceLaw.save (h : EvidenceLaw calls before world views)
    {held : ExecutorProfile} (hheld : (views i).held = some held)
    (hsaved : (views i).saved = false) :
    EvidenceLaw calls before
      ⟨world.registry.save ((calls i).learnt held),
        (i, .save ((calls i).learnt held).id) :: world.log⟩
      (Function.update views i ⟨none, true⟩) := by
  have hid : ((calls i).learnt held).id = (calls i).executorId :=
    h.named i held hheld
  have hnot : ∀ executorId, i ∉ Interaction.savers executorId world.log := by
    intro executorId hmem
    have hyes := ((h.savers executorId i).mp hmem).1
    rw [hsaved] at hyes
    cases hyes
  constructor
  case shared =>
    rw [CapabilityRegistry.save_profile, heldBy_update, hid]
    apply h.shared.save fun j profile => learnt_internalRuns (calls j) profile
    rw [heldBy, hheld]
    rfl
  case named =>
    intro j profile hprofile
    by_cases hj : j = i
    · rw [hj, Function.update_self] at hprofile
      cases hprofile
    · rw [Function.update_of_ne hj] at hprofile
      exact h.named j profile hprofile
  case nodup =>
    intro executorId
    rw [savers_save]
    split
    · exact List.nodup_cons.mpr ⟨hnot executorId, h.nodup executorId⟩
    · exact h.nodup executorId
  case savers =>
    intro executorId j
    rw [savers_save, hid]
    by_cases hj : j = i
    · subst hj
      rw [Function.update_self]
      split
      case isTrue heq => simp [heq]
      case isFalse hne => simp [hne, hnot executorId]
    · rw [Function.update_of_ne hj, ← h.savers executorId j]
      split
      · simp [hj]
      · rfl
  case within =>
    intro hbefore
    obtain ⟨hfiles, hviews⟩ := h.within hbefore
    refine ⟨?_, ?_⟩
    · intro executorId
      rw [CapabilityRegistry.save_profile]
      by_cases hsame : executorId = ((calls i).learnt held).id
      · rw [hsame, Function.update_self]
        exact learn_within _ _ _ _ (hviews i held hheld)
      · rw [Function.update_of_ne hsame]
        exact hfiles executorId
    · intro j profile hprofile
      by_cases hj : j = i
      · rw [hj, Function.update_self] at hprofile
        cases hprofile
      · rw [Function.update_of_ne hj] at hprofile
        exact hviews j profile hprofile

theorem serves_evidence (calls : I → RunRecord) (before : CapabilityRegistry) :
    Pool.Serves (fun i => evidenceProtocol (calls i)) serveEvidence
      (fun _ _ _ => True) (EvidenceLaw calls before) := by
  intro world views i op proposed h hallow _
  cases op with
  | load executorId =>
      obtain ⟨rfl, _⟩ := hallow
      exact ⟨⟨_, rfl⟩, h.load i⟩
  | save profile =>
      obtain ⟨held, hheld, rfl, hsaved⟩ := hallow
      exact ⟨rfl, h.save hheld hsaved⟩
  | post record runScore url =>
      refine ⟨trivial, ?_⟩
      change EvidenceLaw calls before world
        (Function.update views i (views i))
      rw [Function.update_eq_self]
      exact h

end Law

section

variable (calls : I → RunRecord) (workerUrl : String)
  (before : CapabilityRegistry)

theorem evidenceThreads_follow :
    (evidenceThreads calls workerUrl before).Follows
      (fun i => evidenceProtocol (calls i))
      (fun i _ view => view.saved = (calls i).scored)
      (EvidenceLaw calls before) :=
  ⟨fun _ => {}, EvidenceLaw.initial calls before,
    fun i => wp_recordRun (calls i) workerUrl⟩

theorem saves_inTurn_iff (schedule : List (I × Oracle EvidenceOp EvidenceReply)) :
    (∀ executorId, InTurn executorId
      ((evidenceThreads calls workerUrl before).run serveEvidence
        schedule).world.log) ↔
      (evidenceThreads calls workerUrl before).Meets serveEvidence
        SaveUpToDate schedule := by
  have hserve : ∀ (world : EvidenceWorld I) i op proposed,
      (∀ id, InTurn id (serveEvidence i world op proposed).2.log) ↔
        SaveUpToDate world i op ∧ ∀ id, InTurn id world.log := by
    intro world i op proposed
    cases op with
    | load executorId =>
        simp only [serveEvidence, inTurn_load, SaveUpToDate, true_and]
    | save profile =>
        simp only [serveEvidence, inTurn_save, SaveUpToDate, forall_and,
          forall_eq']
    | post record runScore url =>
        simp only [serveEvidence, SaveUpToDate, true_and]
  rw [Pool.kept_meets_iff (J := fun world : EvidenceWorld I =>
    ∀ id, InTurn id world.log) hserve]
  exact and_iff_right fun _ => trivial

end

section Counts

variable [Fintype I] {calls : I → RunRecord} {before : CapabilityRegistry}
  {world : EvidenceWorld I} {views : I → EvidenceView}

section

variable (h : EvidenceLaw calls before world views)
  (hdone : ∀ i, (views i).saved = (calls i).scored) (executorId : String)
include h hdone

theorem EvidenceLaw.savers_toFinset :
    (Interaction.savers executorId world.log).toFinset =
      scoredCalls calls executorId := by
  ext i
  rw [List.mem_toFinset, h.savers, hdone, scoredCalls, Finset.mem_filter]
  simp only [Finset.mem_univ, true_and]
  exact and_comm

theorem EvidenceLaw.savers_length :
    (Interaction.savers executorId world.log).length =
      (scoredCalls calls executorId).card := by
  rw [← h.savers_toFinset hdone, List.toFinset_card_of_nodup (h.nodup _)]

end

omit [DecidableEq I] [Fintype I] in
theorem foldr_successfulRuns (calls : I → RunRecord) (clients : List I)
    (profile : ExecutorProfile) :
    (clients.foldr (fun i => (calls i).learnt) profile).evidence.successfulRuns =
      profile.evidence.successfulRuns +
        (clients.filter fun i => (calls i).success).length := by
  induction clients with
  | nil => rfl
  | cons i clients ih =>
      rw [List.foldr_cons, RunRecord.learnt, learn_successfulRuns, ih]
      cases hsuccess : (calls i).success with
      | true => simp [hsuccess, Nat.add_assoc]
      | false => simp [hsuccess]

/-- The evidence of finished threads is kept iff all saves were in turn. -/
theorem EvidenceLaw.kept_iff (h : EvidenceLaw calls before world views)
    (hdone : ∀ i, (views i).saved = (calls i).scored) :
    EvidenceKept calls before world.registry ↔
      ∀ executorId, InTurn executorId world.log := by
  have hsize := fun i profile => learnt_internalRuns (calls i) profile
  constructor
  · intro hkept executorId
    rw [← h.shared.size_eq_iff hsize, h.savers_length hdone]
    exact hkept.internalRuns executorId
  · intro hturn
    constructor
    case internalRuns =>
      intro executorId
      rw [← h.savers_length hdone]
      exact (h.shared.size_eq_iff hsize executorId).mpr (hturn executorId)
    case successfulRuns =>
      intro executorId
      rw [h.shared.serial executorId (hturn executorId), foldr_successfulRuns,
        ← h.savers_toFinset hdone, ← List.toFinset_filter,
        List.toFinset_card_of_nodup ((h.nodup _).filter _)]
    case within => exact fun hbefore => (h.within hbefore).1

end Counts

/-- No evidence is lost iff no save was overtaken by another after its load, in
every interleaving. -/
theorem evidence_kept_iff [Fintype I] (calls : I → RunRecord)
    (workerUrl : String) (before : CapabilityRegistry)
    (schedule : List (I × Oracle EvidenceOp EvidenceReply))
    (hdone : ∀ i, (((evidenceThreads calls workerUrl before).run serveEvidence
      schedule).procs i).isDone = true) :
    EvidenceKept calls before
        ((evidenceThreads calls workerUrl before).run serveEvidence
          schedule).world.registry ↔
      (evidenceThreads calls workerUrl before).Meets serveEvidence
        SaveUpToDate schedule := by
  obtain ⟨views, hlaw, hprocs⟩ := Pool.run_follows
    (serves_evidence calls before) schedule (Pool.meets_true _ _ _)
    (evidenceThreads_follow calls workerUrl before)
  rw [← saves_inTurn_iff]
  apply hlaw.kept_iff
  intro i
  have hwp := hprocs i
  have hend := hdone i
  cases hproc : ((evidenceThreads calls workerUrl before).run serveEvidence
      schedule).procs i with
  | done out =>
      rw [hproc] at hwp
      exact hwp
  | ask op next =>
      rw [hproc] at hend
      cases hend

theorem serves_traced (calls : I → RunRecord) (before : CapabilityRegistry) :
    Pool.Serves (fun i => evidenceProtocol (calls i)) serveEvidence
      (fun _ _ _ => True) fun world views =>
        EvidenceLaw calls before world views ∧
          Traced (fun i => (calls i).learnt) before.profile
            world.registry.profile (heldBy calls views) world.log := by
  rintro world views i op proposed ⟨hlaw, htraced⟩ hallow hok
  obtain ⟨hrelies, hnext⟩ :=
    serves_evidence calls before world views i op proposed hlaw hallow hok
  refine ⟨hrelies, hnext, ?_⟩
  cases op with
  | load executorId =>
      obtain ⟨rfl, _⟩ := hallow
      dsimp only [serveEvidence, evidenceProtocol]
      rw [CapabilityRegistry.load_profile, heldBy_update]
      exact htraced.load i (calls i).executorId
  | save profile =>
      obtain ⟨held, hheld, rfl, _⟩ := hallow
      have hid : ((calls i).learnt held).id = (calls i).executorId :=
        hlaw.named i held hheld
      dsimp only [serveEvidence, evidenceProtocol]
      rw [CapabilityRegistry.save_profile, heldBy_update, hid]
      apply htraced.save
      rw [heldBy, hheld]
      rfl
  | post record runScore url =>
      change Traced _ _ _ (heldBy calls (Function.update views i (views i))) _
      rw [Function.update_eq_self]
      exact htraced

/-- The calls that a profile has learnt from, latest first. -/
structure LearntFrom (calls : I → RunRecord) (executorId : String)
    (before after : ExecutorProfile) (learnt : List I) : Prop where
  profile : after = learnt.foldr (fun i => (calls i).learnt) before
  once : learnt.Nodup
  own : ∀ i ∈ learnt, (calls i).executorId = executorId

section Lost

variable (calls : I → RunRecord) (workerUrl : String)
  (before : CapabilityRegistry)
  (schedule : List (I × Oracle EvidenceOp EvidenceReply))
  (executorId : String)

theorem exists_learntFrom {world : EvidenceWorld I} {views : I → EvidenceView}
    (hlaw : EvidenceLaw calls before world views)
    (htraced : Traced (fun i => (calls i).learnt) before.profile
      world.registry.profile (heldBy calls views) world.log) :
    ∃ learnt, LearntFrom calls executorId (before.profile executorId)
      (world.registry.profile executorId) learnt := by
  obtain ⟨learnt, hsub, heq⟩ := htraced.cells executorId
  exact ⟨learnt, heq, hsub.nodup (hlaw.nodup executorId),
    fun i hi => ((hlaw.savers executorId i).mp (hsub.subset hi)).2⟩

theorem run_traced :
    ∃ views, EvidenceLaw calls before ((evidenceThreads calls workerUrl
        before).run serveEvidence schedule).world views ∧
      Traced (fun i => (calls i).learnt) before.profile
        ((evidenceThreads calls workerUrl before).run serveEvidence
          schedule).world.registry.profile (heldBy calls views)
        ((evidenceThreads calls workerUrl before).run serveEvidence
          schedule).world.log := by
  have hstart : (evidenceThreads calls workerUrl before).Follows
      (fun i => evidenceProtocol (calls i))
      (fun i _ view => view.saved = (calls i).scored)
      fun world views => EvidenceLaw calls before world views ∧
        Traced (fun i => (calls i).learnt) before.profile
          world.registry.profile (heldBy calls views) world.log :=
    ⟨fun _ => {}, ⟨EvidenceLaw.initial calls before, Traced.initial _ _⟩,
      fun i => wp_recordRun (calls i) workerUrl⟩
  obtain ⟨views, hkept, -⟩ := Pool.run_follows (serves_traced calls before)
    schedule (Pool.meets_true _ _ _) hstart
  exact ⟨views, hkept⟩

end Lost

theorem weights_nonneg (policy : String) :
    0 ≤ ((routingPolicyWeights.get? policy).getD
      routingScoreWeights).capabilityMatch ∧
    0 ≤ ((routingPolicyWeights.get? policy).getD
      routingScoreWeights).historicalSuccess := by
  have hall : ∀ row ∈ routingPolicyWeights,
      0 ≤ row.2.capabilityMatch ∧ 0 ≤ row.2.historicalSuccess := by
    decide +kernel
  cases h : routingPolicyWeights.get? policy with
  | none => exact hall ("balanced", routingScoreWeights) List.mem_cons_self
  | some weights => exact hall _ (Dict.mem_of_get? h)

/-- A score rises neither with the match nor with the success that fall. -/
theorem routingScore_mono {a b : ExecutorProfile} {dimension : String}
    (hmatch : ((a.capabilities.get? dimension).elim (1 / 2) (·.score) : Rat) ≤
      (b.capabilities.get? dimension).elim (1 / 2) (·.score))
    (hsuccess : (a.evidence.successfulRuns / max 1 a.evidence.internalRuns :
        Rat) ≤ b.evidence.successfulRuns / max 1 b.evidence.internalRuns)
    (hconstraints : a.constraints = b.constraints)
    (hoperational : a.operational = b.operational)
    (projectFeatures : List String) (policy : String) :
    routingScore a dimension projectFeatures policy ≤
      routingScore b dimension projectFeatures policy := by
  have hweights := weights_nonneg (lower (strip (orElse policy "balanced")))
  unfold routingScore
  dsimp only
  rw [hconstraints, hoperational]
  refine max_le_max le_rfl (min_le_min le_rfl ?_)
  iterate 5 apply add_le_add_left
  apply add_le_add
  · apply mul_le_mul_of_nonneg_right _ hweights.1
    revert hmatch
    cases a.capabilities.get? dimension <;>
      cases b.capabilities.get? dimension <;> exact id
  · exact mul_le_mul_of_nonneg_right hsuccess hweights.2

/-- A failed run raises no routing score, of whatever dimension. -/
theorem routingScore_learn_failed {profile : ExecutorProfile}
    (h : profile.Within) (learnt dimension : String)
    (projectFeatures : List String) (policy : String) :
    routingScore (profile.learn learnt 0 false) dimension projectFeatures
      policy ≤ routingScore profile dimension projectFeatures policy := by
  have hkept : (profile.learn learnt 0 false).constraints =
        profile.constraints ∧ (profile.learn learnt 0 false).operational =
        profile.operational := ⟨rfl, rfl⟩
  refine routingScore_mono ?_ ?_ hkept.1 hkept.2 projectFeatures policy
  · dsimp only [ExecutorProfile.learn]
    rw [Dict.get?_set]
    split
    · next hsame =>
        subst hsame
        have hfall : ∀ score : Rat, 0 ≤ score →
            clamp (score * (1 - emaAlpha) + 0 * emaAlpha) ≤ score := by
          intro score hscore
          refine max_le hscore (min_le_of_right_le ?_)
          rw [zero_mul, add_zero]
          exact mul_le_of_le_one_right hscore (by decide +kernel)
        cases hget : profile.capabilities.get? learnt with
        | none => exact hfall _ (by decide +kernel)
        | some domain => exact hfall _ (h _ (Dict.mem_of_get? hget)).1.1
    · exact le_rfl
  · have hruns : max 1 profile.evidence.internalRuns ≤
        max 1 (profile.evidence.internalRuns + 1) := by omega
    have hpos : 0 < max 1 profile.evidence.internalRuns := by omega
    exact div_le_div_of_nonneg_left (Nat.cast_nonneg _)
      (Nat.cast_pos.mpr hpos) (Nat.cast_le.mpr hruns)

/-- As long as all runs of an executor fail, no schedule of their records
raises its routing score. -/
theorem failed_runs_raise_no_score (calls : I → RunRecord) (workerUrl : String)
    (before : CapabilityRegistry)
    (schedule : List (I × Oracle EvidenceOp EvidenceReply))
    (executorId : String) (hwithin : (before.profile executorId).Within)
    (hfailed : ∀ i, (calls i).executorId = executorId →
      (calls i).success = false)
    (dimension : String) (projectFeatures : List String) (policy : String) :
    routingScore (((evidenceThreads calls workerUrl before).run serveEvidence
        schedule).world.registry.profile executorId) dimension
        projectFeatures policy ≤
      routingScore (before.profile executorId) dimension projectFeatures
        policy := by
  obtain ⟨views, hlaw, htraced⟩ := run_traced calls workerUrl before schedule
  obtain ⟨learnt, hlearnt⟩ :=
    exists_learntFrom calls before executorId hlaw htraced
  have hscore : ∀ i, (calls i).success = false →
      (computeRunScore (calls i)).getD 0 = 0 := by
    intro i hi
    unfold computeRunScore
    split_ifs <;> simp_all
  have hrun : ∀ clients : List I, (∀ i ∈ clients, (calls i).success = false) →
      let after := clients.foldr (fun i => (calls i).learnt)
        (before.profile executorId)
      after.Within ∧
        routingScore after dimension projectFeatures policy ≤
          routingScore (before.profile executorId) dimension projectFeatures
            policy := by
    intro clients
    induction clients with
    | nil => exact fun _ => ⟨hwithin, le_rfl⟩
    | cons i clients ih =>
        intro hclients
        obtain ⟨hi, hrest⟩ := List.forall_mem_cons.mp hclients
        obtain ⟨hafter, hle⟩ := ih hrest
        dsimp only [List.foldr_cons, RunRecord.learnt]
        rw [hscore i hi, hi]
        exact ⟨learn_within _ _ _ _ hafter,
          (routingScore_learn_failed hafter _ _ _ _).trans hle⟩
  rw [hlearnt.profile]
  exact (hrun learnt fun i hi => hfailed i (hlearnt.own i hi)).2

namespace EvidenceWitness

def twoRuns (_ : Bool) : RunRecord :=
  { executorId := "claude-code", dimension := "backend", success := true
    filesChanged := 2 }

def emptyDirectory : CapabilityRegistry :=
  { profiles := fun _ => none
    seeds := fun _ => none
    profiles_id := fun _ _ h => (by cases h)
    seeds_id := fun _ _ h => (by cases h) }

def noChoice : Oracle EvidenceOp EvidenceReply
  | .load _ => .error ""
  | .save _ => .ok ()
  | .post _ _ _ => ()

def finished (schedule : List (Bool × Oracle EvidenceOp EvidenceReply)) :
    Pool EvidenceOp EvidenceReply Bool (EvidenceWorld Bool)
      (fun _ => Except String Unit × Unit) :=
  (evidenceThreads twoRuns "" emptyDirectory).run serveEvidence schedule

def overlapping : List (Bool × Oracle EvidenceOp EvidenceReply) :=
  [(true, noChoice), (false, noChoice), (true, noChoice), (false, noChoice)]

def inTurn : List (Bool × Oracle EvidenceOp EvidenceReply) :=
  [(true, noChoice), (true, noChoice), (false, noChoice), (false, noChoice)]

/-- Both threads load the profile before either saves it: one run is lost. -/
theorem overlapping_run_lost :
    (∀ i, ((finished overlapping).procs i).isDone = true) ∧
      ¬EvidenceKept twoRuns emptyDirectory
        (finished overlapping).world.registry := by
  refine ⟨by decide +kernel, ?_⟩
  intro hkept
  have hruns := hkept.internalRuns "claude-code"
  exact absurd hruns (by decide +kernel)

theorem inTurn_kept :
    EvidenceKept twoRuns emptyDirectory (finished inTurn).world.registry :=
  (evidence_kept_iff twoRuns "" emptyDirectory inTurn
    (by decide +kernel)).mpr (by decide +kernel)

def failedRuns (_ : Bool) : RunRecord :=
  { executorId := "claude-code", dimension := "backend", success := false }

theorem failed_overlapping :
    routingScore (((evidenceThreads failedRuns "" emptyDirectory).run
        serveEvidence overlapping).world.registry.profile "claude-code")
        "backend" [] "balanced" ≤
      routingScore (emptyDirectory.profile "claude-code") "backend" []
        "balanced" :=
  failed_runs_raise_no_score failedRuns "" emptyDirectory overlapping
    "claude-code" (fun _ h => (by cases h)) (fun _ _ => rfl) "backend" []
    "balanced"

end EvidenceWitness

end Voly
