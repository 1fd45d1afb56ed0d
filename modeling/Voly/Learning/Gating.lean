/-
Runs of calls of the instinct store: whose evidence an instinct holds, and what
selected ones are like.
-/
import Voly.Learning.Instincts
import Voly.Interaction.Steps
import Voly.Python.Loops
import Mathlib.Data.List.Dedup

namespace Voly

open Python Interaction

/-- A call that brought evidence. -/
inductive Recording where
  | proposed (proposal : Proposal)
  | added (instinctId : String) (evidence : InstinctEvidence)

def Recording.evidence : Recording → InstinctEvidence
  | .proposed proposal => proposal.evidence
  | .added _ evidence => evidence

/-- The saved instincts, the evidence, and the ids suspended since approval. -/
structure LearningWorld where
  instincts : List Instinct := []
  recordings : List Recording := []
  corrected : List String := []

inductive LearningEvent where
  | propose (proposal : Proposal)
  | addEvidence (instinctId : String) (evidence : InstinctEvidence)
  | approve (instinctId : String)
  | promoteGlobal (instinctId : String)
  | remove (instinctId : String)
  | ingestTaskEvent (event : LearningTaskEvent)
      (trigger action projectId : String)
  | ingestEvidenceRecord (record : LearningRecord)
      (trigger action projectId : String)
  | ingestBusinessDecision (plan : BusinessPlan) (projectId : String)

/-- A row of the same kind, source and project is there already. -/
def Instinct.holds (instinct : Instinct) (evidence : InstinctEvidence) :
    Bool :=
  instinct.evidence.any fun row => row.kind == evidence.kind &&
    row.sourceId == evidence.sourceId && row.projectId == evidence.projectId

/-- The evidence is not among what the instinct of the id holds. -/
def isNew (instincts : List Instinct) (instinctId : String)
    (evidence : InstinctEvidence) : Bool :=
  match InstinctStore.find instincts instinctId with
  | some instinct => !instinct.holds evidence
  | none => true

namespace LearningWorld

variable (world : LearningWorld)

/-- The corrected ids once evidence for an id has come in. -/
def correctedBy (instinctId : String) (evidence : InstinctEvidence) :
    List String :=
  if evidence.suspends && isNew world.instincts instinctId evidence then
    instinctId :: world.corrected
  else world.corrected

section Steps

variable (lower : String → String) (sha256 : String → String)

def propose (proposal : Proposal) : LearningWorld :=
  match InstinctStore.propose lower sha256 world.instincts proposal with
  | .ok (_, instincts) =>
      { instincts
        recordings := world.recordings ++ [.proposed proposal]
        corrected := world.correctedBy (proposal.instinctId lower sha256)
          proposal.evidence }
  | .error _ => world

def addEvidence (instinctId : String) (evidence : InstinctEvidence) :
    LearningWorld :=
  match InstinctStore.addEvidence world.instincts instinctId evidence with
  | .ok (_, instincts) =>
      { instincts
        recordings := world.recordings ++ [.added instinctId evidence]
        corrected := world.correctedBy instinctId evidence }
  | .error _ => world

def approve (instinctId : String) : LearningWorld :=
  match InstinctStore.approve world.instincts instinctId with
  | .ok (_, instincts) => { world with
      instincts, corrected := world.corrected.filter (· ≠ instinctId) }
  | .error _ => world

def promoteGlobal (instinctId : String) : LearningWorld :=
  match InstinctStore.promoteGlobal world.instincts instinctId with
  | .ok (_, instincts) => { world with instincts }
  | .error _ => world

def remove (instinctId : String) : LearningWorld :=
  { world with
    instincts := (InstinctStore.remove world.instincts instinctId).2 }

end Steps

end LearningWorld

section Steps

variable (lower : String → String) (str : Json → String)
variable (sha256 : String → String)

def learningStep (world : LearningWorld) :
    LearningEvent → Option LearningWorld
  | .propose proposal => some (world.propose lower sha256 proposal)
  | .addEvidence instinctId evidence =>
      some (world.addEvidence instinctId evidence)
  | .approve instinctId => some (world.approve instinctId)
  | .promoteGlobal instinctId => some (world.promoteGlobal instinctId)
  | .remove instinctId => some (world.remove instinctId)
  | .ingestTaskEvent event trigger action projectId =>
      some (world.propose lower sha256
        (ingestTaskEvent event trigger action projectId))
  | .ingestEvidenceRecord record trigger action projectId =>
      some (world.propose lower sha256
        (ingestEvidenceRecord record trigger action projectId))
  | .ingestBusinessDecision plan projectId =>
      some (world.propose lower sha256
        (ingestBusinessDecision str plan projectId))

end Steps

section Laws

variable (lower : String → String)

/-- What an instinct is about: case and surrounding blanks do not matter. -/
def subject (projectId trigger action : String) : String × String × String :=
  (projectId, lower (strip trigger), lower (strip action))

def Proposal.subject (proposal : Proposal) : String × String × String :=
  Voly.subject lower proposal.projectId proposal.trigger proposal.action

/-- The call brought evidence for this instinct of the project. -/
def Recording.IsFor (projectId : String) (instinct : Instinct) :
    Recording → Prop
  | .proposed proposal => proposal.subject lower =
      subject lower projectId instinct.trigger instinct.action
  | .added instinctId _ => instinctId = instinct.id

instance (projectId : String) (instinct : Instinct) (recording : Recording) :
    Decidable (recording.IsFor lower projectId instinct) := by
  unfold Recording.IsFor
  split <;> infer_instance

/-- The instinct was proposed for the project, and its evidence recorded for it.
-/
structure BelongsTo (recordings : List Recording) (projectId : String)
    (instinct : Instinct) : Prop where
  scope : instinct.scope = .project → instinct.scopeId = projectId
  proposed : ∃ proposal, Recording.proposed proposal ∈ recordings ∧
    proposal.subject lower =
      subject lower projectId instinct.trigger instinct.action
  recorded : ∀ row ∈ instinct.evidence, ∃ recording ∈ recordings,
    recording.evidence = row ∧ recording.IsFor lower projectId instinct

def TwoProjects (instinct : Instinct) : Prop :=
  ∃ first ∈ instinct.evidence, ∃ second ∈ instinct.evidence,
    first.isPositive = true ∧ second.isPositive = true ∧
      first.projectId ≠ second.projectId

/-- Evidence is the instinct's own; selected instincts belong here, have
positive evidence and no later correction; global ones have two projects; and
confidences lie between 0 and 1. -/
structure LearningWorld.Gated (isWord : Char → Bool) (world : LearningWorld) :
    Prop where
  own : ∀ instinct ∈ world.instincts, ∃ projectId,
    BelongsTo lower world.recordings projectId instinct
  selected : ∀ task projectId limit, ∀ instinct ∈
      InstinctStore.shadowSelect lower isWord world.instincts task projectId
        limit,
    (instinct.scope = .global ∨
      instinct.scope = .project ∧ instinct.scopeId = projectId) ∧
    (∃ row ∈ instinct.evidence, row.isPositive = true) ∧
    instinct.id ∉ world.corrected
  global : ∀ instinct ∈ world.instincts, instinct.scope = .global →
    TwoProjects instinct
  confidence : ∀ instinct ∈ world.instincts,
    0 ≤ instinct.confidence ∧ instinct.confidence ≤ 1

/-- No other project's row has the suspending evidence's kind and source. -/
def NotMasked (instincts : List Instinct) (instinctId : String)
    (evidence : InstinctEvidence) : Prop :=
  evidence.suspends = true → ∀ instinct ∈ instincts,
    instinct.id = instinctId → instinct.lifecycle = .approved →
      instinct.repeats evidence = true → instinct.holds evidence = true

instance (instincts : List Instinct) (instinctId : String)
    (evidence : InstinctEvidence) :
    Decidable (NotMasked instincts instinctId evidence) :=
  inferInstanceAs (Decidable (_ = true → _))

variable (sha256 : String → String)

/-- A proposal with the same joined text is about the same. -/
def Recording.ToldApart (proposal : Proposal) : Recording → Prop
  | .proposed earlier =>
      identityText lower earlier.projectId earlier.trigger earlier.action =
        identityText lower proposal.projectId proposal.trigger
          proposal.action →
      earlier.subject lower = proposal.subject lower
  | .added _ _ => True

instance (proposal : Proposal) (recording : Recording) :
    Decidable (recording.ToldApart lower proposal) := by
  unfold Recording.ToldApart
  split <;> infer_instance

def ProposalApart (world : LearningWorld) (proposal : Proposal) : Prop :=
  (∀ recording ∈ world.recordings, recording.ToldApart lower proposal) ∧
  NotMasked world.instincts (proposal.instinctId lower sha256)
    proposal.evidence

instance (world : LearningWorld) (proposal : Proposal) :
    Decidable (ProposalApart lower sha256 world proposal) :=
  inferInstanceAs (Decidable (_ ∧ _))

variable (str : Json → String)

def EvidenceApart (world : LearningWorld) : LearningEvent → Prop
  | .propose proposal => ProposalApart lower sha256 world proposal
  | .addEvidence instinctId evidence =>
      NotMasked world.instincts instinctId evidence
  | .ingestTaskEvent event trigger action projectId =>
      ProposalApart lower sha256 world
        (ingestTaskEvent event trigger action projectId)
  | .ingestEvidenceRecord record trigger action projectId =>
      ProposalApart lower sha256 world
        (ingestEvidenceRecord record trigger action projectId)
  | .ingestBusinessDecision plan projectId =>
      ProposalApart lower sha256 world (ingestBusinessDecision str plan projectId)
  | _ => True

instance (world : LearningWorld) (event : LearningEvent) :
    Decidable (EvidenceApart lower sha256 str world event) := by
  unfold EvidenceApart
  split <;> infer_instance

end Laws

section Kept

variable {lower : String → String} {sha256 : String → String}

structure SoundInstinct (lower : String → String) (sha256 : String → String)
    (recordings : List Recording) (corrected : List String)
    (instinct : Instinct) : Prop where
  own : ∃ projectId, BelongsTo lower recordings projectId instinct ∧
    instinct.id =
      sha256 (identityText lower projectId instinct.trigger instinct.action)
  approved : instinct.lifecycle = .approved →
    (∃ row ∈ instinct.evidence, row.isPositive = true) ∧
      instinct.id ∉ corrected
  global : instinct.scope = .global → TwoProjects instinct
  confidence : 0 ≤ instinct.confidence ∧ instinct.confidence ≤ 1

/-- Ids are told apart, and every instinct is sound. -/
structure SoundStore (lower : String → String) (sha256 : String → String)
    (recordings : List Recording) (corrected : List String)
    (instincts : List Instinct) : Prop where
  nodup : (instincts.map Instinct.id).Nodup
  sound : ∀ instinct ∈ instincts,
    SoundInstinct lower sha256 recordings corrected instinct

variable {recordings saved : List Recording} {corrected left : List String}
variable {instinct : Instinct} {instincts next : List Instinct}

theorem BelongsTo.mono {projectId : String}
    (h : BelongsTo lower recordings projectId instinct)
    (hsaved : ∀ recording ∈ recordings, recording ∈ saved) :
    BelongsTo lower saved projectId instinct := by
  refine ⟨h.scope, ?_, ?_⟩
  · obtain ⟨proposal, hmem, hsubject⟩ := h.proposed
    exact ⟨proposal, hsaved _ hmem, hsubject⟩
  · intro row hrow
    obtain ⟨recording, hmem, hrecording⟩ := h.recorded row hrow
    exact ⟨recording, hsaved _ hmem, hrecording⟩

theorem SoundInstinct.mono
    (h : SoundInstinct lower sha256 recordings corrected instinct)
    (hsaved : ∀ recording ∈ recordings, recording ∈ saved)
    (hleft : instinct.id ∈ left → instinct.id ∈ corrected) :
    SoundInstinct lower sha256 saved left instinct := by
  refine ⟨?_, ?_, h.global, h.confidence⟩
  · obtain ⟨projectId, hbelongs, hid⟩ := h.own
    exact ⟨projectId, hbelongs.mono hsaved, hid⟩
  · intro happroved
    obtain ⟨hpositive, hnot⟩ := h.approved happroved
    exact ⟨hpositive, fun hmem => hnot (hleft hmem)⟩

/-- Saving a sound instinct keeps the store sound, if no other was corrected. -/
theorem SoundStore.replace
    (h : SoundStore lower sha256 recordings corrected instincts)
    (hreplaces : Keyed.Replaces Instinct.id instincts instinct next)
    (hsound : SoundInstinct lower sha256 saved left instinct)
    (hsaved : ∀ recording ∈ recordings, recording ∈ saved)
    (hleft : ∀ other, other ≠ instinct.id → other ∈ left →
      other ∈ corrected) :
    SoundStore lower sha256 saved left next := by
  refine ⟨hreplaces.nodup, fun held hheld => ?_⟩
  rcases hreplaces.from_held held hheld with hheld | ⟨hheld, hother⟩
  · subst hheld
    exact hsound
  · exact (h.sound held hheld).mono hsaved (hleft held.id hother)

/-- Evidence that was recorded for the instinct and is not masked keeps it
sound. -/
theorem SoundInstinct.receive {projectId : String}
    (h : SoundInstinct lower sha256 recordings corrected instinct)
    (recording : Recording) (left : List String)
    (hbelongs : BelongsTo lower recordings projectId instinct)
    (hid : instinct.id =
      sha256 (identityText lower projectId instinct.trigger instinct.action))
    (hmem : recording ∈ recordings)
    (hfor : recording.IsFor lower projectId instinct)
    (hleft : instinct.lifecycle = .approved →
      (instinct.repeats recording.evidence = true ∨
        recording.evidence.suspends = false) →
      instinct.id ∈ left → instinct.id ∈ corrected) :
    SoundInstinct lower sha256 recordings left
      (instinct.receive recording.evidence) := by
  by_cases hrepeats : instinct.repeats recording.evidence = true
  · rw [Instinct.receive, if_pos hrepeats]
    refine ⟨⟨projectId, hbelongs, hid⟩, ?_, h.global, h.confidence⟩
    intro happroved
    obtain ⟨hpositive, hnot⟩ := h.approved happroved
    exact ⟨hpositive, fun hin =>
      hnot (hleft happroved (Or.inl hrepeats) hin)⟩
  · rw [Instinct.receive, if_neg hrepeats]
    have hsame : ∀ held : Recording, held.IsFor lower projectId instinct →
        held.IsFor lower projectId (instinct.record recording.evidence) := by
      intro held hheld
      cases held with
      | proposed proposal => simpa [Recording.IsFor] using hheld
      | added instinctId evidence => simpa [Recording.IsFor] using hheld
    refine ⟨⟨projectId, ⟨?_, ?_, ?_⟩, ?_⟩, ?_, ?_,
      instinct.confidence_mem_of_record _ h.confidence⟩
    · simpa using hbelongs.scope
    · simpa using hbelongs.proposed
    · intro row hrow
      rw [Instinct.record_evidence, List.mem_append, List.mem_singleton] at hrow
      rcases hrow with hrow | hrow
      · obtain ⟨held, hheld, hrow, hbrought⟩ := hbelongs.recorded row hrow
        exact ⟨held, hheld, hrow, hsame held hbrought⟩
      · exact ⟨recording, hmem, hrow.symm, hsame recording hfor⟩
    · simpa using hid
    · intro happroved
      obtain ⟨hheld, hsuspends⟩ := instinct.approved_of_record _ happroved
      obtain ⟨⟨row, hrow, hpositive⟩, hnot⟩ := h.approved hheld
      refine ⟨⟨row, by simp [hrow], hpositive⟩, ?_⟩
      simpa using fun hin => hnot (hleft hheld (Or.inr hsuspends) hin)
    · intro hglobal
      rw [Instinct.record_scope] at hglobal
      obtain ⟨first, hfirst, second, hsecond, hprojects⟩ := h.global hglobal
      exact ⟨first, by simp [hfirst], second, by simp [hsecond], hprojects⟩

theorem identityText_eq {projectId : String} {proposal : Proposal}
    (h : proposal.subject lower =
      subject lower projectId instinct.trigger instinct.action) :
    identityText lower proposal.projectId proposal.trigger proposal.action =
      identityText lower projectId instinct.trigger instinct.action := by
  simp only [Proposal.subject, subject, Prod.mk.injEq] at h
  simp [identityText, h]

theorem belongsTo_fresh {proposal : Proposal}
    (hmem : Recording.proposed proposal ∈ recordings) :
    BelongsTo lower recordings proposal.projectId
      (proposal.fresh lower sha256) := by
  refine ⟨fun _ => rfl, ⟨proposal, hmem, ?_⟩, List.forall_mem_nil _⟩
  simp [Proposal.fresh, Proposal.subject, subject]

theorem SoundInstinct.fresh {proposal : Proposal}
    (hmem : Recording.proposed proposal ∈ recordings) :
    SoundInstinct lower sha256 recordings corrected
      (proposal.fresh lower sha256) := by
  refine ⟨⟨proposal.projectId, belongsTo_fresh hmem, ?_⟩, ?_, ?_, ?_⟩
  · simp [Proposal.fresh, Proposal.instinctId, identityText]
  · intro happroved
    cases happroved
  · intro hglobal
    cases hglobal
  · constructor <;> norm_num [Proposal.fresh]

section Corrected

variable {world : LearningWorld} {instinctId other : String}
variable {evidence : InstinctEvidence}

theorem mem_of_correctedBy (hother : other ≠ instinctId)
    (h : other ∈ world.correctedBy instinctId evidence) :
    other ∈ world.corrected := by
  unfold LearningWorld.correctedBy at h
  split at h
  · simpa [hother] using h
  · exact h

/-- Evidence that does not suspend an approved instinct is no correction. -/
theorem not_corrected
    (hmasked : NotMasked world.instincts instinctId evidence)
    (hfind : InstinctStore.find world.instincts instinctId = some instinct)
    (happroved : instinct.lifecycle = .approved)
    (hquiet : instinct.repeats evidence = true ∨ evidence.suspends = false) :
    world.correctedBy instinctId evidence = world.corrected := by
  unfold LearningWorld.correctedBy
  by_cases hsuspends : evidence.suspends = true
  · have hrepeats : instinct.repeats evidence = true := by
      simpa [hsuspends] using hquiet
    have hholds := hmasked hsuspends instinct (Keyed.mem_of_lookup hfind)
      (Keyed.key_of_lookup hfind) happroved hrepeats
    simp [isNew, hfind, hholds]
  · simp [hsuspends]

end Corrected

section Steps

variable {world : LearningWorld}

def LearningWorld.Sound (lower : String → String) (sha256 : String → String)
    (world : LearningWorld) : Prop :=
  SoundStore lower sha256 world.recordings world.corrected world.instincts

section

variable (hsha : Function.Injective sha256) (h : world.Sound lower sha256)
  {proposal : Proposal}
include hsha h

theorem exists_project
    (htold : ∀ recording ∈ world.recordings,
      recording.ToldApart lower proposal) :
    ∃ instinct projectId,
      (InstinctStore.find world.instincts
        (proposal.instinctId lower sha256)).getD
          (proposal.fresh lower sha256) = instinct ∧
      instinct.id = proposal.instinctId lower sha256 ∧
      SoundInstinct lower sha256
        (world.recordings ++ [.proposed proposal]) world.corrected instinct ∧
      BelongsTo lower (world.recordings ++ [.proposed proposal]) projectId
        instinct ∧
      instinct.id = sha256
        (identityText lower projectId instinct.trigger instinct.action) ∧
      proposal.subject lower =
        subject lower projectId instinct.trigger instinct.action := by
  cases hfind : InstinctStore.find world.instincts
      (proposal.instinctId lower sha256) with
  | none =>
      refine ⟨_, proposal.projectId, rfl, rfl, .fresh (by simp), ?_, ?_, ?_⟩
      · exact (belongsTo_fresh (by simp))
      · simp [Proposal.fresh, Proposal.instinctId, identityText]
      · simp [Proposal.fresh, Proposal.subject, subject]
  | some instinct =>
      have hheld := h.sound instinct (Keyed.mem_of_lookup hfind)
      have hkey := Keyed.key_of_lookup hfind
      have hold : ∀ recording ∈ world.recordings,
          recording ∈ world.recordings ++ [.proposed proposal] := by
        intro recording hrecording
        exact List.mem_append_left _ hrecording
      obtain ⟨projectId, hbelongs, hid⟩ := hheld.own
      obtain ⟨earlier, hearlier, hsubject⟩ := hbelongs.proposed
      have htext : identityText lower projectId instinct.trigger
          instinct.action = identityText lower proposal.projectId
            proposal.trigger proposal.action :=
        hsha (hid.symm.trans hkey)
      have hsame : earlier.subject lower = proposal.subject lower :=
        htold _ hearlier ((identityText_eq hsubject).trans htext)
      exact ⟨instinct, projectId, rfl, hkey, hheld.mono hold id,
        hbelongs.mono hold, hid, hsame.symm.trans hsubject⟩

theorem LearningWorld.Sound.propose
    (hapart : ProposalApart lower sha256 world proposal) :
    (world.propose lower sha256 proposal).Sound lower sha256 := by
  obtain ⟨htold, hmasked⟩ := hapart
  unfold LearningWorld.propose
  cases hpropose : InstinctStore.propose lower sha256 world.instincts
      proposal with
  | error e => exact h
  | ok out =>
      obtain ⟨_, _, hsaved⟩ := ok_of_bind hpropose
      cases hsaved
      obtain ⟨instinct, projectId, hexisting, hkey, hsound, hbelongs, hid,
        hsubject⟩ := exists_project hsha h htold
      simp only [hexisting]
      have hreceived := hsound.receive (.proposed proposal)
        (world.correctedBy (proposal.instinctId lower sha256)
          proposal.evidence) hbelongs hid (by simp) hsubject ?_
      · refine h.replace (Keyed.put_replaces h.nodup) hreceived ?_ ?_
        · intro recording hrecording
          exact List.mem_append_left _ hrecording
        · intro other hother hin
          rw [Instinct.receive_id, hkey] at hother
          exact mem_of_correctedBy hother hin
      · intro happroved hquiet hin
        cases hfind : InstinctStore.find world.instincts
            (proposal.instinctId lower sha256) with
        | none =>
            rw [hfind, Option.getD_none] at hexisting
            subst hexisting
            cases happroved
        | some held =>
            rw [hfind, Option.getD_some] at hexisting
            subst hexisting
            rwa [not_corrected hmasked hfind happroved hquiet] at hin

end

theorem LearningWorld.Sound.addEvidence
    (h : world.Sound lower sha256) {instinctId : String}
    {evidence : InstinctEvidence}
    (hmasked : NotMasked world.instincts instinctId evidence) :
    (world.addEvidence instinctId evidence).Sound lower sha256 := by
  unfold LearningWorld.addEvidence InstinctStore.addEvidence
  cases hfind : InstinctStore.find world.instincts instinctId with
  | none => exact h
  | some instinct =>
      have hmem := Keyed.mem_of_lookup hfind
      have hkey := Keyed.key_of_lookup hfind
      have hold : ∀ recording ∈ world.recordings,
          recording ∈ world.recordings ++ [.added instinctId evidence] := by
        intro recording hrecording
        exact List.mem_append_left _ hrecording
      have hsound := (h.sound instinct hmem).mono hold id
      obtain ⟨projectId, hbelongs, hid⟩ := hsound.own
      have hreceived := hsound.receive (.added instinctId evidence)
        (world.correctedBy instinctId evidence) hbelongs hid (by simp)
        hkey.symm ?_
      · have hothers : ∀ other, other ≠ (instinct.receive evidence).id →
            other ∈ world.correctedBy instinctId evidence →
            other ∈ world.corrected := by
          intro other hother hin
          rw [Instinct.receive_id, hkey] at hother
          exact mem_of_correctedBy hother hin
        have hreplaces : Keyed.Replaces Instinct.id world.instincts
            (instinct.receive evidence)
            (if instinct.repeats evidence then world.instincts
              else Keyed.put Instinct.id (instinct.record evidence)
                world.instincts) := by
          rw [Instinct.receive]
          split
          · exact Keyed.replaces_self h.nodup hmem
          · exact Keyed.put_replaces h.nodup
        have hnext := h.replace hreplaces hreceived hold hothers
        by_cases hrepeats : instinct.repeats evidence = true
        · simpa [hrepeats, LearningWorld.Sound] using hnext
        · simpa [hrepeats, LearningWorld.Sound] using hnext
      · intro happroved hquiet hin
        rwa [not_corrected hmasked hfind happroved hquiet] at hin

theorem LearningWorld.Sound.approve
    (h : world.Sound lower sha256) (instinctId : String) :
    (world.approve instinctId).Sound lower sha256 := by
  unfold LearningWorld.approve InstinctStore.approve
  cases hfind : InstinctStore.find world.instincts instinctId with
  | none => exact h
  | some instinct =>
      have hkey := Keyed.key_of_lookup hfind
      have hheld := h.sound instinct (Keyed.mem_of_lookup hfind)
      by_cases hpositive : instinct.evidence.any (·.isPositive) = true
      · have happroved : SoundInstinct lower sha256 world.recordings
            (world.corrected.filter (· ≠ instinctId))
            { instinct with lifecycle := .approved } := by
          obtain ⟨projectId, hbelongs, hid⟩ := hheld.own
          refine ⟨⟨projectId, ⟨hbelongs.scope, hbelongs.proposed, ?_⟩, hid⟩,
            fun _ => ⟨?_, ?_⟩, hheld.global, hheld.confidence⟩
          · intro row hrow
            obtain ⟨held, hmem, hrow, hfor⟩ := hbelongs.recorded row hrow
            refine ⟨held, hmem, hrow, ?_⟩
            cases held <;> exact hfor
          · simpa using hpositive
          · simp [hkey]
        have hnext := h.replace (Keyed.put_replaces h.nodup) happroved
          (fun _ hmem => hmem)
          (fun _ _ hin => List.mem_of_mem_filter hin)
        simpa [hpositive, LearningWorld.Sound] using hnext
      · simpa [hpositive] using h

theorem twoProjects_of_length
    (h : 2 ≤ (InstinctStore.positiveProjects instinct).length) :
    TwoProjects instinct := by
  have hnodup : (InstinctStore.positiveProjects instinct).Nodup :=
    List.nodup_dedup _
  have hmem : ∀ projectId ∈ InstinctStore.positiveProjects instinct,
      ∃ row ∈ instinct.evidence, row.isPositive = true ∧
        row.projectId = projectId := by
    intro projectId hprojectId
    simpa [InstinctStore.positiveProjects, and_assoc] using hprojectId
  cases hprojects : InstinctStore.positiveProjects instinct with
  | nil => simp [hprojects] at h
  | cons first rest =>
      cases rest with
      | nil => simp [hprojects] at h
      | cons second rest =>
          rw [hprojects] at hnodup hmem
          obtain ⟨row, hrow, hpositive, hfirst⟩ := hmem first (by simp)
          obtain ⟨other, hother, hagain, hsecond⟩ := hmem second (by simp)
          refine ⟨row, hrow, other, hother, hpositive, hagain, ?_⟩
          rw [hfirst, hsecond]
          intro hsame
          simp [hsame] at hnodup

theorem LearningWorld.Sound.promoteGlobal
    (h : world.Sound lower sha256) (instinctId : String) :
    (world.promoteGlobal instinctId).Sound lower sha256 := by
  unfold LearningWorld.promoteGlobal InstinctStore.promoteGlobal
  cases hfind : InstinctStore.find world.instincts instinctId with
  | none => exact h
  | some instinct =>
      have hheld := h.sound instinct (Keyed.mem_of_lookup hfind)
      dsimp only
      split_ifs with hfew hlifecycle
      · exact h
      · exact h
      · have hpromoted : SoundInstinct lower sha256 world.recordings
            world.corrected
            { instinct with scope := .global, scopeId := "global" } := by
          obtain ⟨projectId, hbelongs, hid⟩ := hheld.own
          refine ⟨⟨projectId, ⟨?_, hbelongs.proposed, ?_⟩, hid⟩,
            hheld.approved, fun _ => ?_, hheld.confidence⟩
          · intro hscope
            cases hscope
          · intro row hrow
            obtain ⟨held, hmem, hrow, hfor⟩ := hbelongs.recorded row hrow
            refine ⟨held, hmem, hrow, ?_⟩
            cases held <;> exact hfor
          · exact twoProjects_of_length (Nat.le_of_not_lt hfew)
        exact h.replace (Keyed.put_replaces h.nodup) hpromoted
          (fun _ hmem => hmem) (fun _ _ hin => hin)

theorem LearningWorld.Sound.remove
    (h : world.Sound lower sha256) (instinctId : String) :
    (world.remove instinctId).Sound lower sha256 := by
  simp only [LearningWorld.remove, InstinctStore.remove]
  split
  · exact h
  · refine ⟨Keyed.nodup_drop h.nodup, fun instinct hmem => ?_⟩
    exact h.sound instinct (Keyed.mem_drop.mp hmem).1

theorem LearningWorld.Sound.step {str : Json → String}
    (hsha : Function.Injective sha256) {next : LearningWorld}
    {event : LearningEvent} (h : world.Sound lower sha256)
    (hapart : EvidenceApart lower sha256 str world event)
    (hstep : learningStep lower str sha256 world event = some next) :
    next.Sound lower sha256 := by
  cases event <;> cases hstep
  case propose => exact h.propose hsha hapart
  case addEvidence => exact h.addEvidence hapart
  case approve => exact h.approve _
  case promoteGlobal => exact h.promoteGlobal _
  case remove => exact h.remove _
  case ingestTaskEvent => exact h.propose hsha hapart
  case ingestEvidenceRecord => exact h.propose hsha hapart
  case ingestBusinessDecision => exact h.propose hsha hapart

theorem LearningWorld.Sound.gated (isWord : Char → Bool)
    (h : world.Sound lower sha256) : world.Gated lower isWord := by
  refine ⟨?_, ?_, ?_, ?_⟩
  · intro instinct hmem
    obtain ⟨projectId, hbelongs, _⟩ := (h.sound instinct hmem).own
    exact ⟨projectId, hbelongs⟩
  · intro task projectId limit instinct hselected
    obtain ⟨hmem, heligible⟩ := InstinctStore.mem_shadowSelect lower hselected
    simp only [InstinctStore.eligible, Bool.and_eq_true, Bool.or_eq_true,
      decide_eq_true_eq] at heligible
    obtain ⟨happroved, hscope⟩ := heligible
    exact ⟨hscope, (h.sound instinct hmem).approved happroved⟩
  · intro instinct hmem
    exact (h.sound instinct hmem).global
  · intro instinct hmem
    exact (h.sound instinct hmem).confidence

end Steps

end Kept

/-- As long as proposals have different joined texts and no suspending evidence
is masked, every instinct is gated. -/
theorem instincts_gated (lower : String → String) (str : Json → String)
    (sha256 : String → String) (hsha : Function.Injective sha256)
    (isWord : Char → Bool) (events : List LearningEvent)
    (world : LearningWorld)
    (h : Throughout (learningStep lower str sha256)
      (EvidenceApart lower sha256 str) {} events)
    (hrun : follow (learningStep lower str sha256) {} events = some world) :
    world.Gated lower isWord := by
  have hstart : ({} : LearningWorld).Sound lower sha256 :=
    ⟨List.nodup_nil, List.forall_mem_nil _⟩
  have hend := follow_invariant
    (fun _ _ _ hsound hapart hstep =>
      LearningWorld.Sound.step hsha hsound hapart hstep) hstart h hrun
  exact hend.gated isWord

namespace GatingWitness

def str : Json → String
  | .str text => text
  | _ => ""

def isWord (c : Char) : Bool := c.isAlphanum || c == '_'

def digest (text : String) : String := text

def row (kind sourceId projectId : String) : InstinctEvidence where
  kind := kind
  sourceId := sourceId
  projectId := projectId

def worldAfter (events : List LearningEvent) : LearningWorld :=
  (follow (learningStep Python.lower str digest) {} events).getD {}

theorem follow_worldAfter (events : List LearningEvent) :
    follow (learningStep Python.lower str digest) {} events =
      some (worldAfter events) := by
  have hstep : ∀ world event, ∃ next,
      learningStep Python.lower str digest world event = some next := by
    intro world event
    cases event <;> exact ⟨_, rfl⟩
  obtain ⟨next, hnext⟩ := exists_follow hstep {} events
  rw [worldAfter, hnext]
  rfl

def approved : List LearningEvent :=
  [.propose ⟨"flaky build", "run the tests", "a", row "test_passed" "t1" "a"⟩,
    .approve "a|flaky build|run the tests"]

def maskedRollback : List LearningEvent :=
  approved ++
    [.addEvidence "a|flaky build|run the tests" (row "rollback" "r1" "a"),
      .approve "a|flaky build|run the tests",
      .addEvidence "a|flaky build|run the tests" (row "rollback" "r1" "b")]

def joinedAlike : List LearningEvent :=
  [.propose ⟨"lint", "run it", "a|b", row "test_passed" "t1" "a|b"⟩,
    .propose ⟨"b|lint", "run it", "a", row "test_passed" "t2" "a"⟩]

/-- Bars in projects and triggers collide; a rollback of another project is
dropped. -/
theorem alike_and_masked :
    ¬(worldAfter joinedAlike).Gated Python.lower isWord ∧
      ¬(worldAfter maskedRollback).Gated Python.lower isWord := by
  constructor
  · intro h
    have hheld : ∃ instinct ∈ (worldAfter joinedAlike).instincts,
        instinct.scope = .project ∧ instinct.scopeId = "a|b" ∧
          ∃ row ∈ instinct.evidence,
            ∀ recording ∈ (worldAfter joinedAlike).recordings,
              recording.evidence = row →
              ¬recording.IsFor Python.lower "a|b" instinct := by
      decide +kernel
    obtain ⟨instinct, hmem, hscope, hproject, row, hrow, hnone⟩ := hheld
    obtain ⟨projectId, hbelongs⟩ := h.own instinct hmem
    have hown := hbelongs.scope hscope
    rw [hproject] at hown
    subst hown
    obtain ⟨recording, hrecording, hbrought, hfor⟩ :=
      hbelongs.recorded row hrow
    exact hnone recording hrecording hbrought hfor
  · intro h
    have hselected : ∃ instinct ∈ InstinctStore.shadowSelect Python.lower isWord
        (worldAfter maskedRollback).instincts "flaky" "a" 5,
        instinct.id ∈ (worldAfter maskedRollback).corrected := by
      decide +kernel
    obtain ⟨instinct, hmem, hcorrected⟩ := hselected
    exact (h.selected "flaky" "a" 5 instinct hmem).2.2 hcorrected

/-- Evidence of two projects and a promotion. -/
theorem promoted_gated :
    (worldAfter (approved ++
      [.addEvidence "a|flaky build|run the tests" (row "test_passed" "t1" "b"),
        .addEvidence "a|flaky build|run the tests"
          (row "user_accepted" "t2" "b"),
        .promoteGlobal "a|flaky build|run the tests",
        .ingestTaskEvent ⟨"t3", "failed", 0, 1⟩ "flaky build"
          "Run the tests" "a"])).Gated Python.lower isWord :=
  instincts_gated Python.lower str digest (fun _ _ h => h) isWord _ _
    (by decide +kernel) (follow_worldAfter _)

end GatingWitness

end Voly
