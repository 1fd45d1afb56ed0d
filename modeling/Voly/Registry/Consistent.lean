/-
Runs of calls of the skill registry: when searches and the candidate list
agree with the stored skills.
-/
import Voly.Registry.Skills
import Voly.Interaction.Steps

namespace Voly.Registry

open Python Interaction

inductive RegistryCall where
  | register (skill : Skill)
  | loadFromDicts (payloads : List SkillPayload)
  | approveCandidate (skillId : String)
  | rejectCandidate (skillId : String)
  | remove (skillId : String)

def registryStep (lower : String → String) (registry : SkillRegistry) :
    RegistryCall → Option SkillRegistry
  | .register skill => some (registry.register skill)
  | .loadFromDicts payloads => some (registry.loadFromDicts lower payloads)
  | .approveCandidate skillId => some (registry.approveCandidate skillId).2
  | .rejectCandidate skillId => some (registry.rejectCandidate skillId).2
  | .remove skillId =>
      some { registry with index := registry.index.remove skillId }

/-- The given filters hold of the skill, `has` telling what it is listed
under. -/
structure Passes (lower : String → String) (has : Facet → String → Prop)
    (filters : SkillFilters) (skill : Skill) : Prop where
  query : filters.query ≠ "" →
    SkillIndex.queried lower filters.query skill = true
  tags : filters.tags ≠ [] → ∃ tag ∈ filters.tags, has .tag tag
  capability : filters.capability ≠ "" → has .capability filters.capability
  language : filters.language ≠ "" → has .language filters.language
  framework : filters.framework ≠ "" → has .framework filters.framework
  agent : filters.agent ≠ "" → has .agent filters.agent
  source : ∀ source, filters.source = some source → skill.source = source

/-- The skill satisfies every given filter by its own fields. -/
def Satisfies (lower : String → String) (filters : SkillFilters)
    (skill : Skill) : Prop :=
  Passes lower (fun facet key => key ∈ skill.facet facet) filters skill

/-- Searches return the stored skills that fit; the candidates are the stored
ones. -/
structure Consistent (lower : String → String) (registry : SkillRegistry) :
    Prop where
  search : ∀ filters, (registry.index.search lower filters).Nodup ∧
    ∀ skill, skill ∈ registry.index.search lower filters ↔
      skill ∈ registry.index.skills ∧ Satisfies lower filters skill
  candidates : registry.candidates.Perm
    (registry.index.skills.filter fun skill => skill.status = .candidate)

/-- A search can ask for the key: only tags may be empty texts. -/
def Shown (facet : Facet) (key : String) : Prop := facet = .tag ∨ key ≠ ""

/-- No loaded skill has the id of a stored candidate. -/
def LoadsApart (registry : SkillRegistry) : List Skill → Prop
  | [] => True
  | skill :: rest =>
      registry.pending skill.id = none ∧
        LoadsApart (registry.replace skill) rest

/-- A skill takes no listed id; no candidate is overwritten or removed. -/
def KeepsApart (lower : String → String) (registry : SkillRegistry) :
    RegistryCall → Prop
  | .register skill =>
      registry.pending skill.id = none ∧
        ∀ old ∈ registry.index.get skill.id, ∀ facet,
          ∀ key ∈ old.facet facet, Shown facet key → key ∈ skill.facet facet
  | .loadFromDicts payloads =>
      LoadsApart registry (payloads.filterMap (skillFromDict lower))
  | .remove skillId => registry.pending skillId = none
  | _ => True

/-- The ids are listed where the stored skills say. -/
structure Exact (registry : SkillRegistry) : Prop where
  nodup : (registry.index.skills.map Skill.id).Nodup
  listed : ∀ facet key skillId, Shown facet key →
    (skillId ∈ Inverted.ids (registry.index.listed facet) key ↔
      ∃ skill ∈ registry.index.skills, skill.id = skillId ∧
        key ∈ skill.facet facet)
  candidates : registry.candidates.Perm
    (registry.index.skills.filter fun skill => skill.status = .candidate)

namespace SkillIndex

variable {lower : String → String} {index : SkillIndex}
variable {filters : SkillFilters} {skill : Skill}

theorem get_of_mem (h : (index.skills.map Skill.id).Nodup)
    (hskill : skill ∈ index.skills) : index.get skill.id = some skill :=
  Keyed.lookup_key h hskill

theorem mem_of_get {skillId : String} (h : index.get skillId = some skill) :
    skill ∈ index.skills ∧ skill.id = skillId :=
  ⟨Keyed.mem_of_lookup h, Keyed.key_of_lookup h⟩

theorem mem_narrow {given : Bool} {ids candidates : List String}
    {skillId : String} : skillId ∈ narrow given ids candidates ↔
      skillId ∈ candidates ∧ (given = true → skillId ∈ ids) := by
  cases given <;> simp [narrow]

theorem mem_narrowBy {facet : Facet} {key : String}
    {candidates : List String} {skillId : String} :
    skillId ∈ index.narrowBy facet key candidates ↔
      skillId ∈ candidates ∧
        (key ≠ "" → skillId ∈ Inverted.ids (index.listed facet) key) := by
  simp [narrowBy, mem_narrow]

theorem narrow_sublist (given : Bool) (ids candidates : List String) :
    (narrow given ids candidates).Sublist candidates := by
  unfold narrow
  split
  · exact List.filter_sublist
  · exact List.Sublist.refl _

theorem mem_foundIds {skillId : String} :
    skillId ∈ index.foundIds lower filters ↔
      skillId ∈ index.skills.map Skill.id ∧
      (filters.query ≠ "" → skillId ∈ (index.skills.filter
        (queried lower filters.query)).map Skill.id) ∧
      (filters.tags ≠ [] → ∃ tag ∈ filters.tags,
        skillId ∈ Inverted.ids (index.listed .tag) tag) ∧
      (filters.capability ≠ "" → skillId ∈
        Inverted.ids (index.listed .capability) filters.capability) ∧
      (filters.language ≠ "" → skillId ∈
        Inverted.ids (index.listed .language) filters.language) ∧
      (filters.framework ≠ "" → skillId ∈
        Inverted.ids (index.listed .framework) filters.framework) ∧
      (filters.agent ≠ "" → skillId ∈
        Inverted.ids (index.listed .agent) filters.agent) ∧
      ∀ source, filters.source = some source →
        ∃ skill, index.get skillId = some skill ∧ skill.source = source := by
  unfold foundIds
  cases hsource : filters.source with
  | none =>
      simp [mem_narrowBy, mem_narrow, and_assoc]
  | some source =>
      simp [mem_narrowBy, mem_narrow, and_assoc, Option.any_eq_true]

/-- A search finds the stored skills that the filters let pass by listed ids. -/
theorem mem_search (h : (index.skills.map Skill.id).Nodup) :
    skill ∈ index.search lower filters ↔ skill ∈ index.skills ∧
      Passes lower (fun facet key =>
        skill.id ∈ Inverted.ids (index.listed facet) key) filters skill := by
  rw [search, List.mem_filterMap]
  constructor
  · rintro ⟨skillId, hfound, hget⟩
    obtain ⟨hskill, rfl⟩ := mem_of_get hget
    obtain ⟨_, hquery, htags, hcapability, hlanguage, hframework, hagent,
      hsource⟩ := mem_foundIds.mp hfound
    refine ⟨hskill, fun hgiven => ?_, htags, hcapability, hlanguage,
      hframework, hagent, fun source hgiven => ?_⟩
    · obtain ⟨other, hother, hsame⟩ := List.mem_map.mp (hquery hgiven)
      obtain ⟨hother, hqueried⟩ := List.mem_filter.mp hother
      rwa [List.inj_on_of_nodup_map h hskill hother hsame.symm]
    · obtain ⟨other, hother, hsame⟩ := hsource source hgiven
      rw [hget] at hother
      cases hother
      exact hsame
  · rintro ⟨hskill, hpasses⟩
    have hget := get_of_mem h hskill
    refine ⟨skill.id, mem_foundIds.mpr ⟨List.mem_map_of_mem hskill,
      fun hgiven => ?_, hpasses.tags, hpasses.capability, hpasses.language,
      hpasses.framework, hpasses.agent, fun source hgiven =>
        ⟨skill, hget, hpasses.source source hgiven⟩⟩, hget⟩
    exact List.mem_map_of_mem
      (List.mem_filter.mpr ⟨hskill, hpasses.query hgiven⟩)

theorem foundIds_sublist :
    (index.foundIds lower filters).Sublist (index.skills.map Skill.id) := by
  have hnarrowed : ∀ {facet key ids},
      (index.narrowBy facet key ids).Sublist ids :=
    narrow_sublist _ _ _
  unfold foundIds
  cases filters.source with
  | none =>
      exact hnarrowed.trans (hnarrowed.trans (hnarrowed.trans
        (hnarrowed.trans ((narrow_sublist _ _ _).trans
          (narrow_sublist _ _ _)))))
  | some source =>
      exact List.filter_sublist.trans (hnarrowed.trans (hnarrowed.trans
        (hnarrowed.trans (hnarrowed.trans ((narrow_sublist _ _ _).trans
          (narrow_sublist _ _ _))))))

theorem nodup_search (h : (index.skills.map Skill.id).Nodup) :
    (index.search lower filters).Nodup := by
  refine List.Nodup.filterMap ?_ (h.sublist foundIds_sublist)
  intro first second skill hfirst hsecond
  exact (mem_of_get hfirst).2.symm.trans (mem_of_get hsecond).2

end SkillIndex

section Kept

variable {lower : String → String} {registry : SkillRegistry}
variable {skill : Skill} {skillId : String}

theorem Exact.consistent (h : Exact registry) :
    Consistent lower registry := by
  refine ⟨fun filters => ⟨SkillIndex.nodup_search h.nodup, fun skill => ?_⟩,
    h.candidates⟩
  rw [SkillIndex.mem_search h.nodup]
  refine and_congr_right fun hskill => ?_
  have hlisted : ∀ facet key, Shown facet key →
      (skill.id ∈ Inverted.ids (registry.index.listed facet) key ↔
        key ∈ skill.facet facet) := by
    intro facet key hshown
    rw [h.listed facet key skill.id hshown]
    constructor
    · rintro ⟨other, hother, hid, hkey⟩
      rwa [List.inj_on_of_nodup_map h.nodup hskill hother hid.symm]
    · exact fun hkey => ⟨skill, hskill, rfl, hkey⟩
  have htag := fun tag => hlisted .tag tag (Or.inl rfl)
  have hother := fun facet key (hkey : key ≠ "") =>
    hlisted facet key (Or.inr hkey)
  constructor
  · intro hp
    exact ⟨hp.query, fun hg => (hp.tags hg).imp fun tag ht =>
        ⟨ht.1, (htag tag).mp ht.2⟩,
      fun hg => (hother _ _ hg).mp (hp.capability hg),
      fun hg => (hother _ _ hg).mp (hp.language hg),
      fun hg => (hother _ _ hg).mp (hp.framework hg),
      fun hg => (hother _ _ hg).mp (hp.agent hg), hp.source⟩
  · intro hp
    exact ⟨hp.query, fun hg => (hp.tags hg).imp fun tag ht =>
        ⟨ht.1, (htag tag).mpr ht.2⟩,
      fun hg => (hother _ _ hg).mpr (hp.capability hg),
      fun hg => (hother _ _ hg).mpr (hp.language hg),
      fun hg => (hother _ _ hg).mpr (hp.framework hg),
      fun hg => (hother _ _ hg).mpr (hp.agent hg), hp.source⟩

theorem Exact.start : Exact {} where
  nodup := List.nodup_nil
  listed facet key skillId _ := by simp [Inverted.ids, Dict.get?]
  candidates := List.Perm.refl _

theorem pending_eq_some : registry.pending skillId = some skill ↔
    registry.index.get skillId = some skill ∧ skill.status = .candidate := by
  simp [SkillRegistry.pending, Option.filter_eq_some_iff]

theorem status_of_get (h : registry.pending skillId = none)
    (hget : registry.index.get skillId = some skill) :
    skill.status ≠ .candidate := by
  intro hstatus
  rw [pending_eq_some.mpr ⟨hget, hstatus⟩] at h
  cases h

theorem skills_remove : (registry.index.remove skillId).skills =
    Keyed.drop Skill.id skillId registry.index.skills := by
  unfold SkillIndex.remove
  split
  · next hget =>
      symm
      refine List.filter_eq_self.mpr fun skill hskill => ?_
      have hnot := Keyed.lookup_eq_none_iff.mp hget
      have hne : skill.id ≠ skillId := fun hid =>
        hnot (hid ▸ List.mem_map_of_mem hskill)
      simpa using hne
  · rfl

theorem Exact.listed_remove (h : Exact registry) {facet : Facet}
    {key other : String} (hshown : Shown facet key) :
    other ∈ Inverted.ids ((registry.index.remove skillId).listed facet) key ↔
      ∃ skill ∈ Keyed.drop Skill.id skillId registry.index.skills,
        skill.id = other ∧ key ∈ skill.facet facet := by
  rw [← skills_remove]
  cases hget : registry.index.get skillId with
  | none =>
      have hsame : registry.index.remove skillId = registry.index := by
        simp [SkillIndex.remove, hget]
      rw [hsame]
      exact h.listed facet key other hshown
  | some skill =>
      have hremoved : (registry.index.remove skillId).listed facet =
          Inverted.discardAll (registry.index.listed facet) skillId
            (skill.facet facet) := by
        simp [SkillIndex.remove, hget]
      obtain ⟨hskill, hid⟩ := SkillIndex.mem_of_get hget
      rw [hremoved, Inverted.mem_discardAll, h.listed facet key other hshown,
        skills_remove]
      constructor
      · rintro ⟨⟨held, hheld, hother, hkey⟩, hkept⟩
        refine ⟨held, Keyed.mem_drop.mpr ⟨hheld, fun hsame => ?_⟩, hother,
          hkey⟩
        apply hkept
        rw [List.inj_on_of_nodup_map h.nodup hheld hskill
          (hsame.trans hid.symm)] at hother hkey
        exact ⟨hother.symm.trans hid, hkey⟩
      · rintro ⟨held, hheld, hother, hkey⟩
        obtain ⟨hheld, hne⟩ := Keyed.mem_drop.mp hheld
        exact ⟨⟨held, hheld, hother, hkey⟩,
          fun hsame => hne (hother.trans hsame.1)⟩

theorem candidates_drop (skills : List Skill) :
    (Keyed.drop Skill.id skillId skills).filter
        (fun skill => skill.status = .candidate) =
      (skills.filter fun skill => skill.status = .candidate).filter
        fun skill => skill.id ≠ skillId := by
  rw [Keyed.drop, List.filter_filter, List.filter_filter]
  simp only [Bool.and_comm]

section

variable (h : Exact registry)
include h

theorem Exact.remove (hpending : registry.pending skillId = none) :
    Exact { registry with index := registry.index.remove skillId } := by
  refine ⟨?_, fun facet key other hshown => ?_, ?_⟩
  · simp only [skills_remove]
    exact Keyed.nodup_drop h.nodup
  · simp only [skills_remove]
    exact h.listed_remove hshown
  · simp only [skills_remove, candidates_drop]
    have hkept : (registry.index.skills.filter fun skill =>
        skill.status = .candidate).filter (fun skill => skill.id ≠ skillId) =
          registry.index.skills.filter fun skill =>
            skill.status = .candidate := by
      refine List.filter_eq_self.mpr fun skill hskill => ?_
      obtain ⟨hskill, hstatus⟩ := List.mem_filter.mp hskill
      have hne : skill.id ≠ skillId := by
        rintro rfl
        exact status_of_get hpending (SkillIndex.get_of_mem h.nodup hskill)
          (of_decide_eq_true hstatus)
      simpa using hne
    rw [hkept]
    exact h.candidates

theorem Exact.withoutCandidate :
    (registry.withoutCandidate skillId).Perm
      ((Keyed.drop Skill.id skillId registry.index.skills).filter
        fun skill => skill.status = .candidate) := by
  rw [candidates_drop]
  exact h.candidates.filter _

theorem Exact.reject :
    Exact (registry.rejectCandidate skillId).2 := by
  unfold SkillRegistry.rejectCandidate
  split
  · exact h
  · refine ⟨?_, fun facet key other hshown => ?_, ?_⟩
    · simp only [skills_remove]
      exact Keyed.nodup_drop h.nodup
    · simp only [skills_remove]
      exact h.listed_remove hshown
    · simp only [skills_remove]
      exact h.withoutCandidate

theorem Exact.approve :
    Exact (registry.approveCandidate skillId).2 := by
  unfold SkillRegistry.approveCandidate
  cases hpending : registry.pending skillId with
  | none => exact h
  | some skill =>
      obtain ⟨hget, _⟩ := pending_eq_some.mp hpending
      obtain ⟨hskill, rfl⟩ := SkillIndex.mem_of_get hget
      have hmem : ∀ held, held ∈ Keyed.put Skill.id
          { skill with status := .active } registry.index.skills ↔
            held = { skill with status := .active } ∨
              held ∈ registry.index.skills ∧ held.id ≠ skill.id :=
        fun held => Keyed.mem_put h.nodup
      refine ⟨Keyed.nodup_put h.nodup, fun facet key other hshown => ?_, ?_⟩
      · rw [h.listed facet key other hshown]
        constructor
        · rintro ⟨held, hheld, hother, hkey⟩
          by_cases hsame : held.id = skill.id
          · rw [List.inj_on_of_nodup_map h.nodup hheld hskill hsame]
              at hother hkey
            refine ⟨_, (hmem _).mpr (Or.inl rfl), hother, ?_⟩
            cases facet <;> exact hkey
          · exact ⟨held, (hmem held).mpr (Or.inr ⟨hheld, hsame⟩), hother,
              hkey⟩
        · rintro ⟨held, hheld, hother, hkey⟩
          rcases (hmem held).mp hheld with rfl | ⟨hheld, _⟩
          · refine ⟨skill, hskill, hother, ?_⟩
            cases facet <;> exact hkey
          · exact ⟨held, hheld, hother, hkey⟩
      · rcases Keyed.put_cases Skill.id { skill with status := .active }
          registry.index.skills with ⟨hnew, _⟩ | ⟨front, old, rest, hsplit,
            hold, hput⟩
        · exact absurd (List.mem_map_of_mem hskill) hnew
        · have hdrop : Keyed.drop Skill.id skill.id registry.index.skills =
              front ++ rest := by
            have hnodup := h.nodup
            rw [hsplit] at hnodup ⊢
            have hid : old.id = skill.id := hold
            rw [← hid]
            exact Keyed.drop_split hnodup
          have hkept : (registry.withoutCandidate skill.id).Perm _ :=
            h.withoutCandidate
          rw [hdrop] at hkept
          simpa [hput] using hkept

theorem Exact.register (hpending : registry.pending skill.id = none)
    (hover : ∀ old ∈ registry.index.get skill.id, ∀ facet,
      ∀ key ∈ old.facet facet, Shown facet key → key ∈ skill.facet facet) :
    Exact (registry.register skill) := by
  have hmem : ∀ held, held ∈ Keyed.put Skill.id skill registry.index.skills ↔
      held = skill ∨ held ∈ registry.index.skills ∧ held.id ≠ skill.id :=
    fun held => Keyed.mem_put h.nodup
  refine ⟨Keyed.nodup_put h.nodup, fun facet key other hshown => ?_, ?_⟩
  · simp only [SkillRegistry.register, SkillIndex.add,
      Inverted.mem_insertAll, h.listed facet key other hshown]
    constructor
    · rintro (⟨held, hheld, hother, hkey⟩ | ⟨hother, hkey⟩)
      · by_cases hsame : held.id = skill.id
        · have hget := SkillIndex.get_of_mem h.nodup hheld
          rw [hsame] at hget
          exact ⟨skill, (hmem skill).mpr (Or.inl rfl),
            hsame.symm.trans hother, hover held hget facet key hkey hshown⟩
        · exact ⟨held, (hmem held).mpr (Or.inr ⟨hheld, hsame⟩), hother, hkey⟩
      · exact ⟨skill, (hmem skill).mpr (Or.inl rfl), hother.symm, hkey⟩
    · rintro ⟨held, hheld, hother, hkey⟩
      rcases (hmem held).mp hheld with rfl | ⟨hheld, _⟩
      · exact Or.inr ⟨hother.symm, hkey⟩
      · exact Or.inl ⟨held, hheld, hother, hkey⟩
  · have hcandidates := h.candidates
    simp only [SkillRegistry.register, SkillIndex.add]
    rcases Keyed.put_cases Skill.id skill registry.index.skills with
      ⟨_, hput⟩ | ⟨front, old, rest, hsplit, hold, hput⟩
    · rw [hput, List.filter_append]
      by_cases hstatus : skill.status = .candidate
      · simpa [hstatus] using hcandidates.append_right [skill]
      · simpa [hstatus] using hcandidates
    · have hmemOld : old ∈ registry.index.skills := by
        rw [hsplit]
        exact List.mem_append_right _ List.mem_cons_self
      have hget := SkillIndex.get_of_mem h.nodup hmemOld
      rw [show old.id = skill.id from hold] at hget
      have hnot := status_of_get hpending hget
      rw [hsplit, List.filter_append, List.filter_cons_of_neg (by simpa)]
        at hcandidates
      rw [hput, List.filter_append]
      by_cases hstatus : skill.status = .candidate
      · rw [if_pos hstatus, List.filter_cons_of_pos (by simpa)]
        exact (hcandidates.append_right [skill]).trans
          ((List.perm_append_singleton _ _).trans List.perm_middle.symm)
      · rw [if_neg hstatus, List.filter_cons_of_neg (by simpa)]
        exact hcandidates

end

theorem get_remove : (registry.index.remove skillId).get skillId = none := by
  rw [SkillIndex.get, skills_remove, Keyed.lookup_drop, if_pos rfl]

theorem Exact.replace (h : Exact registry)
    (hpending : registry.pending skill.id = none) :
    Exact (registry.replace skill) := by
  apply (h.remove hpending).register
  · simp [SkillRegistry.pending, get_remove]
  · intro old hold
    simp [get_remove] at hold

/-- The candidate list holds the id more often than the skills do. -/
def Overfull (registry : SkillRegistry) (skillId : String) : Prop :=
  (registry.pending skillId).toList.length <
    (registry.candidates.filter fun skill => skill.id = skillId).length

theorem not_overfull (h : (registry.index.skills.map Skill.id).Nodup)
    (hconsistent : Consistent lower registry) : ¬Overfull registry skillId := by
  have hcount := (hconsistent.candidates.filter fun skill =>
    skill.id = skillId).length_eq
  have hpending : ((registry.index.skills.filter fun skill =>
      skill.status = .candidate).filter fun skill => skill.id = skillId) =
        (registry.pending skillId).toList := by
    rw [List.filter_comm, Keyed.filter_key h, SkillRegistry.pending,
      SkillIndex.get]
    cases hget : Keyed.lookup Skill.id skillId registry.index.skills with
    | none => rfl
    | some skill =>
        by_cases hstatus : skill.status = .candidate <;>
          simp [hstatus, Option.filter]
  rw [hpending] at hcount
  unfold Overfull
  omega

theorem Exact.listed_pending (h : Exact registry)
    (hpending : registry.pending skillId ≠ none) :
    (registry.candidates.filter fun skill => skill.id = skillId) ≠ [] := by
  obtain ⟨skill, hskill⟩ := Option.ne_none_iff_exists'.mp hpending
  obtain ⟨hget, hstatus⟩ := pending_eq_some.mp hskill
  obtain ⟨hmem, hid⟩ := SkillIndex.mem_of_get hget
  have hlisted : skill ∈ registry.candidates := h.candidates.mem_iff.mpr
    (List.mem_filter.mpr ⟨hmem, decide_eq_true hstatus⟩)
  exact List.ne_nil_of_mem
    (List.mem_filter.mpr ⟨hlisted, decide_eq_true hid⟩)

theorem pending_register : (registry.register skill).pending skillId =
    if skill.id = skillId then
      if skill.status = .candidate then some skill else none
    else registry.pending skillId := by
  simp only [SkillRegistry.pending, SkillIndex.get, SkillRegistry.register,
    SkillIndex.add, Keyed.lookup_put]
  split
  · simp [Option.filter]
  · rfl

section

variable (h : (registry.candidates.filter fun held => held.id = skillId) ≠ [])
  (hid : skill.id = skillId)
include h hid

theorem overfull_register :
    Overfull (registry.register skill) skillId := by
  have hlisted := List.length_pos_of_ne_nil h
  subst hid
  rw [Overfull, pending_register, if_pos rfl, SkillRegistry.register]
  by_cases hstatus : skill.status = .candidate
  · simpa [hstatus] using hlisted
  · simpa [hstatus] using hlisted

theorem overfull_replace_self :
    Overfull (registry.replace skill) skillId :=
  overfull_register h hid

end

theorem Overfull.replace (h : Overfull registry skillId) :
    Overfull (registry.replace skill) skillId := by
  by_cases hid : skill.id = skillId
  · apply overfull_replace_self _ hid
    exact List.ne_nil_of_length_pos (Nat.lt_of_le_of_lt (Nat.zero_le _) h)
  · have hpending : (registry.replace skill).pending skillId =
        registry.pending skillId := by
      rw [SkillRegistry.replace, pending_register, if_neg hid]
      simp only [SkillRegistry.pending, SkillIndex.get, skills_remove,
        Keyed.lookup_drop, Ne.symm hid, if_false]
    rw [Overfull, hpending]
    refine Nat.lt_of_lt_of_le h ?_
    simp only [SkillRegistry.replace, SkillRegistry.register]
    split
    · simp
    · exact Nat.le_refl _

theorem nodup_replace (h : (registry.index.skills.map Skill.id).Nodup) :
    ((registry.replace skill).index.skills.map Skill.id).Nodup := by
  apply Keyed.nodup_put
  simp only [skills_remove]
  exact Keyed.nodup_drop h

theorem Overfull.loads (h : Overfull registry skillId)
    (hnodup : (registry.index.skills.map Skill.id).Nodup)
    (skills : List Skill) :
    ¬Consistent lower (skills.foldl SkillRegistry.replace registry) := by
  induction skills generalizing registry with
  | nil => exact fun hconsistent => not_overfull hnodup hconsistent h
  | cons skill rest ih => exact ih h.replace (nodup_replace hnodup)

/-- The search that asks for one key. -/
def filterBy (facet : Facet) (key : String) : SkillFilters :=
  match facet with
  | .tag => { tags := [key] }
  | .capability => { capability := key }
  | .language => { language := key }
  | .framework => { framework := key }
  | .agent => { agent := key }

theorem passes_filterBy {has : Facet → String → Prop} {facet : Facet}
    {key : String} (hshown : Shown facet key) :
    Passes lower has (filterBy facet key) skill ↔ has facet key := by
  constructor
  · intro h
    cases facet with
    | tag =>
        obtain ⟨tag, htag, hhas⟩ := h.tags (List.cons_ne_nil key [])
        rwa [List.mem_singleton.mp htag] at hhas
    | capability => exact h.capability (hshown.resolve_left (by decide))
    | language => exact h.language (hshown.resolve_left (by decide))
    | framework => exact h.framework (hshown.resolve_left (by decide))
    | agent => exact h.agent (hshown.resolve_left (by decide))
  · intro h
    cases facet <;> constructor <;> simp [filterBy, h]

theorem Exact.register_iff (h : Exact registry) :
    Consistent lower (registry.register skill) ↔
      KeepsApart lower registry (.register skill) := by
  have hnodup : ((registry.register skill).index.skills.map Skill.id).Nodup :=
    Keyed.nodup_put h.nodup
  constructor
  · intro hconsistent
    constructor
    · by_contra hpending
      exact not_overfull hnodup hconsistent
        (overfull_register (h.listed_pending hpending) rfl)
    · -- the search for a key of the old skill finds the new one
      intro old hold facet key hkey hshown
      obtain ⟨hmem, hid⟩ := SkillIndex.mem_of_get hold
      have hlisted : skill.id ∈ Inverted.ids
          ((registry.register skill).index.listed facet) key := by
        have hold := (h.listed facet key skill.id hshown).mpr
          ⟨old, hmem, hid, hkey⟩
        exact Inverted.mem_insertAll.mpr (Or.inl hold)
      have hstored : skill ∈ (registry.register skill).index.skills :=
        (Keyed.mem_put h.nodup).mpr (Or.inl rfl)
      have hpasses : Passes lower (fun facet key => skill.id ∈ Inverted.ids
          ((registry.register skill).index.listed facet) key)
          (filterBy facet key) skill :=
        (passes_filterBy hshown).mpr hlisted
      have hfound := (SkillIndex.mem_search hnodup).mpr ⟨hstored, hpasses⟩
      have hsatisfies := ((hconsistent.search _).2 skill).mp hfound
      exact (passes_filterBy hshown).mp hsatisfies.2
  · rintro ⟨hpending, hover⟩
    exact (h.register hpending hover).consistent

theorem Exact.remove_iff (h : Exact registry) :
    Consistent lower
        { registry with index := registry.index.remove skillId } ↔
      registry.pending skillId = none := by
  constructor
  · intro hconsistent
    by_contra hpending
    have hnodup : ((registry.index.remove skillId).skills.map
        Skill.id).Nodup := by
      rw [skills_remove]
      exact Keyed.nodup_drop h.nodup
    have hlisted := List.length_pos_of_ne_nil (h.listed_pending hpending)
    have hover : Overfull
        { registry with index := registry.index.remove skillId } skillId := by
      simpa [Overfull, SkillRegistry.pending, get_remove] using hlisted
    exact not_overfull hnodup hconsistent hover
  · exact fun hpending => (h.remove hpending).consistent

theorem Exact.loads (h : Exact registry) {skills : List Skill}
    (hapart : LoadsApart registry skills) :
    Exact (skills.foldl SkillRegistry.replace registry) := by
  induction skills generalizing registry with
  | nil => exact h
  | cons skill rest ih => exact ih (h.replace hapart.1) hapart.2

theorem Exact.loads_iff (h : Exact registry) (skills : List Skill) :
    Consistent lower (skills.foldl SkillRegistry.replace registry) ↔
      LoadsApart registry skills := by
  refine ⟨fun hconsistent => ?_, fun hapart => (h.loads hapart).consistent⟩
  induction skills generalizing registry with
  | nil => trivial
  | cons skill rest ih =>
      have hpending : registry.pending skill.id = none := by
        by_contra hpending
        have hover := overfull_replace_self (h.listed_pending hpending)
          (rfl : skill.id = skill.id)
        exact hover.loads (nodup_replace h.nodup) rest hconsistent
      exact ⟨hpending, ih (h.replace hpending) hconsistent⟩

end Kept

def LeavesConsistent (lower : String → String) (registry : SkillRegistry)
    (call : RegistryCall) : Prop :=
  ∀ next, registryStep lower registry call = some next →
    Consistent lower next

section Calls

variable {lower : String → String} {registry next : SkillRegistry}

theorem Exact.leavesConsistent_iff (h : Exact registry)
    (call : RegistryCall) :
    LeavesConsistent lower registry call ↔
      KeepsApart lower registry call := by
  have hleaves : ∀ {after}, registryStep lower registry call = some after →
      (LeavesConsistent lower registry call ↔ Consistent lower after) := by
    intro after hafter
    simp [LeavesConsistent, hafter]
  cases call with
  | register skill => exact (hleaves rfl).trans h.register_iff
  | loadFromDicts payloads => exact (hleaves rfl).trans (h.loads_iff _)
  | approveCandidate skillId =>
      exact (hleaves rfl).trans (iff_of_true h.approve.consistent trivial)
  | rejectCandidate skillId =>
      exact (hleaves rfl).trans (iff_of_true h.reject.consistent trivial)
  | remove skillId => exact (hleaves rfl).trans h.remove_iff

theorem Exact.step (h : Exact registry) {call : RegistryCall}
    (hapart : KeepsApart lower registry call)
    (hstep : registryStep lower registry call = some next) : Exact next := by
  cases call <;> cases hstep
  case register => exact h.register hapart.1 hapart.2
  case loadFromDicts => exact h.loads hapart
  case approveCandidate => exact h.approve
  case rejectCandidate => exact h.reject
  case remove => exact h.remove hapart

end Calls

/-- Searches and candidates agree with the skills iff every call keeps the ids
apart. -/
theorem registry_consistent_iff (lower : String → String)
    (calls : List RegistryCall) :
    Throughout (registryStep lower) (LeavesConsistent lower) {} calls ↔
      Throughout (registryStep lower) (KeepsApart lower) {} calls :=
  throughout_iff Exact (fun _ call h => h.leavesConsistent_iff call)
    (fun _ call _ h hleaves =>
      h.step ((h.leavesConsistent_iff call).mp hleaves))
    Exact.start calls

namespace ConsistentWitness

def registryAfter (calls : List RegistryCall) : SkillRegistry :=
  (follow (registryStep id) {} calls).getD {}

def retagged : List RegistryCall :=
  [.register { id := "docs", tags := ["old"] },
    .register { id := "docs", tags := ["new"] }]

def proposedTwice : List RegistryCall :=
  [.register { id := "docs", status := .candidate },
    .register { id := "docs", status := .candidate }]

def proposedAndRemoved : List RegistryCall :=
  [.register { id := "docs", status := .candidate }, .remove "docs"]

/-- A lost tag is still found, a candidate listed twice, a removed one listed.
-/
theorem stale_entries :
    ¬Consistent id (registryAfter retagged) ∧
      ¬Consistent id (registryAfter proposedTwice) ∧
      ¬Consistent id (registryAfter proposedAndRemoved) := by
  refine ⟨fun h => ?_, fun h => ?_, fun h => ?_⟩
  · have hfound : { id := "docs", tags := ["new"] } ∈
        (registryAfter retagged).index.search id { tags := ["old"] } := by
      decide +kernel
    obtain ⟨_, hsatisfies⟩ := ((h.search _).2 _).mp hfound
    obtain ⟨tag, htag, hhas⟩ := hsatisfies.tags (by decide)
    rw [List.mem_singleton.mp htag] at hhas
    revert hhas
    decide +kernel
  · have hlength := h.candidates.length_eq
    revert hlength
    decide +kernel
  · have hlength := h.candidates.length_eq
    revert hlength
    decide +kernel

end ConsistentWitness

end Voly.Registry
