/-
What memories say, which items are apart from them, and their texts,
fingerprints, ids and links.
-/
import Voly.Memory.Strategic

namespace Voly

open Python

/-- What a memory says and is about, regardless of case and outer blanks. -/
structure MemoryIdentity where
  kind : MemoryKind
  memoryClass : MemoryClass
  scope : MemoryScope
  scopeId : String
  title : String
  content : String
deriving DecidableEq

def MemoryIdentity.text (identity : MemoryIdentity) : String :=
  "|".intercalate [identity.kind.value, identity.memoryClass.value,
    identity.scope.value, identity.scopeId, identity.title, identity.content]

section Identities

variable (lower : String → String)

def StrategicMemory.identity (memory : StrategicMemory) : MemoryIdentity where
  kind := memory.kind
  memoryClass := memory.memoryClass
  scope := memory.scope
  scopeId := memory.scopeId
  title := lower (strip memory.title)
  content := lower (strip memory.content)

def SessionHandoff.identity (handoff : SessionHandoff) (item : HandoffItem) :
    MemoryIdentity where
  kind := item.kind
  memoryClass := item.memoryClass
  scope := item.scope
  scopeId := handoff.scopeIdOf item
  title := lower (strip item.title)
  content := lower (strip item.content)

/-- About the same, of whatever class, with another content. -/
def MemoryIdentity.Opposes (identity other : MemoryIdentity) : Prop :=
  identity.kind = other.kind ∧ identity.scope = other.scope ∧
    identity.scopeId = other.scopeId ∧ identity.title = other.title ∧
    identity.content ≠ other.content

end Identities

/-- A content that is private in a scope. -/
structure Secret where
  scope : MemoryScope
  scopeId : String
  content : String
deriving DecidableEq

def SessionHandoff.secret (handoff : SessionHandoff) (item : HandoffItem) :
    Secret where
  scope := item.scope
  scopeId := handoff.scopeIdOf item
  content := strip item.content

/-- What the private items of the handoff say. -/
def SessionHandoff.secrets (handoff : SessionHandoff) : List Secret :=
  (handoff.items.filter HandoffItem.isPrivate).map handoff.secret

def Secret.IsIn (secret : Secret) (memory : StrategicMemory) : Prop :=
  memory.scope = secret.scope ∧ memory.scopeId = secret.scopeId ∧
    memory.content = secret.content

section Conditions

variable (lower : String → String)
variable (secrets : List Secret) (now : Rat) (handoff : SessionHandoff)
variable (run : Compaction) (item : HandoffItem)

/-- No memory has the text that is hashed for the item. -/
def IsNew : Prop := ∀ memory ∈ run.memories,
  (memory.identity lower).text ≠ (handoff.identity lower item).text

/-- Unless expired, a memory with the item's text is the item's and unexpired.
-/
def Recognized : Prop := unexpired now item.expiresAt = true →
  ∀ memory ∈ run.memories,
    (memory.identity lower).text = (handoff.identity lower item).text →
    memory.identity lower = handoff.identity lower item ∧
      unexpired now memory.expiresAt = true

def SessionHandoff.texts : List String :=
  [strip item.title, strip item.content, handoff.scopeIdOf item] ++
    if item.provenance = [] then ["session:" ++ handoff.sessionId]
    else item.provenance

/-- A private item says nothing public, and a new public one nothing private. -/
def Guarded : Prop :=
  (item.isPrivate = true → ∀ memory ∈ run.memories,
    memory.isPrivate = false → unexpired now memory.expiresAt = true →
    ¬(handoff.secret item).IsIn memory) ∧
  (item.isPrivate = false → unexpired now item.expiresAt = true →
    IsNew lower handoff run item → ∀ secret ∈ secrets,
    handoff.secret item ≠ secret)

/-- The item is told apart, breaks no line, and does not cross what is private.
-/
structure ItemApart : Prop where
  recognized : Recognized lower now handoff run item
  unbroken : IsNew lower handoff run item →
    ∀ s ∈ handoff.texts item, Unbroken s
  guarded : Guarded lower secrets now handoff run item

instance (secret : Secret) (memory : StrategicMemory) :
    Decidable (secret.IsIn memory) :=
  inferInstanceAs (Decidable (_ ∧ _))

instance : Decidable (IsNew lower handoff run item) :=
  inferInstanceAs (Decidable (∀ memory ∈ run.memories, _))

instance : Decidable (Recognized lower now handoff run item) :=
  inferInstanceAs (Decidable (_ = true → ∀ memory ∈ run.memories, _))

instance : Decidable (Guarded lower secrets now handoff run item) :=
  inferInstanceAs (Decidable ((_ = true → ∀ memory ∈ run.memories, _) ∧
    (_ = false → _ = true → _ → ∀ secret ∈ secrets, _)))

instance : Decidable (ItemApart lower secrets now handoff run item) :=
  decidable_of_iff
    (Recognized lower now handoff run item ∧
      (IsNew lower handoff run item → ∀ s ∈ handoff.texts item, Unbroken s) ∧
      Guarded lower secrets now handoff run item)
    ⟨fun h => ⟨h.1, h.2.1, h.2.2⟩,
      fun h => ⟨h.recognized, h.unbroken, h.guarded⟩⟩

end Conditions

section Links

variable {lower : String → String}
variable {identity other : MemoryIdentity}

theorem MemoryIdentity.Opposes.symm (h : identity.Opposes other) :
    other.Opposes identity := by
  obtain ⟨hkind, hscope, hscopeId, htitle, hcontent⟩ := h
  exact ⟨hkind.symm, hscope.symm, hscopeId.symm, htitle.symm, hcontent.symm⟩

theorem MemoryIdentity.not_opposes_self : ¬identity.Opposes identity :=
  fun h => h.2.2.2.2 rfl

variable {handoff : SessionHandoff} {item : HandoffItem}

theorem isContradicted_iff {memory : StrategicMemory} :
    memory.isContradicted lower item (handoff.scopeIdOf item) = true ↔
      (memory.identity lower).Opposes (handoff.identity lower item) := by
  simp [StrategicMemory.isContradicted, MemoryIdentity.Opposes,
    StrategicMemory.identity, SessionHandoff.identity, and_assoc]

variable {contradictions : List String} {id : String}
variable {existing : StrategicMemory}

theorem link_eq : existing.link contradictions id = { existing with
    contradicts := (existing.link contradictions id).contradicts } := by
  unfold StrategicMemory.link
  split <;> rfl

@[simp] theorem id_link :
    (existing.link contradictions id).id = existing.id := by
  rw [link_eq]

@[simp] theorem fingerprint_link :
    (existing.link contradictions id).fingerprint = existing.fingerprint := by
  rw [link_eq]

@[simp] theorem isPrivate_link :
    (existing.link contradictions id).isPrivate = existing.isPrivate := by
  rw [link_eq]

@[simp] theorem expiresAt_link :
    (existing.link contradictions id).expiresAt = existing.expiresAt := by
  rw [link_eq]

@[simp] theorem identity_link :
    (existing.link contradictions id).identity lower =
      existing.identity lower := by
  rw [link_eq]
  rfl

@[simp] theorem isIn_link {secret : Secret} :
    secret.IsIn (existing.link contradictions id) ↔ secret.IsIn existing := by
  rw [link_eq]
  rfl

theorem mem_link {other : String} (h : id ∉ existing.contradicts) :
    other ∈ (existing.link contradictions id).contradicts ↔
      other ∈ existing.contradicts ∨
        other = id ∧ existing.id ∈ contradictions := by
  by_cases hlinked : existing.id ∈ contradictions
  · simp [StrategicMemory.link, hlinked, h]
  · simp [StrategicMemory.link, hlinked]

end Links

/-- Digests and ids are told apart, and are written without line breaks. -/
structure FreshDraws (sha256 : String → String) (draws : Nat → Draw) :
    Prop where
  digests : Function.Injective sha256
  plainDigests : ∀ text, Unbroken (sha256 text)
  ids : Function.Injective fun k => (draws k).id
  plainIds : ∀ k, Unbroken (draws k).id

def StrategicMemory.texts (memory : StrategicMemory) : List String :=
  [memory.id, memory.fingerprint, memory.title, memory.content,
    memory.scopeId] ++ memory.provenance ++ memory.contradicts

/-- The memories of a store, of which `drawn` were made so far. -/
structure SoundMemories (lower sha256 : String → String) (draws : Nat → Draw)
    (drawn : Nat) (memories : List StrategicMemory) : Prop where
  unbroken : ∀ memory ∈ memories, ∀ s ∈ memory.texts, Unbroken s
  stamped : ∀ memory ∈ memories,
    memory.fingerprint = sha256 (memory.identity lower).text
  fingerprints : (memories.map StrategicMemory.fingerprint).Nodup
  drawn : ∀ memory ∈ memories, ∃ k < drawn, memory.id = (draws k).id
  ids : (memories.map StrategicMemory.id).Nodup
  known : ∀ memory ∈ memories, ∀ id ∈ memory.contradicts,
    ∃ other ∈ memories, other.id = id
  links : ∀ memory ∈ memories, ∀ other ∈ memories,
    other.id ∈ memory.contradicts ↔
      (memory.identity lower).Opposes (other.identity lower)

section Kept

variable {lower : String → String} {sha256 : String → String}
variable {draws : Nat → Draw} {base : Nat} {handoff : SessionHandoff}
variable {run next : Compaction} {item : HandoffItem}

/-- The draws of a call that was made after `base` others. -/
abbrev drawsFrom (draws : Nat → Draw) (base : Nat) : Nat → Draw :=
  fun k => draws (base + k)

@[simp] theorem identity_memory :
    (run.memory lower sha256 handoff draws item).identity lower =
      handoff.identity lower item := by
  simp [Compaction.memory, SessionHandoff.memory, StrategicMemory.identity,
    SessionHandoff.identity]

@[simp] theorem id_memory :
    (run.memory lower sha256 handoff draws item).id = (draws run.added).id :=
  rfl

@[simp] theorem contradicts_memory :
    (run.memory lower sha256 handoff draws item).contradicts =
      run.contradictions lower handoff item :=
  rfl

@[simp] theorem fingerprint_memory :
    (run.memory lower sha256 handoff draws item).fingerprint =
      sha256 (handoff.identity lower item).text :=
  rfl

/-- Links change nothing but `contradicts`. -/
theorem map_append_memories {B : Type} {f : StrategicMemory → B}
    (hlink : ∀ contradictions id (old : StrategicMemory),
      f (old.link contradictions id) = f old) :
    (run.append lower sha256 handoff draws item).memories.map f =
      run.memories.map f ++
        [f (run.memory lower sha256 handoff draws item)] := by
  simp [Compaction.append, hlink]

theorem mem_append_memories {memory : StrategicMemory} :
    memory ∈ (run.append lower sha256 handoff draws item).memories ↔
      (∃ old ∈ run.memories, old.link
        (run.contradictions lower handoff item) (draws run.added).id =
          memory) ∨
      memory = run.memory lower sha256 handoff draws item := by
  simp [Compaction.append]

section

variable (h : SoundMemories lower sha256 draws (base + run.added) run.memories)
  (hdraws : FreshDraws sha256 draws) {old : StrategicMemory}
  (hold : old ∈ run.memories)
include h hdraws hold

theorem SoundMemories.fresh :
    old.id ≠ (drawsFrom draws base run.added).id := by
  obtain ⟨k, hk, hid⟩ := h.drawn old hold
  intro hsame
  have heq := hdraws.ids (hid.symm.trans hsame)
  omega

theorem SoundMemories.unlinked :
    (drawsFrom draws base run.added).id ∉ old.contradicts := by
  intro hmem
  obtain ⟨other, hother, hid⟩ := h.known old hold _ hmem
  exact h.fresh hdraws hother hid

end

variable (handoff item) in
theorem mem_contradictions (hids : (run.memories.map StrategicMemory.id).Nodup)
    {old : StrategicMemory} (hold : old ∈ run.memories) :
    old.id ∈ run.contradictions lower handoff item ↔
      (old.identity lower).Opposes (handoff.identity lower item) := by
  rw [← isContradicted_iff, Compaction.contradictions, List.mem_map]
  constructor
  · rintro ⟨other, hother, hid⟩
    obtain ⟨hmem, hcontradicted⟩ := List.mem_filter.mp hother
    rwa [← List.inj_on_of_nodup_map hids hmem hold hid]
  · intro hcontradicted
    exact ⟨old, List.mem_filter.mpr ⟨hold, hcontradicted⟩, rfl⟩

theorem exists_of_mem_contradictions {id : String}
    (h : id ∈ run.contradictions lower handoff item) :
    ∃ old ∈ run.memories, old.id = id := by
  obtain ⟨old, hold, hid⟩ := List.mem_map.mp h
  exact ⟨old, (List.mem_filter.mp hold).1, hid⟩

theorem SoundMemories.links_append
    (h : SoundMemories lower sha256 draws (base + run.added) run.memories)
    (hdraws : FreshDraws sha256 draws)
    (hnext : run.append lower sha256 handoff (drawsFrom draws base) item =
      next) :
    ∀ memory ∈ next.memories, ∀ other ∈ next.memories,
      other.id ∈ memory.contradicts ↔
        (memory.identity lower).Opposes (other.identity lower) := by
  subst hnext
  intro memory hmemory other hother
  rw [mem_append_memories] at hmemory hother
  rcases hmemory with ⟨old, hold, rfl⟩ | rfl
  · have hunlinked := h.unlinked hdraws hold
    rcases hother with ⟨past, hpast, rfl⟩ | rfl
    · have hfresh := h.fresh hdraws hpast
      simp [mem_link hunlinked, hfresh, h.links old hold past hpast]
    · have hcontradicted := @mem_contradictions lower handoff run item h.ids
        old hold
      simp [mem_link hunlinked, hunlinked, hcontradicted]
  · rcases hother with ⟨past, hpast, rfl⟩ | rfl
    · have hcontradicted := @mem_contradictions lower handoff run item h.ids
        past hpast
      simp only [id_link, contradicts_memory, identity_link, identity_memory,
        hcontradicted]
      exact ⟨MemoryIdentity.Opposes.symm, MemoryIdentity.Opposes.symm⟩
    · simp only [id_memory, contradicts_memory,
        MemoryIdentity.not_opposes_self, iff_false]
      intro hmem
      obtain ⟨old, hold, hid⟩ := exists_of_mem_contradictions hmem
      exact h.fresh hdraws hold hid

theorem texts_link {contradictions : List String} {id s : String}
    {old : StrategicMemory} (hs : s ∈ (old.link contradictions id).texts) :
    s ∈ old.texts ∨ s = id := by
  unfold StrategicMemory.link at hs
  split at hs
  · simp only [StrategicMemory.texts, ← List.append_assoc] at hs ⊢
    rcases List.mem_append.mp hs with hs | hs
    · exact Or.inl hs
    · exact Or.inr (List.mem_singleton.mp hs)
  · exact Or.inl hs

theorem texts_memory {s : String}
    (hs : s ∈ (run.memory lower sha256 handoff draws item).texts) :
    s = (draws run.added).id ∨
      s = sha256 (handoff.identity lower item).text ∨
      s ∈ handoff.texts item ∨ s ∈ run.contradictions lower handoff item := by
  simp only [StrategicMemory.texts, Compaction.memory, SessionHandoff.memory,
    List.mem_append, List.mem_cons, List.not_mem_nil, or_false] at hs
  simp only [SessionHandoff.texts, List.mem_append, List.mem_cons,
    List.not_mem_nil, or_false]
  rcases hs with ((hs | hs | hs | hs | hs) | hs) | hs
  · exact Or.inl hs
  · exact Or.inr (Or.inl hs)
  all_goals simp [hs]

section

variable (h : SoundMemories lower sha256 draws (base + run.added) run.memories)
  (hdraws : FreshDraws sha256 draws)
include h hdraws

theorem SoundMemories.unbroken_append
    (htexts : ∀ s ∈ handoff.texts item, Unbroken s)
    (hnext : run.append lower sha256 handoff (drawsFrom draws base) item =
      next) :
    ∀ memory ∈ next.memories, ∀ s ∈ memory.texts, Unbroken s := by
  subst hnext
  intro memory hmemory s hs
  rcases mem_append_memories.mp hmemory with ⟨old, hold, rfl⟩ | rfl
  · rcases texts_link hs with hs | rfl
    · exact h.unbroken old hold s hs
    · exact hdraws.plainIds _
  · rcases texts_memory hs with rfl | rfl | hs | hs
    · exact hdraws.plainIds _
    · exact hdraws.plainDigests _
    · exact htexts s hs
    · obtain ⟨old, hold, rfl⟩ := exists_of_mem_contradictions hs
      exact h.unbroken old hold old.id (by simp [StrategicMemory.texts])

theorem SoundMemories.known_append
    (hnext : run.append lower sha256 handoff (drawsFrom draws base) item =
      next) :
    ∀ memory ∈ next.memories, ∀ id ∈ memory.contradicts,
      ∃ other ∈ next.memories, other.id = id := by
  have hids : ∀ old ∈ run.memories, ∃ other ∈ next.memories,
      other.id = old.id := by
    intro old hold
    rw [← hnext]
    exact ⟨_, mem_append_memories.mpr (Or.inl ⟨old, hold, rfl⟩), id_link⟩
  have hadded : ∃ other ∈ next.memories,
      other.id = (drawsFrom draws base run.added).id := by
    rw [← hnext]
    exact ⟨_, mem_append_memories.mpr (Or.inr rfl), rfl⟩
  intro memory hmemory id hid
  rw [← hnext, mem_append_memories] at hmemory
  rcases hmemory with ⟨old, hold, rfl⟩ | rfl
  · rcases (mem_link (h.unlinked hdraws hold)).mp hid with hid | ⟨rfl, _⟩
    · obtain ⟨other, hother, rfl⟩ := h.known old hold id hid
      exact hids other hother
    · exact hadded
  · obtain ⟨old, hold, rfl⟩ := exists_of_mem_contradictions hid
    exact hids old hold

theorem SoundMemories.append
    (hnew : sha256 (handoff.identity lower item).text ∉
      run.memories.map StrategicMemory.fingerprint)
    (htexts : ∀ s ∈ handoff.texts item, Unbroken s)
    (hnext : run.append lower sha256 handoff (drawsFrom draws base) item =
      next) :
    SoundMemories lower sha256 draws (base + next.added) next.memories where
  unbroken := h.unbroken_append hdraws htexts hnext
  stamped := by
    intro memory hmemory
    rw [← hnext, mem_append_memories] at hmemory
    rcases hmemory with ⟨old, hold, rfl⟩ | rfl
    · simpa using h.stamped old hold
    · simp
  fingerprints := by
    rw [← hnext, map_append_memories fun _ _ _ => fingerprint_link,
      List.nodup_append_comm]
    exact List.nodup_cons.mpr ⟨hnew, h.fingerprints⟩
  drawn := by
    subst hnext
    intro memory hmemory
    rcases mem_append_memories.mp hmemory with ⟨old, hold, rfl⟩ | rfl
    · obtain ⟨k, hk, hid⟩ := h.drawn old hold
      exact ⟨k, Nat.lt_succ_of_lt hk, by simpa using hid⟩
    · exact ⟨base + run.added, Nat.lt_succ_self _, rfl⟩
  ids := by
    have hfresh : (drawsFrom draws base run.added).id ∉
        run.memories.map StrategicMemory.id := by
      intro hmem
      obtain ⟨old, hold, hid⟩ := List.mem_map.mp hmem
      exact h.fresh hdraws hold hid
    rw [← hnext, map_append_memories fun _ _ _ => id_link,
      List.nodup_append_comm]
    exact List.nodup_cons.mpr ⟨hfresh, h.ids⟩
  known := h.known_append hdraws hnext
  links := h.links_append hdraws hnext

end

end Kept

end Voly
