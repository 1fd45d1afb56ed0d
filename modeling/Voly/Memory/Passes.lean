/-
The loop of `compact` over the items of a handoff: what a pass changes, and
what holds after the last one.
-/
import Voly.Interaction.Steps
import Voly.Memory.Compaction

namespace Voly

open Python Interaction

variable {lower : String → String} {sha256 : String → String}
variable {draws : Nat → Draw} {base : Nat} {handoff : SessionHandoff}
variable {run next : Compaction} {item : HandoffItem}

/-- The locals of `compact` in a call after `base` memories. -/
structure SoundRun (lower sha256 : String → String) (draws : Nat → Draw)
    (base : Nat) (run : Compaction) : Prop where
  memories : SoundMemories lower sha256 draws (base + run.added) run.memories
  fingerprints : ∀ fingerprint, fingerprint ∈ run.fingerprints ↔
    fingerprint ∈ run.memories.map StrategicMemory.fingerprint
  added : run.added ≤ run.memories.length

theorem SoundRun.isNew_iff (h : SoundRun lower sha256 draws base run)
    (hsha : Function.Injective sha256) :
    sha256 (handoff.identity lower item).text ∉ run.fingerprints ↔
      IsNew lower handoff run item := by
  rw [h.fingerprints, List.mem_map]
  constructor
  · intro hnone memory hmemory htext
    apply hnone
    exact ⟨memory, hmemory, by rw [h.memories.stamped memory hmemory, htext]⟩
  · rintro hnew ⟨memory, hmemory, hstamp⟩
    rw [h.memories.stamped memory hmemory] at hstamp
    exact hnew memory hmemory (hsha hstamp)

section

variable (h : SoundRun lower sha256 draws base run)
  (hdraws : FreshDraws sha256 draws)
include h hdraws

theorem SoundRun.append (hnew : IsNew lower handoff run item)
    (htexts : ∀ s ∈ handoff.texts item, Unbroken s) :
    SoundRun lower sha256 draws base
      (run.append lower sha256 handoff (drawsFrom draws base) item) where
  memories := by
    have hstamp := (h.isNew_iff hdraws.digests).mpr hnew
    rw [h.fingerprints] at hstamp
    exact h.memories.append hdraws hstamp htexts rfl
  fingerprints := by
    intro fingerprint
    rw [map_append_memories fun _ _ _ => fingerprint_link, List.mem_append,
      List.mem_singleton, fingerprint_memory, ← h.fingerprints, or_comm]
    exact List.mem_cons
  added := by
    have hadded := h.added
    simpa [Compaction.append] using hadded

/-- A pass returns: a new item is appended, another one changes nothing. -/
theorem SoundRun.compactItem (hscopeId : handoff.scopeIdOf item ≠ "")
    (htexts : IsNew lower handoff run item →
      ∀ s ∈ handoff.texts item, Unbroken s) :
    ∃ next, Voly.compactItem lower sha256 handoff (drawsFrom draws base) run
        item = .ok next ∧
      SoundRun lower sha256 draws base next ∧
      (¬IsNew lower handoff run item ∧ next = run ∨
        IsNew lower handoff run item ∧
          next = run.append lower sha256 handoff (drawsFrom draws base)
            item) := by
  have hiff := @SoundRun.isNew_iff lower sha256 draws base handoff run item h
    hdraws.digests
  have hstep : Voly.compactItem lower sha256 handoff (drawsFrom draws base) run
      item = if sha256 (handoff.identity lower item).text ∈ run.fingerprints
        then .ok run
        else .ok (run.append lower sha256 handoff (drawsFrom draws base)
          item) := by
    simp only [Voly.compactItem, if_neg hscopeId]
    rfl
  by_cases hnew : IsNew lower handoff run item
  · rw [if_neg (hiff.mpr hnew)] at hstep
    exact ⟨_, hstep, h.append hdraws hnew (htexts hnew), Or.inr ⟨hnew, rfl⟩⟩
  · have hheld := not_not.mp fun hnone => hnew (hiff.mp hnone)
    rw [if_pos hheld] at hstep
    exact ⟨run, hstep, h, Or.inl ⟨hnew, rfl⟩⟩

end

/-- An unexpired memory is the item. -/
def HeldBy (lower : String → String) (now : Rat) (handoff : SessionHandoff)
    (item : HandoffItem) (memories : List StrategicMemory) : Prop :=
  ∃ memory ∈ memories, unexpired now memory.expiresAt = true ∧
    memory.identity lower = handoff.identity lower item

/-- No unexpired public memory says one of these. -/
def Conceals (now : Rat) (secrets : List Secret)
    (memories : List StrategicMemory) : Prop :=
  ∀ memory ∈ memories, memory.isPrivate = false →
    unexpired now memory.expiresAt = true →
    ∀ secret ∈ secrets, ¬secret.IsIn memory

variable {now : Rat} {secrets seen : List Secret}

theorem HeldBy.append {other : HandoffItem}
    (h : HeldBy lower now handoff other run.memories) :
    HeldBy lower now handoff other
      (run.append lower sha256 handoff draws item).memories := by
  obtain ⟨memory, hmemory, hvisible, hidentity⟩ := h
  refine ⟨_, mem_append_memories.mpr (Or.inl ⟨memory, hmemory, rfl⟩), ?_, ?_⟩
  · rwa [expiresAt_link]
  · rwa [identity_link]

theorem heldBy_append (hvisible : unexpired now item.expiresAt = true) :
    HeldBy lower now handoff item
      (run.append lower sha256 handoff draws item).memories :=
  ⟨_, mem_append_memories.mpr (Or.inr rfl), hvisible, identity_memory⟩

theorem Recognized.heldBy (h : Recognized lower now handoff run item)
    (hold : ¬IsNew lower handoff run item)
    (hvisible : unexpired now item.expiresAt = true) :
    HeldBy lower now handoff item run.memories := by
  simp only [IsNew, not_forall, not_not] at hold
  obtain ⟨memory, hmemory, htext⟩ := hold
  obtain ⟨hidentity, hheld⟩ := h hvisible memory hmemory htext
  exact ⟨memory, hmemory, hheld, hidentity⟩

/-- What an item adds to what is private. -/
def SessionHandoff.secretsOf (handoff : SessionHandoff) (item : HandoffItem) :
    List Secret :=
  if item.isPrivate then [handoff.secret item] else []

theorem Conceals.mark (h : Conceals now seen run.memories)
    (hguarded : Guarded lower secrets now handoff run item) :
    Conceals now (seen ++ handoff.secretsOf item) run.memories := by
  intro memory hmemory hpublic hvisible secret hsecret
  rcases List.mem_append.mp hsecret with hsecret | hsecret
  · exact h memory hmemory hpublic hvisible secret hsecret
  · unfold SessionHandoff.secretsOf at hsecret
    split at hsecret
    · next hprivate =>
        rw [List.mem_singleton.mp hsecret]
        exact hguarded.1 hprivate memory hmemory hpublic hvisible
    · cases hsecret

theorem Conceals.append (h : Conceals now seen run.memories)
    (hseen : ∀ secret ∈ seen, secret ∈ secrets)
    (hnew : IsNew lower handoff run item)
    (hguarded : Guarded lower secrets now handoff run item) :
    Conceals now seen
      (run.append lower sha256 handoff draws item).memories := by
  intro memory hmemory hpublic hvisible secret hsecret
  rcases mem_append_memories.mp hmemory with ⟨old, hold, rfl⟩ | rfl
  · rw [isPrivate_link] at hpublic
    rw [expiresAt_link] at hvisible
    rw [isIn_link]
    exact h old hold hpublic hvisible secret hsecret
  · rintro ⟨hscope, hscopeId, hcontent⟩
    apply hguarded.2 hpublic hvisible hnew secret (hseen secret hsecret)
    obtain ⟨scope, scopeId, content⟩ := secret
    simp only at hscope hscopeId hcontent
    rw [← hscope, ← hscopeId, ← hcontent]
    rfl

/-- The locals are sound, everything is held, and nothing private is public. -/
structure Compacted (lower sha256 : String → String) (draws : Nat → Draw)
    (base : Nat) (handoff : SessionHandoff) (now : Rat) (seen : List Secret)
    (run : Compaction) (items : List HandoffItem) (next : Compaction) :
    Prop where
  sound : SoundRun lower sha256 draws base next
  stays : ∀ item, HeldBy lower now handoff item run.memories →
    HeldBy lower now handoff item next.memories
  held : ∀ item ∈ items, unexpired now item.expiresAt = true →
    HeldBy lower now handoff item next.memories
  conceals : Conceals now (seen ++ items.flatMap handoff.secretsOf)
    next.memories

theorem SoundRun.pass (h : SoundRun lower sha256 draws base run)
    (hdraws : FreshDraws sha256 draws) (hscopeId : handoff.scopeIdOf item ≠ "")
    (hconceals : Conceals now seen run.memories)
    (hseen : ∀ secret ∈ seen ++ handoff.secretsOf item, secret ∈ secrets)
    (hapart : ItemApart lower secrets now handoff run item) :
    ∃ next, Voly.compactItem lower sha256 handoff (drawsFrom draws base) run
        item = .ok next ∧
      Compacted lower sha256 draws base handoff now seen run [item] next := by
  obtain ⟨next, hstep, hsound, hcases⟩ :=
    h.compactItem hdraws hscopeId hapart.unbroken
  refine ⟨next, hstep, ?_⟩
  have hmarked := hconceals.mark hapart.guarded
  rcases hcases with ⟨hold, rfl⟩ | ⟨hnew, rfl⟩
  · refine ⟨hsound, fun _ hheld => hheld, ?_, by simpa using hmarked⟩
    intro other hother hvisible
    rw [List.mem_singleton.mp hother] at hvisible ⊢
    exact hapart.recognized.heldBy hold hvisible
  · refine ⟨hsound, fun _ hheld => hheld.append, ?_, ?_⟩
    · intro other hother hvisible
      rw [List.mem_singleton.mp hother] at hvisible ⊢
      exact heldBy_append hvisible
    · simpa using hmarked.append hseen hnew hapart.guarded

theorem SoundRun.passes {items : List HandoffItem}
    (h : SoundRun lower sha256 draws base run)
    (hdraws : FreshDraws sha256 draws)
    (hscopeIds : ∀ item ∈ items, handoff.scopeIdOf item ≠ "")
    (hconceals : Conceals now seen run.memories)
    (hseen : ∀ secret ∈ seen ++ items.flatMap handoff.secretsOf,
      secret ∈ secrets)
    (hapart : Throughout
      (fun run item => (Voly.compactItem lower sha256 handoff
        (drawsFrom draws base) run item).toOption)
      (ItemApart lower secrets now handoff) run items) :
    ∃ next, items.foldlM
        (Voly.compactItem lower sha256 handoff (drawsFrom draws base)) run =
          .ok next ∧
      Compacted lower sha256 draws base handoff now seen run items next := by
  induction items generalizing run seen with
  | nil =>
      refine ⟨run, rfl, h, fun _ hheld => hheld, List.forall_mem_nil _, ?_⟩
      simpa using hconceals
  | cons item items ih =>
      obtain ⟨hscopeId, hscopeIds⟩ := List.forall_mem_cons.mp hscopeIds
      rw [List.flatMap_cons, ← List.append_assoc] at hseen
      obtain ⟨middle, hstep, hmiddle⟩ := h.pass hdraws hscopeId hconceals
        (fun secret hsecret => hseen secret (List.mem_append_left _ hsecret))
        hapart.head
      have hconceals' : Conceals now (seen ++ handoff.secretsOf item)
          middle.memories := by
        simpa using hmiddle.conceals
      have hrest : Throughout _ _ middle items :=
        hapart.tail (by rw [hstep]; rfl)
      obtain ⟨next, hnext, hdone⟩ :=
        ih hmiddle.sound hscopeIds hconceals' hseen hrest
      refine ⟨next, ?_, hdone.sound, ?_, ?_, ?_⟩
      · rw [List.foldlM_cons, hstep]
        exact hnext
      · exact fun other hheld => hdone.stays other (hmiddle.stays other hheld)
      · refine List.forall_mem_cons.mpr ⟨?_, hdone.held⟩
        intro hvisible
        exact hdone.stays item
          (hmiddle.held item List.mem_cons_self hvisible)
      · rw [List.flatMap_cons, ← List.append_assoc]
        exact hdone.conceals

end Voly
