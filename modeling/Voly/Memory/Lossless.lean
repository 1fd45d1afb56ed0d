/-
Runs of `compact`: which items are kept, what the links between memories say,
and what an export reveals.
-/
import Voly.Memory.Passes
import Voly.Python.Bytes
import Voly.Python.JsonValue

namespace Voly

open Python Interaction

/-- An exported record has the content in its scope. -/
def Secret.RevealedBy (secret : Secret) (record : Doc) : Prop :=
  required record "scope" Doc.str? = some secret.scope.value ∧
    required record "scope_id" Doc.str? = some secret.scopeId ∧
    required record "content" Doc.str? = some secret.content

/-- The file, the count of memories, the last time, what was ever marked
private. -/
structure MemoryWorld where
  store : StrategicStore := {}
  drawn : Nat := 0
  clock : Rat := 0
  secrets : List Secret := []

/-- A call of `compact` and the time when it returns. -/
structure CompactCall where
  handoff : SessionHandoff
  now : Rat

section Runs

variable (lower : String → String) (sha256 : String → String)
variable (draws : Nat → Draw)

namespace MemoryWorld

variable (world : MemoryWorld)

def compact (handoff : SessionHandoff) :
    Except MemoryError (List StrategicMemory) × StrategicStore :=
  world.store.compact lower sha256 (fun k => draws (world.drawn + k)) handoff

def after (call : CompactCall) : MemoryWorld where
  store := (world.compact lower sha256 draws call.handoff).2
  drawn :=
    match (world.compact lower sha256 draws call.handoff).1 with
    | .ok added => world.drawn + added.length
    | .error _ => world.drawn
  clock := call.now
  secrets := world.secrets ++ call.handoff.secrets

end MemoryWorld

def memoryStep (world : MemoryWorld) (call : CompactCall) :
    Option MemoryWorld :=
  some (world.after lower sha256 draws call)

/-- Every item has a scope id, and the clock does not go back. -/
structure ValidCall (world : MemoryWorld) (call : CompactCall) : Prop where
  scopeIds : ∀ item ∈ call.handoff.items, call.handoff.scopeIdOf item ≠ ""
  clock : world.clock ≤ call.now

/-- `contradicts` is symmetric and irreflexive, between opposing memories. -/
structure Linked (memories : List StrategicMemory) : Prop where
  ids : (memories.map StrategicMemory.id).Nodup
  known : ∀ memory ∈ memories, ∀ id ∈ memory.contradicts,
    ∃ other ∈ memories, other.id = id
  symmetric : ∀ memory ∈ memories, ∀ other ∈ memories,
    other.id ∈ memory.contradicts → memory.id ∈ other.contradicts
  irreflexive : ∀ memory ∈ memories, memory.id ∉ memory.contradicts
  opposed : ∀ memory ∈ memories, ∀ other ∈ memories,
    other.id ∈ memory.contradicts →
      (memory.identity lower).Opposes (other.identity lower)

/-- Every item of the handoff is held, no unexpired one twice, and links are
right. -/
structure Lossless (call : CompactCall) (memories : List StrategicMemory) :
    Prop where
  kept : ∀ item ∈ call.handoff.items,
    unexpired call.now item.expiresAt = true →
    ∃ memory ∈ memories, unexpired call.now memory.expiresAt = true ∧
      memory.identity lower = call.handoff.identity lower item
  distinct : ((memories.filter fun memory =>
    unexpired call.now memory.expiresAt).map
      (StrategicMemory.identity lower)).Nodup
  linked : Linked lower memories

/-- A call returns, loses nothing, and leaves nothing private to be exported. -/
structure KeepsMemory (world : MemoryWorld) (call : CompactCall) : Prop where
  returns : ∃ added,
    (world.compact lower sha256 draws call.handoff).1 = .ok added
  stored : ∃ memories,
    (world.after lower sha256 draws call).store.load = .ok memories ∧
      Lossless lower call memories
  exported : ∀ now projectId, call.now ≤ now → ∃ records,
    (world.after lower sha256 draws call).store.exportRecords now projectId =
      .ok records ∧
    ∀ secret ∈ (world.after lower sha256 draws call).secrets,
      ∀ record ∈ records, ¬secret.RevealedBy record

/-- Each pass of the loop meets an item that is apart. -/
def CallApart (world : MemoryWorld) (call : CompactCall) : Prop :=
  ∀ memories, world.store.load = .ok memories →
    Throughout
      (fun run item => (compactItem lower sha256 call.handoff
        (fun k => draws (world.drawn + k)) run item).toOption)
      (ItemApart lower (world.secrets ++ call.handoff.secrets) call.now
        call.handoff)
      ⟨memories, memories.map StrategicMemory.fingerprint, 0⟩
      call.handoff.items

end Runs

section Deciding

variable {lower sha256 : String → String} {draws : Nat → Draw}

instance (secret : Secret) (record : Doc) :
    Decidable (secret.RevealedBy record) :=
  inferInstanceAs (Decidable (_ ∧ _))

instance (world : MemoryWorld) (call : CompactCall) :
    Decidable (ValidCall world call) :=
  decidable_of_iff
    ((∀ item ∈ call.handoff.items, call.handoff.scopeIdOf item ≠ "") ∧
      world.clock ≤ call.now)
    ⟨fun h => ⟨h.1, h.2⟩, fun h => ⟨h.scopeIds, h.clock⟩⟩

instance (world : MemoryWorld) (call : CompactCall) :
    Decidable (CallApart lower sha256 draws world call) :=
  match hload : world.store.load with
  | .error _ => isTrue fun memories h => by
      rw [hload] at h
      cases h
  | .ok memories =>
      decidable_of_iff (Throughout _ (ItemApart lower _ call.now call.handoff)
        ⟨memories, memories.map StrategicMemory.fingerprint, 0⟩
        call.handoff.items)
      ⟨fun hapart held h => by
        rw [hload] at h
        cases h
        exact hapart,
      fun h => h memories hload⟩

end Deciding

theorem proper_expiryDoc (expiry : Option Expiry) :
    (expiryDoc expiry).proper = true := by
  rcases expiry with _ | expiry
  · decide +kernel
  cases expiry with
  | number value => exact proper_num value
  | infinite negative => cases negative <;> decide +kernel
  | nan => decide +kernel

theorem readRow_toDict (memory : StrategicMemory) :
    StrategicStore.readRow (memory.toDict.write true) = some memory := by
  have hproper : memory.toDict.proper = true := by
    simp [StrategicMemory.toDict, proper_dict, stringsDoc, proper_list,
      proper_expiryDoc]
  rw [StrategicStore.readRow, loads_write, Option.filter_some, if_pos hproper]
  exact memory_fromDict memory

theorem strings_expiryDoc (expiry : Option Expiry) :
    Layout.strings (expiryDoc expiry) = [] := by
  rcases expiry with _ | expiry
  · rfl
  cases expiry <;> rfl

/-- A property of the keys, names and texts is one of all strings. -/
theorem memory_strings {p : String → Prop} (memory : StrategicMemory)
    (hkeys : ∀ key ∈ ["id", "fingerprint", "kind", "memory_class", "title",
      "content", "scope", "scope_id", "provenance", "private", "created_at",
      "expires_at", "contradicts"], p key)
    (hnames : p memory.kind.value ∧ p memory.memoryClass.value ∧
      p memory.scope.value)
    (htexts : ∀ s ∈ memory.texts, p s) :
    ∀ s ∈ Layout.strings memory.toDict, p s := by
  have hstr (s : String) : Layout.strings (.str s) = [s] := rfl
  rw [StrategicMemory.toDict, strings_dict]
  simp only [List.flatMap_cons, List.flatMap_nil, hstr, strings_num,
    strings_boolDoc, strings_stringsDoc, strings_expiryDoc, List.cons_append,
    List.nil_append, List.append_nil, List.forall_mem_cons,
    List.forall_mem_append, StrategicMemory.texts] at hkeys htexts ⊢
  tauto

theorem unbroken_strings {memory : StrategicMemory}
    (h : ∀ s ∈ memory.texts, Unbroken s) :
    ∀ s ∈ Layout.strings memory.toDict, Unbroken s := by
  refine memory_strings memory (by decide +kernel) ⟨?_, ?_, ?_⟩ h
  · cases memory.kind <;> decide +kernel
  · cases memory.memoryClass <;> decide +kernel
  · cases memory.scope <;> decide +kernel

theorem load_save {memories : List StrategicMemory}
    (h : ∀ memory ∈ memories, ∀ s ∈ memory.texts, Unbroken s) :
    (StrategicStore.save memories).load = .ok memories := by
  have hlines := @filledLines_linesText
    (memories.map StrategicMemory.toDict) (by
      intro row hrow
      obtain ⟨memory, _, rfl⟩ := List.mem_map.mp hrow
      exact ⟨_, rfl⟩) (by
      intro row hrow
      obtain ⟨memory, hmemory, rfl⟩ := List.mem_map.mp hrow
      exact unbroken_strings (h memory hmemory))
  have hrows : (memories.map fun memory => memory.toDict.write true).mapM
      StrategicStore.readRow = some memories := by
    clear h hlines
    induction memories with
    | nil => rfl
    | cons memory memories ih => simp [readRow_toDict, ih]
  rw [List.map_map] at hlines
  change filledLines _ = memories.map fun memory => memory.toDict.write true
    at hlines
  unfold StrategicStore.load StrategicStore.save
  dsimp only
  rw [hlines, hrows]

theorem unexpired_mono {now later : Rat} (h : now ≤ later)
    {expiry : Option Expiry} (hlater : unexpired later expiry = true) :
    unexpired now expiry = true := by
  rcases expiry with _ | expiry
  · rfl
  cases expiry with
  | number value =>
      simp only [unexpired, decide_eq_true_eq] at hlater ⊢
      exact lt_of_le_of_lt h hlater
  | infinite negative => exact hlater
  | nan => exact hlater

theorem Conceals.later {now later : Rat} {secrets : List Secret}
    {memories : List StrategicMemory} (h : Conceals now secrets memories)
    (hlater : now ≤ later) : Conceals later secrets memories :=
  fun memory hmemory hpublic hvisible =>
    h memory hmemory hpublic (unexpired_mono hlater hvisible)

theorem flatMap_secretsOf (handoff : SessionHandoff) :
    handoff.items.flatMap handoff.secretsOf = handoff.secrets := by
  unfold SessionHandoff.secrets
  induction handoff.items with
  | nil => rfl
  | cons item items ih =>
      cases hprivate : item.isPrivate with
      | true => simp [SessionHandoff.secretsOf, hprivate, ih]
      | false => simp [SessionHandoff.secretsOf, hprivate, ih]

theorem MemoryScope.value_inj {scope other : MemoryScope}
    (h : scope.value = other.value) : scope = other := by
  have hparse := congrArg MemoryScope.parse h
  rwa [MemoryScope.parse_value, MemoryScope.parse_value,
    Option.some.injEq] at hparse

theorem Secret.isIn_of_revealed {secret : Secret} {memory : StrategicMemory}
    (h : secret.RevealedBy memory.toDict) : secret.IsIn memory := by
  obtain ⟨hscope, hscopeId, hcontent⟩ := h
  simp [required, Doc.field?, StrategicMemory.toDict, Dict.get?] at hscope
  simp [required, Doc.field?, StrategicMemory.toDict, Dict.get?] at hscopeId
  simp [required, Doc.field?, StrategicMemory.toDict, Dict.get?] at hcontent
  exact ⟨MemoryScope.value_inj hscope, hscopeId, hcontent⟩

section Kept

variable {lower : String → String} {sha256 : String → String}
variable {draws : Nat → Draw} {drawn : Nat}
variable {memories : List StrategicMemory}

theorem SoundMemories.identities
    (h : SoundMemories lower sha256 draws drawn memories) :
    (memories.map (StrategicMemory.identity lower)).Nodup := by
  have hstamps : memories.map StrategicMemory.fingerprint =
      (memories.map (StrategicMemory.identity lower)).map
        fun identity => sha256 identity.text := by
    rw [List.map_map]
    exact List.map_congr_left h.stamped
  have hnodup := h.fingerprints
  rw [hstamps] at hnodup
  exact hnodup.of_map _

theorem SoundMemories.linked
    (h : SoundMemories lower sha256 draws drawn memories) :
    Linked lower memories where
  ids := h.ids
  known := h.known
  symmetric := by
    intro memory hmemory other hother hlink
    rw [h.links memory hmemory other hother] at hlink
    exact (h.links other hother memory hmemory).mpr hlink.symm
  irreflexive := by
    intro memory hmemory hlink
    rw [h.links memory hmemory memory hmemory] at hlink
    exact MemoryIdentity.not_opposes_self hlink
  opposed := by
    intro memory hmemory other hother
    exact (h.links memory hmemory other hother).mp

theorem exported_concealed {now later : Rat} {secrets : List Secret}
    {store : StrategicStore} (hload : store.load = .ok memories)
    (h : Conceals now secrets memories) (projectId : String)
    (hlater : now ≤ later) : ∃ records,
      store.exportRecords later projectId = .ok records ∧
      ∀ secret ∈ secrets, ∀ record ∈ records, ¬secret.RevealedBy record := by
  simp only [StrategicStore.exportRecords, hload]
  refine ⟨_, rfl, ?_⟩
  intro secret hsecret record hrecord hrevealed
  obtain ⟨memory, hmemory, rfl⟩ := List.mem_map.mp hrecord
  obtain ⟨hmemory, hshown⟩ := List.mem_filter.mp hmemory
  simp only [Bool.and_eq_true, Bool.not_eq_true'] at hshown
  exact h.later hlater memory hmemory hshown.1.1 hshown.1.2 secret hsecret
    (Secret.isIn_of_revealed hrevealed)

def MemoryWorld.Sound (lower sha256 : String → String) (draws : Nat → Draw)
    (world : MemoryWorld) : Prop :=
  ∃ memories, world.store.load = .ok memories ∧
    SoundMemories lower sha256 draws world.drawn memories ∧
    Conceals world.clock world.secrets memories

theorem MemoryWorld.Sound.compact {world : MemoryWorld} {call : CompactCall}
    (h : world.Sound lower sha256 draws) (hdraws : FreshDraws sha256 draws)
    (hvalid : ValidCall world call)
    (hapart : CallApart lower sha256 draws world call) :
    ∃ added memories, world.compact lower sha256 draws call.handoff =
        (.ok added, StrategicStore.save memories) ∧
      SoundMemories lower sha256 draws (world.drawn + added.length) memories ∧
      (∀ item ∈ call.handoff.items,
        unexpired call.now item.expiresAt = true →
        HeldBy lower call.now call.handoff item memories) ∧
      Conceals call.now (world.secrets ++ call.handoff.secrets) memories := by
  obtain ⟨past, hload, hsound, hconceals⟩ := h
  have hstart : SoundRun lower sha256 draws world.drawn
      ⟨past, past.map StrategicMemory.fingerprint, 0⟩ :=
    ⟨hsound, fun _ => Iff.rfl, Nat.zero_le _⟩
  have hseen : ∀ secret ∈ world.secrets ++
      call.handoff.items.flatMap call.handoff.secretsOf,
      secret ∈ world.secrets ++ call.handoff.secrets := by
    rw [flatMap_secretsOf]
    exact fun _ hsecret => hsecret
  obtain ⟨run, hrun, hdone⟩ := hstart.passes hdraws hvalid.scopeIds
    (hconceals.later hvalid.clock) hseen (hapart past hload)
  have hadded : (run.memories.drop
      (run.memories.length - run.added)).length = run.added := by
    have hle := hdone.sound.added
    rw [List.length_drop]
    omega
  refine ⟨run.memories.drop (run.memories.length - run.added), run.memories,
    ?_, ?_, hdone.held, ?_⟩
  · simp only [MemoryWorld.compact, StrategicStore.compact, hload]
    rw [hrun]
  · rw [hadded]
    exact hdone.sound.memories
  · rw [← flatMap_secretsOf]
    exact hdone.conceals

theorem MemoryWorld.Sound.call {world : MemoryWorld} {call : CompactCall}
    (h : world.Sound lower sha256 draws) (hdraws : FreshDraws sha256 draws)
    (hvalid : ValidCall world call)
    (hapart : CallApart lower sha256 draws world call) :
    KeepsMemory lower sha256 draws world call ∧
      (world.after lower sha256 draws call).Sound lower sha256 draws := by
  obtain ⟨added, memories, hcompact, hsound, hheld, hconceals⟩ :=
    h.compact hdraws hvalid hapart
  have hload : (world.after lower sha256 draws call).store.load =
      .ok memories := by
    simp only [MemoryWorld.after, hcompact]
    exact load_save hsound.unbroken
  have hdrawn : (world.after lower sha256 draws call).drawn =
      world.drawn + added.length := by
    simp only [MemoryWorld.after, hcompact]
  refine ⟨⟨⟨added, by rw [hcompact]⟩, ⟨memories, hload, ?_⟩, ?_⟩,
    memories, hload, ?_, hconceals⟩
  · have hdistinct := hsound.identities.sublist
      ((List.filter_sublist (p := fun memory : StrategicMemory =>
        unexpired call.now memory.expiresAt)).map _)
    exact ⟨hheld, hdistinct, hsound.linked⟩
  · intro now projectId hnow
    exact exported_concealed hload hconceals projectId hnow
  · rw [hdrawn]
    exact hsound

theorem empty_memory_sound (start : Rat) :
    ({ clock := start } : MemoryWorld).Sound lower sha256 draws := by
  refine ⟨[], rfl, ?_, List.forall_mem_nil _⟩
  constructor <;> simp

end Kept

/-- While every item is told apart, breaks no line and crosses nothing private,
`compact` loses and leaks nothing. -/
theorem memory_lossless (lower sha256 : String → String) (draws : Nat → Draw)
    (hdraws : FreshDraws sha256 draws) (start : Rat) (calls : List CompactCall)
    (hvalid : Throughout (memoryStep lower sha256 draws) ValidCall
      { clock := start } calls)
    (hapart : Throughout (memoryStep lower sha256 draws)
      (CallApart lower sha256 draws) { clock := start } calls) :
    Throughout (memoryStep lower sha256 draws)
      (KeepsMemory lower sha256 draws) { clock := start } calls := by
  refine (hvalid.and hapart).implies
    (MemoryWorld.Sound lower sha256 draws) ?_ (empty_memory_sound start)
  intro world call hsound hcall
  obtain ⟨hkeeps, hnext⟩ := hsound.call hdraws hcall.1 hcall.2
  refine ⟨hkeeps, ?_⟩
  intro next hstep
  cases hstep
  exact hnext

namespace LosslessWitness

def digests : List (List Char × String) :=
  [("\"decision|episodic|project|p|python|3.12\"".toList,
      "67b57618fb993189e25f5fe2392894751a0215268819c61cc0e5bb949bfe44c1"),
    ("\"decision|episodic|project|p|python|3.13\"".toList,
      "675b67cebf87574b671f8f42106f27257f0dd098e3ed6bfe917d1c5971698a67"),
    ("\"decision|episodic|project|p|pay|42\"".toList,
      "f2fa2f5932d9a71dec1712ab8999e3ba29f42a48f3c785a13567cb8f85603b70"),
    ("\"decision|episodic|project|p|py\\u0085thon|3.12\"".toList,
      "856781e972cb0b5a88e6afa70391ae0e18718e270fbc30f72743999b5e874afa"),
    ("\"decision|episodic|project|a|b|c|d\"".toList,
      "03bf4f2a67298cc373a051b56b3f80cca20e447ae9202f0314c45a0001b8abb0")]

def sha256 (text : String) : String := knownDigest digests (stringText text)

def draw (k : Nat) : Draw where
  id := String.ofList
    (Nat.toDigits 10 (10000000000040008000000000000000 + k))
  createdAt := ⟨"1760000000.25".toList, by decide +kernel⟩

theorem digests_ascii : ∀ entry ∈ digests, ∀ c ∈ entry.2.toList,
    c.toNat < 128 := by
  decide +kernel

theorem fresh_draws : FreshDraws sha256 draw where
  digests := by
    have hproper : ProperTable digests := by decide +kernel
    intro text other h
    have htext := knownDigest_injective hproper h
    exact stringText_injective htext
  plainDigests := by
    intro text c hc
    apply bareBreak_of_ascii
    unfold sha256 knownDigest at hc
    cases hfound : digests.lookup (stringText text) with
    | some digest =>
        rw [hfound] at hc
        exact digests_ascii _ (mem_of_lookup hfound) c hc
    | none =>
        rw [hfound, Option.getD_none, String.toList_ofList] at hc
        rcases List.mem_cons.mp hc with rfl | hc
        · decide
        · exact ascii_stringText text c hc
  ids := by
    intro k other h
    have hdigits := toDigits_inj (String.ofList_injective h)
    omega
  plainIds := by
    intro k c hc
    rw [draw, String.toList_ofList] at hc
    have hatomic : atomic c = true := by
      simp [atomic, Char.isAlphanum, isDigit_of_mem_digits hc]
    exact ((plain_uses_unbroken true).atoms c hatomic).2

def decided (title content : String) : HandoffItem where
  kind := .decision
  memoryClass := .episodic
  title := title
  content := content

def moment (text : List Char)
    (shape : (isJsonNumber text && !text.isEmpty && text.all atomic) = true) :
    Option Expiry := some (.number ⟨text, shape⟩)

def call (items : List HandoffItem) (now : Rat) : CompactCall where
  handoff := { sessionId := "run-1", projectId := "p", items }
  now := now

def broken : CompactCall := call [decided "Py\u0085thon" "3.12"] 1760000001

def expired : CompactCall :=
  call [{ decided "Python" "3.12" with
      expiresAt := moment "1750000000".toList (by decide +kernel) },
    decided "Python" "3.12"] 1760000001

def joined : CompactCall :=
  call [{ decided "c" "d" with scopeId := "a|b" },
    { decided "b|c" "d" with scopeId := "a" }] 1760000001

def leaked : CompactCall :=
  call [decided "Pay" "42", { decided "Pay" "42" with isPrivate := true }]
    1760000001

def loaded (call : CompactCall) : List StrategicMemory :=
  (({} : MemoryWorld).after Python.lower sha256 draw
    call).store.load.toOption.getD []

def Loses (call : CompactCall) : Prop := ∃ item ∈ call.handoff.items,
  unexpired call.now item.expiresAt = true ∧ ∀ memory ∈ loaded call,
    ¬(unexpired call.now memory.expiresAt = true ∧
      memory.identity Python.lower =
        call.handoff.identity Python.lower item)

instance (call : CompactCall) : Decidable (Loses call) :=
  inferInstanceAs (Decidable (∃ item ∈ call.handoff.items, _))

theorem not_keeps_of_loses {call : CompactCall} (h : Loses call) :
    ¬KeepsMemory Python.lower sha256 draw {} call := by
  intro hkeeps
  obtain ⟨memories, hload, hlossless⟩ := hkeeps.stored
  have hloaded : loaded call = memories := by
    rw [loaded, hload]
    rfl
  obtain ⟨item, hitem, hvisible, hnone⟩ := h
  rw [hloaded] at hnone
  obtain ⟨memory, hmemory, hheld⟩ := hlossless.kept item hitem hvisible
  exact hnone memory hmemory hheld

def exported (call : CompactCall) : List Doc :=
  ((({} : MemoryWorld).after Python.lower sha256 draw
    call).store.exportRecords call.now "").toOption.getD []

theorem not_keeps_of_revealed {call : CompactCall} {secret : Secret}
    (hsecret : secret ∈ call.handoff.secrets)
    (h : ∃ record ∈ exported call, secret.RevealedBy record) :
    ¬KeepsMemory Python.lower sha256 draw {} call := by
  intro hkeeps
  obtain ⟨records, hrecords, hnone⟩ := hkeeps.exported call.now "" le_rfl
  have hexported : exported call = records := by
    rw [exported, hrecords]
    rfl
  rw [hexported] at h
  obtain ⟨record, hrecord, hrevealed⟩ := h
  exact hnone secret hsecret record hrecord hrevealed

/-- NEL breaks the file; an expired memory takes an item's place; a private one
is exported. -/
theorem broken_lost_and_leaked :
    FreshDraws sha256 draw ∧
    ∀ call ∈ [broken, expired, joined, leaked],
      Throughout (memoryStep Python.lower sha256 draw) ValidCall {} [call] ∧
      ¬Throughout (memoryStep Python.lower sha256 draw)
        (KeepsMemory Python.lower sha256 draw) {} [call] := by
  have hvalid : ∀ call ∈ [broken, expired, joined, leaked],
      Throughout (memoryStep Python.lower sha256 draw) ValidCall {} [call] := by
    decide +kernel
  have hfails : ∀ call ∈ [broken, expired, joined, leaked],
      ¬KeepsMemory Python.lower sha256 draw {} call := by
    have hloses : Loses broken ∧ Loses expired ∧ Loses joined := by
      decide +kernel
    have hleaked : ¬KeepsMemory Python.lower sha256 draw {} leaked :=
      not_keeps_of_revealed (List.mem_singleton.mpr rfl) (by decide +kernel)
    simp only [List.forall_mem_cons]
    exact ⟨not_keeps_of_loses hloses.1, not_keeps_of_loses hloses.2.1,
      not_keeps_of_loses hloses.2.2, hleaked, List.forall_mem_nil _⟩
  refine ⟨fresh_draws, fun call hcall => ⟨hvalid call hcall, ?_⟩⟩
  exact fun h => hfails call hcall h.head

/-- A decision of two calls, one that contradicts it, and a private one. -/
theorem two_handoffs_kept :
    Throughout (memoryStep Python.lower sha256 draw)
      (KeepsMemory Python.lower sha256 draw) { clock := 1760000000 }
      [call [decided "Python" " 3.12\n",
          { decided "Pay" "42" with isPrivate := true }] 1760000001,
        call [decided "python" "3.12", decided "Python" "3.13"]
          1760000002] :=
  memory_lossless Python.lower sha256 draw fresh_draws 1760000000 _
    (by decide +kernel) (by decide +kernel)

end LosslessWitness

end Voly
