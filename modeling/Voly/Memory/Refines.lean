/-
Runs of calls of the memory store beside the map that they stand for.
-/
import Voly.Interaction.Steps
import Voly.Memory.Store

namespace Voly.Memory

open Python Interaction

inductive MemoryCall where
  | add (entryId : String) (draft : MemoryDraft)
  | update (entryId : String) (updates : MemoryUpdate)
  | delete (entryId : String)
  | clear

/-- What an id stands for. -/
structure Written where
  entry : MemoryEntry
  profile : String

def Written.overwrite (written : Written) (updates : MemoryUpdate) : Written :=
  let entry := written.entry
  { written with
    entry :=
      { id := entry.id
        category := updates.category.getD entry.category
        title := updates.title.getD entry.title
        content := updates.content.getD entry.content
        metadata := updates.metadata.getD entry.metadata
        importance := updates.importance.getD entry.importance
        tags := updates.tags.getD entry.tags } }

abbrev MemoryMap := String → Option Written

/-- An entry is added, overwritten or deleted, or all are deleted. -/
def MemoryMap.call (map : MemoryMap) : MemoryCall → MemoryMap
  | .add entryId draft =>
      if draft.category ∈ validCategories ∧ map entryId = none then
        Function.update map entryId
          (some ⟨draft.entry entryId, draft.memoryProfile⟩)
      else map
  | .update entryId updates =>
      Function.update map entryId
        ((map entryId).map fun written => written.overwrite updates)
  | .delete entryId => Function.update map entryId none
  | .clear => fun _ => none

/-- What a call tells: whether the id was there. -/
def MemoryMap.told (map : MemoryMap) : MemoryCall → Option Bool
  | .update entryId _ => some (map entryId).isSome
  | .delete entryId => some (map entryId).isSome
  | _ => none

structure MemoryWorld where
  store : MemoryStore
  map : MemoryMap

/-- A connection that was opened on a new file; `opened` is what the schema
counts. -/
def MemoryWorld.opened (opened : Nat) : MemoryWorld where
  store := { totalChanges := opened }
  map _ := none

/-- The store after a call; `triggered` is what the triggers count. -/
def MemoryStore.call (triggered : Nat) (store : MemoryStore) :
    MemoryCall → MemoryStore
  | .add entryId draft => (store.add entryId triggered draft).2
  | .update entryId updates => (store.update entryId triggered updates).2
  | .delete entryId => (store.delete entryId triggered).2
  | .clear => store.clear triggered

def MemoryStore.told (triggered : Nat) (store : MemoryStore) :
    MemoryCall → Option Bool
  | .update entryId updates => some (store.update entryId triggered updates).1
  | .delete entryId => some (store.delete entryId triggered).1
  | _ => none

abbrev CountedCall := Nat × MemoryCall

def memoryStep (world : MemoryWorld) (event : CountedCall) :
    Option MemoryWorld :=
  some
    { store := world.store.call event.1 event.2
      map := world.map.call event.2 }

section Laws

variable (jsonExtract : List Char → Option String)

/-- The store reads as the map; each entry is in its own profile's view. -/
structure Agrees (store : MemoryStore) (map : MemoryMap) : Prop where
  get : ∀ entryId, store.get entryId =
    some ((map entryId).map Written.entry)
  categories : ∀ row ∈ store.rows, row.category ∈ validCategories
  profiles : ∀ entryId written, map entryId = some written →
    written.profile ≠ "" →
      entryId ∈ store.scopedIds jsonExtract written.profile

/-- The call tells the truth and leaves a store that agrees with its map. -/
def Refines (world : MemoryWorld) (event : CountedCall) : Prop :=
  world.store.told event.1 event.2 = world.map.told event.2 ∧
    ∀ next, memoryStep world event = some next →
      Agrees jsonExtract next.store next.map

/-- An update writes a valid category, a number, and its own profile. -/
structure Keeps (written : Written) (updates : MemoryUpdate) : Prop where
  category : ∀ category ∈ updates.category, category ∈ validCategories
  importance : updates.importance ≠ some (some .nan)
  metadata : ∀ metadata ∈ updates.metadata, written.profile ≠ "" →
    jsonExtract (dumpsLine metadata) = some written.profile

/-- An update sets something sound; a missing id is met before the first change.
-/
def Fits (world : MemoryWorld) : CountedCall → Prop
  | (_, .add entryId draft) =>
      draft.category ∈ validCategories → world.map entryId = none →
        draft.importance ≠ some .nan
  | (_, .update entryId updates) =>
      (world.map entryId = none →
        updates.isEmpty = true ∨ world.store.totalChanges = 0) ∧
      ∀ written ∈ world.map entryId,
        updates.isEmpty = false ∧ Keeps jsonExtract written updates
  | (_, .delete entryId) =>
      world.map entryId = none → world.store.totalChanges = 0
  | (_, .clear) => True

/-- An entry that the columns hold as it is. -/
structure Held (written : Written) : Prop where
  category : written.entry.category ∈ validCategories
  importance : written.entry.importance ≠ some .nan
  profile : written.profile ≠ "" →
    jsonExtract (dumpsLine written.entry.metadata) = some written.profile

def AllHeld (map : MemoryMap) : Prop :=
  ∀ entryId written, map entryId = some written → Held jsonExtract written

/-- `json_extract` reads a text that is a member of an object. -/
def ExtractsText : Prop :=
  ∀ fields profile, Dict.get? fields "memory_profile" = some (.str profile) →
    jsonExtract (dumpsLine (.dict fields)) = some profile

end Laws

/-- The rows are those of the map. -/
structure Mirrors (store : MemoryStore) (map : MemoryMap) : Prop where
  nodup : (store.rows.map MemoryRow.id).Nodup
  lookup : ∀ entryId, Keyed.lookup MemoryRow.id entryId store.rows =
    (map entryId).map fun written => written.entry.row
  ids : ∀ entryId written, map entryId = some written →
    written.entry.id = entryId

theorem toEntry_row (entry : MemoryEntry) : entry.row.toEntry =
    some { entry with importance := bindReal entry.importance } := by
  simp [MemoryEntry.row, MemoryRow.toEntry, loads_dumpsLine]

theorem bindReal_eq_self {importance : Option PyFloat} :
    bindReal importance = importance ↔ importance ≠ some .nan := by
  rcases importance with _ | _ | _ | _ <;> simp [bindReal]

theorem row_overwrite (written : Written) (updates : MemoryUpdate) :
    (written.overwrite updates).entry.row =
      updates.set written.entry.row := by
  obtain ⟨title, content, category, metadata, importance, tags⟩ := updates
  cases metadata <;> cases importance <;> cases tags <;> rfl

theorem overwrite_isEmpty {updates : MemoryUpdate}
    (h : updates.isEmpty = true) (written : Written) :
    written.overwrite updates = written := by
  simp only [MemoryUpdate.isEmpty, Bool.and_eq_true,
    Option.isNone_iff_eq_none, and_assoc] at h
  obtain ⟨htitle, hcontent, hcategory, hmetadata, himportance, htags⟩ := h
  simp [Written.overwrite, htitle, hcontent, hcategory, hmetadata,
    himportance, htags]

section Mirrored

variable {jsonExtract : List Char → Option String}
variable {store : MemoryStore} {map : MemoryMap} {written : Written}
variable {entryId : String} {triggered : Nat}

section

variable (h : Mirrors store map)
include h

theorem Mirrors.exists_written {row : MemoryRow} (hrow : row ∈ store.rows) :
    ∃ written, map row.id = some written ∧ written.entry.row = row := by
  have hlookup := h.lookup row.id
  rw [Keyed.lookup_key h.nodup hrow] at hlookup
  exact Option.map_eq_some_iff.mp hlookup.symm

theorem Mirrors.row_mem (hwritten : map entryId = some written) :
    written.entry.row ∈ store.rows := by
  have hlookup := h.lookup entryId
  rw [hwritten] at hlookup
  exact Keyed.mem_of_lookup hlookup

theorem Mirrors.taken_iff :
    entryId ∈ store.rows.map MemoryRow.id ↔ map entryId ≠ none := by
  rw [← not_iff_not, not_not, ← Keyed.lookup_eq_none_iff, h.lookup,
    Option.map_eq_none_iff]

theorem Mirrors.touched :
    store.touched entryId = (map entryId).toList.length := by
  rw [MemoryStore.touched, Keyed.filter_key h.nodup, h.lookup]
  cases map entryId <;> rfl

theorem Mirrors.get : store.get entryId =
    some ((map entryId).map fun written =>
      { written.entry with
        importance := bindReal written.entry.importance }) := by
  rw [MemoryStore.get, h.lookup]
  cases map entryId with
  | none => rfl
  | some written => simp [toEntry_row]

/-- With the map's rows, the store agrees iff every entry is held as it is. -/
theorem Mirrors.agrees_iff :
    Agrees jsonExtract store map ↔ AllHeld jsonExtract map := by
  constructor
  · intro hagrees entryId written hwritten
    have hrow := h.row_mem hwritten
    refine ⟨hagrees.categories _ hrow, ?_, fun hprofile => ?_⟩
    · have hget := hagrees.get entryId
      rw [h.get, hwritten] at hget
      simp only [Option.map_some, Option.some.injEq] at hget
      exact bindReal_eq_self.mp (congrArg MemoryEntry.importance hget)
    · have hscoped := hagrees.profiles entryId written hwritten hprofile
      obtain ⟨row, hmem, hid⟩ := List.mem_map.mp hscoped
      obtain ⟨hmem, hextract⟩ := List.mem_filter.mp hmem
      have hsame : row = written.entry.row :=
        List.inj_on_of_nodup_map h.nodup hmem hrow
          (hid.trans (h.ids entryId written hwritten).symm)
      rw [hsame] at hextract
      exact of_decide_eq_true hextract
  · intro hheld
    refine ⟨fun entryId => ?_, fun row hrow => ?_,
      fun entryId written hwritten hprofile => ?_⟩
    · rw [h.get]
      cases hwritten : map entryId with
      | none => rfl
      | some written =>
          have himportance := bindReal_eq_self.mpr
            (hheld entryId written hwritten).importance
          simp [himportance]
    · obtain ⟨written, hwritten, hsame⟩ := h.exists_written hrow
      rw [← hsame]
      exact (hheld _ written hwritten).category
    · have hextract := (hheld entryId written hwritten).profile hprofile
      rw [← h.ids entryId written hwritten]
      exact List.mem_map_of_mem (List.mem_filter.mpr
        ⟨h.row_mem hwritten, decide_eq_true hextract⟩)

end

theorem Mirrors.opened (opened : Nat) :
    Mirrors { totalChanges := opened } fun _ => none where
  nodup := List.nodup_nil
  lookup _ := rfl
  ids _ _ h := by cases h

theorem Mirrors.add (h : Mirrors store map) (draft : MemoryDraft) :
    Mirrors (store.add entryId triggered draft).2
      (map.call (.add entryId draft)) := by
  rw [MemoryStore.add, MemoryMap.call]
  by_cases hcategory : draft.category ∈ validCategories
  · by_cases hnew : map entryId = none
    · have htaken : entryId ∉ store.rows.map MemoryRow.id := by
        rw [h.taken_iff]
        exact not_not.mpr hnew
      have hadded : store.rows ++ [(draft.entry entryId).row] =
          Keyed.put MemoryRow.id (draft.entry entryId).row store.rows :=
        (Keyed.put_new htaken).symm
      rw [if_neg (not_not.mpr hcategory), if_neg htaken,
        if_pos ⟨hcategory, hnew⟩, hadded]
      have hid : (draft.entry entryId).row.id = entryId := rfl
      refine ⟨Keyed.nodup_put h.nodup, fun other => ?_,
        fun other written hwritten => ?_⟩
      · rw [Keyed.lookup_put, Function.update_apply, hid, h.lookup]
        by_cases hother : other = entryId
        · simp [hother]
        · simp [hother, Ne.symm hother]
      · rw [Function.update_apply] at hwritten
        split at hwritten
        · next hother =>
            cases hwritten
            exact hother.symm
        · exact h.ids other written hwritten
    · have htaken := h.taken_iff.mpr hnew
      rw [if_neg (not_not.mpr hcategory), if_pos htaken,
        if_neg fun hboth => hnew hboth.2]
      exact h
  · rw [if_pos hcategory, if_neg fun hboth => hcategory hboth.1]
    exact h

theorem Mirrors.update (h : Mirrors store map) (updates : MemoryUpdate) :
    Mirrors (store.update entryId triggered updates).2
      (map.call (.update entryId updates)) := by
  rw [MemoryStore.update, MemoryMap.call]
  by_cases hempty : updates.isEmpty = true
  · have hsame : Function.update map entryId ((map entryId).map
        fun written => written.overwrite updates) = map := by
      simp [overwrite_isEmpty hempty]
    rw [if_pos hempty, hsame]
    exact h
  · rw [if_neg hempty]
    have hid : ∀ row : MemoryRow, (updates.set row).id = row.id :=
      fun row => rfl
    refine ⟨?_, fun other => ?_, fun other written hwritten => ?_⟩
    · rw [Keyed.keys_change hid]
      exact h.nodup
    · rw [Keyed.lookup_change hid, Function.update_apply, h.lookup, h.lookup]
      split
      · simp [Function.comp_def, row_overwrite]
      · rfl
    · rw [Function.update_apply] at hwritten
      split at hwritten
      · next hother =>
          obtain ⟨before, hbefore, rfl⟩ := Option.map_eq_some_iff.mp hwritten
          exact (h.ids entryId before hbefore).trans hother.symm
      · exact h.ids other written hwritten

theorem Mirrors.delete (h : Mirrors store map) :
    Mirrors (store.delete entryId triggered).2
      (map.call (.delete entryId)) := by
  rw [MemoryStore.delete, MemoryMap.call]
  refine ⟨Keyed.nodup_drop h.nodup, fun other => ?_,
    fun other written hwritten => ?_⟩
  · rw [Keyed.lookup_drop, Function.update_apply, h.lookup]
    split <;> rfl
  · rw [Function.update_apply] at hwritten
    split at hwritten
    · cases hwritten
    · exact h.ids other written hwritten

theorem Mirrors.call (h : Mirrors store map) (call : MemoryCall) :
    Mirrors (store.call triggered call) (map.call call) := by
  cases call with
  | add entryId draft => exact h.add draft
  | update entryId updates => exact h.update updates
  | delete entryId => exact h.delete
  | clear => exact Mirrors.opened _

theorem counted_pos {touched : Nat} : 0 < counted touched triggered ↔
    0 < touched := by
  unfold counted
  split <;> omega

/-- The counter is above zero if the id was there or anything was changed. -/
theorem Mirrors.counter (h : Mirrors store map) :
    0 < store.totalChanges + counted (store.touched entryId) triggered ↔
      map entryId ≠ none ∨ store.totalChanges ≠ 0 := by
  have htouched : 0 < counted (store.touched entryId) triggered ↔
      map entryId ≠ none := by
    rw [counted_pos, h.touched]
    cases map entryId <;> simp
  rw [← htouched]
  omega

theorem Mirrors.counter_decide (h : Mirrors store map) :
    decide (0 < store.totalChanges +
        counted (store.touched entryId) triggered) =
      ((map entryId).isSome || decide (store.totalChanges ≠ 0)) := by
  rw [Bool.eq_iff_iff, decide_eq_true_iff, h.counter]
  simp [Option.isSome_iff_ne_none]

theorem Mirrors.told_delete (h : Mirrors store map) :
    store.told triggered (.delete entryId) = map.told (.delete entryId) ↔
      (map entryId = none → store.totalChanges = 0) := by
  rw [MemoryStore.told, MemoryStore.delete, h.counter_decide, MemoryMap.told]
  cases map entryId <;> simp

theorem Mirrors.told_update (h : Mirrors store map)
    (updates : MemoryUpdate) :
    store.told triggered (.update entryId updates) =
        map.told (.update entryId updates) ↔
      if map entryId = none then
        updates.isEmpty = true ∨ store.totalChanges = 0
      else updates.isEmpty = false := by
  rw [MemoryStore.told, MemoryStore.update, MemoryMap.told]
  by_cases hempty : updates.isEmpty = true
  · rw [if_pos hempty]
    cases map entryId <;> simp [hempty]
  · rw [if_neg hempty]
    dsimp only
    rw [h.counter_decide]
    cases map entryId <;> simp [hempty]

theorem AllHeld.update_iff {other : Option Written}
    (h : AllHeld jsonExtract map) :
    AllHeld jsonExtract (Function.update map entryId other) ↔
      ∀ written ∈ other, Held jsonExtract written := by
  constructor
  · intro hall written hwritten
    apply hall entryId written
    rw [Function.update_self]
    exact hwritten
  · intro hother held written hwritten
    rw [Function.update_apply] at hwritten
    split at hwritten
    · exact hother written hwritten
    · exact h held written hwritten

theorem held_draft_iff (hextract : ExtractsText jsonExtract)
    {draft : MemoryDraft} (hcategory : draft.category ∈ validCategories) :
    Held jsonExtract ⟨draft.entry entryId, draft.memoryProfile⟩ ↔
      draft.importance ≠ some .nan := by
  refine ⟨Held.importance, fun himportance => ⟨hcategory, himportance, ?_⟩⟩
  intro hprofile
  apply hextract
  have hprofile : draft.memoryProfile ≠ "" := hprofile
  simp [MemoryDraft.storedMetadata, hprofile]

theorem Held.overwrite_iff (h : Held jsonExtract written)
    (updates : MemoryUpdate) :
    Held jsonExtract (written.overwrite updates) ↔
      Keeps jsonExtract written updates := by
  constructor
  · intro hafter
    refine ⟨fun category hgiven => ?_, fun hgiven => ?_,
      fun metadata hgiven hprofile => ?_⟩
    · have hcategory := hafter.category
      simpa [Written.overwrite, Option.mem_def.mp hgiven] using hcategory
    · apply hafter.importance
      simp [Written.overwrite, hgiven]
    · have hextracted := hafter.profile hprofile
      simpa [Written.overwrite, Option.mem_def.mp hgiven] using hextracted
  · intro hkeeps
    refine ⟨?_, ?_, fun hprofile => ?_⟩
    · cases hgiven : updates.category with
      | none => simpa [Written.overwrite, hgiven] using h.category
      | some category =>
          simpa [Written.overwrite, hgiven] using
            hkeeps.category category hgiven
    · cases hgiven : updates.importance with
      | none => simpa [Written.overwrite, hgiven] using h.importance
      | some importance =>
          simpa [Written.overwrite, hgiven] using hkeeps.importance
    · cases hgiven : updates.metadata with
      | none => simpa [Written.overwrite, hgiven] using h.profile hprofile
      | some metadata =>
          simpa [Written.overwrite, hgiven] using
            hkeeps.metadata metadata hgiven hprofile

theorem refines_iff (hextract : ExtractsText jsonExtract)
    (hmirrors : Mirrors store map) (hheld : AllHeld jsonExtract map)
    (event : CountedCall) :
    Refines jsonExtract ⟨store, map⟩ event ↔
      Fits jsonExtract ⟨store, map⟩ event := by
  obtain ⟨triggered, call⟩ := event
  have hagrees : (∀ next, memoryStep ⟨store, map⟩ (triggered, call) =
      some next → Agrees jsonExtract next.store next.map) ↔
        AllHeld jsonExtract (map.call call) := by
    have hnext : Mirrors (store.call triggered call) (map.call call) :=
      hmirrors.call call
    rw [← hnext.agrees_iff]
    simp [memoryStep]
  rw [Refines, hagrees]
  cases call with
  | add entryId draft =>
      simp only [MemoryStore.told, MemoryMap.told, MemoryMap.call, Fits,
        true_and]
      by_cases hadded : draft.category ∈ validCategories ∧ map entryId = none
      · rw [if_pos hadded, hheld.update_iff]
        simp [held_draft_iff hextract hadded.1, hadded]
      · rw [if_neg hadded]
        refine iff_of_true hheld fun hcategory hnew => ?_
        exact absurd ⟨hcategory, hnew⟩ hadded
  | update entryId updates =>
      rw [hmirrors.told_update, MemoryMap.call, hheld.update_iff]
      cases hwritten : map entryId with
      | none => simp [Fits, hwritten]
      | some written =>
          have hover := (hheld entryId written hwritten).overwrite_iff updates
          simp [Fits, hwritten, hover]
  | delete entryId =>
      rw [hmirrors.told_delete, MemoryMap.call, hheld.update_iff]
      simp [Fits]
  | clear =>
      simp [MemoryStore.told, MemoryMap.told, MemoryMap.call, Fits, AllHeld]

end Mirrored

/-- Every call tells the truth and leaves the store as the map iff every call
fits. -/
theorem store_refines_iff {jsonExtract : List Char → Option String}
    (hextract : ExtractsText jsonExtract) (opened : Nat)
    (calls : List CountedCall) :
    Throughout memoryStep (Refines jsonExtract) (.opened opened) calls ↔
      Throughout memoryStep (Fits jsonExtract) (.opened opened) calls := by
  refine throughout_iff (fun world => Mirrors world.store world.map ∧
    AllHeld jsonExtract world.map) ?_ ?_ ⟨Mirrors.opened opened, ?_⟩ calls
  · exact fun world event h => refines_iff hextract h.1 h.2 event
  · rintro world event next ⟨hmirrors, hheld⟩ ⟨htold, hagrees⟩ hstep
    cases hstep
    have hnext : Mirrors (world.store.call event.1 event.2)
        (world.map.call event.2) :=
      hmirrors.call event.2
    exact ⟨hnext, hnext.agrees_iff.mp (hagrees _ rfl)⟩
  · intro entryId written h
    cases h

section Decided

variable (jsonExtract : List Char → Option String)

theorem keeps_iff {written : Written} {updates : MemoryUpdate} :
    Keeps jsonExtract written updates ↔
      (∀ category ∈ updates.category, category ∈ validCategories) ∧
      updates.importance ≠ some (some .nan) ∧
      ∀ metadata ∈ updates.metadata, written.profile ≠ "" →
        jsonExtract (dumpsLine metadata) = some written.profile :=
  ⟨fun h => ⟨h.category, h.importance, h.metadata⟩,
    fun h => ⟨h.1, h.2.1, h.2.2⟩⟩

instance (written : Written) (updates : MemoryUpdate) :
    Decidable (Keeps jsonExtract written updates) :=
  decidable_of_iff _ (keeps_iff jsonExtract).symm

instance (world : MemoryWorld) :
    (event : CountedCall) → Decidable (Fits jsonExtract world event)
  | (_, .add entryId draft) =>
      inferInstanceAs (Decidable (draft.category ∈ validCategories →
        world.map entryId = none → draft.importance ≠ some .nan))
  | (_, .update entryId updates) =>
      inferInstanceAs (Decidable ((world.map entryId = none →
        updates.isEmpty = true ∨ world.store.totalChanges = 0) ∧
        ∀ written ∈ world.map entryId,
          updates.isEmpty = false ∧ Keeps jsonExtract written updates))
  | (_, .delete entryId) =>
      inferInstanceAs (Decidable (world.map entryId = none →
        world.store.totalChanges = 0))
  | (_, .clear) => inferInstanceAs (Decidable True)

end Decided

namespace RefinesWitness

def memoryProfile (text : List Char) : Option String :=
  match loads text with
  | some (.dict fields) =>
      (Dict.get? fields "memory_profile").bind Doc.str?
  | _ => none

theorem extractsText_memoryProfile : ExtractsText memoryProfile := by
  intro fields profile hprofile
  simp [memoryProfile, loads_dumpsLine, hprofile, Doc.str?]

def note : MemoryDraft where
  title := "deploy"
  content := "blue green"
  category := "decision"
  memoryProfile := "work"

def misled : List MemoryCall :=
  [.delete "missing",
    .update "a" { metadata := some (.dict [("reviewed", .str "yes")]) },
    .update "a" { category := some "scratch" }, .update "a" {}]

theorem misled_calls : misled.Forall fun call =>
    ¬Throughout memoryStep (Refines memoryProfile) (.opened 0)
      [(5, .add "a" note), (5, call)] := by
  have hlaw : ∀ {call}, Throughout memoryStep (Refines memoryProfile)
      (.opened 0) [(5, .add "a" note), (5, call)] → _ :=
    fun h => (h.tail rfl).head
  simp only [misled, List.Forall]
  refine ⟨fun h => ?_, fun h => ?_, fun h => ?_, fun h => ?_⟩
  · have htold := (hlaw h).1
    revert htold
    decide +kernel
  · have hscoped := ((hlaw h).2 _ rfl).profiles "a" _ rfl
    revert hscoped
    decide +kernel
  · have hcategories := ((hlaw h).2 _ rfl).categories
    revert hcategories
    decide +kernel
  · have htold := (hlaw h).1
    revert htold
    decide +kernel

def kept : List CountedCall :=
  [(0, .delete "missing"), (9, .add "a" note), (9, .add "a" note),
    (9, .add "b" { note with category := "scratch" }),
    (9, .add "c" { note with memoryProfile := "" }),
    (7, .update "a"
      { title := some "deploy again"
        metadata := some (.dict [("memory_profile", .str "work")])
        tags := some (stringsDoc ["ops"]) }),
    (7, .update "c" { category := some "history" }),
    (7, .update "b" {}), (7, .delete "c"), (9, .clear)]

theorem kept_refines :
    Throughout memoryStep (Refines memoryProfile) (.opened 0) kept :=
  (store_refines_iff extractsText_memoryProfile 0 kept).mpr
    (by decide +kernel)

end RefinesWitness

end Voly.Memory
