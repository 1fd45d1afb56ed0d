/-
The local memory store: rows of a table, with metadata and tags as JSON text,
and the change counter.
-/
import Voly.Python.JsonLines
import Voly.Records.Keyed

namespace Voly.Memory

open Python

structure MemoryEntry where
  id : String
  category : String
  title : String
  content : String
  metadata : Doc
  importance : Option PyFloat
  tags : Doc

structure MemoryRow where
  id : String
  category : String
  title : String
  content : String
  metadata : List Char
  importance : Option PyFloat
  tags : List Char

/-- What a float is stored as: `NaN` becomes `NULL`. -/
def bindReal : Option PyFloat → Option PyFloat
  | some .nan => none
  | value => value

def MemoryEntry.row (entry : MemoryEntry) : MemoryRow where
  id := entry.id
  category := entry.category
  title := entry.title
  content := entry.content
  metadata := dumpsLine entry.metadata
  importance := bindReal entry.importance
  tags := dumpsLine entry.tags

/-- `_row_to_entry`, which raises where a text is no JSON. -/
def MemoryRow.toEntry (row : MemoryRow) : Option MemoryEntry := do
  let metadata ← loads row.metadata
  let tags ← loads row.tags
  return {
    id := row.id
    category := row.category
    title := row.title
    content := row.content
    metadata := metadata
    importance := row.importance
    tags := tags }

def validCategories : List String :=
  ["decision", "convention", "context", "history", "architect"]

/-- The arguments of `add`. -/
structure MemoryDraft where
  title : String
  content : String
  category : String := "context"
  metadata : Option (Dict Doc) := none
  importance : Option PyFloat := some (.finite (1 / 2))
  tags : Option (List String) := none
  memoryProfile : String := ""

def MemoryDraft.storedMetadata (draft : MemoryDraft) : Dict Doc :=
  let metadata := draft.metadata.getD []
  if draft.memoryProfile = "" then metadata
  else metadata.set "memory_profile" (.str draft.memoryProfile)

def MemoryDraft.entry (draft : MemoryDraft) (entryId : String) :
    MemoryEntry where
  id := entryId
  category := draft.category
  title := draft.title
  content := draft.content
  metadata := .dict draft.storedMetadata
  importance := draft.importance
  tags := stringsDoc (draft.tags.getD [])

/-- The arguments of `update` among the columns that it may set. -/
structure MemoryUpdate where
  title : Option String := none
  content : Option String := none
  category : Option String := none
  metadata : Option Doc := none
  importance : Option (Option PyFloat) := none
  tags : Option Doc := none

namespace MemoryUpdate

variable (updates : MemoryUpdate)

/-- `not updates`. -/
def isEmpty : Bool :=
  updates.title.isNone && updates.content.isNone &&
    updates.category.isNone && updates.metadata.isNone &&
    updates.importance.isNone && updates.tags.isNone

def set (row : MemoryRow) : MemoryRow where
  id := row.id
  category := updates.category.getD row.category
  title := updates.title.getD row.title
  content := updates.content.getD row.content
  metadata := (updates.metadata.map dumpsLine).getD row.metadata
  importance := (updates.importance.map bindReal).getD row.importance
  tags := (updates.tags.map dumpsLine).getD row.tags

end MemoryUpdate

/-- The table, and `conn.total_changes`. -/
structure MemoryStore where
  rows : List MemoryRow := []
  totalChanges : Nat := 0

/-- The rows that a statement touches, and what their triggers write. -/
def counted (touched triggered : Nat) : Nat :=
  if touched = 0 then 0 else touched + triggered

namespace MemoryStore

variable (store : MemoryStore)

/-- The rows that `WHERE id = ?` selects. -/
def touched (entryId : String) : Nat :=
  (store.rows.filter fun row => row.id = entryId).length

/-- `get`, which raises where `_row_to_entry` does. -/
def get (entryId : String) : Option (Option MemoryEntry) :=
  match Keyed.lookup MemoryRow.id entryId store.rows with
  | none => some none
  | some row => row.toEntry.map some

/-- `add` under its id; an unknown category raises, and so does a taken id. -/
def add (entryId : String) (triggered : Nat) (draft : MemoryDraft) :
    Option String × MemoryStore :=
  if draft.category ∉ validCategories then (none, store)
  else if entryId ∈ store.rows.map MemoryRow.id then (none, store)
  else
    (some entryId,
      { rows := store.rows ++ [(draft.entry entryId).row]
        totalChanges := store.totalChanges + counted 1 triggered })

def update (entryId : String) (triggered : Nat) (updates : MemoryUpdate) :
    Bool × MemoryStore :=
  if updates.isEmpty then (false, store)
  else
    let totalChanges :=
      store.totalChanges + counted (store.touched entryId) triggered
    (decide (0 < totalChanges),
      { rows := Keyed.change MemoryRow.id entryId updates.set store.rows
        totalChanges := totalChanges })

def delete (entryId : String) (triggered : Nat) : Bool × MemoryStore :=
  let totalChanges :=
    store.totalChanges + counted (store.touched entryId) triggered
  (decide (0 < totalChanges),
    { rows := Keyed.drop MemoryRow.id entryId store.rows
      totalChanges := totalChanges })

def clear (triggered : Nat) : MemoryStore where
  rows := []
  totalChanges := store.totalChanges + counted store.rows.length triggered

/-- The ids in the view of a profile, `json_extract` giving the profile of a
metadata text. -/
def scopedIds (jsonExtract : List Char → Option String) (profile : String) :
    List String :=
  (store.rows.filter fun row =>
    jsonExtract row.metadata = some profile).map MemoryRow.id

end MemoryStore

end Voly.Memory
