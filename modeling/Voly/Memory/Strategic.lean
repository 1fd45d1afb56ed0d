/-
The strategic memory store: typed memories with one JSON row a line, compaction
of handoffs, and export.
-/
import Voly.Python.JsonLines

namespace Voly

open Python

inductive MemoryClass where
  | episodic
  | semantic
  | procedural
  | preference
deriving DecidableEq

inductive MemoryScope where
  | project
  | organization
  | global
deriving DecidableEq

inductive MemoryKind where
  | decision
  | verifiedFact
  | failedAttempt
  | openQuestion
  | nextAction
deriving DecidableEq

def MemoryClass.value : MemoryClass → String
  | .episodic => "episodic"
  | .semantic => "semantic"
  | .procedural => "procedural"
  | .preference => "preference"

def MemoryClass.parse (value : String) : Option MemoryClass :=
  [MemoryClass.episodic, .semantic, .procedural, .preference].find?
    fun memoryClass => memoryClass.value = value

def MemoryScope.value : MemoryScope → String
  | .project => "project"
  | .organization => "organization"
  | .global => "global"

def MemoryScope.parse (value : String) : Option MemoryScope :=
  [MemoryScope.project, .organization, .global].find?
    fun scope => scope.value = value

def MemoryKind.value : MemoryKind → String
  | .decision => "decision"
  | .verifiedFact => "verified_fact"
  | .failedAttempt => "failed_attempt"
  | .openQuestion => "open_question"
  | .nextAction => "next_action"

def MemoryKind.parse (value : String) : Option MemoryKind :=
  [MemoryKind.decision, .verifiedFact, .failedAttempt, .openQuestion,
    .nextAction].find? fun kind => kind.value = value

/-- A time of expiry: a number as it is written, an infinity or NaN. -/
inductive Expiry where
  | number (value : JsonNumber)
  | infinite (negative : Bool)
  | nan
deriving DecidableEq

def infinityText (negative : Bool) : List Char :=
  if negative then "-Infinity".toList else "Infinity".toList

def expiryDoc : Option Expiry → Doc
  | none => .atom ⟨"null".toList, by decide⟩
  | some (.number value) => value.toDoc
  | some (.infinite negative) =>
      .atom ⟨infinityText negative, by cases negative <;> decide⟩
  | some .nan => .atom ⟨"NaN".toList, by decide⟩

/-- A value of any other type is not read here. -/
def readExpiry : Doc → Option (Option Expiry)
  | .atom x =>
      if x.text = "null".toList then some none
      else if x.text = infinityText false then some (some (.infinite false))
      else if x.text = infinityText true then some (some (.infinite true))
      else if x.text = "NaN".toList then some (some .nan)
      else (Doc.atom x).num?.map fun value => some (.number value)
  | _ => none

/-- `expires_at is None or expires_at > now`. -/
def unexpired (now : Rat) : Option Expiry → Bool
  | none => true
  | some (.number value) => now < value.value
  | some (.infinite negative) => !negative
  | some .nan => false

structure HandoffItem where
  kind : MemoryKind
  memoryClass : MemoryClass
  title : String
  content : String
  scope : MemoryScope := .project
  scopeId : String := ""
  provenance : List String := []
  isPrivate : Bool := false
  expiresAt : Option Expiry := none
deriving DecidableEq

structure SessionHandoff where
  sessionId : String
  projectId : String
  organizationId : String := ""
  items : List HandoffItem := []

structure StrategicMemory where
  id : String
  fingerprint : String
  kind : MemoryKind
  memoryClass : MemoryClass
  title : String
  content : String
  scope : MemoryScope
  scopeId : String
  provenance : List String
  isPrivate : Bool
  createdAt : JsonNumber
  expiresAt : Option Expiry := none
  contradicts : List String := []
deriving DecidableEq

def StrategicMemory.toDict (memory : StrategicMemory) : Doc := .dict [
  ("id", .str memory.id),
  ("fingerprint", .str memory.fingerprint),
  ("kind", .str memory.kind.value),
  ("memory_class", .str memory.memoryClass.value),
  ("title", .str memory.title),
  ("content", .str memory.content),
  ("scope", .str memory.scope.value),
  ("scope_id", .str memory.scopeId),
  ("provenance", stringsDoc memory.provenance),
  ("private", boolDoc memory.isPrivate),
  ("created_at", memory.createdAt.toDoc),
  ("expires_at", expiryDoc memory.expiresAt),
  ("contradicts", stringsDoc memory.contradicts)]

def StrategicMemory.fromDict (data : Doc) : Option StrategicMemory := do
  let id ← required data "id" Doc.str?
  let fingerprint ← required data "fingerprint" Doc.str?
  let kind ← required data "kind" fun value =>
    value.str? >>= MemoryKind.parse
  let memoryClass ← required data "memory_class" fun value =>
    value.str? >>= MemoryClass.parse
  let title ← required data "title" Doc.str?
  let content ← required data "content" Doc.str?
  let scope ← required data "scope" fun value =>
    value.str? >>= MemoryScope.parse
  let scopeId ← required data "scope_id" Doc.str?
  let provenance ← defaulted data "provenance" stringsOrEmpty []
  let isPrivate ← defaulted data "private" (fun value => some (truthy value))
    false
  let createdAt ← required data "created_at" Doc.num?
  let expiresAt ← defaulted data "expires_at" readExpiry none
  let contradicts ← defaulted data "contradicts" stringsOrEmpty []
  some {
    id, fingerprint, kind, memoryClass, title, content, scope, scopeId,
    provenance, isPrivate, createdAt, expiresAt, contradicts }

@[simp] theorem MemoryClass.parse_value (memoryClass : MemoryClass) :
    MemoryClass.parse memoryClass.value = some memoryClass := by
  cases memoryClass <;> decide +kernel

@[simp] theorem MemoryScope.parse_value (scope : MemoryScope) :
    MemoryScope.parse scope.value = some scope := by
  cases scope <;> decide +kernel

@[simp] theorem MemoryKind.parse_value (kind : MemoryKind) :
    MemoryKind.parse kind.value = some kind := by
  cases kind <;> decide +kernel

@[simp] theorem readExpiry_expiryDoc (expiry : Option Expiry) :
    readExpiry (expiryDoc expiry) = some expiry := by
  have hword (value : JsonNumber) (word : List Char)
      (h : isJsonNumber word = false) : value.text ≠ word := by
    intro heq
    have hshape := value.shape
    simp [heq, h] at hshape
  rcases expiry with _ | expiry
  · rfl
  cases expiry with
  | number value =>
      have hread := num?_toDoc value
      simp only [JsonNumber.toDoc] at hread
      simp [expiryDoc, JsonNumber.toDoc, readExpiry, hread,
        hword value ['n', 'u', 'l', 'l'] (by decide),
        hword value (infinityText false) (by decide),
        hword value (infinityText true) (by decide),
        hword value ['N', 'a', 'N'] (by decide)]
  | infinite negative => cases negative <;> decide +kernel
  | nan => decide +kernel

theorem memory_fromDict (memory : StrategicMemory) :
    StrategicMemory.fromDict memory.toDict = some memory := by
  simp [StrategicMemory.fromDict, StrategicMemory.toDict, required, defaulted,
    Doc.field?, Dict.get?, stringsOrEmpty_stringsDoc]

inductive MemoryError where
  | valueError (message : String)
  | unreadable
deriving DecidableEq

/-- The text of the file, where there is one. -/
structure StrategicStore where
  file : Option (List Char) := none

/-- What a memory takes from outside: `uuid4().hex` and `time()`. -/
structure Draw where
  id : String
  createdAt : JsonNumber

/-- The locals of `compact`; the added memories are the last ones. -/
structure Compaction where
  memories : List StrategicMemory
  fingerprints : List String
  added : Nat := 0

def SessionHandoff.scopeIdOf (handoff : SessionHandoff) (item : HandoffItem) :
    String :=
  orElse item.scopeId (match item.scope with
    | .project => handoff.projectId
    | .organization => handoff.organizationId
    | .global => "global")

section Compact

variable (lower : String → String) (sha256 : String → String)

/-- What `_fingerprint` hashes. -/
def normalizedText (kind : MemoryKind) (memoryClass : MemoryClass)
    (scope : MemoryScope) (scopeId title content : String) : String :=
  "|".intercalate [kind.value, memoryClass.value, scope.value, scopeId,
    lower (strip title), lower (strip content)]

def HandoffItem.fingerprint (item : HandoffItem) (scopeId : String) : String :=
  sha256 (normalizedText lower item.kind item.memoryClass item.scope scopeId
    item.title item.content)

/-- The memory says something else about what the item is about. -/
def StrategicMemory.isContradicted (memory : StrategicMemory)
    (item : HandoffItem) (scopeId : String) : Bool :=
  memory.kind = item.kind && memory.scope = item.scope &&
    memory.scopeId = scopeId &&
    lower (strip memory.title) = lower (strip item.title) &&
    lower (strip memory.content) ≠ lower (strip item.content)

/-- `existing.contradicts.append(memory.id)`, for the contradicted ones. -/
def StrategicMemory.link (contradictions : List String) (id : String)
    (existing : StrategicMemory) : StrategicMemory :=
  if existing.id ∈ contradictions ∧ id ∉ existing.contradicts then
    { existing with contradicts := existing.contradicts ++ [id] }
  else existing

def SessionHandoff.memory (handoff : SessionHandoff) (draw : Draw)
    (contradictions : List String) (item : HandoffItem) : StrategicMemory where
  id := draw.id
  fingerprint := item.fingerprint lower sha256 (handoff.scopeIdOf item)
  kind := item.kind
  memoryClass := item.memoryClass
  title := strip item.title
  content := strip item.content
  scope := item.scope
  scopeId := handoff.scopeIdOf item
  provenance :=
    if item.provenance = [] then ["session:" ++ handoff.sessionId]
    else item.provenance
  isPrivate := item.isPrivate
  createdAt := draw.createdAt
  expiresAt := item.expiresAt
  contradicts := contradictions

namespace Compaction

variable (handoff : SessionHandoff) (draws : Nat → Draw) (run : Compaction)
variable (item : HandoffItem)

def contradictions : List String :=
  (run.memories.filter fun memory =>
    memory.isContradicted lower item (handoff.scopeIdOf item)).map
      StrategicMemory.id

def memory : StrategicMemory :=
  handoff.memory lower sha256 (draws run.added)
    (run.contradictions lower handoff item) item

/-- The memories with the new one, and links to it. -/
def append : Compaction where
  memories := run.memories.map (StrategicMemory.link
    (run.contradictions lower handoff item) (draws run.added).id) ++
      [run.memory lower sha256 handoff draws item]
  fingerprints :=
    item.fingerprint lower sha256 (handoff.scopeIdOf item) :: run.fingerprints
  added := run.added + 1

end Compaction

/-- One pass of the loop of `compact`. -/
def compactItem (handoff : SessionHandoff) (draws : Nat → Draw)
    (run : Compaction) (item : HandoffItem) : Except MemoryError Compaction :=
  let scopeId := handoff.scopeIdOf item
  if scopeId = "" then
    .error (.valueError
      ("scope_id required for " ++ item.scope.value ++ " memory"))
  else if item.fingerprint lower sha256 scopeId ∈ run.fingerprints then .ok run
  else .ok (run.append lower sha256 handoff draws item)

end Compact

namespace StrategicStore

variable (store : StrategicStore)

def readRow (line : List Char) : Option StrategicMemory :=
  (loads line).filter Doc.proper >>= StrategicMemory.fromDict

def load : Except MemoryError (List StrategicMemory) :=
  match store.file with
  | none => .ok []
  | some text =>
      match (filledLines text).mapM readRow with
      | some memories => .ok memories
      | none => .error .unreadable

def save (memories : List StrategicMemory) : StrategicStore :=
  { file := some (linesText (memories.map StrategicMemory.toDict)) }

/-- `compact`: nothing is saved when it raises. -/
def compact (lower sha256 : String → String) (draws : Nat → Draw)
    (handoff : SessionHandoff) :
    Except MemoryError (List StrategicMemory) × StrategicStore :=
  match store.load with
  | .error e => (.error e, store)
  | .ok memories =>
      match handoff.items.foldlM (compactItem lower sha256 handoff draws)
          ⟨memories, memories.map StrategicMemory.fingerprint, 0⟩ with
      | .error e => (.error e, store)
      | .ok run =>
          (.ok (run.memories.drop (run.memories.length - run.added)),
            save run.memories)

def exportRecords (now : Rat) (projectId : String) :
    Except MemoryError (List Doc) :=
  match store.load with
  | .error e => .error e
  | .ok memories =>
      .ok ((memories.filter fun memory =>
        !memory.isPrivate && unexpired now memory.expiresAt &&
          (projectId = "" || memory.scope ≠ .project ||
            memory.scopeId = projectId)).map StrategicMemory.toDict)

end StrategicStore

end Voly
