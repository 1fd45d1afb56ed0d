/-
What `retrieve` selects of the strategic memories, as far as a budget and the
limits allow.
-/
import Voly.Memory.Strategic

namespace Voly

open Python

/-- The project and the organization that a caller reads for. -/
structure Audience where
  projectId : String
  organizationId : String := ""

structure RetrieveLimits where
  tokenBudget : Int := 600
  perClassLimit : Int := 3

/-- `text.split()`. -/
def splitWords (text : String) : List String :=
  ((text.toList.splitOnP isSpace).filter (· ≠ [])).map String.ofList

/-- `max(1, (len(title) + len(content)) // 4)`. -/
def StrategicMemory.cost (memory : StrategicMemory) : Nat :=
  max 1 ((memory.title.length + memory.content.length) / 4)

def StrategicMemory.isVisible (now : Rat) (audience : Audience)
    (memory : StrategicMemory) : Bool :=
  unexpired now memory.expiresAt &&
    match memory.scope with
    | .project => memory.scopeId = audience.projectId
    | .organization => audience.organizationId ≠ "" &&
        memory.scopeId = audience.organizationId
    | .global => true

/-- The locals of the selection; `class_counts` is zero without an entry. -/
structure Selection where
  selected : List StrategicMemory := []
  classCounts : MemoryClass → Nat := fun _ => 0
  used : Nat := 0

/-- One pass of the loop of `retrieve`. -/
def Selection.consider (limits : RetrieveLimits) (run : Selection)
    (memory : StrategicMemory) : Selection :=
  if limits.perClassLimit ≤ run.classCounts memory.memoryClass then run
  else if limits.tokenBudget < run.used + memory.cost then run
  else {
    selected := run.selected ++ [memory]
    classCounts := Function.update run.classCounts memory.memoryClass
      (run.classCounts memory.memoryClass + 1)
    used := run.used + memory.cost }

section Retrieve

variable (lower : String → String) (float : JsonNumber → Rat)

def queryTerms (query : String) : List String :=
  (((splitWords query).filter fun word => 4 ≤ word.length).map lower).dedup

/-- How many terms the memory holds. -/
def StrategicMemory.hits (terms : List String) (memory : StrategicMemory) :
    Nat :=
  terms.countP fun term =>
    contains (lower (memory.title ++ " " ++ memory.content)) term

/-- The order of the sort key: more terms first, then later ones. -/
def RankedBefore (terms : List String) (memory other : StrategicMemory) :
    Prop :=
  other.hits lower terms < memory.hits lower terms ∨
    other.hits lower terms = memory.hits lower terms ∧
      float other.createdAt ≤ float memory.createdAt

instance (terms : List String) : DecidableRel (RankedBefore lower float terms) :=
  fun _ _ => inferInstanceAs (Decidable (_ ∨ _))

def StrategicStore.retrieve (now : Rat) (audience : Audience)
    (limits : RetrieveLimits) (query : String) (store : StrategicStore) :
    Except MemoryError (List StrategicMemory) :=
  match store.load with
  | .error e => .error e
  | .ok memories =>
      let visible := (memories.filter
        (StrategicMemory.isVisible now audience)).insertionSort
          (RankedBefore lower float (queryTerms lower query))
      .ok (visible.foldl (Selection.consider limits) {}).selected

end Retrieve

/-- The selected memories and the counts of them. -/
structure Selection.Within (limits : RetrieveLimits)
    (visible : List StrategicMemory) (run : Selection) : Prop where
  taken : ∀ memory ∈ run.selected, memory ∈ visible
  used : run.used = (run.selected.map StrategicMemory.cost).sum
  counts : ∀ memoryClass, run.classCounts memoryClass =
    run.selected.countP fun memory => memory.memoryClass = memoryClass
  budget : (run.used : Int) ≤ limits.tokenBudget
  limited : ∀ memoryClass,
    (run.classCounts memoryClass : Int) ≤ limits.perClassLimit

theorem Selection.Within.consider {limits : RetrieveLimits}
    {visible : List StrategicMemory} {run : Selection}
    (h : run.Within limits visible) {memory : StrategicMemory}
    (hmemory : memory ∈ visible) :
    (run.consider limits memory).Within limits visible := by
  unfold Selection.consider
  split
  · exact h
  split
  · exact h
  · next hcount hcost =>
      refine ⟨?_, ?_, ?_, by simpa using hcost, ?_⟩
      · intro other hother
        rcases List.mem_append.mp hother with hother | hother
        · exact h.taken other hother
        · rwa [List.mem_singleton.mp hother]
      · rw [h.used, List.map_append, List.sum_append]
        simp
      · intro memoryClass
        rw [List.countP_append, ← h.counts memoryClass]
        by_cases hclass : memory.memoryClass = memoryClass
        · subst hclass
          simp
        · simp [hclass, Function.update_of_ne (Ne.symm hclass)]
      · intro memoryClass
        dsimp only
        by_cases hclass : memoryClass = memory.memoryClass
        · subst hclass
          rw [Function.update_self]
          push_cast
          omega
        · rw [Function.update_of_ne hclass]
          exact h.limited memoryClass

theorem Selection.Within.foldl {limits : RetrieveLimits}
    {visible rest : List StrategicMemory} {run : Selection}
    (h : run.Within limits visible) (hrest : ∀ memory ∈ rest, memory ∈ visible) :
    (rest.foldl (Selection.consider limits) run).Within limits visible := by
  induction rest generalizing run with
  | nil => exact h
  | cons memory rest ih =>
      obtain ⟨hmemory, hrest⟩ := List.forall_mem_cons.mp hrest
      exact ih (h.consider hmemory) hrest

/-- A memory of another project or organization. -/
def StrategicMemory.isForeign (audience : Audience)
    (memory : StrategicMemory) : Bool :=
  match memory.scope with
  | .project => memory.scopeId ≠ audience.projectId
  | .organization => memory.scopeId ≠ audience.organizationId
  | .global => false

def ownMemories (audience : Audience) (memories : List StrategicMemory) :
    List StrategicMemory :=
  memories.filter fun memory => !memory.isForeign audience

/-- Every memory is unexpired and visible, and together they keep the limits. -/
structure Retrieved (now : Rat) (audience : Audience)
    (limits : RetrieveLimits) (memories selected : List StrategicMemory) :
    Prop where
  visible : ∀ memory ∈ selected, memory ∈ memories ∧
    unexpired now memory.expiresAt = true ∧
    (memory.scope = .project ∧ memory.scopeId = audience.projectId ∨
      memory.scope = .organization ∧ audience.organizationId ≠ "" ∧
        memory.scopeId = audience.organizationId ∨
      memory.scope = .global)
  budget :
    ((selected.map StrategicMemory.cost).sum : Int) ≤ limits.tokenBudget
  limited : ∀ memoryClass,
    ((selected.countP fun memory => memory.memoryClass = memoryClass : Nat)
      : Int) ≤ limits.perClassLimit

theorem not_isForeign {now : Rat} {audience : Audience}
    {memory : StrategicMemory} (h : memory.isVisible now audience = true) :
    memory.isForeign audience = false := by
  unfold StrategicMemory.isVisible at h
  unfold StrategicMemory.isForeign
  cases hscope : memory.scope <;> simp_all

theorem filter_visible (now : Rat) (audience : Audience)
    (memories : List StrategicMemory) :
    (ownMemories audience memories).filter
        (StrategicMemory.isVisible now audience) =
      memories.filter (StrategicMemory.isVisible now audience) := by
  rw [ownMemories, List.filter_filter]
  apply List.filter_congr
  intro memory _
  cases hvisible : memory.isVisible now audience with
  | false => rfl
  | true => rw [not_isForeign hvisible]; rfl

namespace RetrievalWitness

def memory (id scopeId : String) : StrategicMemory where
  id := id
  fingerprint := id
  kind := .decision
  memoryClass := .semantic
  title := "Python"
  content := "Use version 3.12"
  scope := .project
  scopeId := scopeId
  provenance := []
  isPrivate := false
  createdAt := ⟨"1760000000.5".toList, by decide +kernel⟩

def holding (memories : List StrategicMemory) : StrategicStore :=
  StrategicStore.save memories

end RetrievalWitness

end Voly
