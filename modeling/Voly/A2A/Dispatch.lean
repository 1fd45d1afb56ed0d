/-
Parallel dispatch of subtasks in dependency levels, with one thread for each
subtask and one deadline for all waits.
-/
import Mathlib.Algebra.Order.Ring.Rat
import Voly.A2A.Orchestrator

namespace Voly.A2A

open Interaction

/-- A `Subtask`; its description reaches the remote side only. -/
structure Subtask where
  description : String := ""
  agent : String := ""
  dependsOn : List Nat := []
deriving DecidableEq, Repr

def dependenciesOf (subtasks : List Subtask) (i : Nat) : List Nat :=
  match subtasks[i]? with
  | some subtask => subtask.dependsOn
  | none => []

/-- The depths of the later subtasks; none where `max` raises. -/
def depthsFrom (known : List Nat) : List Subtask → Option (List Nat)
  | [] => some known
  | subtask :: rest =>
      if subtask.dependsOn = [] then depthsFrom (known ++ [0]) rest
      else
        match (subtask.dependsOn.filterMap (known[·]?)).max? with
        | some deepest => depthsFrom (known ++ [1 + deepest]) rest
        | none => none

/-- `_dependency_levels` with the depths that it is made from. -/
def levelsOf (depths : List Nat) : List (List Nat) :=
  match depths.max? with
  | none => []
  | some deepest =>
      (List.range (deepest + 1)).map fun level =>
        (List.range depths.length).filter fun i => depths[i]? = some level

/-- `_dependency_levels`; none when it raises. -/
def dependencyLevels (subtasks : List Subtask) : Option (List (List Nat)) :=
  (depthsFrom [] subtasks).map levelsOf

/-- What the dispatching thread does next. -/
inductive DispatchStage
  | entering
  | starting (todo : List Nat)
  | joining (todo : List Nat)
  | checking
  | looking (todo pending : List Nat)
  | collecting (pending : List Nat)
  | sleeping (wake : Rat)
  | returned (results : List (Nat × A2ATask))
  | raised
deriving DecidableEq, Repr

def DispatchStage.Aligned (n : Nat) : DispatchStage → Prop
  | .returned results => results.map Prod.fst = List.range n
  | .raised => False
  | _ => True

instance (n : Nat) : ∀ stage : DispatchStage, Decidable (stage.Aligned n)
  | .returned results =>
      inferInstanceAs (Decidable (results.map Prod.fst = List.range n))
  | .raised => isFalse id
  | .entering | .starting _ | .joining _ | .checking | .looking _ _
  | .collecting _ | .sleeping _ => isTrue trivial

/-- A dispatched subtask, with the tasks stored for its dependencies then. -/
structure Sighting where
  position : Nat
  dependencies : List (Option A2ATask)
deriving DecidableEq, Repr

/-- A dispatch between two steps.  A returned list carries the position of each
task. -/
structure Dispatch where
  stage : DispatchStage
  levels : List (List Nat)
  results : List (Option A2ATask)
  running : List Nat := []
  now : Rat := 0
  dispatched : List Sighting := []
deriving DecidableEq, Repr

/-- What can happen next; a collection may raise. -/
inductive DispatchEvent
  | tick (seconds : Rat)
  | store (position : Nat) (task : A2ATask)
  | advance
  | collect (reply : Option A2ATask)
deriving DecidableEq, Repr

namespace Dispatch

/-- The results that are not None, with their positions. -/
def kept (results : List (Option A2ATask)) : List (Nat × A2ATask) :=
  (List.range results.length).filterMap fun i =>
    (results[i]?.bind id).map fun task => (i, task)

def stored (d : Dispatch) (i : Nat) : Option A2ATask :=
  d.results[i]?.bind id

/-- A stored task that has not ended. -/
def pending (d : Dispatch) (i : Nat) : Bool :=
  (d.stored i).any fun task => !task.state.terminal

def level (d : Dispatch) : List Nat :=
  d.levels.headD []

def goTo (d : Dispatch) (stage : DispatchStage) : Dispatch :=
  { d with stage := stage }

/-- The dispatching thread leaves the current level. -/
def nextLevel (d : Dispatch) : Dispatch :=
  { d with stage := .entering, levels := d.levels.tail }

def threadEnds (d : Dispatch) (i : Nat) (task : A2ATask) : Dispatch :=
  { d with
    running := d.running.filter (· ≠ i)
    results := d.results.set i (some task) }

section Steps

variable (subtasks : List Subtask) (deadline : Rat)

/-- The dependencies of a subtask as the dispatching thread sees them. -/
def sighting (d : Dispatch) (i : Nat) : Sighting :=
  ⟨i, (dependenciesOf subtasks i).map d.stored⟩

def startThread (d : Dispatch) (i : Nat) (todo : List Nat) : Dispatch :=
  { d with
    stage := .starting todo
    running := d.running ++ [i]
    dispatched := d.dispatched ++ [d.sighting subtasks i] }

/-- The dispatching thread's next step, `collect_results` apart. -/
def advance (d : Dispatch) : Option Dispatch :=
  match d.stage with
  | .entering =>
      match d.levels with
      | [] => some (d.goTo (.returned (kept d.results)))
      | level :: _ =>
          -- `results[dep_idx]` raises for an index outside the list
          if ∀ i ∈ level, ∀ dep ∈ dependenciesOf subtasks i,
              dep < d.results.length then
            some (d.goTo (.starting level))
          else some (d.goTo .raised)
  | .starting [] => some (d.goTo (.joining d.level))
  | .starting (i :: todo) => some (d.startThread subtasks i todo)
  | .joining [] => some (d.goTo .checking)
  | .joining (i :: todo) =>
      if i ∉ d.running ∨ deadline ≤ d.now then some (d.goTo (.joining todo))
      else none
  | .checking =>
      if d.now < deadline then some (d.goTo (.looking d.level []))
      else some d.nextLevel
  | .looking (i :: todo) pending =>
      some (d.goTo
        (.looking todo (if d.pending i then pending ++ [i] else pending)))
  | .looking [] [] => some d.nextLevel
  | .looking [] (i :: pending) => some (d.goTo (.collecting (i :: pending)))
  | .collecting [] => some (d.goTo (.sleeping (d.now + 2)))
  | .sleeping wake =>
      if wake ≤ d.now then some (d.goTo .checking) else none
  | .collecting (_ :: _) | .returned _ | .raised => none

/-- One step of `dispatch_parallel` or of one of its threads. -/
def step (d : Dispatch) : DispatchEvent → Option Dispatch
  | .tick seconds =>
      if 0 ≤ seconds then some { d with now := d.now + seconds } else none
  | .store i task =>
      if i ∈ d.running then some (d.threadEnds i task) else none
  | .advance => d.advance subtasks deadline
  | .collect reply =>
      match d.stage with
      | .collecting (i :: todo) =>
          match reply with
          | some task => some { d with
              stage := .collecting todo
              results := d.results.set i (some task) }
          | none => some (d.goTo .raised)
      | _ => none

end Steps

/-- `dispatch_parallel` when it is called. -/
def initial (subtasks : List Subtask) : Dispatch :=
  match dependencyLevels subtasks with
  | some levels =>
      { stage := .entering, levels, results := subtasks.map fun _ => none }
  | none =>
      { stage := .raised, levels := [], results := subtasks.map fun _ => none }

/-- The subtask's task is stored and has ended. -/
def Settled (d : Dispatch) (i : Nat) : Prop :=
  (d.stored i).any (·.state.terminal) = true

instance (d : Dispatch) (i : Nat) : Decidable (d.Settled i) :=
  inferInstanceAs (Decidable (_ = true))

/-- Every subtask dispatched so far had only ended tasks to depend on. -/
def Ordered (d : Dispatch) : Prop :=
  ∀ sighting ∈ d.dispatched, ∀ dependency ∈ sighting.dependencies,
    dependency.any (·.state.terminal) = true

instance (d : Dispatch) : Decidable d.Ordered :=
  inferInstanceAs (Decidable (∀ sighting ∈ d.dispatched, ∀ dependency ∈ _, _))

/-- Nothing was raised, and a returned list has one task a subtask, in order. -/
def Aligned (n : Nat) (d : Dispatch) : Prop :=
  d.stage.Aligned n

instance (n : Nat) (d : Dispatch) : Decidable (d.Aligned n) :=
  inferInstanceAs (Decidable (d.stage.Aligned n))

/-- The levels are made, and each dependency lies on an earlier one. -/
def Layered (subtasks : List Subtask) : Prop :=
  match depthsFrom [] subtasks with
  | some depths =>
      ∀ i ∈ List.range subtasks.length, ∀ dep ∈ dependenciesOf subtasks i,
        match depths[dep]?, depths[i]? with
        | some earlier, some later => earlier < later
        | _, _ => False
  | none => False

/-- No collection raises, and the clock is looked at after the level, or in
time. -/
def Timely (deadline : Rat) (d : Dispatch) (e : DispatchEvent) : Prop :=
  e ≠ .collect none ∧
    (e = .advance → d.stage = .checking →
      d.running = [] ∧ (d.now < deadline ∨ ∀ i ∈ d.level, d.Settled i))

instance (deadline : Rat) (d : Dispatch) (e : DispatchEvent) :
    Decidable (d.Timely deadline e) :=
  inferInstanceAs (Decidable (_ ∧ (_ → _ → _)))

end Dispatch

theorem depthsFrom_length {known depths : List Nat} {subtasks : List Subtask}
    (h : depthsFrom known subtasks = some depths) :
    depths.length = known.length + subtasks.length := by
  induction subtasks generalizing known with
  | nil =>
      cases h
      rfl
  | cons subtask rest ih =>
      rw [depthsFrom] at h
      split at h
      · rw [ih h, List.length_append, List.length_cons, List.length_cons,
          List.length_nil]
        omega
      · split at h
        · rw [ih h, List.length_append, List.length_cons, List.length_cons,
            List.length_nil]
          omega
        · cases h

/-- Each depth is found, and greater than those of the dependencies. -/
theorem depthsFrom_earlier {known : List Nat} {rest : List Subtask}
    (h : ∀ j < rest.length, ∀ dep ∈ dependenciesOf rest j,
      dep < known.length + j) :
    ∃ more, depthsFrom known rest = some (known ++ more) ∧
      ∀ j < rest.length, ∀ dep ∈ dependenciesOf rest j,
        ∃ earlier later, (known ++ more)[dep]? = some earlier ∧
          more[j]? = some later ∧ earlier < later := by
  induction rest generalizing known with
  | nil => exact ⟨[], by rw [depthsFrom, List.append_nil], nofun⟩
  | cons subtask rest ih =>
      have hhead : ∀ dep ∈ subtask.dependsOn, dep < known.length := fun dep hdep =>
        h 0 (Nat.zero_lt_succ _) dep hdep
      have htail : ∀ depth : Nat, ∀ j < rest.length,
          ∀ dep ∈ dependenciesOf rest j,
            dep < (known ++ [depth]).length + j := by
        intro depth j hj dep hdep
        have hlt := h (j + 1) (Nat.succ_lt_succ hj) dep hdep
        rw [List.length_append, List.length_singleton]
        omega
      -- the depth of the head, more than the depth of each of its dependencies
      obtain ⟨depth, hdepth, hdeeper⟩ : ∃ depth,
          depthsFrom known (subtask :: rest) =
            depthsFrom (known ++ [depth]) rest ∧
          ∀ dep ∈ subtask.dependsOn, ∃ earlier, known[dep]? = some earlier ∧
            earlier < depth := by
        by_cases hnil : subtask.dependsOn = []
        · refine ⟨0, by rw [depthsFrom, if_pos hnil], ?_⟩
          rw [hnil]
          exact nofun
        · obtain ⟨first, hfirst⟩ := List.exists_mem_of_ne_nil _ hnil
          have hmem : ∀ dep ∈ subtask.dependsOn, ∃ earlier,
              known[dep]? = some earlier ∧
                earlier ∈ subtask.dependsOn.filterMap (known[·]?) := by
            intro dep hdep
            have hsome := List.getElem?_eq_getElem (hhead dep hdep)
            exact ⟨_, hsome, List.mem_filterMap.mpr ⟨dep, hdep, hsome⟩⟩
          cases hmax : (subtask.dependsOn.filterMap (known[·]?)).max? with
          | none =>
              obtain ⟨earlier, -, hin⟩ := hmem first hfirst
              rw [List.max?_eq_none_iff.mp hmax] at hin
              cases hin
          | some deepest =>
              refine ⟨1 + deepest, ?_, ?_⟩
              · rw [depthsFrom, if_neg hnil, hmax]
              · intro dep hdep
                obtain ⟨earlier, hearlier, hin⟩ := hmem dep hdep
                have hle := (List.max?_eq_some_iff.mp hmax).2 earlier hin
                exact ⟨earlier, hearlier, by omega⟩
      obtain ⟨more, hmore, hrest⟩ := ih (htail depth)
      refine ⟨depth :: more, ?_, ?_⟩
      · rw [hdepth, hmore, List.append_assoc]
        rfl
      · intro j hj dep hdep
        cases j with
        | zero =>
            obtain ⟨earlier, hearlier, hless⟩ := hdeeper dep hdep
            refine ⟨earlier, depth, ?_, rfl, hless⟩
            rw [List.getElem?_append_left (hhead dep hdep)]
            exact hearlier
        | succ j =>
            obtain ⟨earlier, later, hearlier, hlater, hless⟩ :=
              hrest j (Nat.lt_of_succ_lt_succ hj) dep hdep
            rw [List.append_assoc] at hearlier
            exact ⟨earlier, later, hearlier, hlater, hless⟩

theorem layered_of_earlier {subtasks : List Subtask}
    (h : ∀ i < subtasks.length, ∀ dep ∈ dependenciesOf subtasks i, dep < i) :
    Dispatch.Layered subtasks := by
  have hall : ∀ i < subtasks.length, ∀ dep ∈ dependenciesOf subtasks i,
      dep < ([] : List Nat).length + i := by
    intro i hi dep hdep
    rw [List.length_nil, Nat.zero_add]
    exact h i hi dep hdep
  obtain ⟨depths, hdepths, hdeeper⟩ := depthsFrom_earlier hall
  rw [Dispatch.Layered, hdepths]
  intro i hi dep hdep
  obtain ⟨earlier, later, hearlier, hlater, hless⟩ :=
    hdeeper i (List.mem_range.mp hi) dep hdep
  rw [List.nil_append] at hearlier
  simp only [List.nil_append, hearlier, hlater]
  exact hless

theorem mem_level_iff (depths : List Nat) (k i : Nat) :
    i ∈ ((levelsOf depths).drop k).headD [] ↔ depths[i]? = some k := by
  rw [List.headD_eq_head?_getD, List.head?_drop, levelsOf]
  cases hmax : depths.max? with
  | none =>
      rw [List.max?_eq_none_iff.mp hmax]
      simp
  | some deepest =>
      have hle : depths[i]? = some k → k ≤ deepest := by
        intro hi
        exact (List.max?_eq_some_iff.mp hmax).2 k (List.mem_of_getElem? hi)
      by_cases hk : k ≤ deepest
      · have hlt : k < deepest + 1 := Nat.lt_succ_of_le hk
        simp only [List.getElem?_map, List.getElem?_range hlt, Option.map_some,
          Option.getD_some, List.mem_filter, List.mem_range, decide_eq_true_eq]
        constructor
        · exact fun h => h.2
        · intro h
          exact ⟨(List.getElem?_eq_some_iff.mp h).1, h⟩
      · have hnone : (List.range (deepest + 1))[k]? = none := by
          rw [List.getElem?_eq_none_iff, List.length_range]
          omega
        rw [List.getElem?_map, hnone]
        constructor
        · intro h
          cases h
        · intro h
          exact absurd (hle h) hk

theorem lt_of_drop_eq_nil {depths : List Nat} {k i depth : Nat}
    (h : (levelsOf depths).drop k = []) (hi : depths[i]? = some depth) :
    depth < k := by
  by_contra hlt
  have hmem := (mem_level_iff depths depth i).mpr hi
  rw [show depth = k + (depth - k) by omega, ← List.drop_drop, h,
    List.drop_nil] at hmem
  exact List.not_mem_nil hmem

namespace Dispatch

/-- Each dependency is less deep than the subtask. -/
def Deeper (subtasks : List Subtask) (depths : List Nat) : Prop :=
  ∀ i < subtasks.length, ∀ dep ∈ dependenciesOf subtasks i,
    ∃ earlier later, depths[dep]? = some earlier ∧
      depths[i]? = some later ∧ earlier < later

theorem Layered.depths {subtasks : List Subtask} (h : Layered subtasks) :
    ∃ depths, depthsFrom [] subtasks = some depths ∧
      Deeper subtasks depths := by
  unfold Layered at h
  cases hdepths : depthsFrom [] subtasks with
  | none =>
      rw [hdepths] at h
      exact h.elim
  | some depths =>
      rw [hdepths] at h
      refine ⟨depths, rfl, ?_⟩
      intro i hi dep hdep
      have hless := h i (List.mem_range.mpr hi) dep hdep
      cases hearlier : depths[dep]? with
      | none => simp [hearlier] at hless
      | some earlier =>
          cases hlater : depths[i]? with
          | none => simp [hearlier, hlater] at hless
          | some later =>
              simp only [hearlier, hlater] at hless
              exact ⟨earlier, later, rfl, rfl, hless⟩

/-- The subtask's thread runs or has stored its task. -/
def Begun (d : Dispatch) (i : Nat) : Prop :=
  i ∈ d.running ∨ (d.stored i).isSome = true

/-- A level whose threads are started one by one, and may be running. -/
structure Underway (d : Dispatch) (todo : List Nat) : Prop where
  begun : ∀ i ∈ d.level, i ∈ todo ∨ d.Begun i
  running : ∀ i ∈ d.running, i ∈ d.level
  todo : ∀ i ∈ todo, i ∈ d.level

/-- A level whose threads have all stored their tasks. -/
structure Stored (d : Dispatch) (pending : List Nat) : Prop where
  running : d.running = []
  stored : ∀ i ∈ d.level, (d.stored i).isSome = true
  pending : ∀ i ∈ pending, i ∈ d.level

def AtStage (n : Nat) (d : Dispatch) : DispatchStage → Prop
  | .entering => d.running = []
  | .starting todo => d.Underway todo
  | .joining _ | .checking | .sleeping _ => d.Underway []
  | .looking todo pending =>
      d.Stored pending ∧
        (∀ i ∈ d.level, i ∈ todo ∨ i ∈ pending ∨ d.Settled i) ∧
        ∀ i ∈ todo, i ∈ d.level
  | .collecting pending => d.Stored pending
  | .returned results =>
      d.running = [] ∧ results.map Prod.fst = List.range n
  | .raised => False

/-- A dispatch whose first `k` levels have ended. -/
structure Progress (subtasks : List Subtask) (depths : List Nat) (k : Nat)
    (d : Dispatch) : Prop where
  size : d.results.length = subtasks.length
  levels : d.levels = (levelsOf depths).drop k
  settled : ∀ i depth, depths[i]? = some depth → depth < k → d.Settled i
  stage : d.AtStage subtasks.length d.stage
  ordered : d.Ordered

section Proofs

variable {subtasks : List Subtask} {depths : List Nat} {k : Nat}
  {d d' : Dispatch} {deadline : Rat}

theorem Progress.mem_level (h : Progress subtasks depths k d) (i : Nat) :
    i ∈ d.level ↔ depths[i]? = some k := by
  rw [level, h.levels]
  exact mem_level_iff depths k i

theorem Progress.stage_of (h : Progress subtasks depths k d)
    {stage : DispatchStage} (hstage : d.stage = stage) :
    d.AtStage subtasks.length stage :=
  hstage ▸ h.stage

theorem stored_set (results : List (Option A2ATask)) (i j : Nat)
    (task : A2ATask) (hi : i < results.length) :
    ((results.set i (some task))[j]?.bind id) =
      if i = j then some task else results[j]?.bind id := by
  rw [List.getElem?_set]
  split
  · rename_i heq
    subst heq
    rfl
  · rfl

/-- Storing a task keeps what is known of the earlier levels when the subtask
is of the current one. -/
theorem Progress.settled_set (h : Progress subtasks depths k d) {i : Nat}
    (task : A2ATask) (hsize : depths.length = subtasks.length)
    (hi : i ∈ d.level) (d' : Dispatch)
    (hd' : d'.results = d.results.set i (some task)) :
    (∀ j depth, depths[j]? = some depth → depth < k → d'.Settled j) ∧
      (∀ j, d'.stored j = if i = j then some task else d.stored j) := by
  have hdepth := (h.mem_level i).mp hi
  have hlt : i < d.results.length := by
    rw [h.size, ← hsize]
    exact (List.getElem?_eq_some_iff.mp hdepth).1
  have hstored : ∀ j, d'.stored j = if i = j then some task else d.stored j := by
    intro j
    rw [stored, hd']
    exact stored_set d.results i j task hlt
  refine ⟨?_, hstored⟩
  intro j depth hj hdepthj
  have hne : i ≠ j := by
    rintro rfl
    rw [hdepth] at hj
    cases hj
    omega
  rw [Settled, hstored j, if_neg hne]
  exact h.settled j depth hj hdepthj

theorem AtStage.of_goTo {n : Nat} {stage : DispatchStage} {now : Rat}
    {current : DispatchStage} (h : d.AtStage n stage) :
    AtStage n { d with stage := current, now := now } stage := by
  cases stage with
  | entering => exact h
  | starting todo => exact ⟨h.begun, h.running, h.todo⟩
  | joining todo => exact ⟨h.begun, h.running, h.todo⟩
  | checking => exact ⟨h.begun, h.running, h.todo⟩
  | looking todo pending =>
      exact ⟨⟨h.1.running, h.1.stored, h.1.pending⟩, h.2⟩
  | collecting pending => exact ⟨h.running, h.stored, h.pending⟩
  | sleeping wake => exact ⟨h.begun, h.running, h.todo⟩
  | returned results => exact h
  | raised => exact h.elim

theorem Progress.goTo (h : Progress subtasks depths k d)
    {stage : DispatchStage} (hstage : d.AtStage subtasks.length stage) :
    Progress subtasks depths k (d.goTo stage) :=
  ⟨h.size, h.levels, h.settled, AtStage.of_goTo hstage, h.ordered⟩

theorem Progress.leave (h : Progress subtasks depths k d)
    (hrunning : d.running = []) (hlevel : ∀ i ∈ d.level, d.Settled i) :
    Progress subtasks depths (k + 1) d.nextLevel where
  size := h.size
  levels := by
    rw [nextLevel, h.levels, List.tail_drop]
  settled := by
    intro i depth hi hdepth
    rcases Nat.lt_succ_iff_lt_or_eq.mp hdepth with hlt | rfl
    · exact h.settled i depth hi hlt
    · exact hlevel i ((h.mem_level i).mpr hi)
  stage := hrunning
  ordered := h.ordered

theorem kept_positions {results : List (Option A2ATask)}
    (h : ∀ i < results.length, (results[i]?.bind id).isSome = true) :
    (kept results).map Prod.fst = List.range results.length := by
  rw [kept, List.map_filterMap]
  have hall : ∀ i ∈ List.range results.length,
      ((results[i]?.bind id).map fun task => (i, task)).map Prod.fst = some i := by
    intro i hi
    obtain ⟨task, htask⟩ := Option.isSome_iff_exists.mp
      (h i (List.mem_range.mp hi))
    rw [htask]
    rfl
  rw [List.filterMap_congr hall]
  exact List.filterMap_some

section

variable (h : Progress subtasks depths k d) {i : Nat}
include h

theorem Progress.store (hsize : depths.length = subtasks.length)
    (task : A2ATask) (hi : i ∈ d.running) :
    Progress subtasks depths k (d.threadEnds i task) := by
  have hbegun : ∀ todo, d.Underway todo →
      (d.threadEnds i task).Underway todo := by
    intro todo hu
    obtain ⟨-, hstored⟩ := h.settled_set task hsize (hu.running i hi)
      (d.threadEnds i task) rfl
    refine ⟨?_, ?_, hu.todo⟩
    · intro j hj
      rcases hu.begun j hj with htodo | hrunning | hsome
      · exact .inl htodo
      · by_cases hij : i = j
        · refine .inr (.inr ?_)
          rw [hstored j, if_pos hij]
          rfl
        · refine .inr (.inl (List.mem_filter.mpr ⟨hrunning, ?_⟩))
          simpa using fun hji : j = i => hij hji.symm
      · refine .inr (.inr ?_)
        rw [hstored j]
        split
        · rfl
        · exact hsome
    · intro j hj
      exact hu.running j (List.mem_of_mem_filter hj)
  have hnone : d.running ≠ [] := List.ne_nil_of_mem hi
  have hlevel : i ∈ d.level := by
    cases hstage : d.stage with
    | entering => exact absurd (h.stage_of hstage) hnone
    | looking todo pending =>
        exact absurd (h.stage_of hstage).1.running hnone
    | collecting pending => exact absurd (h.stage_of hstage).running hnone
    | returned results => exact absurd (h.stage_of hstage).1 hnone
    | raised => exact (h.stage_of hstage).elim
    | _ => exact (h.stage_of hstage).running i hi
  refine ⟨?_, h.levels, ?_, ?_, h.ordered⟩
  · rw [threadEnds, List.length_set, h.size]
  · exact (h.settled_set task hsize hlevel _ rfl).1
  · change AtStage subtasks.length (d.threadEnds i task) d.stage
    cases hstage : d.stage with
    | entering => exact absurd (h.stage_of hstage) hnone
    | starting todo => exact hbegun todo (h.stage_of hstage)
    | looking todo pending =>
        exact absurd (h.stage_of hstage).1.running hnone
    | collecting pending => exact absurd (h.stage_of hstage).running hnone
    | returned results => exact absurd (h.stage_of hstage).1 hnone
    | raised => exact (h.stage_of hstage).elim
    | _ => exact hbegun [] (h.stage_of hstage)

/-- The dispatching thread stores what `collect_results` returns. -/
theorem Progress.collect (hsize : depths.length = subtasks.length)
    {todo : List Nat} (task : A2ATask)
    (hstage : d.stage = .collecting (i :: todo)) :
    Progress subtasks depths k { d with
      stage := .collecting todo
      results := d.results.set i (some task) } := by
  have hall : d.Stored (i :: todo) := h.stage_of hstage
  have hlevel : i ∈ d.level := hall.pending i List.mem_cons_self
  obtain ⟨hsettled, hstored⟩ := h.settled_set task hsize hlevel { d with
    stage := .collecting todo
    results := d.results.set i (some task) } rfl
  refine ⟨?_, h.levels, hsettled, ⟨hall.running, ?_, ?_⟩, h.ordered⟩
  · rw [List.length_set, h.size]
  · intro j hj
    rw [hstored j]
    split
    · rfl
    · exact hall.stored j hj
  · intro j hj
    exact hall.pending j (List.mem_cons_of_mem i hj)

theorem Progress.sighted (hlayered : Deeper subtasks depths)
    (hsize : depths.length = subtasks.length) (hi : i ∈ d.level) :
    ∀ dep ∈ dependenciesOf subtasks i,
      dep < d.results.length ∧ d.Settled dep := by
  intro dep hdep
  have hdepth := (h.mem_level i).mp hi
  have hlt : i < subtasks.length := by
    rw [← hsize]
    exact (List.getElem?_eq_some_iff.mp hdepth).1
  obtain ⟨earlier, later, hearlier, hlater, hless⟩ := hlayered i hlt dep hdep
  rw [hdepth] at hlater
  cases hlater
  constructor
  · rw [h.size, ← hsize]
    exact (List.getElem?_eq_some_iff.mp hearlier).1
  · exact h.settled dep earlier hearlier hless

theorem Progress.start (hlayered : Deeper subtasks depths)
    (hsize : depths.length = subtasks.length) {todo : List Nat}
    (hstage : d.stage = .starting (i :: todo)) :
    Progress subtasks depths k (d.startThread subtasks i todo) := by
  have hu : d.Underway (i :: todo) := h.stage_of hstage
  have hi : i ∈ d.level := hu.todo i List.mem_cons_self
  refine ⟨h.size, h.levels, h.settled, ⟨?_, ?_, ?_⟩, ?_⟩
  · intro j hj
    rcases hu.begun j hj with htodo | hrunning | hsome
    · rcases List.mem_cons.mp htodo with rfl | htodo
      · exact .inr (.inl (List.mem_append_right _ List.mem_cons_self))
      · exact .inl htodo
    · exact .inr (.inl (List.mem_append_left _ hrunning))
    · exact .inr (.inr hsome)
  · intro j hj
    rcases List.mem_append.mp hj with hj | hj
    · exact hu.running j hj
    · rw [List.mem_singleton.mp hj]
      exact hi
  · intro j hj
    exact hu.todo j (List.mem_cons_of_mem i hj)
  · intro sighting hmem
    rcases List.mem_append.mp hmem with hmem | hmem
    · exact h.ordered sighting hmem
    · rw [List.mem_singleton.mp hmem]
      intro dependency hdependency
      obtain ⟨dep, hdep, rfl⟩ := List.mem_map.mp hdependency
      exact (h.sighted hlayered hsize hi dep hdep).2

theorem Progress.look {todo pending : List Nat}
    (hstage : d.stage = .looking (i :: todo) pending) :
    Progress subtasks depths k (d.goTo
      (.looking todo (if d.pending i then pending ++ [i] else pending))) := by
  obtain ⟨hall, hleft, htodo⟩ : d.Stored pending ∧
      (∀ j ∈ d.level, j ∈ i :: todo ∨ j ∈ pending ∨ d.Settled j) ∧
      ∀ j ∈ i :: todo, j ∈ d.level := h.stage_of hstage
  have hrest : ∀ j ∈ todo, j ∈ d.level := fun j hj =>
    htodo j (List.mem_cons_of_mem i hj)
  by_cases hpending : d.pending i = true
  · rw [if_pos hpending]
    refine h.goTo ⟨⟨hall.running, hall.stored, ?_⟩, ?_, hrest⟩
    · intro j hj
      rcases List.mem_append.mp hj with hj | hj
      · exact hall.pending j hj
      · rw [List.mem_singleton.mp hj]
        exact htodo i List.mem_cons_self
    · intro j hj
      rcases hleft j hj with hnext | hmem | hsettled
      · rcases List.mem_cons.mp hnext with rfl | hnext
        · exact .inr (.inl (List.mem_append_right _ List.mem_cons_self))
        · exact .inl hnext
      · exact .inr (.inl (List.mem_append_left _ hmem))
      · exact .inr (.inr hsettled)
  · rw [if_neg hpending]
    refine h.goTo ⟨hall, ?_, hrest⟩
    intro j hj
    rcases hleft j hj with hnext | hmem | hsettled
    · rcases List.mem_cons.mp hnext with rfl | hnext
      · -- stored, and not pending: its task has ended
        obtain ⟨task, htask⟩ := Option.isSome_iff_exists.mp (hall.stored j hj)
        rw [Dispatch.pending, htask] at hpending
        refine .inr (.inr ?_)
        rw [Settled, htask]
        simpa using hpending
      · exact .inl hnext
    · exact .inr (.inl hmem)
    · exact .inr (.inr hsettled)

theorem Progress.finish (hsize : depths.length = subtasks.length)
    (hrunning : d.running = []) (hlevels : d.levels = []) :
    Progress subtasks depths k (d.goTo (.returned (kept d.results))) := by
  refine h.goTo ⟨hrunning, ?_⟩
  rw [← h.size]
  apply kept_positions
  intro i hi
  rw [h.size, ← hsize] at hi
  have hdepth : depths[i]? = some depths[i] := List.getElem?_eq_getElem hi
  have hlt := lt_of_drop_eq_nil (h.levels.symm.trans hlevels) hdepth
  have hsettled := h.settled i _ hdepth hlt
  rw [Settled, stored] at hsettled
  cases hres : d.results[i]?.bind id with
  | none =>
      rw [hres] at hsettled
      cases hsettled
  | some task => rfl

end

theorem Underway.stored (h : d.Underway []) (hrunning : d.running = []) :
    ∀ i ∈ d.level, (d.stored i).isSome = true := by
  intro i hi
  rcases h.begun i hi with htodo | hrun | hsome
  · cases htodo
  · rw [hrunning] at hrun
    cases hrun
  · exact hsome

section

variable (h : Progress subtasks depths k d) (hlayered : Deeper subtasks depths)
  (hsize : depths.length = subtasks.length)
include h hlayered hsize

theorem Progress.advance (htimely : d.Timely deadline .advance)
    (hstep : d.advance subtasks deadline = some d') :
    ∃ k', Progress subtasks depths k' d' := by
  cases hstage : d.stage with
  | entering =>
      have hrunning : d.running = [] := h.stage_of hstage
      simp only [Dispatch.advance, hstage] at hstep
      cases hlevels : d.levels with
      | nil =>
          simp only [hlevels, Option.some.injEq] at hstep
          exact ⟨k, hstep ▸ h.finish hsize hrunning hlevels⟩
      | cons level rest =>
          have hlevel : d.level = level := by
            rw [Dispatch.level, hlevels]
            rfl
          simp only [hlevels] at hstep
          rw [if_pos] at hstep
          · rw [← Option.some.inj hstep, ← hlevel]
            refine ⟨k, h.goTo ⟨fun i hi => .inl hi, ?_, fun i hi => hi⟩⟩
            rw [hrunning]
            exact nofun
          · intro i hi dep hdep
            rw [← hlevel] at hi
            exact (h.sighted hlayered hsize hi dep hdep).1
  | starting todo =>
      have hu : d.Underway todo := h.stage_of hstage
      simp only [Dispatch.advance, hstage] at hstep
      cases todo with
      | nil => exact ⟨k, Option.some.inj hstep ▸ h.goTo hu⟩
      | cons i todo =>
          exact ⟨k, Option.some.inj hstep ▸ h.start hlayered hsize hstage⟩
  | joining todo =>
      have hu : d.Underway [] := h.stage_of hstage
      simp only [Dispatch.advance, hstage] at hstep
      cases todo with
      | nil => exact ⟨k, Option.some.inj hstep ▸ h.goTo hu⟩
      | cons i todo =>
          dsimp only at hstep
          split at hstep
          · exact ⟨k, Option.some.inj hstep ▸ h.goTo hu⟩
          · cases hstep
  | checking =>
      have hu : d.Underway [] := h.stage_of hstage
      obtain ⟨hrunning, htime⟩ := htimely.2 rfl hstage
      simp only [Dispatch.advance, hstage] at hstep
      split at hstep
      · rw [← Option.some.inj hstep]
        have hall : d.Stored [] := ⟨hrunning, hu.stored hrunning, hu.todo⟩
        exact ⟨k, h.goTo ⟨hall, fun i hi => .inl hi, fun i hi => hi⟩⟩
      · rename_i hlate
        rw [← Option.some.inj hstep]
        exact ⟨k + 1, h.leave hrunning (htime.resolve_left hlate)⟩
  | looking todo pending =>
      obtain ⟨hall, hleft, -⟩ : d.Stored pending ∧
          (∀ i ∈ d.level, i ∈ todo ∨ i ∈ pending ∨ d.Settled i) ∧
          ∀ i ∈ todo, i ∈ d.level := h.stage_of hstage
      simp only [Dispatch.advance, hstage] at hstep
      cases todo with
      | nil =>
          cases pending with
          | nil =>
              rw [← Option.some.inj hstep]
              refine ⟨k + 1, h.leave hall.running ?_⟩
              intro i hi
              rcases hleft i hi with hmem | hmem | hsettled
              · cases hmem
              · cases hmem
              · exact hsettled
          | cons i pending =>
              exact ⟨k, Option.some.inj hstep ▸ h.goTo hall⟩
      | cons i todo => exact ⟨k, Option.some.inj hstep ▸ h.look hstage⟩
  | collecting pending =>
      have hall : d.Stored pending := h.stage_of hstage
      simp only [Dispatch.advance, hstage] at hstep
      cases pending with
      | nil =>
          rw [← Option.some.inj hstep]
          refine ⟨k, h.goTo ⟨?_, ?_, hall.pending⟩⟩
          · exact fun i hi => .inr (.inr (hall.stored i hi))
          · rw [hall.running]
            exact nofun
      | cons i pending => cases hstep
  | sleeping wake =>
      have hu : d.Underway [] := h.stage_of hstage
      simp only [Dispatch.advance, hstage] at hstep
      split at hstep
      · exact ⟨k, Option.some.inj hstep ▸ h.goTo hu⟩
      · cases hstep
  | returned results =>
      simp only [Dispatch.advance, hstage] at hstep
      cases hstep
  | raised =>
      simp only [Dispatch.advance, hstage] at hstep
      cases hstep

theorem Progress.step {e : DispatchEvent} (htimely : d.Timely deadline e)
    (hstep : d.step subtasks deadline e = some d') :
    ∃ k', Progress subtasks depths k' d' := by
  cases e with
  | tick seconds =>
      simp only [Dispatch.step] at hstep
      split at hstep
      · rw [← Option.some.inj hstep]
        exact ⟨k, h.size, h.levels, h.settled, AtStage.of_goTo h.stage,
          h.ordered⟩
      · cases hstep
  | store i task =>
      simp only [Dispatch.step] at hstep
      split at hstep
      · exact ⟨k, Option.some.inj hstep ▸ h.store hsize task ‹_›⟩
      · cases hstep
  | advance => exact h.advance hlayered hsize htimely hstep
  | collect reply =>
      simp only [Dispatch.step] at hstep
      split at hstep
      · rename_i i todo hstage
        cases reply with
        | none => exact absurd rfl htimely.1
        | some task =>
            exact ⟨k, Option.some.inj hstep ▸ h.collect hsize task hstage⟩
      · cases hstep

end

theorem progress_initial (hdepths : depthsFrom [] subtasks = some depths) :
    Progress subtasks depths 0 (initial subtasks) := by
  rw [initial, dependencyLevels, hdepths]
  refine ⟨List.length_map _, rfl, ?_, rfl, nofun⟩
  intro i depth _ hlt
  exact absurd hlt depth.not_lt_zero

end Proofs

end Dispatch

namespace Dispatches

/-- A developer's subtask and a tester's that depends on it. -/
def chain : List Subtask :=
  [{ agent := "developer" }, { agent := "tester", dependsOn := [0] }]

def task (id : String) (state : TaskState) : A2ATask :=
  { id, state }

/-- Both tasks end at once. -/
def prompt : List DispatchEvent :=
  [.advance, .advance, .advance, .store 0 (task "t0" .completed), .advance,
   .advance, .advance, .advance, .advance,
   .advance, .advance, .advance, .store 1 (task "t1" .completed), .advance,
   .advance, .advance, .advance, .advance, .advance]

/-- The developer's thread is still busy at the deadline. -/
def late : List DispatchEvent :=
  [.advance, .advance, .advance, .tick 120, .advance, .advance, .advance,
   .advance, .advance, .advance, .store 1 (task "t1" .completed), .advance,
   .advance, .advance, .advance]

def after (events : List DispatchEvent) : Dispatch :=
  (follow (Dispatch.step chain 120) (.initial chain) events).getD
    (.initial chain)

end Dispatches

end Voly.A2A
