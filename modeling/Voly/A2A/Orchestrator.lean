/-
Delegation of tasks to remote agents, and the workflow that delegates a list of
tasks on one thread each.
-/
import Mathlib.Data.List.Perm.Subperm
import Mathlib.Data.List.Nodup
import Voly.Interaction.Steps

namespace Voly.A2A

open Interaction

inductive TaskState
  | submitted
  | working
  | inputRequired
  | completed
  | failed
  | cancelled
deriving DecidableEq, Repr

def TaskState.terminal : TaskState → Bool
  | .completed | .failed | .cancelled => true
  | .submitted | .working | .inputRequired => false

/-- An `A2ATask`; of its metadata the entries that routing reads or writes. -/
structure A2ATask where
  id : String
  title : String := ""
  description : String := ""
  state : TaskState := .submitted
  agentUrl : String := ""
  result : String := ""
  error : String := ""
  agent : String := ""
  routedTo : String := ""
  partialResult : String := ""
deriving DecidableEq, Repr

/-- The part of an `AgentCard` that delegation uses. -/
structure AgentCard where
  name : String
  url : String := ""
deriving DecidableEq, Repr

/-- The name asked of the federation before the known cards are searched. -/
def A2ATask.askedFor (task : A2ATask) : String :=
  if task.routedTo ≠ "" then task.routedTo
  else if task.agentUrl ≠ "" then task.agentUrl
  else task.agent

/-- The agent that `route_and_delegate` picks; `find` lists cards, best first.
-/
def routedAgent (federated : Bool) (find : String → List AgentCard)
    (task : A2ATask) : Option String :=
  if federated ∧ task.askedFor ≠ "" then
    if task.routedTo = "" then
      match find task.description with
      | card :: _ => some card.name
      | [] => some task.askedFor
    else some task.askedFor
  else
    match find task.description with
    | card :: _ => some card.name
    | [] => none

/-- A call of `route_and_delegate`. -/
structure Delegation where
  position : Nat
  agent : Option String
deriving DecidableEq, Repr

/-- Where the calling thread of `execute_workflow` stands. -/
inductive WorkflowStage
  | submitting (next : Nat)
  | collecting (next : Nat)
  | returned
  | raised
deriving DecidableEq, Repr

/-- A parallel workflow between two steps, with the loop variable `task` that
its callables share. -/
structure Workflow where
  stage : WorkflowStage := .submitting 0
  task : Option Nat := none
  waiting : List Nat := []
  delegated : List Delegation := []
  results : List A2ATask := []
deriving DecidableEq, Repr

/-- What can happen next; a collection may raise. -/
inductive WorkflowEvent
  | submit
  | join
  | collect (reply : Option A2ATask)
  | finish
  | start (thread : Nat)
deriving DecidableEq, Repr

section Workflows

variable (agentOf : A2ATask → Option String) (tasks : List A2ATask)

/-- What `route_and_delegate` does for the task at a position. -/
def delegationAt (position : Nat) : Delegation :=
  ⟨position, tasks[position]?.bind agentOf⟩

/-- One step of `execute_workflow(tasks, parallel=True)`.  A callable reads
`task` when it starts. -/
def Workflow.step (w : Workflow) : WorkflowEvent → Option Workflow
  | .submit =>
      match w.stage with
      | .submitting next =>
          if next < tasks.length then
            some { w with
              stage := .submitting (next + 1)
              task := some next
              waiting := w.waiting ++ [next] }
          else none
      | _ => none
  | .join =>
      match w.stage with
      | .submitting next =>
          -- every join returns, after 120 seconds at the latest
          if next = tasks.length then some { w with stage := .collecting 0 }
          else none
      | _ => none
  | .collect reply =>
      match w.stage with
      | .collecting next =>
          if next < tasks.length then
            match reply with
            | some task => some { w with
                stage := .collecting (next + 1)
                task := some next
                results := w.results ++ [task] }
            | none => some { w with stage := .raised, task := some next }
          else none
      | _ => none
  | .finish =>
      match w.stage with
      | .collecting next =>
          if next = tasks.length then some { w with stage := .returned }
          else none
      | _ => none
  | .start thread =>
      if thread ∈ w.waiting then
        match w.task with
        | some position => some { w with
            waiting := w.waiting.erase thread
            delegated := w.delegated ++ [delegationAt agentOf tasks position] }
        | none => none
      else none

/-- The calling thread has ended and every callable has started. -/
def Workflow.Complete (w : Workflow) : Prop :=
  (w.stage = .returned ∨ w.stage = .raised) ∧ w.waiting = []

instance (w : Workflow) : Decidable w.Complete :=
  inferInstanceAs (Decidable (_ ∧ _))

def Workflow.DelegatesEach (w : Workflow) : Prop :=
  w.delegated.Perm
      ((List.range tasks.length).map (delegationAt agentOf tasks)) ∧
    w.stage = .returned ∧ w.results.length = tasks.length

instance (w : Workflow) : Decidable (w.DelegatesEach agentOf tasks) :=
  inferInstanceAs (Decidable (_ ∧ _))

end Workflows

/-- How many turns the two loops have made. -/
structure Turns where
  submitted : Nat := 0
  collected : Nat := 0
deriving DecidableEq, Repr

def Turns.position (turns : Turns) : Nat :=
  if turns.collected = 0 then turns.submitted - 1 else turns.collected - 1

def Turns.next (turns : Turns) : WorkflowEvent → Turns
  | .submit => { turns with submitted := turns.submitted + 1 }
  | .collect _ => { turns with collected := turns.collected + 1 }
  | .join | .finish | .start _ => turns

/-- The position that an event's callable sees when it starts. -/
def Turns.seen (turns : Turns) : WorkflowEvent → List Nat
  | .start _ => [turns.position]
  | .submit | .collect _ | .join | .finish => []

/-- The turns in which callables start: a property of the schedule alone. -/
def startTurns : Turns → List WorkflowEvent → List Nat
  | _, [] => []
  | turns, e :: events => turns.seen e ++ startTurns (turns.next e) events

def WorkflowStage.Counts (n : Nat) (turns : Turns) : WorkflowStage → Prop
  | .submitting next =>
      next = turns.submitted ∧ turns.collected = 0 ∧ turns.submitted ≤ n
  | .collecting next =>
      turns.submitted = n ∧ next = turns.collected ∧ turns.collected ≤ n
  | .returned => turns.submitted = n ∧ turns.collected = n
  | .raised => turns.submitted = n ∧ turns.collected ≤ n

theorem WorkflowStage.Counts.bounds {n : Nat} {turns : Turns}
    {stage : WorkflowStage} (h : stage.Counts n turns) :
    turns.submitted ≤ n ∧ turns.collected ≤ n := by
  cases stage with
  | submitting next => exact ⟨h.2.2, by rw [h.2.1]; exact n.zero_le⟩
  | collecting next => exact ⟨Nat.le_of_eq h.1, h.2.2⟩
  | returned => exact ⟨Nat.le_of_eq h.1, Nat.le_of_eq h.2⟩
  | raised => exact ⟨Nat.le_of_eq h.1, h.2⟩

/-- The state of a workflow against the turns of its loops. -/
structure Workflow.Tracks (n : Nat) (turns : Turns) (w : Workflow) : Prop where
  stage : w.stage.Counts n turns
  task : w.task = if turns.submitted = 0 then none else some turns.position
  threads : w.delegated.length + w.waiting.length = turns.submitted
  results : w.stage ≠ .raised → w.results.length = turns.collected

theorem tracks_start (n : Nat) : ({} : Workflow).Tracks n {} where
  stage := ⟨rfl, rfl, n.zero_le⟩
  task := rfl
  threads := rfl
  results := fun _ => rfl

section Runs

variable {agentOf : A2ATask → Option String} {tasks : List A2ATask}
  {w w' : Workflow} {turns : Turns} {e : WorkflowEvent}

/-- What a step can be, with what it found. -/
inductive Workflow.Moved (agentOf : A2ATask → Option String)
    (tasks : List A2ATask) (w : Workflow) : WorkflowEvent → Workflow → Prop
  | submit {next : Nat} (stage : w.stage = .submitting next)
      (more : next < tasks.length) :
      Moved agentOf tasks w .submit { w with
        stage := .submitting (next + 1)
        task := some next
        waiting := w.waiting ++ [next] }
  | join (stage : w.stage = .submitting tasks.length) :
      Moved agentOf tasks w .join { w with stage := .collecting 0 }
  | collect {next : Nat} {task : A2ATask} (stage : w.stage = .collecting next)
      (more : next < tasks.length) :
      Moved agentOf tasks w (.collect (some task)) { w with
        stage := .collecting (next + 1)
        task := some next
        results := w.results ++ [task] }
  | raise {next : Nat} (stage : w.stage = .collecting next)
      (more : next < tasks.length) :
      Moved agentOf tasks w (.collect none)
        { w with stage := .raised, task := some next }
  | finish (stage : w.stage = .collecting tasks.length) :
      Moved agentOf tasks w .finish { w with stage := .returned }
  | start {thread position : Nat} (waits : thread ∈ w.waiting)
      (task : w.task = some position) :
      Moved agentOf tasks w (.start thread) { w with
        waiting := w.waiting.erase thread
        delegated := w.delegated ++ [delegationAt agentOf tasks position] }

theorem Workflow.moved_of_step (hstep : w.step agentOf tasks e = some w') :
    w.Moved agentOf tasks e w' := by
  unfold Workflow.step at hstep
  cases e with
  | submit =>
      dsimp only at hstep
      split at hstep
      · rename_i next hstage
        split at hstep
        · cases hstep
          exact .submit hstage ‹_›
        · cases hstep
      · cases hstep
  | join =>
      dsimp only at hstep
      split at hstep
      · rename_i next hstage
        split at hstep
        · rename_i hnext
          cases hstep
          exact .join (hnext ▸ hstage)
        · cases hstep
      · cases hstep
  | collect reply =>
      dsimp only at hstep
      split at hstep
      · rename_i next hstage
        split at hstep
        · cases reply with
          | some task =>
              cases hstep
              exact .collect hstage ‹_›
          | none =>
              cases hstep
              exact .raise hstage ‹_›
        · cases hstep
      · cases hstep
  | finish =>
      dsimp only at hstep
      split at hstep
      · rename_i next hstage
        split at hstep
        · rename_i hnext
          cases hstep
          exact .finish (hnext ▸ hstage)
        · cases hstep
      · cases hstep
  | start thread =>
      dsimp only at hstep
      split at hstep
      · rename_i hwaits
        split at hstep
        · cases hstep
          exact .start hwaits ‹_›
        · cases hstep
      · cases hstep

theorem Workflow.Tracks.stage_of (h : w.Tracks tasks.length turns)
    {stage : WorkflowStage} (hstage : w.stage = stage) :
    stage.Counts tasks.length turns :=
  hstage ▸ h.stage

theorem Workflow.Tracks.task_eq (h : w.Tracks tasks.length turns)
    {position : Nat} (htask : w.task = some position) :
    0 < turns.submitted ∧ position = turns.position := by
  rw [h.task] at htask
  split at htask
  · cases htask
  · exact ⟨by omega, (Option.some.inj htask).symm⟩

section

variable (hmoved : w.Moved agentOf tasks e w')
include hmoved

theorem Workflow.Moved.delegated (h : w.Tracks tasks.length turns) :
    w'.delegated =
      w.delegated ++ (turns.seen e).map (delegationAt agentOf tasks) := by
  cases hmoved with
  | start _ htask =>
      rw [(h.task_eq htask).2]
      rfl
  | _ => exact (List.append_nil _).symm

theorem Workflow.Moved.raised :
    w'.stage = .raised ↔ w.stage = .raised ∨ e = .collect none := by
  cases hmoved with
  | submit hstage _ => simp [hstage]
  | join hstage => simp [hstage]
  | collect hstage _ => simp [hstage]
  | raise hstage _ => simp
  | finish hstage => simp [hstage]
  | start _ _ => simp

theorem Workflow.Moved.tracks (h : w.Tracks tasks.length turns) :
    w'.Tracks tasks.length (turns.next e) := by
  have hthreads := h.threads
  cases hmoved with
  | submit hstage hmore =>
      obtain ⟨rfl, hcollected, hle⟩ := h.stage_of hstage
      have hresults := h.results (by rw [hstage]; exact nofun)
      refine ⟨⟨rfl, hcollected, hmore⟩, ?_, ?_, fun _ => hresults⟩
      · simp [Turns.next, Turns.position, hcollected]
      · simp only [Turns.next, List.length_append, List.length_singleton]
        omega
  | join hstage =>
      obtain ⟨hsubmitted, hcollected, hle⟩ := h.stage_of hstage
      have hresults := h.results (by rw [hstage]; exact nofun)
      exact ⟨⟨hsubmitted.symm, hcollected.symm, by simp [Turns.next, hcollected]⟩,
        h.task, hthreads, fun _ => hresults⟩
  | collect hstage hmore =>
      obtain ⟨hsubmitted, rfl, hle⟩ := h.stage_of hstage
      have hresults := h.results (by rw [hstage]; exact nofun)
      have hpositive : turns.submitted ≠ 0 := by omega
      refine ⟨⟨hsubmitted, rfl, hmore⟩, ?_, hthreads, fun _ => ?_⟩
      · simp [Turns.next, Turns.position, hpositive]
      · simp [Turns.next, hresults]
  | raise hstage hmore =>
      obtain ⟨hsubmitted, rfl, hle⟩ := h.stage_of hstage
      have hpositive : turns.submitted ≠ 0 := by omega
      refine ⟨⟨hsubmitted, hmore⟩, ?_, hthreads, fun hraised => ?_⟩
      · simp [Turns.next, Turns.position, hpositive]
      · exact absurd rfl hraised
  | finish hstage =>
      obtain ⟨hsubmitted, hcollected, hle⟩ := h.stage_of hstage
      have hresults := h.results (by rw [hstage]; exact nofun)
      exact ⟨⟨hsubmitted, hcollected.symm⟩, h.task, hthreads,
        fun _ => hresults⟩
  | start hwaits htask =>
      refine ⟨h.stage, h.task, ?_, h.results⟩
      have hlength := List.length_erase_of_mem hwaits
      have hpos := List.length_pos_of_mem hwaits
      simp only [Turns.next, List.length_append, List.length_singleton]
      omega

end

theorem Turns.seen_lt (h : w.Tracks tasks.length turns)
    (hmoved : w.Moved agentOf tasks e w') :
    ∀ position ∈ turns.seen e, position < tasks.length := by
  intro position hmem
  cases hmoved with
  | start _ htask =>
      obtain ⟨hsubmitted, hcollected⟩ := h.stage.bounds
      have hpositive := (h.task_eq htask).1
      rw [List.mem_singleton.mp hmem, Turns.position]
      split
      · omega
      · omega
  | _ => cases hmem

/-- The log of a run and its last state from its schedule. -/
theorem run_delegated {events : List WorkflowEvent}
    (h : w.Tracks tasks.length turns)
    (hrun : follow (Workflow.step agentOf tasks) w events = some w') :
    w'.delegated = w.delegated ++
        (startTurns turns events).map (delegationAt agentOf tasks) ∧
      (∀ position ∈ startTurns turns events, position < tasks.length) ∧
      (∃ last, w'.Tracks tasks.length last) ∧
      (w'.stage = .raised ↔
        w.stage = .raised ∨ .collect none ∈ events) := by
  induction events generalizing w turns with
  | nil =>
      cases hrun
      exact ⟨(List.append_nil _).symm, nofun, ⟨turns, h⟩, by simp⟩
  | cons e events ih =>
      obtain ⟨w₁, hstep, hrest⟩ := exists_of_follow_cons hrun
      have hmoved := Workflow.moved_of_step hstep
      obtain ⟨hlog, hbound, hlast, hraised⟩ := ih (hmoved.tracks h) hrest
      refine ⟨?_, ?_, hlast, ?_⟩
      · rw [hlog, hmoved.delegated h, startTurns, List.map_append,
          List.append_assoc]
      · intro position hmem
        rcases List.mem_append.mp hmem with hmem | hmem
        · exact Turns.seen_lt h hmoved position hmem
        · exact hbound position hmem
      · rw [hraised, hmoved.raised, List.mem_cons, or_assoc]
        exact or_congr_right (or_congr_left eq_comm)

end Runs

section Delegations

variable (agentOf : A2ATask → Option String) (tasks : List A2ATask)

theorem delegationAt_injective :
    Function.Injective (delegationAt agentOf tasks) :=
  fun _ _ h => congrArg Delegation.position h

/-- As many positions below `n` as `n` are each of them once when none is
there twice. -/
theorem perm_range_iff {n : Nat} {positions : List Nat}
    (hlength : positions.length = n) (hbound : ∀ i ∈ positions, i < n) :
    positions.Perm (List.range n) ↔ positions.Nodup := by
  constructor
  · intro hperm
    exact hperm.nodup_iff.mpr List.nodup_range
  · intro hnodup
    have hsub : positions ⊆ List.range n := fun i hi =>
      List.mem_range.mpr (hbound i hi)
    refine (List.subperm_of_subset hnodup hsub).perm_of_length_le ?_
    exact Nat.le_of_eq (List.length_range.trans hlength.symm)

/-- Each task is delegated once and collected iff no two callables start while
the loop variable names one task, and no collection raises. -/
theorem execute_workflow_each_iff (federated : Bool)
    (find : String → List AgentCard) (events : List WorkflowEvent)
    (w : Workflow)
    (hrun : follow (Workflow.step (routedAgent federated find) tasks) {} events =
      some w)
    (hcomplete : w.Complete) :
    w.DelegatesEach (routedAgent federated find) tasks ↔
      (startTurns {} events).Nodup ∧ .collect none ∉ events := by
  obtain ⟨hlog, hbound, ⟨last, htracks⟩, hraised⟩ :=
    run_delegated (tracks_start tasks.length) hrun
  obtain ⟨hended, hwaiting⟩ := hcomplete
  have hlogged : w.delegated =
      (startTurns {} events).map (delegationAt (routedAgent federated find) tasks) :=
    hlog
  have hsubmitted : last.submitted = tasks.length := by
    rcases hended with hstage | hstage
    · exact (htracks.stage_of hstage).1
    · exact (htracks.stage_of hstage).1
  have hlength : (startTurns {} events).length = tasks.length := by
    have hthreads := htracks.threads
    rw [hlogged, List.length_map, hwaiting, List.length_nil] at hthreads
    omega
  have hperm : w.delegated.Perm ((List.range tasks.length).map
        (delegationAt (routedAgent federated find) tasks)) ↔
      (startTurns {} events).Nodup := by
    rw [hlogged, List.map_perm_map_iff (delegationAt_injective _ _)]
    exact perm_range_iff hlength hbound
  have hreturned : w.stage = .returned ↔ .collect none ∉ events := by
    have hnone : w.stage = .raised ↔ .collect none ∈ events := by
      rw [hraised]
      exact or_iff_right nofun
    rw [← hnone]
    rcases hended with hstage | hstage
    · simp [hstage]
    · simp [hstage]
  have hresults : w.stage = .returned → w.results.length = tasks.length := by
    intro hstage
    rw [htracks.results (by rw [hstage]; exact nofun)]
    exact (htracks.stage_of hstage).2
  unfold Workflow.DelegatesEach
  rw [hperm, ← hreturned]
  constructor
  · intro h
    exact ⟨h.1, h.2.1⟩
  · intro h
    exact ⟨h.1, h.2, hresults h.2⟩

end Delegations

namespace Workflows

def registry (description : String) : List AgentCard :=
  if description = "test it" then [⟨"tester", "http://tester"⟩]
  else [⟨"writer", "http://writer"⟩]

def pair : List A2ATask :=
  [{ id := "t0", description := "write it" },
   { id := "t1", description := "test it" }]

/-- Each callable starts before the loop takes the next task. -/
def prompt : List WorkflowEvent :=
  [.submit, .start 0, .submit, .start 1, .join,
   .collect (some { id := "t0", state := .completed }),
   .collect (some { id := "t1", state := .completed }), .finish]

/-- Both callables start after the submitting loop. -/
def late : List WorkflowEvent :=
  [.submit, .submit, .start 0, .start 1, .join,
   .collect (some { id := "t0", state := .submitted }),
   .collect (some { id := "t1", state := .completed }), .finish]

/-- The workflow after a schedule of two tasks. -/
def after (events : List WorkflowEvent) : Workflow :=
  (follow (Workflow.step (routedAgent false registry) pair) {} events).getD {}

theorem prompt_delegates_each :
    (after prompt).DelegatesEach (routedAgent false registry) pair :=
  (execute_workflow_each_iff pair false registry prompt (after prompt)
    (by decide) (by decide)).mpr (by decide)

theorem late_start_misses_task :
    follow (Workflow.step (routedAgent false registry) pair) {} late =
        some (after late) ∧
      (after late).Complete ∧
      (after late).delegated = [⟨1, some "tester"⟩, ⟨1, some "tester"⟩] ∧
      ¬ (after late).DelegatesEach (routedAgent false registry) pair := by
  decide +kernel

end Workflows

end Voly.A2A
