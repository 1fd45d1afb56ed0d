/-
The polling loop of the federation stage, the table of the orchestrator, and
what the backend returns of each task.
-/
import Voly.A2A.Orchestrator
import Voly.Interaction.Leaves
import Voly.Python.Text
import Voly.Records.Keyed
import Mathlib.Tactic.Linarith

namespace Voly.A2A

open Python Interaction Journal

def TaskState.ofText? : String → Option TaskState
  | "submitted" => some .submitted
  | "working" => some .working
  | "input-required" => some .inputRequired
  | "completed" => some .completed
  | "failed" => some .failed
  | "cancelled" => some .cancelled
  | _ => none

/-- An entry of the backend's reply: missing, null, or a text. -/
inductive Entry
  | missing
  | null
  | text (value : String)
deriving DecidableEq, Repr

/-- `str(data.get(key, default))`. -/
def Entry.str (entry : Entry) (default : String) : String :=
  match entry with
  | .missing => default
  | .null => "None"
  | .text value => value

/-- A task as `get_task` returns it, with the metadata that a task keeps. -/
structure RemoteTask where
  id : Entry
  state : Entry := .missing
  title : Entry := .missing
  description : Entry := .missing
  result : Entry := .missing
  error : Entry := .missing
  agentName : Entry := .missing
  agentUrl : Entry := .missing
  agent : String := ""
  routedTo : String := ""
  partialResult : String := ""
deriving DecidableEq, Repr

/-- `task_from_remote`; a reply without an id raises. -/
def taskFromRemote (data : RemoteTask) : Except String A2ATask :=
  match data.id with
  | .missing => .error "'id'"
  | id => .ok {
      id := id.str ""
      state :=
        (TaskState.ofText? (data.state.str "submitted")).getD .submitted
      title := data.title.str ""
      description := data.description.str ""
      agentUrl := data.agentUrl.str ""
      result := data.result.str ""
      error := data.error.str ""
      agent := data.agent
      routedTo :=
        match data.agentName with
        | .text name => orElse name data.routedTo
        | _ => data.routedTo
      partialResult := data.partialResult }

/-- What the loop asks its surroundings. -/
inductive PollOp where
  | monotonic
  | sleep (seconds : Rat)
  | getTask (taskId : String)
  | getTaskStatus (agentUrl taskId : String)

@[reducible] def PollReply : PollOp → Type
  | .monotonic => Rat
  | .sleep _ => Unit
  | .getTask _ => Except String RemoteTask
  | .getTaskStatus _ _ => Except String (Option A2ATask)

/-- The list `a2a_tasks` of the stage, and the table of the orchestrator. -/
structure PollState where
  tasks : List A2ATask
  table : Dict A2ATask := []
deriving DecidableEq, Repr

abbrev PollScript := Script PollOp PollReply PollState String

/-- `FederationBackend.load_task`: a call that raises is no task. -/
def loadTask (taskId : String) : PollScript (Option A2ATask) := do
  let reply ← Script.ask (PollOp.getTask taskId)
  match reply with
  | .error _ => pure none
  | .ok data => Script.run fun s => ((taskFromRemote data).map some, s)

/-- What the orchestrator makes of an update: it is stored and returned. -/
def adopt (task : A2ATask) (updated : Option A2ATask) : PollScript A2ATask :=
  match updated with
  | none => pure task
  | some updated => do
      Script.update fun s =>
        { s with table := s.table.set task.id updated }
      pure updated

def collectResults (federated : Bool) (task : A2ATask) :
    PollScript A2ATask := do
  if task.state = .completed ∨ task.state = .failed then pure task
  else if federated then do
    let updated ← loadTask task.id
    adopt task updated
  else if task.agentUrl = "" then pure task
  else do
    let updated ←
      Script.askOk (PollOp.getTaskStatus task.agentUrl task.id) id
    adopt task updated

/-- One turn: what is collected of a pending task is only logged. -/
def pollPending (federated : Bool) : List A2ATask → PollScript Unit
  | [] => pure ()
  | task :: rest => do
      let _updated ← collectResults federated task
      pollPending federated rest

/-- Where the loop was left; the last case is the fuel of this model. -/
inductive PollEnd
  | allEnded
  | timedOut
  | outOfFuel
deriving DecidableEq, Repr

def PollState.pending (s : PollState) : List A2ATask :=
  s.tasks.filter fun task => !task.state.terminal

/-- The `while` loop, with fuel. -/
def pollLoop (federated : Bool) (deadline : Rat) :
    Nat → PollScript PollEnd
  | 0 => pure .outOfFuel
  | n + 1 => do
      let now ← Script.ask PollOp.monotonic
      if now < deadline then do
        let s ← Script.read
        if s.pending = [] then pure .allEnded
        else do
          Script.ask (PollOp.sleep 3)
          pollPending federated s.pending
          pollLoop federated deadline n
      else pure .timedOut

/-- `_stage_a2a_auto` from the end of the dispatch to the end of the loop. -/
def pollStage (federated : Bool) (timeout : Rat) (fuel : Nat) :
    PollScript PollEnd := do
  let now ← Script.ask PollOp.monotonic
  pollLoop federated (now + timeout) fuel

abbrev Returned := String × Option A2ATask

def seeReturned : (op : PollOp) → PollReply op → List Returned
  | .getTask taskId, .ok data =>
      match taskFromRemote data with
      | .ok task => [(taskId, some task)]
      | .error _ => []
  | .getTaskStatus _ taskId, .ok (some task) => [(taskId, some task)]
  | _, _ => []

def lastReturned (before : String → Option A2ATask) (returned : List Returned)
    (taskId : String) : Option A2ATask :=
  (last taskId returned).or (before taskId)

/-- State and output of the task are those of the returned one. -/
def Shows (task : A2ATask) (returned : Option A2ATask) : Prop :=
  ∃ remote, returned = some remote ∧ task.state = remote.state ∧
    task.result = remote.result

section Loop

variable {federated : Bool} {A : Type}

/-- The script leaves the list of the stage as it is. -/
abbrev TasksKept (x : PollScript A) : Prop :=
  Script.Keeps PollState.tasks x

theorem adopt_kept (task : A2ATask) (updated : Option A2ATask) :
    TasksKept (adopt task updated) := by
  cases updated with
  | none => exact Script.Keeps.pure task
  | some updated =>
      exact Script.Keeps.bind (Script.Keeps.update fun _ => rfl)
        fun _ => Script.Keeps.pure updated

theorem loadTask_kept (taskId : String) : TasksKept (loadTask taskId) := by
  refine Script.Keeps.bind (Script.Keeps.ask _) fun reply => ?_
  cases reply with
  | error e => exact Script.Keeps.pure none
  | ok data => exact Script.Keeps.run fun _ => rfl

theorem collectResults_kept (task : A2ATask) :
    TasksKept (collectResults federated task) := by
  apply Script.Keeps.ite (Script.Keeps.pure task)
  apply Script.Keeps.ite
  · exact Script.Keeps.bind (loadTask_kept task.id) (adopt_kept task)
  apply Script.Keeps.ite (Script.Keeps.pure task)
  exact Script.Keeps.bind (Script.Keeps.askOk _ _) (adopt_kept task)

theorem pollPending_kept (tasks : List A2ATask) :
    TasksKept (pollPending federated tasks) := by
  induction tasks with
  | nil => exact Script.Keeps.pure ()
  | cons task rest ih =>
      exact Script.Keeps.bind (collectResults_kept task) fun _ => ih

theorem pollLoop_kept (deadline : Rat) (n : Nat) :
    TasksKept (pollLoop federated deadline n) := by
  induction n with
  | zero => exact Script.Keeps.pure PollEnd.outOfFuel
  | succ n ih =>
      refine Script.Keeps.bind (Script.Keeps.ask _) fun now => ?_
      apply Script.Keeps.ite _ (Script.Keeps.pure _)
      refine Script.Keeps.bind Script.Keeps.read fun s => ?_
      apply Script.Keeps.ite (Script.Keeps.pure _)
      refine Script.Keeps.bind (Script.Keeps.ask _) fun _ => ?_
      exact Script.Keeps.bind (pollPending_kept s.pending) fun _ => ih

theorem pollStage_kept (timeout : Rat) (fuel : Nat) :
    TasksKept (pollStage federated timeout fuel) :=
  Script.Keeps.bind (Script.Keeps.ask _)
    fun now => pollLoop_kept (now + timeout) fuel

theorem pollStage_quiet {s : PollState} (h : s.pending = []) (timeout : Rat)
    (fuel : Nat) : Script.Leaves seeReturned
      (pollStage federated timeout fuel) s
      fun _ _ returned => returned = [] := by
  apply Script.Leaves.ask_bind
  intro start
  cases fuel with
  | zero => exact Script.Leaves.pure rfl
  | succ n =>
      apply Script.Leaves.ask_bind
      intro now
      apply Script.Leaves.ite
      · intro _
        apply Script.Leaves.read_bind
        apply Script.Leaves.ite
        · exact fun _ => Script.Leaves.pure rfl
        · exact fun hpending => absurd h hpending
      · exact fun _ => Script.Leaves.pure rfl

/-- A clock that does not go back and runs while the loop sleeps. -/
def running : Protocol PollOp PollReply Rat where
  allows _ _ := True
  relies reached op r :=
    match op, r with
    | .monotonic, now => reached ≤ now
    | _, _ => True
  next reached op r :=
    match op, r with
    | .monotonic, now => now
    | .sleep seconds, _ => reached + seconds
    | _, _ => reached

/-- A question that is about a task. -/
def Asking : PollOp → Prop
  | .getTask _ => True
  | .getTaskStatus _ _ => True
  | _ => False

abbrev AsksOnly (x : PollScript A) : Prop :=
  Script.Only Asking (fun _ => True) x

theorem adopt_asks (task : A2ATask) (updated : Option A2ATask) :
    AsksOnly (adopt task updated) := by
  cases updated with
  | none => exact Script.Only.pure trivial
  | some updated => exact fun _ _ _ => trivial

theorem loadTask_asks (taskId : String) : AsksOnly (loadTask taskId) := by
  refine Script.Only.bind (Script.Only.ask trivial) fun reply _ => ?_
  cases reply with
  | error e => exact Script.Only.pure trivial
  | ok data => exact fun _ _ _ => trivial

theorem collectResults_asks (task : A2ATask) :
    AsksOnly (collectResults federated task) := by
  apply Script.Only.ite
  · exact fun _ => Script.Only.pure trivial
  intro _
  apply Script.Only.ite
  · exact fun _ => Script.Only.bind (loadTask_asks task.id)
      fun updated _ => adopt_asks task updated
  intro _
  apply Script.Only.ite
  · exact fun _ => Script.Only.pure trivial
  · exact fun _ => Script.Only.bind
      (Script.Only.askOk trivial fun _ _ _ => trivial)
      fun updated _ => adopt_asks task updated

theorem pollPending_asks (tasks : List A2ATask) :
    AsksOnly (pollPending federated tasks) := by
  induction tasks with
  | nil => exact Script.Only.pure trivial
  | cons task rest ih =>
      exact Script.Only.bind (collectResults_asks task) fun _ _ => ih

theorem pollPending_running (tasks : List A2ATask) {s : PollState}
    {reached : Rat} : Script.wp running (pollPending federated tasks)
      (fun _ _ reached' => reached' = reached) s reached := by
  refine Script.wp_mono (Script.Only.wp (P := running) (pollPending_asks tasks)
    (fun _ _ => trivial) fun op _ hop => ?_) fun _ _ _ hout => hout.1
  cases op with
  | monotonic => exact hop.elim
  | sleep seconds => exact hop.elim
  | getTask taskId => rfl
  | getTaskStatus agentUrl taskId => rfl

theorem pollLoop_ends {deadline reached : Rat} {n : Nat} {s : PollState}
    (h : deadline ≤ reached + 3 * n) :
    Script.wp running (pollLoop federated deadline (n + 1))
      (fun out _ _ => out ≠ .ok .outOfFuel) s reached := by
  induction n generalizing s reached with
  | zero =>
      rw [pollLoop, Script.wp_ask_bind]
      refine ⟨trivial, fun (now : Rat) (hnow : reached ≤ now) => ?_⟩
      push_cast at h
      split
      case isTrue hearly => exact absurd hearly (by linarith)
      case isFalse => exact fun hout => by cases hout
  | succ n ih =>
      rw [pollLoop, Script.wp_ask_bind]
      refine ⟨trivial, fun (now : Rat) (hnow : reached ≤ now) => ?_⟩
      push_cast at h
      split
      case isFalse => exact fun hout => by cases hout
      case isTrue =>
        rw [Script.wp_read_bind]
        split
        case isTrue => exact fun hout => by cases hout
        case isFalse =>
          rw [Script.wp_ask_bind]
          refine ⟨trivial, fun _ _ => ?_⟩
          apply Script.wp_seq (pollPending_running s.pending)
          · rintro _ s' _ rfl
            have hmoved : deadline ≤ now + 3 + 3 * n := by linarith
            exact ih hmoved
          · exact fun _ _ _ _ hout => by cases hout

/-- With a clock that runs while the loop sleeps, the loop is left. -/
theorem pollStage_ends {timeout reached : Rat} {n : Nat} {s : PollState}
    (h : timeout ≤ 3 * n) :
    Script.wp running (pollStage federated timeout (n + 1))
      (fun out _ _ => out ≠ .ok .outOfFuel) s reached := by
  refine ⟨trivial, fun (now : Rat) _ => ?_⟩
  have hdeadline : now + timeout ≤ now + 3 * n := by linarith
  exact pollLoop_ends hdeadline

end Loop

/-- As long as each task ends at the backend: the loop leaves every task with
what was returned last iff every task had ended and showed that before. -/
theorem poll_shows_iff (federated : Bool) (timeout : Rat) (fuel : Nat)
    (before : String → Option A2ATask) (s : PollState)
    (oracle : Nat → Oracle PollOp PollReply) {exit : PollEnd}
    {after : PollState} {returned : List Returned}
    (hrun : (pollStage federated timeout fuel s).exec (noted seeReturned) oracle
      0 [] = ((.ok exit, after), returned))
    (hanswered : ∀ task ∈ s.tasks, ∃ remote,
      lastReturned before returned task.id = some remote ∧
        remote.state.terminal = true) :
    (∀ task ∈ after.tasks,
        Shows task (lastReturned before returned task.id)) ↔
      ∀ task ∈ s.tasks, task.state.terminal = true ∧
        Shows task (before task.id) := by
  have hkept : after.tasks = s.tasks := by
    have h := (@pollStage_kept federated timeout fuel).exec (noted seeReturned)
      oracle 0 [] s
    rw [hrun] at h
    exact h
  have hnone : (∀ task ∈ s.tasks, task.state.terminal = true) →
      returned = [] := by
    intro hended
    have hpending : s.pending = [] := by
      rw [PollState.pending, List.filter_eq_nil_iff]
      intro task hmem
      rw [hended task hmem]
      decide
    have h := (@pollStage_quiet federated s hpending timeout fuel).exec oracle 0
    rw [hrun] at h
    exact h
  rw [hkept]
  constructor
  · intro hshown
    have hended : ∀ task ∈ s.tasks, task.state.terminal = true := by
      intro task hmem
      obtain ⟨remote, hlast, hterminal⟩ := hanswered task hmem
      obtain ⟨shown, hshows, hstate, _⟩ := hshown task hmem
      rw [hlast] at hshows
      cases hshows
      rw [hstate]
      exact hterminal
    intro task hmem
    refine ⟨hended task hmem, ?_⟩
    have hshows := hshown task hmem
    rw [hnone hended] at hshows
    exact hshows
  · intro hended task hmem
    rw [hnone fun task hmem => (hended task hmem).1]
    exact (hended task hmem).2

namespace FederationWitness

def backend (done n : Nat) : Oracle PollOp PollReply
  | .monotonic => n
  | .sleep _ => ()
  | .getTask taskId => .ok {
      id := .text taskId
      state := .text (if n < done then "working" else "completed")
      result := .text (if n < done then "" else "out") }
  | .getTaskStatus _ _ => .ok none

def polled (s : PollState) :
    (Except String PollEnd × PollState) × List Returned :=
  (pollStage true 12 9 s).exec (noted seeReturned) (backend 5) 0 []

def delegated : A2ATask := { id := "t", state := .submitted }

def collected : A2ATask := { id := "t", state := .completed, result := "out" }

/-- A task that had ended is left as it was returned. -/
theorem collected_shows :
    (polled { tasks := [collected] }).1.2.tasks = [collected] ∧
      Shows collected (lastReturned (fun _ => some collected)
        (polled { tasks := [collected] }).2 "t") := by
  have hrun : polled { tasks := [collected] } =
      ((.ok .allEnded, { tasks := [collected] }), []) := by decide +kernel
  rw [hrun]
  refine ⟨rfl, (poll_shows_iff true 12 9 (fun _ => some collected)
    { tasks := [collected] } (backend 5) hrun ?_).mpr ?_ collected
      (List.mem_singleton_self _)⟩
  · rintro task hmem
    exact ⟨collected, rfl, rfl⟩
  · rintro task hmem
    rw [List.mem_singleton.mp hmem]
    exact ⟨rfl, collected, rfl, rfl, rfl⟩

/-- The backend completes the task well before the deadline; the loop times out
with the task as it was delegated. -/
theorem completed_unseen : ∃ after returned,
    polled { tasks := [delegated] } = ((.ok .timedOut, after), returned) ∧
      after.tasks = [delegated] ∧
      lastReturned (fun _ => some delegated) returned "t" = some collected := by
  refine ⟨_, _, show polled { tasks := [delegated] } =
    ((.ok .timedOut, (polled { tasks := [delegated] }).1.2),
      (polled { tasks := [delegated] }).2) from ?_, ?_, ?_⟩
  · exact Prod.ext (Prod.ext (by decide +kernel) rfl) rfl
  · decide +kernel
  · decide +kernel

/-- Four rounds are enough for twelve seconds. -/
theorem polled_ends :
    Script.wp running (pollStage true 12 5)
      (fun out _ _ => out ≠ .ok .outOfFuel) { tasks := [delegated] } 0 :=
  @pollStage_ends true 12 0 4 { tasks := [delegated] } (by norm_num)

end FederationWitness

end Voly.A2A
