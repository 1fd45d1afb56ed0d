/-
Agent tasks run in parallel and one after the other, and the reports of both.
-/
import Voly.Python.Loops
import Voly.Runner.Attempts

namespace Voly.MultiAgent

open Python Runner

/-- What a call raises: an `Exception`, or another `BaseException`. -/
inductive Raised where
  | exception (text : String)
  | other

structure AgentTask where
  agent : String
  task : String
  cwd : Option String := none
  system : Option String := none
  maxTurns : Int := 30
  timeout : Int := 300
  model : Option String := none

structure AgentTaskResult where
  task : AgentTask
  result : ExecutorResult
  agentName : String

/-- The keyword arguments of `executor.run`. -/
structure RunArguments where
  task : String
  cwd : Option String
  maxTurns : Int
  timeout : Int
  system : Option String

structure Executor where
  takesSystem : Bool
  run : RunArguments → Except Raised ExecutorResult

/-- The constructors of the executor classes, by agent and model. -/
abbrev Executors := String → Option String → Except Raised Executor

structure OrchestrationReport where
  tasks : List AgentTaskResult
  totalInputTokens : Int
  totalOutputTokens : Int
  totalCostUsd : Rat
  successCount : Nat
  failureCount : Nat

def orchestrationReport (tasks : List AgentTaskResult) :
    OrchestrationReport where
  tasks
  totalInputTokens := (tasks.map (·.result.inputTokens)).sum
  totalOutputTokens := (tasks.map (·.result.outputTokens)).sum
  totalCostUsd := (tasks.map (·.result.costUsd)).sum
  successCount := tasks.countP (·.result.success)
  failureCount := tasks.countP (!·.result.success)

section Run

variable (executors : Executors)

/-- `_build_executor`; not every class takes a model. -/
def buildExecutor (agent : String) (model : Option String) :
    Except Raised Executor :=
  if agent ∈ ["cursor", "opencode", "deepseek", "zen"] then
    executors agent (model.filter (· ≠ ""))
  else if agent ∈ ["claude-code", "mimo"] then executors agent none
  else .error (.exception ("Unknown agent: " ++ agent))

def AgentTask.arguments (task : AgentTask) (executor : Executor) :
    RunArguments where
  task := task.task
  cwd := task.cwd
  maxTurns := task.maxTurns
  timeout := task.timeout
  system := if executor.takesSystem then task.system.filter (· ≠ "") else none

/-- `_run_task`; the telemetry swallows its errors. -/
def runTask (task : AgentTask) : Except Raised AgentTaskResult :=
  match buildExecutor executors task.agent task.model with
  | .error e => .error e
  | .ok executor =>
      match executor.run (task.arguments executor) with
      | .error e => .error e
      | .ok result => .ok { task, result, agentName := task.agent }

/-- What the loop over the futures makes of a future that is done. -/
def collect (task : AgentTask) : Except Raised AgentTaskResult :=
  match runTask executors task with
  | .error (.exception text) =>
      .ok { task, result := { success := false, error := text }
            agentName := task.agent }
  | out => out

/-- The order in which the futures of some tasks are done. -/
structure Completion (tasks : List AgentTask) where
  order : List AgentTask
  perm : order.Perm tasks

def runParallel {tasks : List AgentTask} (maxWorkers : Int)
    (completion : Completion tasks) : Except Raised OrchestrationReport :=
  if maxWorkers ≤ 0 then
    .error (.exception "max_workers must be greater than 0")
  else (completion.order.mapM (collect executors)).map orchestrationReport

def runInTurn (stopOnFailure : Bool) :
    List AgentTask → Except Raised (List AgentTaskResult)
  | [] => .ok []
  | task :: rest =>
      match runTask executors task with
      | .error e => .error e
      | .ok result =>
          if stopOnFailure ∧ ¬ result.result.success then .ok [result]
          else (runInTurn stopOnFailure rest).map (result :: ·)

def runSequential (stopOnFailure : Bool) (tasks : List AgentTask) :
    Except Raised OrchestrationReport :=
  (runInTurn executors stopOnFailure tasks).map orchestrationReport

structure SameReport (tasks : List AgentTask)
    (first second : OrchestrationReport) : Prop where
  once : (first.tasks.map AgentTaskResult.task).Perm tasks
  results : first.tasks.Perm second.tasks
  inputTokens : first.totalInputTokens = second.totalInputTokens
  outputTokens : first.totalOutputTokens = second.totalOutputTokens
  cost : first.totalCostUsd = second.totalCostUsd
  successes : first.successCount = second.successCount
  failures : first.failureCount = second.failureCount

/-- Both runners return a report, the same up to order. -/
def Agree (tasks : List AgentTask)
    (first second : Except Raised OrchestrationReport) : Prop :=
  ∃ one other, first = .ok one ∧ second = .ok other ∧
    SameReport tasks one other

/-- The executor of a task is built, and its run returns. -/
def Answers (task : AgentTask) : Prop :=
  ∃ executor, buildExecutor executors task.agent task.model = .ok executor ∧
    ∃ result, executor.run (task.arguments executor) = .ok result

variable {executors} {tasks : List AgentTask}

theorem answers_iff {task : AgentTask} :
    Answers executors task ↔ ∃ result, runTask executors task = .ok result := by
  unfold Answers runTask
  cases buildExecutor executors task.agent task.model with
  | error e => simp
  | ok executor =>
      simp only [Except.ok.injEq, exists_eq_left']
      cases executor.run (task.arguments executor) <;> simp

theorem task_of_runTask {task : AgentTask} {result : AgentTaskResult}
    (h : runTask executors task = .ok result) : result.task = task := by
  unfold runTask at h
  split at h
  · cases h
  · split at h
    · cases h
    · cases h
      rfl

theorem runInTurn_false :
    runInTurn executors false tasks = tasks.mapM (runTask executors) := by
  induction tasks with
  | nil => rfl
  | cons task rest ih =>
      rw [runInTurn, List.mapM_cons, ih]
      cases runTask executors task with
      | error e => rfl
      | ok result => cases rest.mapM (runTask executors) <;> rfl

theorem collect_eq {task : AgentTask} (h : Answers executors task) :
    collect executors task = runTask executors task := by
  obtain ⟨result, hrun⟩ := answers_iff.mp h
  rw [collect, hrun]

theorem sameReport_of_perm {first second : List AgentTaskResult}
    (honce : (first.map AgentTaskResult.task).Perm tasks)
    (h : first.Perm second) :
    SameReport tasks (orchestrationReport first)
      (orchestrationReport second) where
  once := honce
  results := h
  inputTokens := (h.map _).sum_eq
  outputTokens := (h.map _).sum_eq
  cost := (h.map _).sum_eq
  successes := h.countP_eq _
  failures := h.countP_eq _

end Run

namespace RunnersWitness

def tasks : List AgentTask := [{ agent := "zen", task := "t" }]

def executors : Executors := fun _ _ => .error (.exception "no API key")

end RunnersWitness

end Voly.MultiAgent
