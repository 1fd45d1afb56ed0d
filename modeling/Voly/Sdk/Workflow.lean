/-
Workflows of the SDK: nodes compiled to a plan, its execution, and the cost of
the result.
-/
import Voly.Plan.Costs
import Voly.Telemetry.Cost

namespace Voly.Sdk

open Python Interaction StepStatus Journal Telemetry

structure Agent where
  name : String
  instructions : String := ""
  model : String := ""
  provider : String := ""
  tier : String := ""
  mode : StepMode := .chat
  executor : String := ""

structure WorkflowNode where
  nodeId : String
  agent : Agent
  task : String := ""
  dependsOn : List String := []
  approval : Bool := false
  acceptance : List AcceptanceCheck := []

/-- A workflow, its nodes in the order of their declaration. -/
structure Workflow where
  name : String
  nodes : List WorkflowNode

/-- `_compile_node`.  The model and the provider of a tier are looked up. -/
def compileNode (resolveTierModel : String → String × String)
    (workflowTask : String) (node : WorkflowNode) : PlanStep :=
  let agent := node.agent
  let instruction := orElse node.task workflowTask
  let instruction :=
    if agent.instructions = "" then instruction
    else strip (agent.instructions ++ "\n\n" ++ instruction)
  let pair :=
    if agent.tier = "" then (agent.model, agent.provider)
    else resolveTierModel agent.tier
  { id := node.nodeId
    role := agent.name
    mode := agent.mode
    dependsOn := node.dependsOn
    acceptance :=
      if node.approval then node.acceptance ++ [{ type := "human_review" }]
      else node.acceptance
    task := instruction
    executor := agent.executor
    model := pair.1
    provider := pair.2
    tier := agent.tier }

def Workflow.plan (resolveTierModel : String → String × String)
    (workflow : Workflow) (task cwd taskId : String) :
    Except PyError Plan :=
  match createPlan (workflow.name ++ "-" ++ taskId)
      (workflow.nodes.map (compileNode resolveTierModel task)) "" cwd task
      true with
  | .error e => .error (.value e.text)
  | .ok plan =>
      .ok { plan with
        metadata :=
          (plan.metadata.set "kind" (.str "sdk_workflow")).set
            "workflow_name" (.str workflow.name) }

def Workflow.compile (resolveTierModel : String → String × String)
    (workflow : Workflow) (task cwd : String) :
    Prog PlanOp PlanReply (Except PyError Plan) :=
  if workflow.nodes = [] then
    .done (.error (.value
      ("workflow " ++ quoted workflow.name ++ " has no nodes")))
  else
    .ask .newTaskId fun taskId =>
      .done (workflow.plan resolveTierModel task cwd taskId)

structure NodeResult where
  nodeId : String
  status : StepStatus
  success : Bool
  output : String
  error : String
  costUsd : Rat
  durationMs : Rat
  filesTouched : List String

structure WorkflowResult where
  plan : Plan
  success : Bool
  status : PlanStatus
  nodeResults : List NodeResult
  costUsd : Rat
  durationMs : Rat
  error : String

def nodeResult (step : PlanStep) : NodeResult where
  nodeId := step.id
  status := step.status
  success := step.status = verified
  output := step.output
  error := step.error
  costUsd := step.costUsd
  durationMs := step.durationMs
  filesTouched := step.filesTouched

def buildResult (planResult : PlanRunResult) : WorkflowResult :=
  let nodeResults := planResult.plan.steps.map nodeResult
  { plan := planResult.plan
    success := planResult.success
    status := planResult.plan.status
    nodeResults
    costUsd := roundTo 6 (nodeResults.map NodeResult.costUsd).sum
    durationMs := planResult.durationMs
    error := planResult.error }

/-- A plan is run, and the result is read from it. -/
def execute (config : RunnerConfig) (mode cwd : String)
    (timeout : Option Timeout) (plan : Plan) :
    Prog PlanOp PlanReply (Except PyError WorkflowResult) :=
  (Voly.run config mode cwd timeout plan).bind fun out =>
    .done (out.1.map buildResult)

def Workflow.run (resolveTierModel : String → String × String)
    (config : RunnerConfig) (workflow : Workflow) (task cwd mode : String)
    (timeout : Option Timeout) :
    Prog PlanOp PlanReply (Except PyError WorkflowResult) :=
  (workflow.compile resolveTierModel task cwd).bind fun compiled =>
    match compiled with
    | .error e => .done (.error e)
    | .ok plan => execute config (orElse mode "active") cwd timeout plan

def resume (config : RunnerConfig) (planId mode : String)
    (timeout : Option Timeout) :
    Prog PlanOp PlanReply (Except PyError WorkflowResult) :=
  (Voly.resume config planId mode timeout).bind fun out =>
    .done (out.map fun resumed => buildResult resumed.1)

/-- What the steps of a plan cost is told by the calls that have ended so
far. -/
structure Accrued (reports : List Report) (plan : Plan) : Prop where
  known : ∀ report ∈ reports, report.1 ∈ plan.ids
  costs : ∀ stepId cost, plan.costOf stepId = some cost →
    cost = (last stepId reports).getD 0

/-- The total has six decimals, and overwritten costs at most half a unit of the
last. -/
def Undistorted (reports : List Report) : Prop :=
  ∃ n : Int, total reports = n / 10 ^ 6 ∧
    (|lost reports| < 1 / (2 * 10 ^ 6) ∨
      |lost reports| = 1 / (2 * 10 ^ 6) ∧ n % 2 = 0)

section Costs

variable {plan before after : Plan} {past reports : List Report}
  {config : RunnerConfig} {mode : String} {timeout : Option Timeout}

theorem Accrued.fresh (h : ∀ step ∈ plan.steps, step.costUsd = 0) :
    Accrued [] plan where
  known := fun _ hreport => by cases hreport
  costs := by
    intro stepId cost hcost
    obtain ⟨step, hget, rfl⟩ := Option.map_eq_some_iff.mp hcost
    exact h step (plan.getStep?_mem hget)

theorem Accrued.charged (h : Accrued past before)
    (hcharged : Charged before reports after) :
    Accrued (past ++ reports) after where
  known := by
    intro report hreport
    rw [hcharged.ids]
    rcases List.mem_append.mp hreport with hpast | hlater
    · exact h.known report hpast
    · exact hcharged.known report hlater
  costs := by
    intro stepId cost hcost
    rw [hcharged.costs] at hcost
    obtain ⟨initial, hinitial, rfl⟩ := Option.map_eq_some_iff.mp hcost
    rw [h.costs stepId initial hinitial, getD_last_append]

theorem Accrued.sum (h : Accrued reports plan) (hnodup : plan.ids.Nodup) :
    (plan.steps.map PlanStep.costUsd).sum = total reports - lost reports := by
  rw [← sum_last hnodup h.known, Plan.ids, List.map_map]
  congr 1
  apply List.map_congr_left
  intro step hstep
  apply h.costs
  rw [Plan.costOf, plan.getStep?_of_mem hnodup hstep]
  rfl

theorem plan_accrued {resolveTierModel : String → String × String}
    {workflow : Workflow} {task cwd taskId : String}
    (h : workflow.plan resolveTierModel task cwd taskId = .ok plan) :
    Accrued [] plan := by
  unfold Workflow.plan createPlan at h
  rw [if_pos rfl] at h
  split at h
  case h_1 => cases h
  case h_2 hcreated =>
    split at hcreated
    case h_1 => cases hcreated
    case h_2 =>
      cases hcreated
      cases h
      apply Accrued.fresh
      intro step hstep
      dsimp only at hstep
      rw [recomputePlanStatus_steps] at hstep
      obtain ⟨node, _, rfl⟩ := List.mem_map.mp hstep
      rfl

theorem buildResult_cost (result : PlanRunResult) :
    (buildResult result).costUsd =
      roundTo 6 (result.plan.steps.map PlanStep.costUsd).sum := by
  rw [buildResult, List.map_map]
  rfl

/-- The cost of a result is told by the calls before and in its run. -/
def Costs (past : List Report) (out : Except PyError WorkflowResult)
    (reports : List Report) : Prop :=
  ∀ result, out = .ok result → result.costUsd =
    roundTo 6 (total (past ++ reports) - lost (past ++ reports))

theorem wp_execute (config : RunnerConfig) (mode cwd : String)
    (timeout : Option Timeout) (h : Accrued past before) :
    (execute config mode cwd timeout before).wp (noting seeReport)
      (Costs past) [] := by
  have hknown : Script.wp (runProtocol config (config.runMode mode))
      (Voly.run config mode cwd timeout) (fun out after _ => ∀ result,
        out = .ok result → result.plan = after ∧ after.ids.Nodup) before
      { plan := before } := by
    apply wp_run
    · exact fun _ _ _ _ _ hout => (by cases hout)
    · rintro result after view hreported _ hout
      cases hout
      exact ⟨hreported.returned, hreported.steady.wf.nodup⟩
  have hrun := (run_accounted config mode cwd timeout before).also
    (fun _ _ _ => trivial) hknown
  rw [execute, Prog.wp_bind]
  apply Prog.wp_mono _ (hrun [])
  rintro ⟨out, after⟩ _ ⟨reports, rfl, hcharged, _, hresult⟩ result hout
  dsimp only at hout hcharged hresult
  cases out with
  | error e => cases hout
  | ok planResult =>
      cases hout
      obtain ⟨hplan, hnodup⟩ := hresult planResult rfl
      rw [buildResult_cost, hplan, (h.charged hcharged).sum hnodup]

theorem wp_compile (resolveTierModel : String → String × String)
    (workflow : Workflow) (task cwd : String) :
    (workflow.compile resolveTierModel task cwd).wp (noting seeReport)
      (fun out reports => reports = [] ∧
        ∀ plan, out = .ok plan → Accrued [] plan) [] := by
  unfold Workflow.compile
  split
  · exact ⟨rfl, fun _ hout => by cases hout⟩
  · exact ⟨trivial, fun taskId _ => ⟨rfl, fun plan => plan_accrued⟩⟩

theorem wp_workflow_run (resolveTierModel : String → String × String)
    (config : RunnerConfig) (workflow : Workflow) (task cwd mode : String)
    (timeout : Option Timeout) :
    (workflow.run resolveTierModel config task cwd mode timeout).wp
      (noting seeReport) (Costs []) [] := by
  rw [Workflow.run, Prog.wp_bind]
  apply Prog.wp_mono _ (wp_compile resolveTierModel workflow task cwd)
  rintro (e | plan) _ ⟨rfl, haccrued⟩
  · exact fun _ hout => by cases hout
  · exact wp_execute config (orElse mode "active") cwd timeout
      (haccrued plan rfl)

section

variable {planId : String} {oracle : Nat → PlanOracle}

theorem resumed_bind
    (x : Prog PlanOp PlanReply (Except PyError PlanRunResult × Plan)) :
    ((x.bind fun out =>
        match out with
        | (.ok result, plan) => Prog.done (.ok (result, plan))
        | (.error e, _) => Prog.done (.error e)).bind
      fun out : Except PyError (PlanRunResult × Plan) =>
        .done (out.map fun resumed => buildResult resumed.1)) =
      x.bind fun out => .done (out.1.map buildResult) := by
  induction x with
  | done out => rcases out with ⟨_ | _, _⟩ <;> rfl
  | ask op next ih => exact congrArg (Prog.ask op) (funext ih)

theorem resume_exec {loaded : Plan} (hpath : storePath planId = .ok ())
    (hload : oracle 0 (.load planId) = .ok (some loaded)) :
    (resume config planId mode timeout).exec (noted seeReport) oracle 0 [] =
      (execute config mode loaded.cwd timeout loaded).exec (noted seeReport)
        oracle 1 [] := by
  have hask : (storeLoad planId :
      Script PlanOp PlanReply Unit PyError (Option Plan)) () =
        .ask (.load planId) fun reply => .done (reply, ()) := by
    unfold storeLoad
    rw [hpath]
    rfl
  unfold resume Voly.resume execute
  rw [hask, Prog.bind_ask, Prog.bind_ask, Prog.exec, ← resumed_bind]
  dsimp only [noted]
  rw [hload]
  rfl

theorem resume_refused {e : PyError} (hpath : storePath planId = .error e) :
    (resume config planId mode timeout).exec (noted seeReport) oracle 0 [] =
      (.error e, []) := by
  unfold resume Voly.resume storeLoad
  rw [hpath]
  rfl

theorem cost_of_exec {x : Prog PlanOp PlanReply (Except PyError WorkflowResult)}
    (h : x.wp (noting seeReport) (Costs past) []) {n : Nat}
    {result : WorkflowResult}
    (hrun : x.exec (noted seeReport) oracle n [] = (.ok result, reports)) :
    result.costUsd = total (past ++ reports) ↔
      Undistorted (past ++ reports) := by
  obtain ⟨_, hnotes, hcost⟩ := x.exec_of_wp (noted seeReport) oracle
    (fun seen notes => seen = notes)
    (fun _ _ _ op hseen _ => ⟨trivial, by rw [hseen]; rfl⟩) n [] rfl h
  rw [hrun] at hnotes hcost
  rw [hcost result rfl, ← hnotes]
  exact roundTo_sub_eq_iff

end

end Costs

/-- Results of a workflow name the total cost of all attempts while the calls
leave it undistorted. -/
theorem workflow_cost_iff (resolveTierModel : String → String × String)
    (config : RunnerConfig) (mode : String) (timeout : Option Timeout)
    (oracle : Nat → PlanOracle) (result : WorkflowResult)
    (reports : List Report) :
    (∀ (workflow : Workflow) task cwd,
      (workflow.run resolveTierModel config task cwd mode timeout).exec
          (noted seeReport) oracle 0 [] = (.ok result, reports) →
        (result.costUsd = total reports ↔ Undistorted reports)) ∧
      ∀ planId loaded past, oracle 0 (.load planId) = .ok (some loaded) →
        Accrued past loaded →
        (resume config planId mode timeout).exec (noted seeReport) oracle 0
            [] = (.ok result, reports) →
          (result.costUsd = total (past ++ reports) ↔
            Undistorted (past ++ reports)) := by
  constructor
  · intro workflow task cwd hrun
    exact cost_of_exec (wp_workflow_run resolveTierModel config workflow task
      cwd mode timeout) hrun
  · intro planId loaded past hload haccrued hrun
    cases hpath : storePath planId with
    | error e =>
        rw [resume_refused hpath] at hrun
        cases hrun
    | ok u =>
        rw [resume_exec hpath hload] at hrun
        exact cost_of_exec (wp_execute config mode loaded.cwd timeout haccrued)
          hrun

namespace WorkflowWitness

open RetryBudgetWitness

def workflow : Workflow :=
  { name := "w"
    nodes := [{
      nodeId := "a"
      agent := { name := "writer" }
      acceptance := [{ type := "output_nonempty" }] }] }

def costly (start n : Nat) : PlanOracle
  | .callEnd _ =>
      { outcome :=
          .ok { success := true, output := if n < start then "" else "done" }
        costUsd := some (1 / 4) }
  | op => calm { success := true } op

def ran (start : Nat) : Except PyError WorkflowResult × List Report :=
  (workflow.run (fun _ => ("", "")) retrying "task" "" "" none).exec
    (noted seeReport) (costly start) 0 []

theorem exists_returned {A B C : Type} {out : Except PyError A × B} {f : A → C}
    {c : C} (h : out.1.toOption.map f = some c) :
    ∃ a, out = (.ok a, out.2) ∧ f a = c := by
  obtain ⟨e | a, b⟩ := out
  · cases h
  · exact ⟨a, rfl, Option.some.inj h⟩

def spent : Plan :=
  { planId := "p"
    steps := [
      { id := "a", status := .verified, costUsd := 1 / 4 }, { id := "b" }] }

def stored (n : Nat) : PlanOracle
  | .load _ => .ok (if n = 0 then some spent else none)
  | op => costly 0 n op

def resumed : Except PyError WorkflowResult × List Report :=
  (resume retrying "p" "active" none).exec (noted seeReport) stored 0 []

theorem spent_accrued : Accrued [("a", some (1 / 4))] spent where
  known := by decide
  costs := by
    intro stepId cost hcost
    obtain ⟨step, hget, rfl⟩ := Option.map_eq_some_iff.mp hcost
    have hall : ∀ step ∈ spent.steps, step.costUsd =
        (last step.id [("a", some (1 / 4 : Rat))]).getD 0 := by
      decide +kernel
    rw [← spent.getStep?_id hget]
    exact hall step (spent.getStep?_mem hget)

/-- An attempt for a quarter is named, and so is one after another step's. -/
theorem cost_named : (∃ result, (ran 0).1 = .ok result ∧
      result.costUsd = total (ran 0).2) ∧
    ∃ result, resumed.1 = .ok result ∧
      result.costUsd = total ([("a", some (1 / 4))] ++ resumed.2) := by
  obtain ⟨first, hfirst, _⟩ := exists_returned
    (show (ran 0).1.toOption.map WorkflowResult.success = some true
      by decide +kernel)
  obtain ⟨second, hsecond, _⟩ := exists_returned
    (show resumed.1.toOption.map WorkflowResult.success = some true
      by decide +kernel)
  refine ⟨⟨first, congrArg Prod.fst hfirst, ?_⟩,
    second, congrArg Prod.fst hsecond, ?_⟩
  · apply ((workflow_cost_iff (fun _ => ("", "")) retrying "" none (costly 0)
      first (ran 0).2).1 workflow "task" "" hfirst).mpr
    exact ⟨250000, by decide +kernel, Or.inl (by decide +kernel)⟩
  · apply ((workflow_cost_iff (fun _ => ("", "")) retrying "active" none stored
      second resumed.2).2 "p" spent [("a", some (1 / 4))] rfl spent_accrued
      hsecond).mpr
    exact ⟨500000, by decide +kernel, Or.inl (by decide +kernel)⟩

/-- A retry passes: two attempts for a quarter each, and the result names one.
-/
theorem retry_cost_unnamed : ∃ result, (ran 14).1 = .ok result ∧
    result.success = true ∧ result.costUsd = 1 / 4 ∧
    total (ran 14).2 = 1 / 2 := by
  obtain ⟨result, hrun, hresult⟩ := exists_returned
    (show (ran 14).1.toOption.map (fun result =>
      (result.success, result.costUsd)) = some (true, 1 / 4)
      by decide +kernel)
  obtain ⟨hsuccess, hcost⟩ := Prod.mk.inj hresult
  exact ⟨result, congrArg Prod.fst hrun, hsuccess, hcost, by decide +kernel⟩

end WorkflowWitness

end Voly.Sdk
