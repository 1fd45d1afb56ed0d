/-
The agent runner: one attempt, the walk along the fallback chain, and the totals
of the event.
-/
import Mathlib.Algebra.Group.Prod
import Voly.Candidates.Walk
import Voly.Telemetry.Cost

namespace Voly.Runner

open Candidates Telemetry

structure TimelogEntry where
  executor : String
  status : String
deriving DecidableEq, Repr

structure ExecutorResult where
  success : Bool
  output : String := ""
  error : String := ""
  costUsd : Rat := 0
  inputTokens : Int := 0
  outputTokens : Int := 0
  billingError : Bool := false
  notAvailable : Bool := false
  chainTimelog : List TimelogEntry := []
deriving DecidableEq, Repr

/-- The executor could not run the task, so the next one of the chain may. -/
def ExecutorResult.falls (result : ExecutorResult) : Bool :=
  result.billingError || result.notAvailable

def chainStatus (result : ExecutorResult) : String :=
  if result.success then "success"
  else if result.billingError then "billing_error"
  else if result.notAvailable then "not_available"
  else "failed"

/-- What attempt `n` returns (none if it raises); whether place `n` says it is
available. -/
structure Executors where
  run : Nat → String → Option ExecutorResult
  isAvailable : Nat → String → Option Bool

def billingFallbackChain : List String :=
  ["claude-code", "cursor", "deepseek", "wrangler", "opencode", "zen"]

/-- The variables of the fallback loop. -/
structure Chain where
  executorName : String
  result : ExecutorResult
  retryCount : Nat := 0
  retryCostUsd : Rat := 0
  retryTokensIn : Int := 0
  retryTokensOut : Int := 0
  timelog : List TimelogEntry
deriving DecidableEq, Repr

/-- The current result is abandoned: its spend is banked first. -/
def Chain.replace (chain : Chain) (name : String) (result : ExecutorResult) :
    Chain where
  executorName := name
  result := result
  retryCount := chain.retryCount + 1
  retryCostUsd := chain.retryCostUsd + chain.result.costUsd
  retryTokensIn := chain.retryTokensIn + chain.result.inputTokens
  retryTokensOut := chain.retryTokensOut + chain.result.outputTokens
  timelog := chain.timelog ++ [⟨name, chainStatus result⟩]

/-- The loop over the rest of the chain. -/
def fallbackLoop (executors : Executors) :
    List (String × Nat) → Chain → Option Chain
  | [], chain => some chain
  | (name, n) :: rest, chain =>
      if executors.isAvailable n name = some false then
        fallbackLoop executors rest
          { chain with timelog := chain.timelog ++ [⟨name, "skipped"⟩] }
      else
        match executors.run n name with
        | none => none
        | some result =>
            if result.falls then
              fallbackLoop executors rest (chain.replace name result)
            else some (chain.replace name result)

/-- The executors after the first one, numbered; none when `index` raises. -/
def laterExecutors (chain : List String) (executorName : String) :
    Option (List (String × Nat)) :=
  (chain.idxOf? executorName).map fun start =>
    (chain.drop (start + 1)).zipIdx 1

/-- The first attempt and, where it falls, the walk along the chain. -/
def runChain (executors : Executors) (fallbackChain : List String)
    (executorName : String) : Option Chain :=
  match executors.run 0 executorName with
  | none => none
  | some result =>
      let chain : Chain := {
        executorName, result
        timelog := [⟨executorName, chainStatus result⟩] }
      if result.falls ∧ executorName ∈ billingFallbackChain then
        match laterExecutors fallbackChain executorName with
        | some rest => fallbackLoop executors rest chain
        | none => none
      else some chain

structure CostPolicy where
  enabled : Bool
  stopOnBudgetExceeded : Bool
  maxTaskCostUsd : Rat
deriving DecidableEq, Repr

def isBudgetExceeded (policy : CostPolicy) (costUsd : Rat) : Bool :=
  policy.enabled && policy.stopOnBudgetExceeded &&
    decide (policy.maxTaskCostUsd < costUsd)

/-- The part of a `TaskEvent` that reports outcome and spend. -/
structure TaskEvent where
  agent : String
  executor : String
  status : String
  costUsd : Rat
  inputTokens : Int
  outputTokens : Int
  retryCount : Nat
  retryCostUsd : Rat
  chainTimelog : List TimelogEntry
deriving DecidableEq, Repr

structure RunnerResult where
  success : Bool
  executor : String
  agent : String
  result : ExecutorResult
  budgetExceeded : Bool
deriving DecidableEq, Repr

/-- What a run is given, and the message of a hard violation, if any. -/
structure Assignment where
  executorName : String
  agentRole : String := ""
  fallbackChain : List String := billingFallbackChain
  policy : CostPolicy
  emitEvent : Bool := true
  safetyError : Option String := none

/-- The last result, with a log after a fallback, failed by a violation. -/
def handedOn (safetyError : Option String) (chain : Chain) : ExecutorResult :=
  let logged := if 1 < chain.timelog.length then
      { chain.result with chainTimelog := chain.timelog }
    else chain.result
  match safetyError with
  | some message => { logged with success := false, error := message }
  | none => logged

/-- `AgentRunner.run` from the first attempt on; none when it raises. -/
def run (executors : Executors) (assignment : Assignment) :
    Option (RunnerResult × Option TaskEvent) :=
  (runChain executors assignment.fallbackChain assignment.executorName).map
    fun chain =>
      let result := handedOn assignment.safetyError chain
      let totalCostUsd := roundTo 6 (result.costUsd + chain.retryCostUsd)
      let budgetExceeded :=
        result.success && isBudgetExceeded assignment.policy totalCostUsd
      let status := if !result.success then "failed"
        else if budgetExceeded then "budget_exceeded" else "completed"
      let event : TaskEvent := {
        agent := assignment.agentRole
        executor := chain.executorName
        status
        costUsd := totalCostUsd
        inputTokens := result.inputTokens + chain.retryTokensIn
        outputTokens := result.outputTokens + chain.retryTokensOut
        retryCount := chain.retryCount
        retryCostUsd := roundTo 6 chain.retryCostUsd
        chainTimelog :=
          if 1 < chain.timelog.length then chain.timelog else [] }
      ({ success := result.success && !budgetExceeded
         executor := chain.executorName
         agent := assignment.agentRole
         result
         budgetExceeded },
       if assignment.emitEvent then some event else none)

/-- Cost, input tokens and output tokens. -/
abbrev Spend : Type := Rat × Int × Int

def ExecutorResult.spend (result : ExecutorResult) : Spend :=
  (result.costUsd, result.inputTokens, result.outputTokens)

def TaskEvent.spend (event : TaskEvent) : Spend :=
  (event.costUsd, event.inputTokens, event.outputTokens)

def planStepCost (result : RunnerResult) : Rat :=
  result.result.costUsd

def executorRunnerSpend (result : RunnerResult) : Spend :=
  (result.result.costUsd, result.result.inputTokens,
    result.result.outputTokens)

def agentResultSpend (result : RunnerResult) : Spend :=
  (result.result.costUsd, result.result.inputTokens,
    result.result.outputTokens)

def lapCost (result : RunnerResult) : Rat :=
  result.result.costUsd

/-- What every reader sees equals the total, and so does the emitted event. -/
def Conserved (total : Spend) (outcome : RunnerResult × Option TaskEvent) :
    Prop :=
  planStepCost outcome.1 = total.1 ∧ executorRunnerSpend outcome.1 = total ∧
    agentResultSpend outcome.1 = total ∧ lapCost outcome.1 = total.1 ∧
    ∀ event ∈ outcome.2, event.spend = total

instance (total : Spend) (outcome : RunnerResult × Option TaskEvent) :
    Decidable (Conserved total outcome) :=
  inferInstanceAs (Decidable (_ ∧ _ ∧ _ ∧ _ ∧ ∀ event ∈ outcome.2, _))

/-- Unavailable executors are passed over; a result that holds ends the walk. -/
def chainRules (executors : Executors) : Rules (String × Nat) Unit where
  usable _ c := decide (executors.isAvailable c.2 c.1 ≠ some false)
  succeeds c :=
    match executors.run c.2 c.1 with
    | some result => !result.falls
    | none => true
  exclude _ _ := ()

/-- The results of the executors that a walk calls. -/
def walked (executors : Executors) (rest : List (String × Nat)) :
    List ExecutorResult :=
  ((chainRules executors).walk () rest).filterMap fun c =>
    executors.run c.2 c.1

/-- The results of all attempted executors of a run, in order. -/
def attempts (executors : Executors) (assignment : Assignment) :
    List ExecutorResult :=
  match executors.run 0 assignment.executorName with
  | none => []
  | some first =>
      first ::
        if first.falls ∧ assignment.executorName ∈ billingFallbackChain then
          match laterExecutors assignment.fallbackChain
              assignment.executorName with
          | some rest => walked executors rest
          | none => []
        else []

def spendOf (results : List ExecutorResult) : Spend :=
  (results.map ExecutorResult.spend).sum

/-- The results that a later one took the place of. -/
def abandoned (executors : Executors) (assignment : Assignment) :
    List ExecutorResult :=
  (attempts executors assignment).dropLast

theorem spendOf_cons (result : ExecutorResult) (rest : List ExecutorResult) :
    spendOf (result :: rest) = result.spend + spendOf rest := by
  rw [spendOf, List.map_cons, List.sum_cons]
  rfl

theorem spendOf_dropLast {results : List ExecutorResult}
    {last : ExecutorResult} (h : results.getLast? = some last) :
    spendOf results = spendOf results.dropLast + last.spend := by
  have hsplit := List.dropLast_append_getLast? last h
  calc spendOf results
      = spendOf (results.dropLast ++ [last]) := by rw [hsplit]
    _ = spendOf results.dropLast + last.spend := by
      rw [spendOf, List.map_append, List.sum_append, List.map_singleton,
        List.sum_singleton]
      rfl

def Chain.retrySpend (chain : Chain) : Spend :=
  (chain.retryCostUsd, chain.retryTokensIn, chain.retryTokensOut)

theorem retrySpend_replace (chain : Chain) (name : String)
    (result : ExecutorResult) :
    (chain.replace name result).retrySpend =
      chain.retrySpend + chain.result.spend :=
  rfl

section Loop

variable {executors : Executors}

section

variable {name : String} {n : Nat} {rest : List (String × Nat)}

theorem walked_skip (h : executors.isAvailable n name = some false) :
    walked executors ((name, n) :: rest) = walked executors rest := by
  rw [walked, Rules.walk_skip]
  · rfl
  · simp [chainRules, h]

theorem walked_call {result : ExecutorResult}
    (h : executors.isAvailable n name ≠ some false)
    (hrun : executors.run n name = some result) :
    walked executors ((name, n) :: rest) =
      result :: if result.falls then walked executors rest else [] := by
  have husable : (chainRules executors).usable () (name, n) = true := by
    simp [chainRules, h]
  cases hfalls : result.falls with
  | true =>
      have hfails : (chainRules executors).succeeds (name, n) = false := by
        simp [chainRules, hrun, hfalls]
      rw [walked, Rules.walk_call husable hfails, List.filterMap_cons, hrun]
      rfl
  | false =>
      have hsucceeds : (chainRules executors).succeeds (name, n) = true := by
        simp [chainRules, hrun, hfalls]
      rw [walked, Rules.walk_done husable hsucceeds, List.filterMap_cons, hrun]
      rfl

theorem fallbackLoop_spec {chain last : Chain}
    (h : fallbackLoop executors rest chain = some last) :
    (chain.result :: walked executors rest).getLast? = some last.result ∧
      last.retrySpend = chain.retrySpend +
        spendOf (chain.result :: walked executors rest).dropLast := by
  induction rest generalizing chain with
  | nil =>
      cases h
      exact ⟨rfl, (add_zero _).symm⟩
  | cons c rest ih =>
      obtain ⟨name, n⟩ := c
      rw [fallbackLoop] at h
      by_cases hskip : executors.isAvailable n name = some false
      · rw [if_pos hskip] at h
        obtain ⟨hlast, hbanked⟩ := ih h
        simp only [walked_skip hskip]
        exact ⟨hlast, hbanked⟩
      · rw [if_neg hskip] at h
        cases hrun : executors.run n name with
        | none =>
            rw [hrun] at h
            cases h
        | some result =>
            rw [hrun] at h
            dsimp only at h
            simp only [walked_call hskip hrun]
            by_cases hfalls : result.falls = true
            · rw [if_pos hfalls] at h ⊢
              obtain ⟨hlast, hbanked⟩ := ih h
              refine ⟨hlast, ?_⟩
              rw [hbanked, retrySpend_replace,
                List.dropLast_cons_of_ne_nil (List.cons_ne_nil _ _),
                spendOf_cons, add_assoc]
              rfl
            · rw [if_neg hfalls] at h ⊢
              cases h
              refine ⟨rfl, ?_⟩
              rw [retrySpend_replace, List.dropLast_cons_cons, List.dropLast_singleton,
                spendOf_cons]
              exact (congrArg _ (add_zero _)).symm

end

end Loop

/-- A run ends with the last attempt and has banked the abandoned spends. -/
theorem runChain_spec {executors : Executors} {assignment : Assignment}
    {last : Chain}
    (h : runChain executors assignment.fallbackChain assignment.executorName =
      some last) :
    (attempts executors assignment).getLast? = some last.result ∧
      last.retrySpend = spendOf (abandoned executors assignment) := by
  unfold abandoned attempts
  rw [runChain] at h
  cases hrun : executors.run 0 assignment.executorName with
  | none =>
      rw [hrun] at h
      cases h
  | some first =>
      rw [hrun] at h
      dsimp only at h ⊢
      by_cases hfalls :
          first.falls ∧ assignment.executorName ∈ billingFallbackChain
      · rw [if_pos hfalls] at h ⊢
        cases hrest : laterExecutors assignment.fallbackChain
            assignment.executorName with
        | none =>
            rw [hrest] at h
            cases h
        | some rest =>
            rw [hrest] at h
            obtain ⟨hlast, hbanked⟩ := fallbackLoop_spec h
            refine ⟨hlast, ?_⟩
            rw [hbanked]
            exact zero_add _
      · rw [if_neg hfalls] at h ⊢
        cases h
        exact ⟨rfl, rfl⟩

theorem handedOn_spend (safetyError : Option String) (chain : Chain) :
    (handedOn safetyError chain).spend = chain.result.spend := by
  unfold handedOn
  cases safetyError with
  | none =>
      dsimp only
      split
      · rfl
      · rfl
  | some message =>
      dsimp only
      split
      · rfl
      · rfl

/-- What a run returns and emits, from its last attempt's spend and what was
banked. -/
theorem run_spend {executors : Executors} {assignment : Assignment}
    {outcome : RunnerResult × Option TaskEvent}
    (hrun : run executors assignment = some outcome) :
    ∃ chain, runChain executors assignment.fallbackChain
        assignment.executorName = some chain ∧
      outcome.1.result.spend = chain.result.spend ∧
      outcome.2.map TaskEvent.spend =
        if assignment.emitEvent then
          some (roundTo 6 (chain.result.costUsd + chain.retryCostUsd),
            chain.result.inputTokens + chain.retryTokensIn,
            chain.result.outputTokens + chain.retryTokensOut)
        else none := by
  obtain ⟨chain, hchain, rfl⟩ := Option.map_eq_some_iff.mp hrun
  have hread := handedOn_spend assignment.safetyError chain
  have hcost : (handedOn assignment.safetyError chain).costUsd =
      chain.result.costUsd := congrArg Prod.fst hread
  have hinput : (handedOn assignment.safetyError chain).inputTokens =
      chain.result.inputTokens := congrArg (·.2.1) hread
  have houtput : (handedOn assignment.safetyError chain).outputTokens =
      chain.result.outputTokens := congrArg (·.2.2) hread
  refine ⟨chain, hchain, hread, ?_⟩
  dsimp only
  split
  · rw [Option.map_some, TaskEvent.spend, hcost, hinput, houtput]
  · rfl

/-- The spend that callers read is that of all attempts iff the abandoned ones
spent nothing and rounding loses nothing. -/
theorem run_conserves_iff (executors : Executors) (assignment : Assignment)
    (outcome : RunnerResult × Option TaskEvent)
    (hrun : run executors assignment = some outcome) :
    Conserved (spendOf (attempts executors assignment)) outcome ↔
      spendOf (abandoned executors assignment) = 0 ∧
        (assignment.emitEvent = true →
          ∀ last ∈ (attempts executors assignment).getLast?,
            roundTo 6 last.costUsd = last.costUsd) := by
  obtain ⟨chain, hchain, hread, hevent⟩ := run_spend hrun
  obtain ⟨hlast, hbanked⟩ := runChain_spec hchain
  have htotal : spendOf (attempts executors assignment) =
      spendOf (abandoned executors assignment) + chain.result.spend :=
    spendOf_dropLast hlast
  have hreaders : outcome.1.result.spend =
        spendOf (attempts executors assignment) ↔
      spendOf (abandoned executors assignment) = 0 := by
    rw [hread, htotal]
    exact right_eq_add
  rw [hlast]
  constructor
  · rintro ⟨-, hrunner, -, -, hemitted⟩
    have hnone := hreaders.mp hrunner
    refine ⟨hnone, ?_⟩
    intro hemit last hmem
    cases hmem
    rw [if_pos hemit] at hevent
    obtain ⟨event, hsome, hspend⟩ := Option.map_eq_some_iff.mp hevent
    have hcost := congrArg Prod.fst (hspend.symm.trans (hemitted event hsome))
    have hretry : chain.retryCostUsd = 0 :=
      congrArg Prod.fst (hbanked.trans hnone)
    rw [htotal, hnone, zero_add] at hcost
    dsimp only at hcost
    rw [hretry, add_zero] at hcost
    exact hcost
  · rintro ⟨hnone, hround⟩
    have hrunner := hreaders.mpr hnone
    refine ⟨congrArg Prod.fst hrunner, hrunner, hrunner,
      congrArg Prod.fst hrunner, ?_⟩
    intro event hsome
    rw [Option.mem_def.mp hsome, Option.map_some] at hevent
    by_cases hemit : assignment.emitEvent = true
    · rw [if_pos hemit] at hevent
      have hretry := hbanked.trans hnone
      have hcost : chain.retryCostUsd = 0 := congrArg Prod.fst hretry
      have hinput : chain.retryTokensIn = 0 := congrArg (·.2.1) hretry
      have houtput : chain.retryTokensOut = 0 := congrArg (·.2.2) hretry
      rw [Option.some.inj hevent, htotal, hnone, zero_add, hcost, hinput,
        houtput, add_zero, add_zero, add_zero,
        hround hemit chain.result rfl]
      rfl
    · rw [if_neg hemit] at hevent
      cases hevent

namespace Attempts

/-- The first executor is out of credit, one is down, and `opencode` succeeds. -/
def executors (first : Spend) : Executors where
  run n name :=
    if n = 0 then some {
      success := false, error := "credit balance is too low"
      billingError := true
      costUsd := first.1, inputTokens := first.2.1
      outputTokens := first.2.2 }
    else if name = "opencode" then some {
      success := true, output := "done"
      costUsd := 0.002, inputTokens := 10, outputTokens := 5 }
    else some { success := false, error := "down", notAvailable := true }
  isAvailable _ name := if name = "wrangler" then some false else none

def fix : Assignment where
  executorName := "claude-code"
  agentRole := "claude-code"
  policy := ⟨true, true, 1⟩

/-- What the run returns and emits. -/
def outcome (first : Spend) : RunnerResult × Option TaskEvent :=
  (run (executors first) fix).getD
    (⟨false, "", "", { success := false }, false⟩, none)

theorem free_attempts_conserved :
    Conserved (spendOf (attempts (executors 0) fix)) (outcome 0) :=
  (run_conserves_iff (executors 0) fix (outcome 0) (by decide +kernel)).mpr
    (by decide +kernel)

theorem retry_spend_lost :
    run (executors (0.005, 100, 50)) fix = some (outcome (0.005, 100, 50)) ∧
      spendOf (attempts (executors (0.005, 100, 50)) fix) =
        (0.007, 110, 55) ∧
      (outcome (0.005, 100, 50)).2.map TaskEvent.spend =
        some (0.007, 110, 55) ∧
      planStepCost (outcome (0.005, 100, 50)).1 = 0.002 ∧
      ¬ Conserved (spendOf (attempts (executors (0.005, 100, 50)) fix))
        (outcome (0.005, 100, 50)) := by
  decide +kernel

end Attempts

end Voly.Runner
