/-
The daily budget over a whole plan run: chat steps on gateways of their own.
-/
import Voly.Plan.Runner
import Voly.Gateway.Spend

namespace Voly

open Python Interaction Gateway Telemetry

structure ModelConfig where
  provider : String
  model : String

/-- The configuration of a chat step, with what capability routing proposes. -/
structure ChatConfig where
  aiGateway : AIGatewayConfig := {}
  defaultModel : String
  models : Dict ModelConfig := []
  builtinModels : Dict ModelConfig := []
  capabilityRoute : String → Option (String × String × String) :=
    fun _ => none

def ChatConfig.getModelConfig (config : ChatConfig) (name : String) :
    ModelConfig :=
  let name := orElse name config.defaultModel
  match config.models.get? name, config.builtinModels.get? name with
  | some model, _ => model
  | none, some model => model
  | none, none => { provider := "anthropic", model := name }

/-- The model and provider that the step or the capability routing names. -/
def ChatConfig.chosen (config : ChatConfig) (step : PlanStep) :
    String × String :=
  if step.model ≠ "" then (step.model, step.provider)
  else
    match config.capabilityRoute step.role with
    | none => (step.model, step.provider)
    | some (_, model, provider) =>
        if model = "" then (step.model, step.provider)
        else (model, orElse provider step.provider)

def ChatConfig.request (config : ChatConfig) (step : PlanStep)
    (instruction : String) : Request :=
  let chosen := config.chosen step
  let modelConfig := config.getModelConfig chosen.1
  { messages :=
      [.dict [("role", .str "user"), ("content", .str instruction)]]
    model := orElse chosen.1 (orElse modelConfig.model config.defaultModel)
    provider := orElse chosen.2 (orElse modelConfig.provider "anthropic")
    system := some ("You are the '" ++ step.role ++
      "' agent in a multi-step VOLY plan (step id=" ++ step.id ++
      "). Complete only this step. Be concise.")
    agent := some (orElse step.role "plan")
    maxTokens := 4096 }

/-- What `_exec_chat` returns, and the cost and duration it writes. -/
def chatReply (model : String) (durationMs : Rat) :
    Except String Response → CallReply
  | .error e => { outcome := .error e }
  | .ok result =>
      if result.error ≠ "" then
        { outcome := .ok { success := false, error := result.error }
          durationMs := some durationMs }
      else
        { outcome := .ok
            { success := true, output := result.content.getD "" }
          costUsd := some (estimateCost (orElse result.model model)
            result.usage.inputTokens result.usage.outputTokens)
          durationMs := some durationMs }

/-- A chat step; `asked` is the request as the gateway has rerouted it. -/
structure StepChat where
  stepId : String
  model : String
  limit : SpendLimit
  asked : Request
  prog : Prog GatewayOp GatewayReply (Except String Response × Unit)

/-- A provider call: the costs before it, and the estimate of its chat. -/
structure ProviderCall where
  recorded : Rat
  estimate : Rat

structure PlanRun (A : Type) where
  runner : Prog PlanOp PlanReply A
  chats : List StepChat := []
  recorded : Rat := 0
  calls : List ProviderCall := []

/-- Either the runner or one of the chats asks its next question. -/
inductive Move where
  | runner (oracle : PlanOracle) (cacheScope : String) (durationMs : Rat)
  | chat (i : Nat) (oracle : GatewayOracle) (now later : Rat)

/-- The chat serves its own spend limit; anything else is up to the oracle. -/
def StepChat.serve (chat : StepChat) (now later : Rat) :
    (op : GatewayOp) → GatewayReply op → GatewayReply op × StepChat
  | .spendCheck estimatedCost agent, _ =>
      let out := chat.limit.check now later estimatedCost agent
      (out.1, { chat with limit := out.2 })
  | .spendRecord cost agent, _ =>
      ((), { chat with limit := chat.limit.record cost agent })
  | .warnRerouted _ alternative, reply =>
      (reply, { chat with asked := chat.asked.reroutedTo alternative })
  | _, reply => (reply, chat)

def recordedBy : GatewayOp → Rat
  | .spendRecord cost _ => cost
  | _ => 0

section Run

variable {A : Type} (sha256 : List Char → String) (letters : Letters)
  (config : ChatConfig)

/-- `_exec_chat` up to the call: a gateway of its own for every step. -/
def startChat (cacheScope : String) (step : PlanStep)
    (instruction : String) : StepChat :=
  let owned := gatewayFromConfig letters config.aiGateway cacheScope
  let request := config.request step instruction
  { stepId := step.id
    model := request.model
    limit := owned.spendLimit
    asked := request
    prog := chat sha256 owned.gateway request () }

def PlanRun.chatOf? (run : PlanRun A) (stepId : String) : Option StepChat :=
  run.chats.reverse.find? fun chat => chat.stepId = stepId

/-- The runner asks its next question; it waits for a chat to end. -/
def PlanRun.moveRunner (run : PlanRun A) (oracle : PlanOracle)
    (cacheScope : String) (durationMs : Rat) : PlanRun A :=
  match run.runner with
  | .done _ => run
  | .ask (.callStart step _ instruction) next =>
      if step.mode = .chat then
        { run with
          runner := next ()
          chats := run.chats ++
            [startChat sha256 letters config cacheScope step instruction] }
      else { run with runner := next () }
  | .ask (.callEnd stepId) next =>
      match run.chatOf? stepId with
      | none => { run with runner := next (oracle (.callEnd stepId)) }
      | some chat =>
          match chat.prog with
          | .done out =>
              { run with
                runner := next (chatReply chat.model durationMs out.1) }
          | .ask _ _ => run
  | .ask op next => { run with runner := next (oracle op) }

/-- Chat `i` asks its next question. -/
def PlanRun.moveChat (run : PlanRun A) (i : Nat) (oracle : GatewayOracle)
    (now later : Rat) : PlanRun A :=
  match run.chats[i]? with
  | none => run
  | some chat =>
      match chat.prog with
      | .done _ => run
      | .ask op next =>
          let served := chat.serve now later op (oracle op)
          { run with
            chats := run.chats.set i { served.2 with prog := next served.1 }
            recorded := run.recorded + recordedBy op
            calls :=
              if op.isCall then
                { recorded := run.recorded
                  estimate := estimatedCost chat.asked } :: run.calls
              else run.calls }

def PlanRun.step (run : PlanRun A) : Move → PlanRun A
  | .runner oracle cacheScope durationMs =>
      run.moveRunner sha256 letters config oracle cacheScope durationMs
  | .chat i oracle now later => run.moveChat i oracle now later

def PlanRun.after (run : PlanRun A) (moves : List Move) : PlanRun A :=
  moves.foldl (PlanRun.step sha256 letters config) run

/-- Every call was within the budget, given what earlier ones have cost. -/
def PlanRun.WithinBudget (run : PlanRun A) : Prop :=
  ∀ call ∈ run.calls, call.recorded + call.estimate ≤
    config.aiGateway.spendDailyBudgetUsd

/-- A call within the budget is within what the costs leave.  A disabled gateway
checks nothing. -/
def PlanRun.Fits (run : PlanRun A) : Move → Prop
  | .runner _ _ _ => True
  | .chat i _ _ _ => ∀ chat op, run.chats[i]? = some chat →
      chat.prog.question? = some op → op.isCall = true →
      (config.aiGateway.enabled = true →
        estimatedCost chat.asked ≤ config.aiGateway.spendDailyBudgetUsd) →
      run.recorded + estimatedCost chat.asked ≤
        config.aiGateway.spendDailyBudgetUsd

/-- Every move of the run meets the condition in the state it is made in. -/
def PlanRun.AllFit : PlanRun A → List Move → Prop
  | _, [] => True
  | run, move :: rest =>
      run.Fits config move ∧
        AllFit (run.step sha256 letters config move) rest

variable {sha256 letters config}

/-- An unchecked chat's limit is fresh; a checked one is within the budget. -/
structure StepChat.Checked (config : AIGatewayConfig) (chat : StepChat)
    (view : SpendView) : Prop where
  asked : chat.asked = view.request
  follows : chat.prog.wp (spendProtocol config.enabled)
    (fun _ _ => True) view
  fresh : view.verdict = none → chat.limit.enabled = true ∧
    chat.limit.spentToday = 0 ∧
    chat.limit.dailyBudgetUsd = config.spendDailyBudgetUsd
  within : view.verdict = some true →
    estimatedCost view.request ≤ config.spendDailyBudgetUsd

theorem startChat_checked
    (hlimits : config.aiGateway.spendLimitsEnabled = true)
    (cacheScope : String) (step : PlanStep) (instruction : String) :
    (startChat sha256 letters config cacheScope step instruction).Checked
      config.aiGateway { request := config.request step instruction } where
  asked := rfl
  follows := chat_spend sha256 _ _ rfl
  fresh := fun _ => ⟨hlimits, rfl, rfl⟩
  within := fun h => nomatch h

theorem StepChat.Checked.serve {gatewayConfig : AIGatewayConfig}
    {chat : StepChat} {view : SpendView}
    (h : chat.Checked gatewayConfig view) {op : GatewayOp}
    {next : GatewayReply op →
      Prog GatewayOp GatewayReply (Except String Response × Unit)}
    (hprog : chat.prog = .ask op next) (now later : Rat)
    (reply : GatewayReply op) :
    ({ (chat.serve now later op reply).2 with
        prog := next (chat.serve now later op reply).1 } : StepChat).Checked
      gatewayConfig (view.next op (chat.serve now later op reply).1) := by
  have hfollows := h.follows
  rw [hprog] at hfollows
  obtain ⟨hallow, hnext⟩ := hfollows
  have hnext' := hnext (chat.serve now later op reply).1 trivial
  cases op with
  | warnRerouted provider alternative =>
      have hview : view.verdict = none := hallow
      exact ⟨congrArg (fun request => request.reroutedTo alternative) h.asked,
        hnext', h.fresh, fun hverdict => nomatch hview.symm.trans hverdict⟩
  | spendCheck cost agent =>
      obtain ⟨hview, rfl⟩ : view.verdict = none ∧
        cost = estimatedCost view.request := hallow
      obtain ⟨henabled, hspent, hbudget⟩ := h.fresh hview
      refine ⟨h.asked, hnext', (fun hverdict => nomatch hverdict), ?_⟩
      intro hverdict
      rw [← hbudget]
      exact check_fresh henabled hspent (Option.some.inj hverdict)
  | spendRecord cost agent =>
      have hview : view.verdict = some true := hallow
      exact ⟨h.asked, hnext',
        (fun hverdict => nomatch hview.symm.trans hverdict), h.within⟩
  | _ => exact ⟨h.asked, hnext', h.fresh, h.within⟩

/-- What holds all along a run. -/
structure PlanRun.Accounted (config : AIGatewayConfig) (run : PlanRun A) :
    Prop where
  chats : ∀ chat ∈ run.chats, ∃ view, chat.Checked config view
  calls : ∀ call ∈ run.calls,
    call.recorded + call.estimate ≤ config.spendDailyBudgetUsd

theorem PlanRun.Accounted.moveRunner {run : PlanRun A}
    (h : run.Accounted config.aiGateway)
    (hlimits : config.aiGateway.spendLimitsEnabled = true)
    (oracle : PlanOracle) (cacheScope : String) (durationMs : Rat) :
    (run.moveRunner sha256 letters config oracle cacheScope
      durationMs).Accounted config.aiGateway := by
  unfold PlanRun.moveRunner
  split
  · exact h
  · split
    · refine ⟨?_, h.calls⟩
      intro chat hchat
      rcases List.mem_append.mp hchat with hchat | hchat
      · exact h.chats chat hchat
      · rw [List.mem_singleton.mp hchat]
        exact ⟨_, startChat_checked hlimits cacheScope _ _⟩
    · exact ⟨h.chats, h.calls⟩
  · split
    · exact ⟨h.chats, h.calls⟩
    · split
      · exact ⟨h.chats, h.calls⟩
      · exact h
  · exact ⟨h.chats, h.calls⟩

theorem StepChat.Checked.call {gatewayConfig : AIGatewayConfig}
    {chat : StepChat} {view : SpendView}
    (h : chat.Checked gatewayConfig view) {op : GatewayOp}
    (hquestion : chat.prog.question? = some op) (hcall : op.isCall = true)
    (henabled : gatewayConfig.enabled = true) :
    estimatedCost chat.asked ≤ gatewayConfig.spendDailyBudgetUsd := by
  have hfollows := h.follows
  cases hprog : chat.prog with
  | done out =>
      rw [hprog] at hquestion
      cases hquestion
  | ask asked next =>
      rw [hprog] at hquestion hfollows
      cases hquestion
      rw [h.asked]
      apply h.within
      cases op with
      | call route sent kwargs => exact hfollows.1 henabled
      | _ => cases hcall

theorem PlanRun.Accounted.moveChat {run : PlanRun A}
    (h : run.Accounted config.aiGateway) {i : Nat} {oracle : GatewayOracle}
    {now later : Rat} (hfits : run.Fits config (.chat i oracle now later)) :
    (run.moveChat i oracle now later).Accounted config.aiGateway := by
  unfold PlanRun.moveChat
  split
  · exact h
  · next chat hchat =>
      split
      · exact h
      · next op next hprog =>
          obtain ⟨view, hchecked⟩ := h.chats chat (List.mem_of_getElem? hchat)
          constructor
          · intro other hother
            rcases List.mem_or_eq_of_mem_set hother with hother | rfl
            · exact h.chats other hother
            · exact ⟨_, hchecked.serve hprog now later (oracle op)⟩
          · intro call hmem
            dsimp only at hmem
            split at hmem
            · next hcall =>
                rcases List.mem_cons.mp hmem with rfl | hmem
                · have hquestion : chat.prog.question? = some op := by
                    rw [hprog]
                    rfl
                  exact hfits chat op hchat hquestion hcall
                    (hchecked.call hquestion hcall)
                · exact h.calls call hmem
            · exact h.calls call hmem

theorem PlanRun.Accounted.after {run : PlanRun A}
    (h : run.Accounted config.aiGateway)
    (hlimits : config.aiGateway.spendLimitsEnabled = true)
    (moves : List Move) (hfit : run.AllFit sha256 letters config moves) :
    (run.after sha256 letters config moves).Accounted config.aiGateway := by
  induction moves generalizing run with
  | nil => exact h
  | cons move rest ih =>
      refine ih ?_ hfit.2
      cases move with
      | runner oracle cacheScope durationMs =>
          exact h.moveRunner hlimits oracle cacheScope durationMs
      | chat i oracle now later => exact h.moveChat hfit.1

theorem moveChat_calls (run : PlanRun A) (i : Nat) (oracle : GatewayOracle)
    (now later : Rat) : run.calls ⊆ (run.moveChat i oracle now later).calls := by
  unfold PlanRun.moveChat
  split
  · exact List.Subset.refl _
  · split
    · exact List.Subset.refl _
    · dsimp only
      split
      · exact List.subset_cons_self _ _
      · exact List.Subset.refl _

theorem moveRunner_calls (run : PlanRun A) (oracle : PlanOracle)
    (cacheScope : String) (durationMs : Rat) :
    (run.moveRunner sha256 letters config oracle cacheScope durationMs).calls =
      run.calls := by
  unfold PlanRun.moveRunner
  split
  · rfl
  · split <;> rfl
  · split
    · rfl
    · split <;> rfl
  · rfl

theorem after_calls (run : PlanRun A) (moves : List Move) :
    run.calls ⊆ (run.after sha256 letters config moves).calls := by
  induction moves generalizing run with
  | nil => exact List.Subset.refl _
  | cons move rest ih =>
      have hstep : run.calls ⊆
          (run.step sha256 letters config move).calls := by
        cases move with
        | runner oracle cacheScope durationMs =>
            unfold PlanRun.step
            rw [moveRunner_calls]
            exact List.Subset.refl _
        | chat i oracle now later => exact moveChat_calls run i oracle now later
      exact fun call hcall => ih _ (hstep hcall)

theorem fits_of_within {run : PlanRun A} {move : Move}
    (h : ∀ call ∈ (run.step sha256 letters config move).calls,
      call.recorded + call.estimate ≤ config.aiGateway.spendDailyBudgetUsd) :
    run.Fits config move := by
  cases move with
  | runner oracle cacheScope durationMs => trivial
  | chat i oracle now later =>
      intro chat op hchat hquestion hcall _
      apply h { recorded := run.recorded, estimate := estimatedCost chat.asked }
      unfold PlanRun.step PlanRun.moveChat
      dsimp only
      rw [hchat]
      dsimp only
      cases hprog : chat.prog with
      | done out =>
          rw [hprog] at hquestion
          cases hquestion
      | ask asked next =>
          rw [hprog] at hquestion
          cases hquestion
          dsimp only
          rw [if_pos hcall]
          exact List.mem_cons_self

theorem allFit_of_within {run : PlanRun A} (moves : List Move)
    (h : (run.after sha256 letters config moves).WithinBudget config) :
    run.AllFit sha256 letters config moves := by
  induction moves generalizing run with
  | nil => trivial
  | cons move rest ih =>
      have hstep : ∀ call ∈ (run.step sha256 letters config move).calls,
          call.recorded + call.estimate ≤
            config.aiGateway.spendDailyBudgetUsd := by
        intro call hcall
        exact h call (after_calls _ rest hcall)
      exact ⟨fits_of_within hstep, ih h⟩

end Run

namespace BudgetWitness

def config (budget : Rat) : ChatConfig where
  aiGateway := { spendDailyBudgetUsd := budget }
  defaultModel := "claude-sonnet-4-6"

def chain : Plan where
  planId := "p"
  task := "write"
  steps := [{ id := "a" }, { id := "b", dependsOn := ["a"] }]

def answers : GatewayOracle
  | .healthy _ => true
  | .markUnhealthy _ _ => ()
  | .warnRerouted _ _ => ()
  | .call _ _ _ =>
      .ok
        { content := some "done"
          usage := { outputTokens := 2000, totalTokens := 2000 } }
  | .cacheGet _ => none
  | .cacheSet _ _ => .ok ()
  | .requestsInLastMinute => 0
  | .recordRequest _ _ _ _ => ()
  | .spendCheck _ _ => true
  | .spendRecord _ _ => ()

def moves : List Move :=
  (List.replicate 60 [
    .runner (calm { success := true }) "" 0,
    .chat 0 answers 100000 100000,
    .chat 1 answers 100000 100000]).flatten

def start : PlanRun (Except PyError PlanRunResult × Plan) where
  runner := run {} "" "" none chain

def finished (budget : Rat) : PlanRun (Except PyError PlanRunResult × Plan) :=
  start.after (fun s => String.ofList s) DlpWitness.ascii (config budget) moves

end BudgetWitness

end Voly
