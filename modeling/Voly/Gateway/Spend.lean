/-
The spend limit of a gateway, and what its check means for the provider calls of
one chat.
-/
import Voly.Gateway.Cache
import Voly.Gateway.Dlp

namespace Voly.Gateway

open Python Interaction

structure SpendLimit where
  dailyBudgetUsd : Rat := 20
  perAgentBudget : Dict Rat := []
  enabled : Bool := true
  spentToday : Rat := 0
  spentPerAgent : Dict Rat := []
  resetAt : Rat := 0

/-- A new day starts with nothing spent.  The clock is read up to two times. -/
def SpendLimit.renewed (limit : SpendLimit) (now later : Rat) : SpendLimit :=
  if 86400 < now - limit.resetAt then
    { limit with spentToday := 0, spentPerAgent := [], resetAt := later }
  else limit

/-- Both budgets leave room for the cost. -/
def SpendLimit.leaves (limit : SpendLimit) (estimatedCost : Rat)
    (agent : Option String) : Bool :=
  decide (limit.spentToday + estimatedCost ≤ limit.dailyBudgetUsd) &&
    match limit.perAgentBudget.get? (agent.getD "") with
    | none => true
    | some perAgent =>
        agent.getD "" == "" ||
          decide ((limit.spentPerAgent.get? (agent.getD "")).getD 0 +
            estimatedCost ≤ perAgent)

def SpendLimit.check (limit : SpendLimit) (now later estimatedCost : Rat)
    (agent : Option String) : Bool × SpendLimit :=
  if limit.enabled = false then (true, limit)
  else
    ((limit.renewed now later).leaves estimatedCost agent,
      limit.renewed now later)

def SpendLimit.record (limit : SpendLimit) (cost : Rat)
    (agent : Option String) : SpendLimit :=
  { limit with
    spentToday := limit.spentToday + cost
    spentPerAgent :=
      if agent.getD "" = "" then limit.spentPerAgent
      else limit.spentPerAgent.set (agent.getD "")
        ((limit.spentPerAgent.get? (agent.getD "")).getD 0 + cost) }

theorem check_fresh {limit : SpendLimit} (henabled : limit.enabled = true)
    (hfresh : limit.spentToday = 0) {now later estimatedCost : Rat}
    {agent : Option String}
    (h : (limit.check now later estimatedCost agent).1 = true) :
    estimatedCost ≤ limit.dailyBudgetUsd := by
  unfold SpendLimit.check at h
  rw [henabled, if_neg Bool.true_eq_false.mp] at h
  have hleaves : (limit.renewed now later).spentToday + estimatedCost ≤
      (limit.renewed now later).dailyBudgetUsd := by
    simp only [SpendLimit.leaves, Bool.and_eq_true, decide_eq_true_eq] at h
    exact h.1
  have hrenewed : (limit.renewed now later).spentToday = 0 ∧
      (limit.renewed now later).dailyBudgetUsd = limit.dailyBudgetUsd := by
    unfold SpendLimit.renewed
    split
    · exact ⟨rfl, rfl⟩
    · exact ⟨hfresh, rfl⟩
  rw [hrenewed.1, hrenewed.2, zero_add] at hleaves
  exact hleaves

structure AIGatewayConfig where
  enabled : Bool := true
  accountId : String := ""
  upstream : String := ""
  upstreamModel : String := ""
  upstreamFallbackDirect : Bool := true
  cacheEnabled : Bool := true
  cacheTtlSeconds : Int := 3600
  cacheMaxEntries : Int := 1000
  cachePersistDir : String := ".voly/gateway_cache"
  rateLimitsEnabled : Bool := true
  rateRequestsPerMinute : Int := 60
  spendLimitsEnabled : Bool := true
  spendDailyBudgetUsd : Rat := 20
  spendPerAgentBudget : Dict Rat := []
  fallbackEnabled : Bool := true
  fallbackChain : List Entry := []
  fallbackRetries : Int := 3
  dlpEnabled : Bool := false
  dlpBlockSecrets : Bool := true
  dlpBlockPii : Bool := true

/-- A gateway with the cache and the spend limit that it owns. -/
structure OwnedGateway where
  gateway : AIGateway
  cache : CacheConfig
  spendLimit : SpendLimit

/-- `gateway_from_config`; the scope is the project's fingerprint, if any. -/
def gatewayFromConfig (letters : Letters) (config : AIGatewayConfig)
    (cacheScope : String) : OwnedGateway where
  gateway :=
    { enabled := config.enabled
      accountId := config.accountId
      cacheEnabled := config.cacheEnabled
      rateLimitEnabled := config.rateLimitsEnabled
      requestsPerMinute := config.rateRequestsPerMinute
      fallback :=
        { chain := config.fallbackChain
          enabled := config.fallbackEnabled
          retries := config.fallbackRetries }
      dlp :=
        { enabled := config.dlpEnabled
          blockSecrets := config.dlpBlockSecrets
          blockPii := config.dlpBlockPii
          secretPatterns := secretPatterns letters
          piiPatterns := piiPatterns letters }
      upstream := config.upstream
      upstreamModel := config.upstreamModel
      upstreamFallbackDirect := config.upstreamFallbackDirect
      cacheScope }
  cache :=
    { ttlSeconds := config.cacheTtlSeconds
      maxEntries := config.cacheMaxEntries
      persistDir := config.cachePersistDir }
  spendLimit :=
    { enabled := config.spendLimitsEnabled
      dailyBudgetUsd := config.spendDailyBudgetUsd
      perAgentBudget := config.spendPerAgentBudget }

/-- What a chat asks for by now, and the verdict of the spend check. -/
structure SpendView where
  request : Request
  verdict : Option Bool := none

def SpendView.next (view : SpendView) :
    (op : GatewayOp) → GatewayReply op → SpendView
  | .warnRerouted _ alternative, _ =>
      { view with request := view.request.reroutedTo alternative }
  | .spendCheck _ _, ok => { view with verdict := some ok }
  | _, _ => view

/-- A provider is called within the budget, and a cost recorded after that. -/
def SpendView.allows (enabled : Bool) (view : SpendView) : GatewayOp → Prop
  | .warnRerouted _ _ => view.verdict = none
  | .spendCheck estimatedCost _ =>
      view.verdict = none ∧ estimatedCost = Gateway.estimatedCost view.request
  | .spendRecord _ _ => view.verdict = some true
  | .call _ _ _ => enabled = true → view.verdict = some true
  | _ => True

def spendProtocol (enabled : Bool) :
    Protocol GatewayOp GatewayReply SpendView where
  allows := SpendView.allows enabled
  relies := fun _ _ _ => True
  next := SpendView.next

section Chat

variable {enabled : Bool}

theorem wp_checked {A : Type} {R : A → Prop} {x : GatewayScript A}
    (h : Script.Only (fun op => op.atProvider = true) R x) {view : SpendView}
    (hview : enabled = true → view.verdict = some true) :
    Script.wp (spendProtocol enabled) x
      (fun out _ view' => view' = view ∧ ∀ a, out = .ok a → R a) () view := by
  apply h.wp
  · intro op hop
    cases op with
    | healthy _ => trivial
    | markUnhealthy _ _ => trivial
    | call _ _ _ => exact hview
    | _ => cases hop
  · intro op reply hop
    cases op with
    | healthy _ => rfl
    | markUnhealthy _ _ => rfl
    | call _ _ _ => rfl
    | _ => cases hop

theorem wp_anything {A : Type} {op : GatewayOp} {view : SpendView}
    {f : GatewayReply op → GatewayScript A}
    {Q : Except String A → Unit → SpendView → Prop}
    (hallow : view.allows enabled op)
    (h : ∀ reply, Script.wp (spendProtocol enabled) (f reply) Q ()
      (view.next op reply)) :
    Script.wp (spendProtocol enabled) (Script.ask op >>= f) Q () view := by
  rw [Script.wp_ask_bind]
  exact ⟨hallow, fun reply _ => h reply⟩

variable (sha256 : List Char → String) (gateway : AIGateway)
  (request : Request)

theorem settleResult_spend (key : String) (result : Response)
    {view : SpendView} (hview : view.verdict = some true) :
    Script.wp (spendProtocol enabled) (settleResult gateway request key result)
      (fun _ _ _ => True) () view := by
  unfold settleResult
  split
  · split
    · rw [Script.wp_bind]
      apply Script.wp_mono
        (wp_checked (markProviderFromError_only _ _) fun _ => hview)
      intro out _ _ _
      cases out <;> trivial
    · trivial
  · refine wp_anything hview fun _ => wp_anything trivial fun _ => ?_
    split
    · rw [Script.wp_bind, Script.wp_askOk]
      refine ⟨trivial, ?_⟩
      intro stored _
      cases stored <;> trivial
    · trivial

theorem admitted_spend (key : String) {view : SpendView}
    (hview : view = { request }) :
    Script.wp (spendProtocol enabled) (admitted gateway request key)
      (fun _ _ _ => True) () view := by
  subst hview
  refine wp_admitted ⟨trivial, fun _ => rfl⟩ trivial ?_ trivial ?_
  · exact ⟨rfl, rfl⟩
  rw [Script.wp_bind]
  apply Script.wp_mono
    (wp_checked (dispatch_atProviders gateway request) fun _ => rfl)
  rintro out _ _ ⟨rfl, _⟩
  cases out with
  | ok result => exact settleResult_spend gateway request key result rfl
  | error e => trivial

theorem lookedUp_spend :
    Script.wp (spendProtocol enabled) (lookedUp sha256 gateway request)
      (fun _ _ _ => True) () { request } := by
  unfold lookedUp
  dsimp only
  split
  · refine wp_anything trivial fun cached => ?_
    cases cached with
    | some value => trivial
    | none => exact admitted_spend gateway request _ rfl
  · exact admitted_spend gateway request _ rfl

theorem chat_spend (hgateway : gateway.enabled = enabled) :
    Script.wp (spendProtocol enabled) (chat sha256 gateway request)
      (fun _ _ _ => True) () { request } := by
  unfold chat
  split
  · split
    · trivial
    · rw [Script.wp_bind]
      have hunnoticed : HealthUnnoticed (spendProtocol enabled)
          { request } := ⟨fun _ => trivial, fun _ _ => rfl⟩
      apply hunnoticed.reroute request
      · exact lookedUp_spend sha256 gateway request
      · intro alternative
        exact ⟨rfl, lookedUp_spend sha256 gateway
          (request.reroutedTo alternative)⟩
    · trivial
  · next hdisabled =>
      apply Script.wp_mono
        (wp_checked (directCall_atProviders request.sent) ?_)
      · intro _ _ _ _
        trivial
      · intro henabled
        exact (hdisabled (hgateway.trans henabled)).elim

end Chat

end Voly.Gateway
