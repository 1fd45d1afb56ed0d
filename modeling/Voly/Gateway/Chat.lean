/-
`AIGateway.chat`: the policy checks, the choice of a path and the accounting
around a provider call.
-/
import Voly.Gateway.Fallback
import Voly.Telemetry.Cost

namespace Voly.Gateway

open Python Interaction Telemetry

/-- Search the patterns in turn; one that does not compile raises. -/
def searchAll (label : Pattern → String) (content : List Char) :
    List Pattern → Except String (List String)
  | [] => .ok []
  | pattern :: rest => do
      let search ← pattern.search
      let violations ← searchAll label content rest
      pure (if search content then label pattern :: violations
        else violations)

def DLPConfig.scan (dlp : DLPConfig) (content : List Char) :
    Except String (List String) :=
  if dlp.enabled then do
    let secrets ← searchAll (fun pattern =>
      "Secret pattern matched: " ++ slice 60 pattern.source ++ "...") content
      (if dlp.blockSecrets then dlp.secretPatterns else [])
    let pii ← searchAll (fun pattern =>
      "PII pattern matched: " ++ slice 60 pattern.source ++ "...") content
      (if dlp.blockPii then dlp.piiPatterns else [])
    let custom ← searchAll (fun pattern =>
      "Custom pattern matched: " ++ pattern.source) content dlp.blockPatterns
    pure (secrets ++ pii ++ custom)
  else .ok []

/-- The order in which an alternative provider is chosen. -/
def providerPriority : List String :=
  ["anthropic", "workers-ai", "deepseek", "opencode-zen", "mimo", "google",
    "opencode", "openai"]

def providerModels : Dict String := [
  ("anthropic", "claude-sonnet-4-6"),
  ("openai", "gpt-4o"),
  ("google", "gemini-2.5-pro"),
  ("deepseek", "deepseek-chat"),
  ("opencode-zen", "big-pickle"),
  ("mimo", "mimo-v2.5-free"),
  ("opencode", "deepseek-v4-flash"),
  ("workers-ai", "@cf/meta/llama-4-scout-17b-16e-instruct"),
  ("cloudflare-dynamic", "dynamic/ai_route"),
  ("omniroute", "auto")]

/-- The first healthy provider of the list other than `preferred`. -/
def firstHealthy (preferred : String) :
    List String → GatewayScript (Option String)
  | [] => pure none
  | p :: rest =>
      if p = preferred then firstHealthy preferred rest
      else do
        let up ← isHealthy p
        if up then pure (some p) else firstHealthy preferred rest

def bestProvider (preferred : String) : GatewayScript (String × Bool) := do
  let up ← isHealthy preferred
  if up then pure (preferred, false)
  else do
    let found ← firstHealthy preferred providerPriority
    pure (match found with
      | some p => (p, true)
      | none => (preferred, false))

def Request.reroutedTo (request : Request) (provider : String) : Request :=
  { request with
    provider
    model := (providerModels.get? provider).getD request.model }

/-- Skip a provider that was marked unhealthy. -/
def reroute (request : Request) : GatewayScript Request :=
  if request.allowProviderReroute = true ∧ request.provider ≠ "" then do
    let up ← isHealthy request.provider
    if up then pure request
    else do
      let best ← bestProvider request.provider
      if best.2 = true ∧ best.1 ≠ request.provider then do
        Script.ask (GatewayOp.warnRerouted request.provider best.1)
        pure (request.reroutedTo best.1)
      else pure request
  else pure request

/-- `str(kwargs)`. -/
def kwargsText (kwargs : Dict String) : String :=
  "\x7b" ++ ", ".intercalate
    (kwargs.map fun item => quoted item.1 ++ ": " ++ item.2) ++ "\x7d"

def keyDocument (request : Request) (scope : String) : Value :=
  .dict [
    ("messages", .list request.messages),
    ("model", .str request.model),
    ("provider", .str request.provider),
    ("system", .str (request.system.getD "")),
    ("extra", .str (kwargsText request.kwargs)),
    ("scope", .str scope)]

/-- `_cache_key`, under the digest `sha256`. -/
def cacheKey (sha256 : List Char → String) (request : Request)
    (scope : String) : String :=
  sha256 (dumpsSorted (keyDocument request scope))

/-- `_estimate_cost` on the length of the messages. -/
def estimatedCost (request : Request) : Rat :=
  estimateCost request.model ((dumps (.list request.messages)).length / 4) 0

def Usage.hasTokens (usage : Usage) : Bool :=
  usage.inputTokens != 0 || usage.outputTokens != 0 || usage.totalTokens != 0

/-- Usage-based cost if there are tokens, else the estimate. -/
def spendOf (request : Request) (result : Response) : Rat :=
  if result.usage.hasTokens then
    estimateCost request.model result.usage.inputTokens
      result.usage.outputTokens
  else estimatedCost request

/-- The provider call behind the policy checks. -/
def dispatch (gateway : AIGateway) (request : Request) :
    GatewayScript Response :=
  if gateway.cloudflareEnabled = true ∧ request.provider ∈ cfProviders then
    gatewayCall gateway request
  else delegatedOrDirect gateway request

/-- Mark, charge and store a result. -/
def settleResult (gateway : AIGateway) (request : Request) (key : String)
    (result : Response) : GatewayScript Response :=
  if result.error ≠ "" then do
    if result.spendLimited = false ∧ result.dlpBlocked = false then do
      markProviderFromError request.provider result.error
      pure result
    else pure result
  else do
    let spend := spendOf request result
    Script.ask (GatewayOp.spendRecord spend request.agent)
    Script.ask (GatewayOp.recordRequest request.provider request.model
      result.usage.totalTokens spend)
    if gateway.cacheEnabled then do
      Script.askOk (GatewayOp.cacheSet key result) id
      pure result
    else pure result

def rateLimitReached (gateway : AIGateway) : GatewayScript Bool :=
  if gateway.rateLimitEnabled then do
    let count ← Script.ask GatewayOp.requestsInLastMinute
    pure (decide (gateway.requestsPerMinute ≤ (count : Int)))
  else pure false

/-- The rate limit and the spend limit, then the call. -/
def admitted (gateway : AIGateway) (request : Request) (key : String) :
    GatewayScript Response := do
  let reached ← rateLimitReached gateway
  if reached then
    pure { failed "Rate limit exceeded" with rateLimited := true }
  else do
    let ok ← Script.ask
      (GatewayOp.spendCheck (estimatedCost request) request.agent)
    if ok then do
      let result ← dispatch gateway request
      settleResult gateway request key result
    else pure { failed "Spend limit exceeded" with spendLimited := true }

/-- The cache lookup, then the limits. -/
def lookedUp (sha256 : List Char → String) (gateway : AIGateway)
    (request : Request) : GatewayScript Response := do
  let scope := orElse request.cacheScope gateway.cacheScope
  let key := cacheKey sha256 request scope
  if gateway.cacheEnabled then do
    let cached ← Script.ask (GatewayOp.cacheGet key)
    match cached with
    | some value => pure { value with cacheHit := true }
    | none => admitted gateway request key
  else admitted gateway request key

def chat (sha256 : List Char → String) (gateway : AIGateway)
    (request : Request) : GatewayScript Response :=
  if gateway.enabled then
    match gateway.dlp.scan (dumps (.list request.messages)) with
    | .error e => Script.raise e
    | .ok [] => do
        let request ← reroute request
        lookedUp sha256 gateway request
    | .ok violations =>
        pure { failed ("DLP blocked: " ++ quotedList violations) with
          dlpBlocked := true }
  else directCall request.sent

def GatewayOp.atProvider : GatewayOp → Bool
  | .healthy _ => true
  | .markUnhealthy _ _ => true
  | .call _ _ _ => true
  | _ => false

/-- A script that stays with the providers and does not answer from the
cache. -/
abbrev AtProviders (x : GatewayScript Response) : Prop :=
  Script.Only (fun op => op.atProvider = true)
    (fun result => result.cacheHit = false) x

section AtProviders

variable (gateway : AIGateway) (request : Request)

theorem markProviderFromError_only (provider error : String) :
    Script.Only (fun op : GatewayOp => op.atProvider = true)
      (fun _ => True) (markProviderFromError provider error) := by
  unfold markProviderFromError excludeProviderOnGatewayError markUnhealthy
  refine Script.Only.ite (fun _ => Script.Only.pure trivial) fun _ => ?_
  refine Script.Only.ite (fun _ => Script.Only.pure trivial) fun _ => ?_
  refine Script.Only.ite (fun _ => Script.Only.pure trivial) fun _ => ?_
  exact Script.Only.ask rfl

theorem isHealthy_only (provider : String) :
    Script.Only (fun op : GatewayOp => op.atProvider = true)
      (fun _ => True) (isHealthy provider) :=
  Script.Only.ask rfl

theorem guardEmpty_cacheHit {result : Response}
    (h : result.cacheHit = false) : (guardEmpty result).cacheHit = false := by
  unfold guardEmpty emptyContentError
  split
  · exact h
  · rfl

theorem directCall_atProviders (sent : Sent) :
    AtProviders (directCall sent) := by
  have hcall : (GatewayOp.call .direct sent []).atProvider = true := rfl
  refine Script.Only.bind (Script.Only.ask hcall) fun answer _ => ?_
  apply Script.Only.pure
  cases answer <;> rfl

theorem singleCall_atProviders (sent : Sent) (kwargs : Dict String) :
    AtProviders (singleCall sent kwargs) := by
  have hcall : (GatewayOp.call .single sent kwargs).atProvider = true := rfl
  refine Script.Only.askOk hcall fun answer result hresult => ?_
  cases answer with
  | ok answer =>
      cases hresult
      rfl
  | error e => cases hresult

theorem attempt_only {call : GatewayScript Response}
    (h : AtProviders call) :
    Script.Only (fun op : GatewayOp => op.atProvider = true)
      (fun out => ∀ result, out = .ok result → result.cacheHit = false)
      (attempt call) := by
  unfold attempt
  apply Script.Only.handle
  · apply Script.Only.bind h
    intro result hresult
    apply Script.Only.pure
    intro guarded hguarded
    unfold outcome at hguarded
    split at hguarded
    · cases hguarded
      exact guardEmpty_cacheHit hresult
    · cases hguarded
  · intro e
    apply Script.Only.pure
    intro result hresult
    cases hresult

theorem gatewayAttempts_atProviders (position : Nat) (lastError : String)
    (chain : List Entry) :
    AtProviders (gatewayAttempts gateway request position lastError chain) := by
  induction chain generalizing position lastError with
  | nil => exact Script.Only.pure rfl
  | cons spec rest ih =>
      rw [gatewayAttempts]
      have hcheck : Script.Only (fun op : GatewayOp => op.atProvider = true)
          (fun _ => True) (checkNamed (spec.provider.getD request.provider)) :=
        Script.Only.ite (fun _ => Script.Only.pure trivial) fun _ =>
          isHealthy_only _
      apply Script.Only.bind hcheck
      intro up _
      refine Script.Only.ite (fun _ => ?_) fun _ => ih _ _
      apply Script.Only.bind (attempt_only (singleCall_atProviders _ _))
      intro out hout
      cases out with
      | ok result =>
          apply Script.Only.pure
          have hresult := hout result rfl
          split
          · exact hresult
          · exact hresult
      | error e =>
          apply Script.Only.bind (markProviderFromError_only _ e)
          intro _ _
          exact Script.Only.ite (fun _ => Script.Only.pure rfl) fun _ =>
            ih _ _

theorem directAttempts_atProviders (primaryError lastError : String)
    (chain : List Entry) :
    AtProviders
      (directAttempts gateway request primaryError lastError chain) := by
  induction chain generalizing lastError with
  | nil => exact Script.Only.pure rfl
  | cons spec rest ih =>
      rw [directAttempts]
      refine Script.Only.ite (fun _ => ih _) fun _ => ?_
      apply Script.Only.bind (isHealthy_only _)
      intro up _
      refine Script.Only.ite (fun _ => ?_) fun _ => ih _
      have hcall : AtProviders (fallbackCall gateway request
          (spec.provider.getD "") (spec.model.getD "")) :=
        Script.Only.ite (fun _ => singleCall_atProviders _ _) fun _ =>
          directCall_atProviders _
      apply Script.Only.bind (attempt_only hcall)
      intro out hout
      cases out with
      | ok result => exact Script.Only.pure (hout result rfl)
      | error e =>
          apply Script.Only.bind (markProviderFromError_only _ e)
          intro _ _
          exact ih e

theorem directWithModelFallback_atProviders :
    AtProviders (directWithModelFallback gateway request) := by
  apply Script.Only.bind (directCall_atProviders _)
  intro result hresult
  refine Script.Only.ite (fun _ => ?_) fun _ => ?_
  · exact directAttempts_atProviders gateway request _ _ _
  · exact Script.Only.pure (guardEmpty_cacheHit hresult)

theorem delegatedOrDirect_atProviders :
    AtProviders (delegatedOrDirect gateway request) := by
  unfold delegatedOrDirect
  refine Script.Only.ite (fun _ => ?_) fun _ =>
    directWithModelFallback_atProviders gateway request
  apply Script.Only.bind (directCall_atProviders _)
  intro result hresult
  refine Script.Only.ite (fun _ => ?_) fun _ => ?_
  · exact Script.Only.pure (guardEmpty_cacheHit hresult)
  · apply Script.Only.bind
      (directWithModelFallback_atProviders gateway request)
    intro direct hdirect
    apply Script.Only.pure
    split
    · exact hdirect
    · exact hdirect

theorem dispatch_atProviders : AtProviders (dispatch gateway request) :=
  Script.Only.ite (fun _ => gatewayAttempts_atProviders gateway request _ _ _)
    fun _ => delegatedOrDirect_atProviders gateway request

end AtProviders

/-- Providers may be asked for, and nothing follows from it. -/
structure HealthUnnoticed {G : Type}
    (P : Protocol GatewayOp GatewayReply G) (g : G) : Prop where
  allows : ∀ provider, P.allows g (.healthy provider)
  next : ∀ provider up, P.next g (.healthy provider) up = g

section Reroute

variable {G : Type} {P : Protocol GatewayOp GatewayReply G} {g : G}

section

variable {A : Type} (h : HealthUnnoticed P g) {provider : String}
  {f : Bool → GatewayScript A} {Q : Except String A → Unit → G → Prop}
  (hf : ∀ up, Script.wp P (f up) Q () g)
include h hf

theorem HealthUnnoticed.wp_isHealthy_bind :
    Script.wp P (isHealthy provider >>= f) Q () g := by
  refine ⟨h.allows provider, ?_⟩
  intro up _
  rw [h.next]
  exact hf up

theorem HealthUnnoticed.wp_checkNamed_bind :
    Script.wp P (checkNamed provider >>= f) Q () g := by
  unfold checkNamed
  split
  · exact hf true
  · exact h.wp_isHealthy_bind hf

end

theorem HealthUnnoticed.firstHealthy (h : HealthUnnoticed P g)
    (preferred : String) (candidates : List String) :
    Script.wp P (firstHealthy preferred candidates)
      (fun out _ g' => g' = g ∧ ∃ found, out = .ok found) () g := by
  induction candidates with
  | nil => exact ⟨rfl, none, rfl⟩
  | cons p rest ih =>
      rw [Gateway.firstHealthy]
      split
      · exact ih
      · apply h.wp_isHealthy_bind
        intro up
        cases up with
        | true => exact ⟨rfl, some p, rfl⟩
        | false => exact ih

theorem HealthUnnoticed.bestProvider (h : HealthUnnoticed P g)
    (preferred : String) :
    Script.wp P (bestProvider preferred)
      (fun out _ g' => g' = g ∧ ∃ best, out = .ok best) () g := by
  apply h.wp_isHealthy_bind
  intro up
  cases up with
  | true => exact ⟨rfl, _, rfl⟩
  | false =>
      rw [if_neg Bool.false_ne_true, Script.wp_bind]
      apply Script.wp_mono (h.firstHealthy preferred providerPriority)
      rintro _ _ _ ⟨rfl, found, rfl⟩
      exact ⟨rfl, _, rfl⟩

theorem HealthUnnoticed.reroute (h : HealthUnnoticed P g) (request : Request)
    {Q : Except String Request → Unit → G → Prop}
    (hsame : Q (.ok request) () g)
    (hwarn : ∀ alternative,
      P.allows g (.warnRerouted request.provider alternative) ∧
        Q (.ok (request.reroutedTo alternative)) ()
          (P.next g (.warnRerouted request.provider alternative) ())) :
    Script.wp P (reroute request) Q () g := by
  unfold Gateway.reroute
  split
  · apply h.wp_isHealthy_bind
    intro up
    cases up with
    | true => exact hsame
    | false =>
        rw [if_neg Bool.false_ne_true, Script.wp_bind]
        apply Script.wp_mono (h.bestProvider request.provider)
        rintro _ _ _ ⟨rfl, best, rfl⟩
        dsimp only
        split
        · rw [Script.wp_ask_bind]
          exact ⟨(hwarn best.1).1, fun _ _ => (hwarn best.1).2⟩
        · exact hsame
  · exact hsame

theorem wp_admitted {gateway : AIGateway} {request : Request} {key : String}
    {Q : Except String Response → Unit → G → Prop}
    (hcount : P.allows g .requestsInLastMinute ∧
      ∀ count, P.next g .requestsInLastMinute count = g)
    (hlimited :
      Q (.ok { failed "Rate limit exceeded" with rateLimited := true }) () g)
    (hspend : P.allows g
      (.spendCheck (estimatedCost request) request.agent))
    (hrefused :
      Q (.ok { failed "Spend limit exceeded" with spendLimited := true }) ()
        (P.next g (.spendCheck (estimatedCost request) request.agent) false))
    (hcall : Script.wp P
      (dispatch gateway request >>= settleResult gateway request key) Q ()
      (P.next g (.spendCheck (estimatedCost request) request.agent) true)) :
    Script.wp P (admitted gateway request key) Q () g := by
  have hreached (reached : Bool) : Script.wp P
      (if reached = true then
        pure { failed "Rate limit exceeded" with rateLimited := true }
      else do
        let ok ← Script.ask
          (GatewayOp.spendCheck (estimatedCost request) request.agent)
        if ok then do
          let result ← dispatch gateway request
          settleResult gateway request key result
        else pure { failed "Spend limit exceeded" with spendLimited := true })
      Q () g := by
    cases reached with
    | true => exact hlimited
    | false =>
        refine ⟨hspend, fun ok _ => ?_⟩
        cases ok with
        | false => exact hrefused
        | true => exact hcall
  unfold admitted rateLimitReached
  rw [Script.wp_bind]
  split
  · refine ⟨hcount.1, fun count _ => ?_⟩
    rw [hcount.2]
    exact hreached _
  · exact hreached false

end Reroute

end Voly.Gateway
