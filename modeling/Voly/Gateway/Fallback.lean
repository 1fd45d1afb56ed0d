/-
Provider calls with fallback: the chain behind the Cloudflare gateway, the
direct adapters, and an upstream gateway.
-/
import Voly.Gateway.Classifier
import Voly.Interaction.System
import Voly.Python.JsonText

namespace Voly.Gateway

open Python Interaction

structure Usage where
  inputTokens : Int := 0
  outputTokens : Int := 0
  totalTokens : Int := 0
  deriving DecidableEq

/-- What a provider call returns.  An empty error text is no error. -/
structure Answer where
  error : String := ""
  content : Option String := none
  model : String := ""
  stopReason : Option String := none
  toolCalls : List Value := []
  usage : Usage := {}

/-- What `chat` returns: an answer and the marks the gateway adds to it. -/
structure Response extends Answer where
  emptyContent : Bool := false
  dlpBlocked : Bool := false
  rateLimited : Bool := false
  spendLimited : Bool := false
  cacheHit : Bool := false
  fallbackUsed : Bool := false
  fallbackProvider : String := ""
  fallbackModel : String := ""
  fallbackReason : String := ""
  upstream : String := ""
  upstreamFallback : Bool := false

def Answer.toResponse (answer : Answer) : Response := { answer with }

/-- `{"error": ..., "content": ""}`. -/
def failed (error : String) : Response :=
  { error, content := some "" }

/-- The arguments of one provider call. -/
structure Sent where
  messages : List Value
  model : String
  provider : String
  maxTokens : Int
  temperature : Rat
  system : Option String
  tools : Option (List Value)

/-- The arguments of `chat`; a keyword argument beyond the named ones is kept
as the `repr` of its value. -/
structure Request where
  messages : List Value
  model : String
  provider : String := "anthropic"
  maxTokens : Int := 8192
  temperature : Rat := 0
  system : Option String := none
  agent : Option String := none
  tools : Option (List Value) := none
  cacheScope : String := ""
  allowProviderReroute : Bool := true
  kwargs : Dict String := []

def Request.sent (request : Request) : Sent where
  messages := request.messages
  model := request.model
  provider := request.provider
  maxTokens := request.maxTokens
  temperature := request.temperature
  system := request.system
  tools := request.tools

/-- The same call at another provider. -/
def Sent.via (sent : Sent) (provider model : String) : Sent :=
  { sent with provider, model }

/-- The Cloudflare gateway (`_single_call`) or an endpoint of its own
(`_direct_call`). -/
inductive Route where
  | single
  | direct
  deriving DecidableEq

inductive GatewayOp where
  | healthy (provider : String)
  | markUnhealthy (provider reason : String)
  | warnRerouted (provider alternative : String)
  | call (route : Route) (sent : Sent) (kwargs : Dict String)
  | cacheGet (key : String)
  | cacheSet (key : String) (value : Response)
  | requestsInLastMinute
  | recordRequest (provider model : String) (tokens : Int) (cost : Rat)
  | spendCheck (estimatedCost : Rat) (agent : Option String)
  | spendRecord (cost : Rat) (agent : Option String)

@[reducible] def GatewayReply : GatewayOp → Type
  | .healthy _ => Bool
  | .markUnhealthy _ _ => Unit
  | .warnRerouted _ _ => Unit
  | .call _ _ _ => Except String Answer
  | .cacheGet _ => Option Response
  | .cacheSet _ _ => Except String Unit
  | .requestsInLastMinute => Nat
  | .recordRequest _ _ _ _ => Unit
  | .spendCheck _ _ => Bool
  | .spendRecord _ _ => Unit

/-- A call of the gateway; an exception is its text. -/
abbrev GatewayScript := Script GatewayOp GatewayReply Unit String

abbrev GatewayOracle := Oracle GatewayOp GatewayReply

def isHealthy (provider : String) : GatewayScript Bool :=
  Script.ask (GatewayOp.healthy provider)

/-- An entry of the fallback chain; either key may be missing. -/
structure Entry where
  provider : Option String := none
  model : Option String := none
  deriving DecidableEq

structure FallbackChain where
  chain : List Entry := []
  enabled : Bool := true
  retries : Int := 3

/-- A regular expression: its source, and `re.search` unless it does not
compile. -/
structure Pattern where
  source : String
  search : Except String (List Char → Bool)

structure DLPConfig where
  enabled : Bool := false
  blockSecrets : Bool := true
  blockPii : Bool := true
  secretPatterns : List Pattern
  piiPatterns : List Pattern
  blockPatterns : List Pattern := []

/-- The settings of an `AIGateway` that `chat` reads. -/
structure AIGateway where
  enabled : Bool := true
  accountId : String := ""
  cacheEnabled : Bool := true
  rateLimitEnabled : Bool := true
  requestsPerMinute : Int := 60
  fallback : FallbackChain := {}
  dlp : DLPConfig
  upstream : String := ""
  upstreamModel : String := ""
  upstreamFallbackDirect : Bool := true
  cacheScope : String := ""

def AIGateway.cloudflareEnabled (gateway : AIGateway) : Bool :=
  gateway.enabled && gateway.accountId != ""

/-- The providers that Cloudflare routes natively. -/
def cfProviders : List String :=
  ["anthropic", "openai", "google-ai-studio", "deepseek"]

def ErrorType.value : ErrorType → String
  | .rateLimited => "rate_limited"
  | .quotaExhausted => "quota_exhausted"
  | .unauthorized => "unauthorized"
  | .accountDeactivated => "account_deactivated"
  | .oauthInvalidToken => "oauth_invalid_token"
  | .forbidden => "forbidden"
  | .contextOverflow => "context_overflow"
  | .serverError => "server_error"
  | .emptyContent => "empty_content"

def markUnhealthy (provider reason : String) : GatewayScript Unit :=
  if strip provider = "" then pure ()
  else Script.ask (GatewayOp.markUnhealthy (strip provider) reason)

def excludeProviderOnGatewayError (provider error : String) :
    GatewayScript Unit :=
  if provider = "" ∨ error = "" ∨ terminal error = false then pure ()
  else
    let kind := (errorKind error.toList).map ErrorType.value
    markUnhealthy provider (kind.getD "gateway error")

def markProviderFromError (provider error : String) : GatewayScript Unit :=
  if provider = "" ∨ error = "" then pure ()
  else excludeProviderOnGatewayError provider error

def legitEmptyStops : List String :=
  ["max_tokens", "tool_use", "length", "tool_calls"]

def isEmptyContentResponse (response : Response) : Bool :=
  decide (response.content = none ∨ response.content = some "") &&
    decide (response.stopReason.getD "" ∉ legitEmptyStops)

def emptyContentError (result : Response) : Option Response :=
  if result.error ≠ "" ∨ isEmptyContentResponse result = false then none
  else some
    { error := emptyContentText
      content := some ""
      emptyContent := true
      stopReason := some (result.stopReason.getD "") }

/-- `self._empty_content_error(result) or result`. -/
def guardEmpty (result : Response) : Response :=
  (emptyContentError result).getD result

/-- The result of a direct call: exceptions come back as error texts. -/
def directResult : Except String Answer → Response
  | .ok answer => answer.toResponse
  | .error e => failed e

def directCall (sent : Sent) : GatewayScript Response := do
  let answer ← Script.ask (GatewayOp.call .direct sent [])
  pure (directResult answer)

/-- A call through the Cloudflare gateway. -/
def singleCall (sent : Sent) (kwargs : Dict String) :
    GatewayScript Response :=
  Script.askOk (GatewayOp.call .single sent kwargs) fun answer =>
    answer.map Answer.toResponse

/-- Either the guarded result without an error, or the error text. -/
def outcome (result : Response) : Except String Response :=
  if (guardEmpty result).error = "" then .ok (guardEmpty result)
  else .error (guardEmpty result).error

/-- Make the call; an exception counts as an error text. -/
def attempt (call : GatewayScript Response) :
    GatewayScript (Except String Response) :=
  (call >>= fun result => pure (outcome result)).handle fun e =>
    pure (.error e)

def Response.viaFallback (result : Response) (provider model : String) :
    Response :=
  { result with
    fallbackUsed := true
    fallbackProvider := provider
    fallbackModel := model }

def checkNamed (provider : String) : GatewayScript Bool :=
  if provider = "" then pure true else isHealthy provider

/-- The loop of `_gateway_call` from position `attempt` on. -/
def gatewayAttempts (gateway : AIGateway) (request : Request) :
    Nat → String → List Entry → GatewayScript Response
  | _, lastError, [] => pure (failed (allModelsFailed ++ lastError))
  | position, _, spec :: rest => do
      let provider := spec.provider.getD request.provider
      let model := spec.model.getD request.model
      let up ← checkNamed provider
      if up then do
        let out ← attempt
          (singleCall (request.sent.via provider model) request.kwargs)
        match out with
        | .ok result =>
            pure (if 0 < position then result.viaFallback provider model
              else result)
        | .error e => do
            markProviderFromError provider e
            if gateway.fallback.retries ≤ position then
              pure (failed (allModelsFailed ++ e))
            else gatewayAttempts gateway request (position + 1) e rest
      else
        gatewayAttempts gateway request (position + 1)
          ("provider " ++ provider ++ " unhealthy") rest

def gatewayCall (gateway : AIGateway) (request : Request) :
    GatewayScript Response :=
  gatewayAttempts gateway request 0 "None"
    ({ provider := some request.provider, model := some request.model } ::
      gateway.fallback.chain)

def fallbackCall (gateway : AIGateway) (request : Request)
    (provider model : String) : GatewayScript Response :=
  if gateway.cloudflareEnabled ∧ provider ∈ cfProviders then
    singleCall (request.sent.via provider model) request.kwargs
  else directCall (request.sent.via provider model)

/-- The loop of `_direct_fallback`. -/
def directAttempts (gateway : AIGateway) (request : Request)
    (primaryError : String) : String → List Entry → GatewayScript Response
  | lastError, [] => pure (failed (allFallbacksFailed ++ lastError))
  | lastError, spec :: rest => do
      let provider := spec.provider.getD ""
      let model := spec.model.getD ""
      if provider = "" ∨ model = "" then
        directAttempts gateway request primaryError lastError rest
      else do
        let up ← isHealthy provider
        if up then do
          let out ← attempt (fallbackCall gateway request provider model)
          match out with
          | .ok result =>
              pure { result.viaFallback provider model with
                fallbackReason := primaryError }
          | .error e => do
              markProviderFromError provider e
              directAttempts gateway request primaryError e rest
        else directAttempts gateway request primaryError lastError rest

def directFallback (gateway : AIGateway) (request : Request)
    (primaryError : String) : GatewayScript Response :=
  directAttempts gateway request primaryError primaryError
    (sliceTo gateway.fallback.retries gateway.fallback.chain)

def directWithModelFallback (gateway : AIGateway) (request : Request) :
    GatewayScript Response := do
  let result ← directCall request.sent
  let result := guardEmpty result
  if result.error ≠ "" ∧ gateway.fallback.enabled = true ∧
      gateway.fallback.chain ≠ [] then
    directFallback gateway request result.error
  else pure result

def Response.viaUpstream (result : Response) (upstream : String) :
    Response :=
  { result with upstream }

def delegatedOrDirect (gateway : AIGateway) (request : Request) :
    GatewayScript Response :=
  if gateway.upstream ≠ "" ∧ request.provider ≠ gateway.upstream then do
    let result ← directCall (request.sent.via gateway.upstream
      (orElse gateway.upstreamModel request.model))
    let result := guardEmpty result
    if result.error = "" ∨ gateway.upstreamFallbackDirect = false then
      pure (result.viaUpstream gateway.upstream)
    else do
      let direct ← directWithModelFallback gateway request
      pure (if direct.error = "" then { direct with upstreamFallback := true }
        else direct)
  else directWithModelFallback gateway request

end Voly.Gateway
