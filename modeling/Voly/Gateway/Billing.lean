/-
What a chat charges: the recorded amount against the price of the model whose
answer is returned.
-/
import Voly.Gateway.Chat

namespace Voly.Gateway

open Python Interaction Telemetry

/-- The request charged for, the last answered call, the recorded amounts. -/
structure BillView where
  request : Request
  served : Option (Sent × Answer) := none
  recorded : List Rat := []

def BillView.next (view : BillView) :
    (op : GatewayOp) → GatewayReply op → BillView
  | .warnRerouted _ alternative, _ =>
      { view with request := view.request.reroutedTo alternative }
  | .call _ sent _, .ok answer => { view with served := some (sent, answer) }
  | .spendRecord cost _, _ => { view with recorded := view.recorded ++ [cost] }
  | _, _ => view

/-- All replies are those proposed. -/
def BillView.serve : Serve GatewayOp GatewayReply BillView :=
  fun view op reply => (reply, view.next op reply)

def billedChat (sha256 : List Char → String) (gateway : AIGateway)
    (request : Request) (oracle : Nat → GatewayOracle) :
    Except String Response × BillView :=
  let out := (chat sha256 gateway request ()).exec BillView.serve oracle 0
    { request }
  (out.1.1, out.2)

/-- The price of a usage at a model, `_calculate_cost`. -/
def calculateCost (model : String) (usage : Usage) : Rat :=
  estimateCost model usage.inputTokens usage.outputTokens

def reportedCost (response : Response) : Rat :=
  calculateCost response.model response.usage

def billProtocol : Protocol GatewayOp GatewayReply BillView where
  allows := fun _ _ => True
  relies := fun _ _ _ => True
  next := BillView.next

/-- Nothing was charged, and a result without an error is the last answer. -/
def FromProvider (before : BillView) (out : Except String Response)
    (after : BillView) : Prop :=
  after.request = before.request ∧ after.recorded = before.recorded ∧
    ∀ result, out = .ok result → result.error = "" →
      ∃ served, after.served = some served ∧ result.toAnswer = served.2

section Chat

variable {before view : BillView}

theorem fromProvider_failed {out : Except String Response}
    (h : ∀ result, out = .ok result → result.error ≠ "") :
    FromProvider view out view :=
  ⟨rfl, rfl, fun result hok hnone => (h result hok hnone).elim⟩

theorem FromProvider.after {middle after : BillView}
    {out : Except String Response} (h : FromProvider middle out after)
    (hrequest : middle.request = before.request)
    (hrecorded : middle.recorded = before.recorded) :
    FromProvider before out after :=
  ⟨h.1.trans hrequest, h.2.1.trans hrecorded, h.2.2⟩

theorem FromProvider.marked {result marked : Response} {after : BillView}
    (h : FromProvider before (.ok result) after)
    (hanswer : marked.toAnswer = result.toAnswer) :
    FromProvider before (.ok marked) after := by
  refine ⟨h.1, h.2.1, ?_⟩
  rintro _ ⟨⟩ hnone
  have herror : marked.error = result.error := congrArg Answer.error hanswer
  rw [hanswer]
  exact h.2.2 result rfl (herror.symm.trans hnone)

theorem health_unbilled (view : BillView) : HealthUnnoticed billProtocol view :=
  ⟨fun _ => trivial, fun _ _ => rfl⟩

theorem wp_marked_bill (provider error : String) :
    Script.wp billProtocol (markProviderFromError provider error)
      (fun out _ after => out = .ok () ∧ after = view) () view := by
  unfold markProviderFromError
  split
  · exact ⟨rfl, rfl⟩
  · unfold excludeProviderOnGatewayError
    split
    · exact ⟨rfl, rfl⟩
    · unfold markUnhealthy
      split
      · exact ⟨rfl, rfl⟩
      · exact ⟨trivial, fun _ _ => ⟨rfl, rfl⟩⟩

theorem guardEmpty_eq {result : Response} (h : (guardEmpty result).error = "") :
    guardEmpty result = result := by
  unfold guardEmpty emptyContentError at *
  split
  · rfl
  · next hempty =>
      rw [if_neg hempty] at h
      exact absurd h (show emptyContentText ≠ "" by decide +kernel)

theorem guardEmpty_failed (e : String) : (guardEmpty (failed e)).error ≠ "" := by
  intro h
  have hnone : e = "" := by
    rw [guardEmpty_eq h] at h
    exact h
  subst hnone
  exact absurd h (by decide +kernel)

theorem wp_directCall_bill (sent : Sent) :
    Script.wp billProtocol (directCall sent)
      (fun out _ after => ∃ result, out = .ok result ∧
        FromProvider view (.ok (guardEmpty result)) after) () view := by
  refine ⟨trivial, ?_⟩
  intro answer _
  refine ⟨_, rfl, ?_⟩
  cases answer with
  | ok answer =>
      refine ⟨rfl, rfl, ?_⟩
      rintro _ ⟨⟩ hnone
      exact ⟨(sent, answer), rfl, congrArg Response.toAnswer (guardEmpty_eq hnone)⟩
  | error e =>
      apply fromProvider_failed
      rintro _ ⟨⟩
      exact guardEmpty_failed e

/-- One attempt: its one call's answer is the result, or it failed. -/
theorem wp_attempt_single (sent : Sent) (kwargs : Dict String) :
    Script.wp billProtocol (attempt (singleCall sent kwargs))
      (fun out _ after => ∃ result, out = .ok result ∧
        FromProvider view result after) () view := by
  unfold attempt
  rw [Script.wp_handle, Script.wp_bind]
  refine ⟨trivial, ?_⟩
  intro answer _
  cases answer with
  | error e =>
      refine ⟨.error e, rfl, ?_⟩
      apply fromProvider_failed
      intro result hok
      cases hok
  | ok answer =>
      refine ⟨outcome answer.toResponse, rfl, rfl, rfl, ?_⟩
      intro result hout _
      refine ⟨(sent, answer), rfl, ?_⟩
      unfold outcome at hout
      split at hout
      · next hnone =>
          cases hout
          rw [guardEmpty_eq hnone]
          rfl
      · cases hout

theorem wp_attempt_direct (sent : Sent) :
    Script.wp billProtocol (attempt (directCall sent))
      (fun out _ after => ∃ result, out = .ok result ∧
        FromProvider view result after) () view := by
  unfold attempt
  rw [Script.wp_handle, Script.wp_bind]
  apply Script.wp_mono (wp_directCall_bill sent)
  rintro _ _ after ⟨result, rfl, hrequest, hrecorded, hserved⟩
  refine ⟨_, rfl, hrequest, hrecorded, ?_⟩
  intro guarded hout hnone
  unfold outcome at hout
  split at hout
  · cases hout
    exact hserved _ rfl hnone
  · cases hout

variable (gateway : AIGateway) (request : Request)

theorem gatewayAttempts_bill (position : Nat) (lastError : String)
    (chain : List Entry) :
    Script.wp billProtocol
      (gatewayAttempts gateway request position lastError chain)
      (fun out _ after => FromProvider view out after) () view := by
  induction chain generalizing view position lastError with
  | nil =>
      apply fromProvider_failed
      rintro _ ⟨⟩ hnone
      exact absurd (String.append_eq_empty_iff.mp hnone).1 (by decide +kernel)
  | cons spec rest ih =>
      rw [gatewayAttempts]
      apply (health_unbilled view).wp_checkNamed_bind
      intro up
      cases up with
      | false => exact ih _ _
      | true =>
          rw [if_pos rfl, Script.wp_bind]
          apply Script.wp_mono (wp_attempt_single _ _)
          rintro _ _ middle ⟨out, rfl, hout⟩
          cases out with
          | ok result =>
              apply hout.marked
              split
              · rfl
              · rfl
          | error e =>
              dsimp only
              rw [Script.wp_bind]
              apply Script.wp_mono (wp_marked_bill _ e)
              rintro _ _ _ ⟨rfl, rfl⟩
              dsimp only
              split
              · apply FromProvider.after _ hout.1 hout.2.1
                apply fromProvider_failed
                rintro _ ⟨⟩ hnone
                exact absurd (String.append_eq_empty_iff.mp hnone).1
                  (by decide +kernel)
              · apply Script.wp_mono (ih _ _)
                intro _ _ _ hrest
                exact hrest.after hout.1 hout.2.1

theorem directAttempts_bill (primaryError lastError : String)
    (chain : List Entry) :
    Script.wp billProtocol
      (directAttempts gateway request primaryError lastError chain)
      (fun out _ after => FromProvider view out after) () view := by
  induction chain generalizing view lastError with
  | nil =>
      apply fromProvider_failed
      rintro _ ⟨⟩ hnone
      exact absurd (String.append_eq_empty_iff.mp hnone).1 (by decide +kernel)
  | cons spec rest ih =>
      rw [directAttempts]
      split
      · exact ih _
      · apply (health_unbilled view).wp_isHealthy_bind
        intro up
        cases up with
        | false => exact ih _
        | true =>
            rw [if_pos rfl, Script.wp_bind]
            have hcall : Script.wp billProtocol (attempt (fallbackCall gateway
                request (spec.provider.getD "") (spec.model.getD "")))
                (fun out _ after => ∃ result, out = .ok result ∧
                  FromProvider view result after) () view := by
              unfold fallbackCall
              split
              · exact wp_attempt_single _ _
              · exact wp_attempt_direct _
            apply Script.wp_mono hcall
            rintro _ _ middle ⟨out, rfl, hout⟩
            cases out with
            | ok result => exact hout.marked rfl
            | error e =>
                dsimp only
                rw [Script.wp_bind]
                apply Script.wp_mono (wp_marked_bill _ e)
                rintro _ _ _ ⟨rfl, rfl⟩
                apply Script.wp_mono (ih e)
                intro _ _ _ hrest
                exact hrest.after hout.1 hout.2.1

theorem directWithModelFallback_bill :
    Script.wp billProtocol (directWithModelFallback gateway request)
      (fun out _ after => FromProvider view out after) () view := by
  unfold directWithModelFallback
  rw [Script.wp_bind]
  apply Script.wp_mono (wp_directCall_bill _)
  rintro _ _ middle ⟨result, rfl, hfrom⟩
  dsimp only
  split
  · apply Script.wp_mono (directAttempts_bill gateway request _ _ _)
    intro _ _ _ hrest
    exact hrest.after hfrom.1 hfrom.2.1
  · exact hfrom

theorem delegatedOrDirect_bill :
    Script.wp billProtocol (delegatedOrDirect gateway request)
      (fun out _ after => FromProvider view out after) () view := by
  unfold delegatedOrDirect
  split
  · rw [Script.wp_bind]
    apply Script.wp_mono (wp_directCall_bill _)
    rintro _ _ middle ⟨result, rfl, hfrom⟩
    dsimp only
    split
    · exact hfrom.marked rfl
    · rw [Script.wp_bind]
      apply Script.wp_mono (directWithModelFallback_bill gateway request)
      intro out _ after hdirect
      have hwhole := hdirect.after hfrom.1 hfrom.2.1
      cases out with
      | error e => exact hwhole
      | ok direct =>
          apply hwhole.marked
          split
          · rfl
          · rfl
  · exact directWithModelFallback_bill gateway request

theorem dispatch_bill :
    Script.wp billProtocol (dispatch gateway request)
      (fun out _ after => FromProvider view out after) () view := by
  unfold dispatch
  split
  · exact gatewayAttempts_bill gateway request _ _ _
  · exact delegatedOrDirect_bill gateway request

/-- The one recorded amount is what the request is charged for the answer. -/
def ChargedOnce (out : Except String Response) (view : BillView) : Prop :=
  ∀ response, out = .ok response → response.error = "" →
    response.cacheHit = false →
    view.recorded = [spendOf view.request response] ∧
      ∃ served, view.served = some served ∧ response.toAnswer = served.2

theorem settleResult_bill (key : String) {result : Response}
    (hrequest : view.request = request) (hrecorded : view.recorded = [])
    (hserved : result.error = "" →
      ∃ served, view.served = some served ∧ result.toAnswer = served.2) :
    Script.wp billProtocol (settleResult gateway request key result)
      (fun out _ after => ChargedOnce out after) () view := by
  unfold settleResult
  split
  · next herror =>
      have hunsettled : ∀ after, ChargedOnce (.ok result) after := by
        rintro after _ ⟨⟩ hnone
        exact (herror hnone).elim
      split
      · rw [Script.wp_bind]
        apply Script.wp_mono (wp_marked_bill request.provider result.error)
        rintro _ _ after ⟨rfl, rfl⟩
        exact hunsettled _
      · exact hunsettled _
  · next hnone =>
      have hcharged : ChargedOnce (.ok result) { view with
          recorded := view.recorded ++ [spendOf request result] } := by
        rintro _ ⟨⟩ _ _
        refine ⟨?_, hserved (not_not.mp hnone)⟩
        rw [hrecorded, hrequest]
        rfl
      rw [Script.wp_ask_bind]
      refine ⟨trivial, fun _ _ => ?_⟩
      rw [Script.wp_ask_bind]
      refine ⟨trivial, fun _ _ => ?_⟩
      split
      · rw [Script.wp_bind, Script.wp_askOk]
        refine ⟨trivial, ?_⟩
        intro stored _
        cases stored with
        | ok _ => exact hcharged
        | error e =>
            intro response hout
            cases hout
      · exact hcharged

theorem charged_refused {response : Response} (h : response.error ≠ "") :
    ChargedOnce (.ok response) view := by
  rintro _ ⟨⟩ hnone
  exact (h hnone).elim

theorem admitted_bill (key : String) :
    Script.wp billProtocol (admitted gateway request key)
      (fun out _ after => ChargedOnce out after) () { request } := by
  apply wp_admitted ⟨trivial, fun _ => rfl⟩
    (charged_refused (show "Rate limit exceeded" ≠ "" by decide)) trivial
    (charged_refused (show "Spend limit exceeded" ≠ "" by decide))
  rw [Script.wp_bind]
  apply Script.wp_mono (dispatch_bill gateway request)
  rintro out _ after ⟨hrequest, hrecorded, hserved⟩
  cases out with
  | error e =>
      intro response hout
      cases hout
  | ok result =>
      exact settleResult_bill gateway request key hrequest hrecorded
        (hserved result rfl)

theorem lookedUp_bill (sha256 : List Char → String) :
    Script.wp billProtocol (lookedUp sha256 gateway request)
      (fun out _ after => ChargedOnce out after) () { request } := by
  unfold lookedUp
  dsimp only
  split
  · rw [Script.wp_ask_bind]
    refine ⟨trivial, ?_⟩
    intro cached _
    cases cached with
    | some value =>
        rintro _ ⟨⟩ _ hfresh
        cases hfresh
    | none => exact admitted_bill gateway request _
  · exact admitted_bill gateway request _

theorem chat_bill (sha256 : List Char → String)
    (henabled : gateway.enabled = true) :
    Script.wp billProtocol (chat sha256 gateway request)
      (fun out _ after => ChargedOnce out after) () { request } := by
  unfold chat
  rw [if_pos henabled]
  split
  · intro response hout
    cases hout
  · rw [Script.wp_bind]
    apply (health_unbilled _).reroute request
    · exact lookedUp_bill gateway request sha256
    · intro alternative
      exact ⟨trivial,
        lookedUp_bill gateway (request.reroutedTo alternative) sha256⟩
  · apply charged_refused
    intro hnone
    exact absurd (String.append_eq_empty_iff.mp hnone).1 (by decide)

end Chat

/-- The price at the model that served, if it was asked for, and the estimate
without reported tokens. -/
structure Billed (request : Request) (sent : Sent) (response : Response)
    (spend : Rat) : Prop where
  served : response.usage.hasTokens = true → sent.model = request.model →
    spend = calculateCost sent.model response.usage
  reported : response.usage.hasTokens = true → sent.model = request.model →
    response.model = sent.model → spend = reportedCost response
  estimated : response.usage.hasTokens = false →
    spend = estimatedCost request

theorem spendOf_billed (request : Request) (sent : Sent)
    (response : Response) :
    Billed request sent response (spendOf request response) where
  served htokens hmodel := by
    rw [spendOf, if_pos htokens, hmodel]
    rfl
  reported htokens hmodel hname := by
    rw [spendOf, if_pos htokens, reportedCost, hname, hmodel]
    rfl
  estimated hnone := by
    rw [spendOf, hnone, if_neg Bool.false_ne_true]

section Charge

variable (sha256 : List Char → String) {gateway : AIGateway}
  {request : Request} {oracle : Nat → GatewayOracle} {response : Response}

/-- A successful response not from the cache is charged once, as it was billed.
-/
theorem chat_billed (henabled : gateway.enabled = true)
    (hout : (billedChat sha256 gateway request oracle).1 = .ok response)
    (hnone : response.error = "") (hfresh : response.cacheHit = false) :
    ∃ spend sent answer,
      (billedChat sha256 gateway request oracle).2.recorded = [spend] ∧
      (billedChat sha256 gateway request oracle).2.served =
        some (sent, answer) ∧
      response.toAnswer = answer ∧
      Billed (billedChat sha256 gateway request oracle).2.request sent response
        spend := by
  obtain ⟨view, hview, hcharged⟩ := Prog.exec_of_wp BillView.serve oracle
    (fun world view => world = view)
    (by
      rintro _ view _ op rfl _
      exact ⟨trivial, rfl⟩)
    _ 0 _ rfl (chat_bill gateway request sha256 henabled)
  obtain ⟨hrecorded, ⟨sent, answer⟩, hserved, hanswer⟩ :=
    hcharged response hout hnone hfresh
  rw [← hview] at hrecorded hserved
  exact ⟨_, sent, answer, hrecorded, hserved, hanswer,
    spendOf_billed _ sent response⟩

end Charge

namespace BillingWitness

def gateway : AIGateway where
  cacheEnabled := false
  dlp := { secretPatterns := [], piiPatterns := [] }

def request : Request where
  messages := [.dict [("role", .str "user"),
    ("content", .str "Which files does the build read?")]]
  model := "gpt-4o"
  provider := "openai"

def oracle (answer : Answer) : GatewayOracle
  | .healthy _ => true
  | .markUnhealthy _ _ => ()
  | .warnRerouted _ _ => ()
  | .call _ _ _ => .ok answer
  | .cacheGet _ => none
  | .cacheSet _ _ => .ok ()
  | .requestsInLastMinute => 0
  | .recordRequest _ _ _ _ => ()
  | .spendCheck _ _ => true
  | .spendRecord _ _ => ()

def run (answer : Answer) : Except String Response × BillView :=
  billedChat (fun text => String.ofList text) gateway request
    fun _ => oracle answer

def metered : Answer where
  content := some "All of them."
  model := "gpt-4o"
  usage := { inputTokens := 2000, outputTokens := 1000, totalTokens := 3000 }

def unmetered : Answer where
  content := some "All of them."
  model := "gpt-4o"

theorem metered_billed :
    ∃ response spend sent answer, (run metered).1 = .ok response ∧
      (run metered).2.recorded = [spend] ∧
      (run metered).2.served = some (sent, answer) ∧
      response.toAnswer = answer ∧
      Billed (run metered).2.request sent response spend := by
  have hshape : (run metered).1.toOption.map
      (fun response => (response.error, response.cacheHit)) =
        some ("", false) := by
    decide +kernel
  cases hout : (run metered).1 with
  | error e =>
      rw [hout] at hshape
      cases hshape
  | ok response =>
      rw [hout] at hshape
      obtain ⟨hnone, hfresh⟩ := Prod.mk.inj (Option.some.inj hshape)
      obtain ⟨spend, sent, answer, h⟩ :=
        chat_billed (fun text => String.ofList text) rfl hout hnone hfresh
      exact ⟨response, spend, sent, answer, rfl, h⟩

/-- An answer without tokens is charged at the estimate. -/
theorem unmetered_charged :
    (run unmetered).1.toOption.map
        (fun response => (response.error, response.cacheHit, response.usage)) =
      some ("", false, {}) ∧
    (run unmetered).2.served.map (fun served => served.1.model) =
      some "gpt-4o" ∧
    (run unmetered).2.recorded = [0.00004] ∧
    calculateCost "gpt-4o" {} = 0 := by
  decide +kernel

end BillingWitness

end Voly.Gateway
