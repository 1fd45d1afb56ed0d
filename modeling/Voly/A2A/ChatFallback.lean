/-
The provider fallback of a chat role: which providers of its tier are tried, and
in which order.
-/
import Voly.A2A.Types
import Voly.Gateway.Classifier
import Voly.Interaction.Leaves

namespace Voly.A2A

open Python Interaction

def strongProviders : List String :=
  ["cloudflare-dynamic", "deepseek", "opencode", "mimo", "anthropic"]

def standardProviders : List String :=
  ["cloudflare-dynamic", "deepseek", "workers-ai", "anthropic"]

def weakProviders : List String :=
  ["workers-ai", "deepseek", "mimo", "opencode-zen", "omniroute"]

def tierProviders (tier : String) : List String :=
  if tier ∈ ["premium", "strong"] then strongProviders
  else if tier = "standard" then standardProviders
  else weakProviders

/-- `_PROVIDER_MODELS` and `_ROLE_PROVIDER_OFFSET`. -/
structure Catalogue where
  models : Dict (String × String)
  offsets : Dict Nat

def excludedProviders (raw : String) : List String :=
  ((raw.toList.splitOn ',').map fun part => strip (String.ofList part)).filter
    fun provider => provider ≠ ""

theorem excludedProviders_ne {raw provider : String}
    (h : provider ∈ excludedProviders raw) : provider ≠ "" := by
  rw [excludedProviders, List.mem_filter, decide_eq_true_iff] at h
  exact h.2

/-- What decides about a provider: catalogue, environment variable, health map.
-/
structure Supply where
  catalogue : Catalogue
  excludeEnv : String
  healthy : String → Bool

def Supply.excluded (supply : Supply) : List String :=
  excludedProviders supply.excludeEnv

section Candidates

variable (supply : Supply)

/-- `_ok` of `_healthy_providers_for_tier`. -/
def Supply.Usable (provider : String) : Prop :=
  provider ∉ supply.excluded ∧ provider ∈ supply.catalogue.models.keys ∧
    supply.healthy provider = true

instance (provider : String) : Decidable (supply.Usable provider) :=
  inferInstanceAs (Decidable (_ ∧ _ ∧ _))

def healthyProvidersForTier (tier : String) : List String :=
  (tierProviders tier).filter fun provider => supply.Usable provider

/-- The pool of the tier, from the offset of the role on. -/
def chatFallbackProviders (tier role : String) : List String :=
  let pool := healthyProvidersForTier supply tier
  if pool = [] then []
  else
    let offset :=
      (supply.catalogue.offsets.get? (lower (strip role))).getD 0
    let start := offset % pool.length
    pool.drop start ++ pool.take start

/-- The providers that `chat_with_provider_fallback` tries, in order. -/
def providersToTry (a : Assignment) : List String :=
  let providers := chatFallbackProviders supply a.tier a.role
  let providers :=
    if a.provider = "" then providers
    else
      let others := providers.filter fun provider => provider ≠ a.provider
      if supply.healthy a.provider then a.provider :: others else others
  if providers = [] then
    if a.provider = "" then [] else [a.provider]
  else providers

end Candidates

inductive FallbackOp where
  | chat (call : ChatCall)
  | markUnhealthy (provider : String) (kind : Gateway.ErrorType)

@[reducible] def FallbackReply : FallbackOp → Type
  | .chat _ => ChatReply
  | .markUnhealthy _ _ => Unit

/-- The state is the assignment of the role. -/
abbrev FallbackScript := Script FallbackOp FallbackReply Assignment PyError

def excludeProviderOnGatewayError (provider error : String) :
    FallbackScript Unit :=
  if provider = "" ∨ error = "" then pure ()
  else
    match Gateway.errorKind error.toList with
    | none => pure ()
    | some kind =>
        if kind ∈ Gateway.recoverableProviderErrors then
          Script.ask (FallbackOp.markUnhealthy provider kind)
        else pure ()

def Assignment.answeredBy (provider model : String) (a : Assignment) :
    Assignment :=
  if provider = a.provider then a
  else
    { a with
      provider
      model
      modeReason :=
        if a.modeReason = "" then "provider_fallback"
        else a.modeReason ++ "+provider_fallback" }

/-- The loop over the providers, with the last error. -/
def tryProviders (models : Dict (String × String)) (call : ChatCall) :
    List String → String → FallbackScript ChatResponse
  | [], lastError =>
      pure { error := orElse lastError "all chat providers failed" }
  | provider :: rest, _ => do
      let a ← Script.read
      let model := ((models.get? provider).getD (a.model, provider)).1
      let reply ← Script.ask (FallbackOp.chat { call with provider, model })
      match reply with
      | .error e => do
          excludeProviderOnGatewayError provider e
          tryProviders models call rest e
      | .ok response =>
          if response.error = "" then do
            Script.update (Assignment.answeredBy provider model)
            pure response
          else if response.spendLimited then pure response
          else do
            excludeProviderOnGatewayError provider response.error
            tryProviders models call rest response.error

def chatWithProviderFallback (supply : Supply) (call : ChatCall) :
    FallbackScript ChatResponse := do
  let a ← Script.read
  tryProviders supply.catalogue.models call (providersToTry supply a) ""

/-- The providers that are called. -/
def seeChat : (op : FallbackOp) → FallbackReply op → List String
  | .chat call, _ => [call.provider]
  | .markUnhealthy _ _, _ => []

section Tried

variable {supply : Supply} {a : Assignment} {provider tier role : String}

theorem tierProviders_nodup (tier : String) : (tierProviders tier).Nodup := by
  unfold tierProviders
  split
  · decide
  · split
    · decide
    · decide

theorem mem_healthyProvidersForTier :
    provider ∈ healthyProvidersForTier supply tier ↔
      provider ∈ tierProviders tier ∧ supply.Usable provider := by
  rw [healthyProvidersForTier, List.mem_filter, decide_eq_true_iff]

theorem chatFallbackProviders_perm (supply : Supply) (tier role : String) :
    (chatFallbackProviders supply tier role).Perm
      (healthyProvidersForTier supply tier) := by
  unfold chatFallbackProviders
  dsimp only
  split
  · next hnil => rw [hnil]
  · exact List.perm_append_comm.trans
      (List.Perm.of_eq (List.take_append_drop _ _))

theorem mem_chatFallbackProviders :
    provider ∈ chatFallbackProviders supply tier role ↔
      provider ∈ tierProviders tier ∧ supply.Usable provider := by
  rw [(chatFallbackProviders_perm supply tier role).mem_iff]
  exact mem_healthyProvidersForTier

theorem chatFallbackProviders_nodup (supply : Supply) (tier role : String) :
    (chatFallbackProviders supply tier role).Nodup := by
  rw [(chatFallbackProviders_perm supply tier role).nodup_iff]
  exact (tierProviders_nodup tier).filter _

/-- The providers that are tried beside the assigned one. -/
def others (supply : Supply) (a : Assignment) : List String :=
  (chatFallbackProviders supply a.tier a.role).filter
    fun provider => provider ≠ a.provider

theorem mem_others : provider ∈ others supply a ↔
    (provider ∈ tierProviders a.tier ∧ supply.Usable provider) ∧
      provider ≠ a.provider := by
  rw [others, List.mem_filter, mem_chatFallbackProviders, decide_eq_true_iff]

theorem providersToTry_unassigned (h : a.provider = "") :
    providersToTry supply a = chatFallbackProviders supply a.tier a.role := by
  unfold providersToTry
  simp only [if_pos h]
  split
  · next hnil => exact hnil.symm
  · rfl

/-- The assigned provider comes first, if it is healthy or nothing else is
left. -/
theorem providersToTry_assigned (h : a.provider ≠ "") :
    providersToTry supply a =
      if supply.healthy a.provider = true ∨ others supply a = [] then
        a.provider :: others supply a
      else others supply a := by
  unfold providersToTry
  simp only [if_neg h]
  change (if (if supply.healthy a.provider = true then
      a.provider :: others supply a else others supply a) = [] then
    [a.provider] else if supply.healthy a.provider = true then
      a.provider :: others supply a else others supply a) = _
  by_cases hhealthy : supply.healthy a.provider = true
  · simp [hhealthy]
  · by_cases hnil : others supply a = []
    · simp [hhealthy, hnil]
    · simp [hhealthy, hnil]

theorem providersToTry_nodup (supply : Supply) (a : Assignment) :
    (providersToTry supply a).Nodup := by
  have hpool := chatFallbackProviders_nodup supply a.tier a.role
  by_cases h : a.provider = ""
  · rw [providersToTry_unassigned h]
    exact hpool
  · have hothers : (others supply a).Nodup := hpool.filter _
    rw [providersToTry_assigned h]
    split
    · exact List.nodup_cons.mpr
        ⟨fun hmem => (mem_others.mp hmem).2 rfl, hothers⟩
    · exact hothers

def CallsExcluded (supply : Supply) (a : Assignment) : Prop :=
  a.provider ∈ supply.excluded ∧ (supply.healthy a.provider = true ∨
    ∀ provider ∈ tierProviders a.tier, ¬supply.Usable provider)

instance (supply : Supply) (a : Assignment) :
    Decidable (CallsExcluded supply a) :=
  inferInstanceAs (Decidable (_ ∧ (_ ∨ ∀ provider ∈ _, _)))

/-- Where the assigned provider is excluded, the others are the tier's usable
ones. -/
theorem others_eq_nil_iff (h : a.provider ∈ supply.excluded) :
    others supply a = [] ↔
      ∀ provider ∈ tierProviders a.tier, ¬supply.Usable provider := by
  rw [List.eq_nil_iff_forall_not_mem]
  constructor
  · intro hnone provider hmem husable
    refine hnone provider (mem_others.mpr ⟨⟨hmem, husable⟩, ?_⟩)
    rintro rfl
    exact husable.1 h
  · intro hnone provider hmem
    have hother := (mem_others.mp hmem).1
    exact hnone provider hother.1 hother.2

theorem providersToTry_excluded (h : CallsExcluded supply a) :
    ∃ rest, providersToTry supply a = a.provider :: rest := by
  rw [providersToTry_assigned (excludedProviders_ne h.1), if_pos]
  · exact ⟨_, rfl⟩
  · exact h.2.imp_right (others_eq_nil_iff h.1).mpr

theorem providersToTry_allowed (h : ¬CallsExcluded supply a) :
    ∀ provider ∈ providersToTry supply a, provider ∉ supply.excluded := by
  intro provider hmem hexcluded
  by_cases hassigned : a.provider = ""
  · rw [providersToTry_unassigned hassigned,
      mem_chatFallbackProviders] at hmem
    exact hmem.2.1 hexcluded
  · have hother : provider ∉ others supply a :=
      fun hmem => (mem_others.mp hmem).1.2.1 hexcluded
    rw [providersToTry_assigned hassigned] at hmem
    split at hmem
    case isFalse => exact hother hmem
    case isTrue hfirst =>
      obtain rfl := (List.mem_cons.mp hmem).resolve_right hother
      exact h ⟨hexcluded, hfirst.imp_right (others_eq_nil_iff hexcluded).mp⟩

end Tried

def CallsAlong (providers : List String) {A : Type}
    (x : FallbackScript A) (a : Assignment) : Prop :=
  Script.Leaves seeChat x a fun _ _ calls =>
    calls <+: providers ∧ (providers ≠ [] → calls ≠ [])

theorem excludeProvider_leaves (provider error : String) (a : Assignment) :
    Script.Leaves seeChat (excludeProviderOnGatewayError provider error) a
      fun _ _ calls => calls = [] := by
  unfold excludeProviderOnGatewayError
  apply Script.Leaves.ite
  · exact fun _ => Script.Leaves.pure rfl
  intro _
  cases Gateway.errorKind error.toList with
  | none => exact Script.Leaves.pure rfl
  | some kind =>
      apply Script.Leaves.ite
      · exact fun _ notes => ⟨trivial, fun _ _ => ⟨[], rfl, rfl⟩⟩
      · exact fun _ => Script.Leaves.pure rfl

theorem tryProviders_along (models : Dict (String × String)) (call : ChatCall)
    (providers : List String) (lastError : String) (a : Assignment) :
    CallsAlong providers (tryProviders models call providers lastError) a := by
  induction providers generalizing lastError a with
  | nil => exact Script.Leaves.pure ⟨List.nil_prefix, fun h => absurd rfl h⟩
  | cons provider rest ih =>
      have hdone : [provider] <+: provider :: rest ∧
          (provider :: rest ≠ [] → [provider] ≠ []) :=
        ⟨⟨rest, rfl⟩, fun _ hnil => by cases hnil⟩
      -- a failed call leaves the rest of the providers to try
      have hnext : ∀ error, Script.Leaves seeChat (do
          excludeProviderOnGatewayError provider error
          tryProviders models call rest error) a fun _ _ calls =>
            provider :: calls <+: provider :: rest ∧
              (provider :: rest ≠ [] → provider :: calls ≠ []) := by
        intro error
        apply Script.Leaves.seq (excludeProvider_leaves provider error a)
        · rintro _ a' _ rfl
          refine (ih error a').mono fun _ _ calls hcalls => ⟨?_, ?_⟩
          · exact (List.prefix_cons_inj provider).mpr hcalls.1
          · exact fun _ => List.cons_ne_nil provider calls
        · rintro _ _ _ rfl
          exact hdone
      apply Script.Leaves.read_bind
      apply Script.Leaves.ask_bind
      intro reply
      cases reply with
      | error e => exact hnext e
      | ok response =>
          apply Script.Leaves.ite
          · intro _
            apply Script.Leaves.update_bind
            exact Script.Leaves.pure hdone
          intro _
          apply Script.Leaves.ite
          · exact fun _ => Script.Leaves.pure hdone
          · exact fun _ => hnext response.error

/-- Each provider is called at most once, and no excluded one is called iff the
assigned one is not excluded, or is unhealthy while another of its tier can be
used. -/
theorem chat_fallback_iff (supply : Supply) (call : ChatCall) (a : Assignment)
    (oracle : Nat → Oracle FallbackOp FallbackReply) :
    let calls := ((chatWithProviderFallback supply call a).exec (noted seeChat)
      oracle 0 []).2
    calls.Nodup ∧ ((∀ provider ∈ calls, provider ∉ supply.excluded) ↔
      ¬CallsExcluded supply a) := by
  intro calls
  have halong : CallsAlong (providersToTry supply a)
      (chatWithProviderFallback supply call) a := by
    apply Script.Leaves.read_bind
    exact tryProviders_along supply.catalogue.models call
      (providersToTry supply a) "" a
  obtain ⟨hinitial, hfirst⟩ := halong.exec oracle 0
  refine ⟨(providersToTry_nodup supply a).sublist hinitial.sublist, ?_⟩
  constructor
  · intro hallowed hcalls
    obtain ⟨rest, hlist⟩ := providersToTry_excluded hcalls
    rw [hlist] at hinitial hfirst
    rcases List.prefix_cons_iff.mp hinitial with hnil | ⟨later, hcons, _⟩
    · exact hfirst (List.cons_ne_nil _ _) hnil
    · have hcalled : calls = a.provider :: later := hcons
      apply hallowed a.provider _ hcalls.1
      rw [hcalled]
      exact List.mem_cons_self
  · intro h provider hmem
    exact providersToTry_allowed h provider (hinitial.subset hmem)

namespace ChatFallbackWitness

def supply (healthy : String → Bool) : Supply where
  catalogue :=
    { models := [("anthropic", ("claude-sonnet-4-6", "anthropic")),
        ("deepseek", ("deepseek-chat", "deepseek"))]
      offsets := [("developer", 1), ("reviewer", 1)] }
  excludeEnv := "openai, anthropic"
  healthy

def reviewer : Assignment :=
  { idx := 0, role := "reviewer", tier := "standard",
    model := "claude-sonnet-4-6", provider := "anthropic" }

def request : ChatCall :=
  { idx := 0, role := "reviewer", tier := "standard",
    model := "claude-sonnet-4-6", provider := "anthropic", user := "task",
    system := "", maxTokens := 4096 }

def answering : Oracle FallbackOp FallbackReply
  | .chat _ => .ok { content := "done" }
  | .markUnhealthy _ _ => ()

def called (healthy : String → Bool) : List String :=
  ((chatWithProviderFallback (supply healthy) request reviewer).exec
    (noted seeChat) (fun _ => answering) 0 []).2

/-- The excluded provider is called where it is healthy, or the only one of the
tier. -/
theorem excluded_called : "anthropic" ∈ (supply fun _ => true).excluded ∧
    called (fun _ => true) = ["anthropic"] ∧
    called (fun _ => false) = ["anthropic"] := by
  decide +kernel

end ChatFallbackWitness

end Voly.A2A
