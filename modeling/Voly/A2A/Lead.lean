/-
The lead of a multi-agent run: a strong model is asked for the tier and skills
of each sub-task.
-/
import Voly.A2A.ChatFallback
import Voly.A2A.Dispatch
import Voly.Python.Number
import Voly.Records.Keyed

namespace Voly.A2A

open Python

/-- What an assignment reads of a `RoleDefinition`. -/
structure LeadRole where
  tier : String
  executes : Bool
  providerOffset : Nat

def roleRegistry : Dict LeadRole :=
  [("architect", ⟨"standard", false, 0⟩),
    ("developer", ⟨"standard", true, 1⟩),
    ("tester", ⟨"standard", true, 2⟩),
    ("reviewer", ⟨"premium", false, 1⟩),
    ("devops", ⟨"cheap", true, 0⟩),
    ("security", ⟨"premium", false, 0⟩),
    ("bugfixer", ⟨"standard", true, 2⟩),
    ("ui_architect", ⟨"standard", false, 0⟩),
    ("visual_reviewer", ⟨"premium", false, 1⟩),
    ("browser_tester", ⟨"standard", true, 2⟩),
    ("ux_reviewer", ⟨"cheap", false, 0⟩)]

def providerModels : Dict (String × String) :=
  [("anthropic", ("claude-sonnet-4-6", "anthropic")),
    ("openai", ("gpt-4o", "openai")),
    ("google", ("gemini-2.5-pro", "google")),
    ("deepseek", ("deepseek-chat", "deepseek")),
    ("opencode-zen", ("big-pickle", "opencode-zen")),
    ("mimo", ("mimo-v2.5-free", "mimo")),
    ("opencode", ("deepseek-v4-flash", "opencode")),
    ("workers-ai", ("@cf/meta/llama-4-scout-17b-16e-instruct", "workers-ai")),
    ("cloudflare-dynamic", ("dynamic/ai_route", "cloudflare-dynamic")),
    ("omniroute", ("auto", "omniroute"))]

def leadCatalogue : Catalogue where
  models := providerModels
  offsets := roleRegistry.map fun row => (row.1, row.2.providerOffset)

def validTiers : List String := ["premium", "standard", "cheap"]

def executingRoles : List String :=
  (roleRegistry.filter fun row => row.2.executes).map Prod.fst

/-- `_ROLE_TIER.get(role_key, "standard")`. -/
def roleTier (roleKey : String) : String :=
  match roleRegistry.get? roleKey with
  | some role => role.tier
  | none => "standard"

/-- `_PROVIDER_MODELS[provider]`. -/
def modelOf (supply : Supply) (provider : String) :
    Except PyError (String × String) :=
  match supply.catalogue.models.get? provider with
  | some pair => .ok pair
  | none => .error (.other provider)

def resolveTierModel (supply : Supply) (tier : String) :
    Except PyError (String × String) :=
  let ok := fun provider =>
    decide (provider ∉ supply.excluded) && supply.healthy provider
  match healthyProvidersForTier supply tier with
  | provider :: _ => modelOf supply provider
  | [] =>
      match (tierProviders tier).find? fun provider =>
          decide (provider ∈ supply.catalogue.models.keys) && ok provider with
      | some provider => modelOf supply provider
      | none =>
          match supply.catalogue.models.find? fun row => ok row.1 with
          | some row => .ok row.2
          | none => modelOf supply "anthropic"

def resolveRoleModel (supply : Supply) (role tier : String) :
    Except PyError (String × String) :=
  let tierKey := orElse tier (roleTier (roleKey role))
  let healthy := healthyProvidersForTier supply tierKey
  if healthy = [] then resolveTierModel supply tierKey
  else
    let offset := (supply.catalogue.offsets.get? (roleKey role)).getD 0
    modelOf supply (healthy.getD (offset % healthy.length) "")

/-- The health after `exclude_provider_on_gateway_error`. -/
def Supply.excluding (supply : Supply) (provider error : String) : Supply :=
  if provider = "" ∨ error = "" then supply
  else
    match Gateway.errorKind error.toList with
    | none => supply
    | some kind =>
        if kind ∈ Gateway.recoverableProviderErrors then
          { supply with
            healthy := fun other =>
              decide (other ≠ provider) && supply.healthy other }
        else supply

/-- What a conversion raises, as far as `except` clauses tell it apart. -/
inductive Raised where
  | value (text : String)
  | type (text : String)
  | other (text : String)

def Raised.text : Raised → String
  | .value text => text
  | .type text => text
  | .other text => text

/-- `json.loads`, `str` and `int`. -/
structure JsonBuiltins where
  loads : String → Except Raised Doc
  str : Doc → Except Raised String
  int : Doc → Except Raised Int

/-- A row of the plan; its tier is whatever stood there. -/
structure LeadEntry where
  tier : Option Doc := none
  skills : List Doc := []
  execution : String := ""

/-- The rows by the index of their sub-task. -/
abbrev LeadPlan := List (Int × LeadEntry)

def LeadPlan.row? (plan : LeadPlan) (i : Nat) : Option LeadEntry :=
  (Keyed.lookup Prod.fst (i : Int) plan).map Prod.snd

section Reading

variable (py : JsonBuiltins)

/-- `item.get("skills", [])` where that is a list, and else nothing. -/
def listedSkills (item : Doc) : List Doc :=
  match item.field? "skills" with
  | some (.list skills) => skills
  | _ => []

/-- `str(item.get("execution") or "").strip().lower()`, when it is one of the
two. -/
def readExecution (item : Doc) : Except Raised String := do
  let text ← match truthyField item "execution" with
    | some value => py.str value
    | none => pure ""
  let execution := lower (strip text)
  pure (if execution ∈ ["chat", "executor"] then execution else "")

def readRow (item idx : Doc) : Except Raised (Int × LeadEntry) := do
  let execution ← readExecution py item
  let i ← py.int idx
  pure (i,
    { tier := item.field? "tier"
      skills := listedSkills item
      execution })

def readItem (item : Doc) : Except Raised (Option (Int × LeadEntry)) :=
  match item.field? "idx" with
  | none => .ok none
  | some idx =>
      match readRow py item idx with
      | .ok row => .ok (some row)
      | .error (.other text) => .error (.other text)
      | .error _ => .ok none

/-- The loop over the items; a later row takes the place of an earlier one. -/
def readPlanItems : List Doc → LeadPlan → Except Raised LeadPlan
  | [], plan => .ok plan
  | item :: rest, plan =>
      match readItem py item with
      | .error e => .error e
      | .ok none => readPlanItems rest plan
      | .ok (some row) => readPlanItems rest (Keyed.put Prod.fst row plan)

/-- From the first `[` to the last `]` behind it. -/
def bracketed (content : String) : Option String :=
  let opened := content.toList.dropWhile (· ≠ '[')
  let text := (opened.reverse.dropWhile (· ≠ ']')).reverse
  if text = [] then none else some (String.ofList text)

def answeredItems (content : String) : Except Raised (List Doc) :=
  match bracketed content with
  | none => .ok []
  | some text =>
      match py.loads text with
      | .ok (.list items) => .ok items
      | .ok _ => .ok []
      | .error (.value _) => .ok []
      | .error e => .error e

def parsePlan (content : String) : Except Raised LeadPlan := do
  let items ← answeredItems py content
  readPlanItems py items []

end Reading

section Plans

variable {py : JsonBuiltins} {items : List Doc} {plan out : LeadPlan} {i : Nat}

/-- The row that an item gives to a sub-task. -/
def rowFor (py : JsonBuiltins) (i : Nat) (item : Doc) : Option LeadEntry :=
  match readItem py item with
  | .ok (some row) => if row.1 = (i : Int) then some row.2 else none
  | _ => none

def lastRow (py : JsonBuiltins) (i : Nat) (items : List Doc) :
    Option LeadEntry :=
  items.reverse.findSome? (rowFor py i)

/-- No conversion of an item goes beyond what the loop takes care of. -/
def Readable (py : JsonBuiltins) (item : Doc) : Bool :=
  match readItem py item with
  | .ok _ => true
  | .error _ => false

theorem lastRow_cons (item : Doc) (rest : List Doc) :
    lastRow py i (item :: rest) =
      (lastRow py i rest).or (rowFor py i item) := by
  simp [lastRow, List.findSome?_append]

theorem row?_put (row : Int × LeadEntry) (plan : LeadPlan) :
    LeadPlan.row? (Keyed.put Prod.fst row plan) i =
      if row.1 = (i : Int) then some row.2 else plan.row? i := by
  rw [LeadPlan.row?, Keyed.lookup_put]
  split
  · rfl
  · rfl

theorem readPlanItems_row (h : readPlanItems py items plan = .ok out) :
    out.row? i = (lastRow py i items).or (plan.row? i) := by
  induction items generalizing plan with
  | nil =>
      cases h
      rfl
  | cons item rest ih =>
      rw [lastRow_cons]
      rw [readPlanItems] at h
      cases hitem : readItem py item with
      | error e =>
          rw [hitem] at h
          cases h
      | ok row =>
          rw [hitem] at h
          cases row with
          | none =>
              have hrow : rowFor py i item = none := by rw [rowFor, hitem]
              rw [ih h, hrow, Option.or_none]
          | some row =>
              have hrow : rowFor py i item =
                  if row.1 = (i : Int) then some row.2 else none := by
                rw [rowFor, hitem]
              rw [ih h, hrow, row?_put, Option.or_assoc]
              split
              · rfl
              · rfl

theorem readPlanItems_ok (plan : LeadPlan) :
    (∃ out, readPlanItems py items plan = .ok out) ↔
      items.all (Readable py) = true := by
  induction items generalizing plan with
  | nil => exact ⟨fun _ => rfl, fun _ => ⟨plan, rfl⟩⟩
  | cons item rest ih =>
      rw [readPlanItems, List.all_cons, Readable]
      cases hitem : readItem py item with
      | error e =>
          constructor
          · rintro ⟨_, hout⟩
            cases hout
          · intro hall
            cases hall
      | ok row =>
          cases row with
          | none => simpa using ih plan
          | some row => simpa using ih (Keyed.put Prod.fst row plan)

def planItems (py : JsonBuiltins) (content : String) : List Doc :=
  match answeredItems py content with
  | .ok items => if items.all (Readable py) then items else []
  | .error _ => []

/-- The last row of each sub-task, or a raise and then none. -/
theorem parsePlan_spec (py : JsonBuiltins) (content : String) :
    (∃ plan, parsePlan py content = .ok plan ∧
      ∀ i, plan.row? i = lastRow py i (planItems py content)) ∨
    (∃ e, parsePlan py content = .error e) ∧ planItems py content = [] := by
  unfold parsePlan planItems
  cases answeredItems py content with
  | error e => exact Or.inr ⟨⟨e, rfl⟩, rfl⟩
  | ok items =>
      have hok := @readPlanItems_ok py items []
      cases hread : readPlanItems py items [] with
      | ok plan =>
          have hall : items.all (Readable py) = true := hok.mp ⟨plan, hread⟩
          refine Or.inl ⟨plan, hread, fun i => ?_⟩
          have hrow := @readPlanItems_row py items [] plan i hread
          simpa [hall, LeadPlan.row?, Keyed.lookup] using hrow
      | error e =>
          have hall : ¬items.all (Readable py) = true := by
            intro hall
            obtain ⟨out, hout⟩ := hok.mpr hall
            rw [hread] at hout
            cases hout
          exact Or.inr ⟨⟨e, hread⟩, if_neg hall⟩

end Plans

structure LeadRequest where
  model : String
  provider : String
  system : String
  user : String
deriving DecidableEq

structure RecommendedProfile where
  id : String
  model : String := ""
  provider : String := ""

/-- What a recommendation says of executor, model, provider and execution. -/
structure CapabilityHint where
  executor : String := ""
  model : String := ""
  provider : String := ""
  execution : String := ""

/-- A `LeadOrchestrator` with the surroundings that it reads. -/
structure LeadOrchestrator where
  gateway : LeadRequest → ChatReply
  skillMatcher : Option (String → String → List (String × String)) := none
  leadModel : String := ""
  leadMode : String := "llm"
  roleTiers : Dict String := []
  matcher : Option (String → String →
    Except String (Option RecommendedProfile)) := none
  excludeEnv : String := ""
  healthy : String → Bool

/-- `if x` on a hint: an empty text changes nothing. -/
def CapabilityHint.applied (hint : CapabilityHint) (a : Assignment) :
    Assignment :=
  { a with
    executor := orElse hint.executor a.executor
    model := orElse hint.model a.model
    provider := orElse hint.provider a.provider
    execution := orElse hint.execution a.execution }

/-- Only some roles may be executed. -/
def Assignment.unpromoted (a : Assignment) : Assignment :=
  if a.execution = "executor" ∧ lower a.role ∉ executingRoles then
    { a with execution := "" }
  else a

def leadSystem : String :=
  "You are the lead orchestrator. For each sub-task assign a model tier and " ++
  "relevant skills. Criteria: complex design/review/security → 'premium'; " ++
  "ordinary implementation → 'standard'; routine tests/deploy/batch → " ++
  "'cheap'. Pick skills ONLY from each role's skills_available (may be " ++
  "empty). Optionally set execution: 'executor' for " ++
  "developer/bugfixer/tester/devops (they may write files); " ++
  "architect/reviewer/security — always 'chat'. If unsure, omit the field. " ++
  "Answer STRICTLY with a JSON array, no explanations: " ++
  "[\x7b\"idx\":0,\"tier\":\"premium\",\"skills\":[\"id1\"]," ++
  "\"execution\":\"chat\"\x7d, ...]"

def firstOfEach (seen : List String) :
    List (String × String) → List (String × String)
  | [] => []
  | row :: rest =>
      if row.1 = "" ∨ row.1 ∈ seen then firstOfEach seen rest
      else row :: firstOfEach (row.1 :: seen) rest

/-- `s in valid_ids`: a list or a dictionary has no hash. -/
def hashable : Doc → Bool
  | .atom _ => true
  | .str _ => true
  | .list _ => false
  | .dict _ => false

/-- `[s for s in skills if s in valid_ids]`. -/
def knownSkills (validIds : List String) :
    List Doc → Except PyError (List String)
  | [] => .ok []
  | .atom _ :: rest => knownSkills validIds rest
  | .str s :: rest =>
      (knownSkills validIds rest).map fun kept =>
        if s ∈ validIds then s :: kept else kept
  | .list _ :: _ => .error (.other "unhashable type: 'list'")
  | .dict _ :: _ => .error (.other "unhashable type: 'dict'")

/-- The tier of a row, unless it names none or an unknown one. -/
def LeadEntry.tierOr (entry : LeadEntry) (fallback : String) : String :=
  match entry.tier.filter truthy with
  | some (.str tier) => if tier ∈ validTiers then tier else fallback
  | _ => fallback

namespace LeadOrchestrator

variable (lead : LeadOrchestrator)

def supply : Supply where
  catalogue := leadCatalogue
  excludeEnv := lead.excludeEnv
  healthy := lead.healthy

def shouldAskLlm (subtasks : List Subtask) : Bool :=
  let mode := lower (orElse lead.leadMode "llm")
  if mode = "deterministic" then false
  else if mode = "llm" then true
  else decide (5 < subtasks.length) ||
    subtasks.any fun st =>
      decide (roleKey st.agent ∉ roleRegistry.keys)

def candidateSkills (task role : String) : List (String × String) :=
  match lead.skillMatcher with
  | none => []
  | some skills => firstOfEach [] ((skills task role).take 6)

def capabilityHint (role : String) : Option CapabilityHint :=
  match lead.matcher with
  | none => none
  | some findExecutors =>
      let roleKey := roleKey role
      let executes := decide (roleKey ∈ executingRoles)
      if roleKey = "" then none
      else
        match findExecutors roleKey
            (if executes then "executor" else "model_provider") with
        | .ok (some profile) =>
            if executes then
              some { executor := profile.id, execution := "executor" }
            else if profile.model ≠ "" ∨ profile.provider ≠ "" then
              some { model := profile.model, provider := profile.provider }
            else some { executor := profile.id }
        | .ok none => none
        | .error _ => none

/-- `role_tiers.get(role_key) or _ROLE_TIER.get(role_key, "standard")`. -/
def fallbackTier (role : String) : String :=
  orElse ((lead.roleTiers.get? (roleKey role)).getD "")
    (roleTier (roleKey role))

def providerForModel (model : String) : String :=
  match providerModels.find? fun row => row.2.1 = model with
  | some row => row.2.2
  | none => "anthropic"

def leadPair : Except PyError (String × String) :=
  if lead.leadModel = "" then
    resolveRoleModel lead.supply "architect" "premium"
  else .ok (lead.leadModel, providerForModel lead.leadModel)

def rolesBlock (task : String) (subtasks : List Subtask) : String :=
  "\n".intercalate (subtasks.mapIdx fun i st =>
    let ids := (lead.candidateSkills task st.agent).map Prod.fst
    toString i ++ ". role=" ++ st.agent ++ "; task=" ++
      slice 160 st.description ++ "; skills_available=" ++
      if ids = [] then "none" else quotedList ids)

def request (task : String) (subtasks : List Subtask)
    (pair : String × String) : LeadRequest where
  model := pair.1
  provider := pair.2
  system := leadSystem
  user := "Task: " ++ task ++ "\n\nSub-tasks:\n" ++
    lead.rolesBlock task subtasks

/-- `_ask_lead` on a reply: the plan, and the error that puts the provider
aside. -/
def readReply (py : JsonBuiltins) : ChatReply → LeadPlan × String
  | .error e => ([], e)
  | .ok response =>
      if response.error ≠ "" then ([], response.error)
      else
        match parsePlan py response.content with
        | .ok plan => (plan, "")
        | .error e => ([], e.text)

/-- `_ask_lead`, with the health of the providers afterwards. -/
def askLead (py : JsonBuiltins) (task : String) (subtasks : List Subtask) :
    Except PyError (LeadPlan × Supply) := do
  let pair ← lead.leadPair
  let (plan, error) := readReply py
    (lead.gateway (lead.request task subtasks pair))
  pure (plan, lead.supply.excluding pair.2 error)

/-- One round of the loop of `assign`. -/
def assignSubtask (task : String) (plan : LeadPlan) (supply : Supply)
    (st : Subtask) (i : Nat) : Except PyError Assignment := do
  let candidates := lead.candidateSkills task st.agent
  let entry := (plan.row? i).getD {}
  let tier := entry.tierOr (lead.fallbackTier st.agent)
  let kept ← knownSkills (candidates.map Prod.fst) entry.skills
  -- an answer that picks no skills is respected
  let skills := if kept = [] ∧ plan = [] then
    (candidates.take 2).map Prod.fst else kept
  let (model, provider) ← resolveRoleModel supply st.agent tier
  let a : Assignment :=
    { idx := i, role := st.agent, description := st.description,
      dependsOn := st.dependsOn.map Int.ofNat, tier, model, provider, skills,
      execution := entry.execution }
  pure (((lead.capabilityHint st.agent).getD {}).applied a).unpromoted

def planFor (py : JsonBuiltins) (task : String) (subtasks : List Subtask) :
    Except PyError (LeadPlan × Supply) :=
  if lead.shouldAskLlm subtasks then lead.askLead py task subtasks
  else pure ([], lead.supply)

def assign (py : JsonBuiltins) (task : String) (subtasks : List Subtask) :
    Except PyError (List Assignment) := do
  let (plan, supply) ← lead.planFor py task subtasks
  subtasks.zipIdx.mapM fun row =>
    lead.assignSubtask task plan supply row.1 row.2

/-- The items of the lead's answer: none unless it can be read. -/
def answer (py : JsonBuiltins) (task : String) (subtasks : List Subtask) :
    List Doc :=
  if lead.shouldAskLlm subtasks then
    match lead.leadPair with
    | .error _ => []
    | .ok pair =>
        match lead.gateway (lead.request task subtasks pair) with
        | .error _ => []
        | .ok response =>
            if response.error ≠ "" then [] else planItems py response.content
  else []

end LeadOrchestrator

end Voly.A2A
