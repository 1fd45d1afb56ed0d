/-
Capability profiles of executors and their directory; routing scores, hard
gates, and the executor matcher.
-/
import Mathlib.Algebra.Order.Field.Rat
import Mathlib.Data.List.Sort
import Voly.Python.Json

namespace Voly

open Python

structure CapabilityDomain where
  score : Rat := 1 / 2
  confidence : Rat := 0
  subScores : Dict Rat := []
  strengths : List String := []
  weaknesses : List String := []

structure ConstraintsInfo where
  contextWindow : Int := 0
  fileTools : Bool := true
  browserTools : Bool := false
  imageInput : Bool := false
  maxOutputTokens : Int := 0

structure EvidenceInfo where
  internalRuns : Nat := 0
  successfulRuns : Nat := 0
  lastEvaluatedAt : Option String := none
  benchmarkSources : List Json := []

structure OperationalInfo where
  avgLatencyMs : Rat := 0
  completionRate : Rat := 1
  retryRate : Rat := 0
  costPerTaskUsd : Rat := 0
  totalRuns : Int := 0

structure ExecutorProfile where
  id : String
  kind : String
  provider : String := ""
  model : String := ""
  capabilities : Dict CapabilityDomain := []
  constraints : ConstraintsInfo := {}
  evidence : EvidenceInfo := {}
  operational : OperationalInfo := {}

def ExecutorProfile.unknown (executorId : String) : ExecutorProfile :=
  { id := executorId, kind := "executor", constraints := { fileTools := true } }

/-- A directory of profiles and the seeds behind it; a file holds the profile
of the executor that it is named after. -/
structure CapabilityRegistry where
  profiles : String → Option ExecutorProfile
  seeds : String → Option ExecutorProfile
  profiles_id : ∀ id profile, profiles id = some profile → profile.id = id
  seeds_id : ∀ id profile, seeds id = some profile → profile.id = id

namespace CapabilityRegistry

def save (registry : CapabilityRegistry) (profile : ExecutorProfile) :
    CapabilityRegistry :=
  { registry with
    profiles := Function.update registry.profiles profile.id (some profile)
    profiles_id := by
      intro id stored hstored
      by_cases hid : id = profile.id
      · rw [hid, Function.update_self] at hstored
        cases hstored
        exact hid.symm
      · rw [Function.update_of_ne hid] at hstored
        exact registry.profiles_id id stored hstored }

/-- A profile that only its seed holds is saved before it is returned. -/
def load (registry : CapabilityRegistry) (executorId : String) :
    ExecutorProfile × CapabilityRegistry :=
  match registry.profiles executorId with
  | some profile => (profile, registry)
  | none =>
      match registry.seeds executorId with
      | some profile => (profile, registry.save profile)
      | none => (ExecutorProfile.unknown executorId, registry)

/-- The profile of an executor as the next load finds it. -/
def profile (registry : CapabilityRegistry) (executorId : String) :
    ExecutorProfile :=
  (registry.load executorId).1

variable {registry : CapabilityRegistry} {executorId : String}

section

variable (registry : CapabilityRegistry)

theorem profile_id (executorId : String) :
    (registry.profile executorId).id = executorId := by
  unfold profile load
  cases hprofile : registry.profiles executorId with
  | some profile => exact registry.profiles_id executorId profile hprofile
  | none =>
      cases hseed : registry.seeds executorId with
      | some profile => exact registry.seeds_id executorId profile hseed
      | none => rfl

theorem profile_eq (executorId : String) :
    registry.profile executorId =
      match registry.profiles executorId with
      | some profile => profile
      | none =>
          (registry.seeds executorId).getD (.unknown executorId) := by
  unfold profile load
  cases registry.profiles executorId with
  | some profile => rfl
  | none => cases registry.seeds executorId <;> rfl

theorem save_profile (profile : ExecutorProfile) :
    (registry.save profile).profile =
      Function.update registry.profile profile.id profile := by
  funext id
  by_cases hid : id = profile.id
  · rw [hid, Function.update_self, profile_eq]
    dsimp only [save]
    rw [Function.update_self]
  · rw [Function.update_of_ne hid, profile_eq, profile_eq]
    dsimp only [save]
    rw [Function.update_of_ne hid]

theorem load_profile (executorId : String) :
    (registry.load executorId).2.profile = registry.profile := by
  unfold load
  cases hprofile : registry.profiles executorId with
  | some profile => rfl
  | none =>
      cases hseed : registry.seeds executorId with
      | none => rfl
      | some seed =>
          have hid := registry.seeds_id executorId seed hseed
          have hseeded : registry.profile seed.id = seed := by
            rw [hid, profile_eq, hprofile, hseed]
            rfl
          change (registry.save seed).profile = registry.profile
          rw [save_profile]
          exact Function.update_eq_self_iff.mpr hseeded.symm

end

end CapabilityRegistry

structure RoutingWeights where
  capabilityMatch : Rat
  historicalSuccess : Rat
  toolCompatibility : Rat
  projectStackMatch : Rat
  availability : Rat
  costEfficiency : Rat
  latency : Rat

def routingScoreWeights : RoutingWeights :=
  { capabilityMatch := 40 / 100
    historicalSuccess := 20 / 100
    toolCompatibility := 15 / 100
    projectStackMatch := 10 / 100
    availability := 5 / 100
    costEfficiency := 5 / 100
    latency := 5 / 100 }

def routingPolicyWeights : Dict RoutingWeights :=
  [("balanced", routingScoreWeights),
    ("quality_first",
      { capabilityMatch := 50 / 100
        historicalSuccess := 25 / 100
        toolCompatibility := 10 / 100
        projectStackMatch := 10 / 100
        availability := 3 / 100
        costEfficiency := 1 / 100
        latency := 1 / 100 }),
    ("budget_first",
      { capabilityMatch := 20 / 100
        historicalSuccess := 10 / 100
        toolCompatibility := 10 / 100
        projectStackMatch := 10 / 100
        availability := 5 / 100
        costEfficiency := 35 / 100
        latency := 10 / 100 })]

def featureMap : Dict String :=
  [("react", "frontend"), ("svelte", "frontend"), ("vue", "frontend"),
    ("next.js", "frontend"), ("fastapi", "backend"), ("django", "backend"),
    ("flask", "backend"), ("pytest", "testing"), ("jest", "testing"),
    ("vitest", "testing"), ("docker", "devops"), ("kubernetes", "devops"),
    ("terraform", "devops"), ("typescript", "frontend"),
    ("python", "backend"), ("go", "backend")]

def featureToDimension (feature : String) : Option String :=
  featureMap.get? (lower (strip feature))

/-- `max(0.0, min(1.0, value))`. -/
def clamp (value : Rat) : Rat :=
  max 0 (min 1 value)

theorem clamp_nonneg (value : Rat) : 0 ≤ clamp value :=
  le_max_left _ _

theorem clamp_le_one (value : Rat) : clamp value ≤ 1 :=
  max_le (by decide) (min_le_left _ _)

def routingScore (profile : ExecutorProfile) (dimension : String)
    (projectFeatures : List String) (routingPolicy : String) : Rat :=
  let capabilityMatch :=
    match profile.capabilities.get? dimension with
    | some domain => domain.score
    | none => 1 / 2
  let historicalSuccess : Rat :=
    profile.evidence.successfulRuns / max 1 profile.evidence.internalRuns
  let toolCompatibility : Rat := if profile.constraints.fileTools then 1 else 0
  let projectStackMatch : Rat :=
    if projectFeatures.isEmpty then 1 / 2
    else
      (projectFeatures.filter fun feature =>
        featureToDimension feature = some dimension).length /
        projectFeatures.length
  let cost := profile.operational.costPerTaskUsd
  let costEfficiency := if cost = 0 then 1 else clamp (1 - cost)
  let latency := clamp (1 - profile.operational.avgLatencyMs / 120000)
  let policy := lower (strip (orElse routingPolicy "balanced"))
  let weights := (routingPolicyWeights.get? policy).getD routingScoreWeights
  clamp (capabilityMatch * weights.capabilityMatch +
    historicalSuccess * weights.historicalSuccess +
    toolCompatibility * weights.toolCompatibility +
    projectStackMatch * weights.projectStackMatch +
    1 * weights.availability +
    costEfficiency * weights.costEfficiency +
    latency * weights.latency)

def hardExclude (profile : ExecutorProfile)
    (requiresFileTools requiresBrowserTools : Bool) : Option String :=
  if requiresFileTools && !profile.constraints.fileTools then
    some "missing_file_tools"
  else if requiresBrowserTools && !profile.constraints.browserTools then
    some "missing_browser_tools"
  else none

structure MatchRequest where
  dimension : String
  availableExecutors : Option (List String)
  projectFeatures : List String
  kind : String := ""
  requiresFileTools : Bool := true
  requiresBrowserTools : Bool := false
  workerUrl : String := ""
  routingPolicy : String := "balanced"

structure CapabilityMatchResult where
  recommended : Option ExecutorProfile
  score : Rat
  fallbacks : List (ExecutorProfile × Rat)
  excluded : List (String × String)
  degraded : Bool := false

namespace ExecutorMatcher

variable (registry : CapabilityRegistry) (listIds : List String)
  (req : MatchRequest)

def gate (id : String) : Option String :=
  hardExclude (registry.profile id) req.requiresFileTools
    req.requiresBrowserTools

def rated (id : String) : ExecutorProfile × Rat :=
  (registry.profile id, routingScore (registry.profile id) req.dimension
    req.projectFeatures req.routingPolicy)

/-- The ids that are asked for, in the order of `list_ids`. -/
def asked : List String :=
  let ids := match req.availableExecutors with
    | some allowed => listIds.filter (· ∈ allowed)
    | none => listIds
  if req.kind = "" then ids
  else ids.filter fun id => (registry.profile id).kind = req.kind

/-- The asked executors that pass the gates with their scores. -/
def admitted : List (ExecutorProfile × Rat) :=
  ((asked registry listIds req).filter fun id =>
    gate registry req id = none).map (rated registry req)

/-- `_local_match`; the sort by the negated score is stable. -/
def localMatch : CapabilityMatchResult :=
  let excluded := (asked registry listIds req).filterMap fun id =>
    (gate registry req id).map fun reason => (id, reason)
  match (admitted registry listIds req).insertionSort fun a b => b.2 ≤ a.2 with
  | [] =>
      { recommended := none, score := 0, fallbacks := [], excluded,
        degraded := true }
  | top :: fallbacks =>
      { recommended := some top.1, score := top.2, fallbacks, excluded }

def filterResultByKind (result : CapabilityMatchResult) (kind : String) :
    Option CapabilityMatchResult :=
  let kind := strip kind
  let ok (profile : ExecutorProfile) := orElse profile.kind "executor" = kind
  if kind = "" then some result
  else
    match result.recommended.filter ok,
        result.fallbacks.filter fun row => ok row.1 with
    | some profile, fallbacks =>
        some { result with recommended := some profile, fallbacks }
    | none, (profile, score) :: fallbacks =>
        some { result with recommended := some profile, score, fallbacks }
    | none, [] => none

/-- `find_executors`; `remote` is what `_remote_match` makes of the Worker's
answer. -/
def findExecutors (ownUrl : String) (remote : Option CapabilityMatchResult) :
    CapabilityMatchResult :=
  let policy := lower (strip (orElse req.routingPolicy "balanced"))
  if rstripSlash (orElse req.workerUrl ownUrl) ≠ "" ∧
      policy ∈ ["", "balanced"] then
    (remote.bind (filterResultByKind · req.kind)).getD
      (localMatch registry listIds req)
  else localMatch registry listIds req

end ExecutorMatcher

/-- The executors that a result offers, the recommended one first. -/
def CapabilityMatchResult.offered (result : CapabilityMatchResult) :
    List (ExecutorProfile × Rat) :=
  (result.recommended.toList.map (·, result.score)) ++ result.fallbacks

/-- All admitted executors are offered, best first and stably; the others are
excluded with the gate that they miss. -/
structure Ranks (registry : CapabilityRegistry) (listIds : List String)
    (req : MatchRequest) (result : CapabilityMatchResult) : Prop where
  offered : result.offered.Perm
    (ExecutorMatcher.admitted registry listIds req)
  best : result.offered.Pairwise fun a b => b.2 ≤ a.2
  stable : ∀ a b, b.2 ≤ a.2 →
    [a, b].Sublist (ExecutorMatcher.admitted registry listIds req) →
    [a, b].Sublist result.offered
  excluded : ∀ id reason, (id, reason) ∈ result.excluded ↔
    id ∈ ExecutorMatcher.asked registry listIds req ∧
      ExecutorMatcher.gate registry req id = some reason
  degraded : result.degraded = true ↔ result.recommended = none
  bounded : ∀ row ∈ result.offered, 0 ≤ row.2 ∧ row.2 ≤ 1

namespace ExecutorMatcher

theorem offered_localMatch (registry : CapabilityRegistry)
    (listIds : List String) (req : MatchRequest) :
    (localMatch registry listIds req).offered =
      (admitted registry listIds req).insertionSort fun a b => b.2 ≤ a.2 := by
  unfold localMatch
  split
  · next hnone => exact hnone.symm
  · next hsome => exact hsome.symm

theorem localMatch_ranks (registry : CapabilityRegistry)
    (listIds : List String) (req : MatchRequest) :
    Ranks registry listIds req (localMatch registry listIds req) := by
  have hoffered := offered_localMatch registry listIds req
  have htotal : Std.Total fun a b : ExecutorProfile × Rat => b.2 ≤ a.2 :=
    ⟨fun a b => le_total b.2 a.2⟩
  have htrans : IsTrans (ExecutorProfile × Rat) fun a b => b.2 ≤ a.2 :=
    ⟨fun _ _ _ hab hbc => hbc.trans hab⟩
  refine ⟨?_, ?_, ?_, ?_, ?_, ?_⟩
  · rw [hoffered]
    exact List.perm_insertionSort _ _
  · rw [hoffered]
    exact List.pairwise_insertionSort _ _
  · intro a b hle hsub
    rw [hoffered]
    exact List.pair_sublist_insertionSort hle hsub
  · intro id reason
    have hexcluded : (localMatch registry listIds req).excluded =
        (asked registry listIds req).filterMap fun id =>
          (gate registry req id).map fun reason => (id, reason) := by
      unfold localMatch
      split <;> rfl
    rw [hexcluded, List.mem_filterMap]
    constructor
    · rintro ⟨id, hid, hreason⟩
      obtain ⟨reason, hgate, heq⟩ := Option.map_eq_some_iff.mp hreason
      cases heq
      exact ⟨hid, hgate⟩
    · rintro ⟨hid, hgate⟩
      exact ⟨id, hid, by rw [hgate]; rfl⟩
  · unfold localMatch
    split <;> simp
  · intro row hrow
    rw [hoffered, List.mem_insertionSort] at hrow
    obtain ⟨id, -, rfl⟩ := List.mem_map.mp hrow
    exact ⟨clamp_nonneg _, clamp_le_one _⟩

/-- What is left of a result is what it offers of the kind, in its order. -/
theorem offered_filterResultByKind {result filtered : CapabilityMatchResult}
    {kind : String} (hkind : kind ≠ "") (hstrip : strip kind = kind)
    (h : filterResultByKind result kind = some filtered) :
    filtered.offered =
      result.offered.filter fun row => orElse row.1.kind "executor" = kind := by
  have hoffered : (result.offered.filter fun row =>
      orElse row.1.kind "executor" = kind) =
        ((result.recommended.filter fun profile =>
          orElse profile.kind "executor" = kind).toList.map
            (·, result.score)) ++
          result.fallbacks.filter fun row =>
            orElse row.1.kind "executor" = kind := by
    rw [CapabilityMatchResult.offered, List.filter_append]
    cases result.recommended with
    | none => rfl
    | some profile =>
        by_cases hok : orElse profile.kind "executor" = kind <;>
          simp [Option.filter, hok]
  unfold filterResultByKind at h
  rw [hstrip, if_neg hkind] at h
  rw [hoffered]
  split at h
  · next hrecommended hfallbacks =>
      cases h
      rw [hfallbacks]
      rfl
  · next hrecommended hfallbacks =>
      cases h
      rw [hrecommended, hfallbacks]
      rfl
  · cases h

/-- Whatever the Worker answers, only executors of the asked kind are
offered. -/
theorem findExecutors_kind (registry : CapabilityRegistry)
    (listIds : List String) (req : MatchRequest) (ownUrl : String)
    (remote : Option CapabilityMatchResult) (hkind : req.kind ≠ "")
    (hstrip : strip req.kind = req.kind) :
    ∀ row ∈ (findExecutors registry listIds req ownUrl remote).offered,
      orElse row.1.kind "executor" = req.kind := by
  have hlocal : ∀ row ∈ (localMatch registry listIds req).offered,
      orElse row.1.kind "executor" = req.kind := by
    intro row hrow
    rw [offered_localMatch, List.mem_insertionSort] at hrow
    obtain ⟨id, hid, rfl⟩ := List.mem_map.mp hrow
    have hasked := List.mem_of_mem_filter hid
    rw [asked, if_neg hkind] at hasked
    have hof : (registry.profile id).kind = req.kind := by
      simpa using (List.mem_filter.mp hasked).2
    simp [rated, hof, orElse, hkind]
  unfold findExecutors
  dsimp only
  split
  · cases hfiltered : remote.bind (filterResultByKind · req.kind) with
    | none => exact hlocal
    | some filtered =>
        obtain ⟨result, -, hfilter⟩ := Option.bind_eq_some_iff.mp hfiltered
        intro row hrow
        rw [Option.getD_some,
          offered_filterResultByKind hkind hstrip hfilter] at hrow
        simpa using (List.mem_filter.mp hrow).2
  · exact hlocal

end ExecutorMatcher

namespace MatcherWitness

def noProfiles : CapabilityRegistry :=
  { profiles := Function.const _ none
    seeds := Function.const _ none
    profiles_id := fun _ _ h => (by cases h)
    seeds_id := fun _ _ h => (by cases h) }

def request : MatchRequest :=
  { dimension := "backend", availableExecutors := none, projectFeatures := []
    kind := "executor" }

def codex : ExecutorProfile × Rat :=
  ({ id := "codex", kind := "executor" }, 1 / 2)

/-- The Worker puts a model provider before an executor. -/
def answer : CapabilityMatchResult :=
  { recommended := some { id := "vision", kind := "model_provider" }
    score := 1
    fallbacks := [codex]
    excluded := [] }

theorem answer_kind :
    codex ∈ (ExecutorMatcher.findExecutors noProfiles [] request
      "https://worker" (some answer)).offered ∧
      orElse codex.1.kind "executor" = "executor" :=
  ⟨.head _, ExecutorMatcher.findExecutors_kind noProfiles [] request
    "https://worker" (some answer) (by decide) (by decide +kernel) codex
    (.head _)⟩

end MatcherWitness

end Voly
