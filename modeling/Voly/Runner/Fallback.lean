/-
The capability-ranked fallback chain, and which executors a run attempts along
it.
-/
import Voly.Capability.Registry
import Voly.Runner.Attempts

namespace Voly.Runner

open Candidates Python

/-- A routing score, the hard gate, and the least score that is used. -/
structure Ranking (S : Type) where
  score : String → S
  excluded : String → Bool
  minimum : S

def minimumScore : Rat := 30 / 100

def profileRanking (registry : CapabilityRegistry) (dimension : String) :
    Ranking Rat where
  score id := routingScore (registry.profile id) dimension [] "balanced"
  excluded id := (hardExclude (registry.profile id) true false).isSome
  minimum := minimumScore

/-- Append the executors that are not yet in the chain. -/
def appendUnseen : List String → List String → List String
  | chain, [] => chain
  | chain, id :: rest =>
      appendUnseen (if id ∈ chain then chain else chain ++ [id]) rest

section Chain

variable {S : Type} [LinearOrder S] (ranking : Ranking S)

/-- `(-score, order)`. -/
def Before (available : List String) (a b : String × S) : Prop :=
  b.2 < a.2 ∨ a.2 = b.2 ∧ available.idxOf a.1 ≤ available.idxOf b.1

instance (available : List String) : DecidableRel (Before (S := S) available) :=
  fun _ _ => inferInstanceAs (Decidable (_ ∨ _))

/-- The executors that pass the gates with their scores, best first. -/
def scored (available : List String) : List (String × S) :=
  ((available.filter fun id => !ranking.excluded id).map fun id =>
    (id, ranking.score id)).insertionSort (Before available)

/-- The ranking is used: an executor passes the gates and scores enough. -/
def Ranked (available : List String) : Prop :=
  ∃ top ∈ (scored ranking available).head?, ranking.minimum ≤ top.2

def buildFallbackChain (available static : List String) : List String :=
  let static := if static = [] then available else static
  match (scored ranking available).head? with
  | none => static
  | some top =>
      if top.2 < ranking.minimum then static
      else appendUnseen ((scored ranking available).map Prod.fst) static

def buildFallbackChainOrStatic (available static : List String)
    (enabled materialized : Bool) : List String × Bool :=
  if !enabled || !materialized then (static, false)
  else (buildFallbackChain ranking available static, true)

structure FallbackConfig (S : Type) where
  configured : List String
  ranking : Ranking S
  enabled : Bool
  materialized : Bool

def FallbackConfig.chain (config : FallbackConfig S) : List String :=
  (buildFallbackChainOrStatic config.ranking config.configured
    config.configured config.enabled config.materialized).1

def FallbackConfig.IsRanked (config : FallbackConfig S) : Prop :=
  config.enabled = true ∧ config.materialized = true ∧
    Ranked config.ranking config.configured

end Chain

/-- The attempt on the start executor and the walk along any chain. -/
def runOver (executors : Executors) (configured fallbackChain : List String)
    (executorName : String) : Option Chain :=
  match executors.run 0 executorName with
  | none => none
  | some result =>
      let chain : Chain := {
        executorName, result
        timelog := [⟨executorName, chainStatus result⟩] }
      if result.falls ∧ executorName ∈ configured then
        match laterExecutors fallbackChain executorName with
        | some rest => fallbackLoop executors rest chain
        | none => none
      else some chain

def attemptedAfter (executors : Executors)
    (configured fallbackChain : List String) (executorName : String) :
    List String :=
  match executors.run 0 executorName with
  | none => []
  | some result =>
      if result.falls ∧ executorName ∈ configured then
        match laterExecutors fallbackChain executorName with
        | some rest => ((chainRules executors).walk () rest).map Prod.fst
        | none => []
      else []

section Order

variable {S : Type} [LinearOrder S] {ranking : Ranking S}

theorem appendUnseen_eq {chain rest : List String} (h : rest.Nodup) :
    appendUnseen chain rest = chain ++ rest.filter (· ∉ chain) := by
  induction rest generalizing chain with
  | nil => exact (List.append_nil chain).symm
  | cons id rest ih =>
      obtain ⟨hid, hrest⟩ := List.nodup_cons.mp h
      rw [appendUnseen, ih hrest]
      by_cases hmem : id ∈ chain
      · rw [if_pos hmem, List.filter_cons_of_neg (by simpa using hmem)]
      · rw [if_neg hmem, List.filter_cons_of_pos (by simpa using hmem),
          List.append_assoc]
        refine congrArg (chain ++ id :: ·)
          (List.filter_congr fun other hother => ?_)
        have hne : other ≠ id := fun heq => hid (heq ▸ hother)
        simp [hne]

theorem scored_perm (available : List String) :
    ((scored ranking available).map Prod.fst).Perm
      (available.filter fun id => !ranking.excluded id) := by
  have hperm := (List.perm_insertionSort (Before available)
    ((available.filter fun id => !ranking.excluded id).map fun id =>
      (id, ranking.score id))).map Prod.fst
  rw [List.map_map] at hperm
  exact hperm.trans (by simp [Function.comp_def])

theorem mem_scored {available : List String} {entry : String × S}
    (h : entry ∈ scored ranking available) :
    entry.2 = ranking.score entry.1 ∧ ranking.excluded entry.1 = false := by
  rw [scored, List.mem_insertionSort] at h
  obtain ⟨id, hid, rfl⟩ := List.mem_map.mp h
  exact ⟨rfl, by simpa using (List.mem_filter.mp hid).2⟩

theorem scored_pairwise (available : List String) :
    (scored ranking available).Pairwise fun a b => b.2 ≤ a.2 := by
  have htotal : Std.Total (Before (S := S) available) := by
    constructor
    intro a b
    rcases lt_trichotomy a.2 b.2 with hlt | heq | hgt
    · exact .inr (.inl hlt)
    · rcases Nat.le_total (available.idxOf a.1) (available.idxOf b.1) with h | h
      · exact .inl (.inr ⟨heq, h⟩)
      · exact .inr (.inr ⟨heq.symm, h⟩)
    · exact .inl (.inl hgt)
  have htrans : IsTrans (String × S) (Before available) := by
    constructor
    rintro a b c (hab | ⟨hab, hplace⟩) (hbc | ⟨hbc, hplace'⟩)
    · exact .inl (hbc.trans hab)
    · exact .inl (hbc ▸ hab)
    · exact .inl (hab ▸ hbc)
    · exact .inr ⟨hab.trans hbc, hplace.trans hplace'⟩
  refine (List.pairwise_insertionSort (Before available) _).imp ?_
  rintro a b (h | ⟨h, _⟩)
  · exact h.le
  · exact h.ge

/-- Before an executor that passes the gates come only better such ones. -/
def RankedBefore (ranking : Ranking S) (a b : String) : Prop :=
  ranking.excluded b = false →
    ranking.excluded a = false ∧ ranking.score b ≤ ranking.score a

theorem not_ranked {available : List String} (h : ¬ Ranked ranking available) :
    buildFallbackChain ranking available available = available := by
  unfold buildFallbackChain
  rw [ite_self]
  dsimp only
  split
  · rfl
  · next top htop =>
      have hlow : top.2 < ranking.minimum :=
        not_le.mp fun hle => h ⟨top, htop, hle⟩
      rw [if_pos hlow]

theorem ranked_eq {available : List String} (h : Ranked ranking available)
    (hdistinct : available.Nodup) :
    buildFallbackChain ranking available available =
      (scored ranking available).map Prod.fst ++ available.filter
        (· ∉ (scored ranking available).map Prod.fst) := by
  obtain ⟨top, htop, hle⟩ := h
  unfold buildFallbackChain
  rw [ite_self, Option.mem_def.mp htop]
  dsimp only
  rw [if_neg (not_lt.mpr hle), appendUnseen_eq hdistinct]

theorem unscored_eq (available : List String) :
    available.filter (· ∉ (scored ranking available).map Prod.fst) =
      available.filter ranking.excluded := by
  refine List.filter_congr fun id hid => ?_
  have hmem : id ∈ (scored ranking available).map Prod.fst ↔
      ranking.excluded id = false := by
    rw [(scored_perm available).mem_iff, List.mem_filter]
    simp [hid]
  cases hexcluded : ranking.excluded id with
  | true => simp [hmem, hexcluded]
  | false => simp [hmem, hexcluded]

theorem buildFallbackChain_perm {available : List String}
    (hdistinct : available.Nodup) :
    (buildFallbackChain ranking available available).Perm available := by
  by_cases hranked : Ranked ranking available
  · rw [ranked_eq hranked hdistinct, unscored_eq]
    have hsplit := List.filter_append_perm (fun id => !ranking.excluded id)
      available
    simp only [Bool.not_not] at hsplit
    exact ((scored_perm available).append_right _).trans hsplit
  · rw [not_ranked hranked]

theorem buildFallbackChain_pairwise {available : List String}
    (hranked : Ranked ranking available) (hdistinct : available.Nodup) :
    (buildFallbackChain ranking available available).Pairwise
      (RankedBefore ranking) := by
  rw [ranked_eq hranked hdistinct, unscored_eq]
  have hlast (a : String) {b : String}
      (hb : b ∈ available.filter ranking.excluded) :
      RankedBefore ranking a b := by
    intro hpasses
    rw [(List.mem_filter.mp hb).2] at hpasses
    cases hpasses
  refine List.pairwise_append.mpr ⟨List.pairwise_map.mpr ?_, ?_, ?_⟩
  · refine (scored_pairwise available).imp_of_mem ?_
    intro a b ha hb hle _
    obtain ⟨hscore, hpasses⟩ := mem_scored ha
    rw [hscore, (mem_scored hb).1] at hle
    exact ⟨hpasses, hle⟩
  · exact List.pairwise_of_forall_mem_list fun a _ b hb => hlast a hb
  · exact fun a _ b hb => hlast a hb

variable {config : FallbackConfig S}

theorem FallbackConfig.chain_perm (hdistinct : config.configured.Nodup) :
    config.chain.Perm config.configured := by
  unfold chain buildFallbackChainOrStatic
  split
  · rfl
  · exact buildFallbackChain_perm hdistinct

theorem FallbackConfig.chain_of_ranked (h : config.IsRanked) :
    config.chain = buildFallbackChain config.ranking config.configured
      config.configured := by
  unfold chain buildFallbackChainOrStatic
  rw [h.1, h.2.1]
  rfl

theorem FallbackConfig.chain_of_not_ranked (h : ¬ config.IsRanked) :
    config.chain = config.configured := by
  unfold chain buildFallbackChainOrStatic
  split
  · rfl
  · next hused =>
      refine not_ranked fun hranked => h ⟨?_, ?_, hranked⟩
      · cases henabled : config.enabled with
        | true => rfl
        | false => exact (hused (by rw [henabled]; rfl)).elim
      · cases hmaterialized : config.materialized with
        | true => rfl
        | false =>
            exact (hused (by rw [hmaterialized]; exact Bool.or_true _)).elim

end Order

theorem walk_sublist (executors : Executors) (rest : List (String × Nat)) :
    ((chainRules executors).walk () rest).Sublist rest := by
  induction rest with
  | nil => exact List.Sublist.slnil
  | cons c rest ih =>
      rw [Rules.walk]
      split
      · split
        · exact (List.nil_sublist rest).cons_cons c
        · exact ih.cons_cons c
      · exact ih.cons c

/-- A walk that ends with a fall has passed over unavailable executors only. -/
theorem fallbackLoop_exhausted {executors : Executors}
    {rest : List (String × Nat)} {chain last : Chain}
    (hloop : fallbackLoop executors rest chain = some last)
    (hfalls : last.result.falls = true) :
    ∀ c ∈ rest, executors.isAvailable c.2 c.1 ≠ some false →
      c ∈ (chainRules executors).walk () rest := by
  induction rest generalizing chain with
  | nil => exact List.forall_mem_nil _
  | cons c rest ih =>
      obtain ⟨name, n⟩ := c
      rw [fallbackLoop] at hloop
      by_cases hskip : executors.isAvailable n name = some false
      · rw [if_pos hskip] at hloop
        have hunusable : (chainRules executors).usable () (name, n) =
            false := by
          simp [chainRules, hskip]
        rw [Rules.walk_skip hunusable]
        intro c hc havailable
        rcases List.mem_cons.mp hc with rfl | hc
        · exact (havailable hskip).elim
        · exact ih hloop c hc havailable
      · rw [if_neg hskip] at hloop
        have husable : (chainRules executors).usable () (name, n) = true := by
          simp [chainRules, hskip]
        cases hrun : executors.run n name with
        | none =>
            rw [hrun] at hloop
            cases hloop
        | some result =>
            rw [hrun] at hloop
            dsimp only at hloop
            split at hloop
            · next hresult =>
                have hfails : (chainRules executors).succeeds (name, n) =
                    false := by
                  simp [chainRules, hrun, hresult]
                rw [Rules.walk_call husable hfails]
                intro c hc havailable
                rcases List.mem_cons.mp hc with rfl | hc
                · exact List.mem_cons_self
                · exact List.mem_cons_of_mem _ (ih hloop c hc havailable)
            · next hresult =>
                cases hloop
                exact (hresult hfalls).elim

/-- The chain's executors after the start, numbered as attempts. -/
def listedAfter (fallbackChain : List String) (executorName : String) :
    List (String × Nat) :=
  (fallbackChain.drop (fallbackChain.idxOf executorName + 1)).zipIdx 1

theorem laterExecutors_eq {fallbackChain : List String} {executorName : String}
    (h : executorName ∈ fallbackChain) :
    laterExecutors fallbackChain executorName =
      some (listedAfter fallbackChain executorName) := by
  have hplace : fallbackChain.idxOf? executorName =
      some (fallbackChain.idxOf executorName) := by
    induction fallbackChain with
    | nil => cases h
    | cons id rest ih =>
        rw [List.idxOf?_cons, List.idxOf_cons]
        by_cases hid : (id == executorName) = true
        · rw [if_pos hid, hid]
          rfl
        · rw [if_neg hid, Bool.eq_false_of_not_eq_true hid]
          have hrest : executorName ∈ rest := by
            rcases List.mem_cons.mp h with rfl | hrest
            · exact (hid (beq_self_eq_true _)).elim
            · exact hrest
          rw [ih hrest]
          rfl
  rw [laterExecutors, hplace]
  rfl

theorem attemptedAfter_sublist (executors : Executors)
    (configured : List String) {fallbackChain : List String}
    {executorName : String} (h : executorName ∈ fallbackChain) :
    (attemptedAfter executors configured fallbackChain executorName).Sublist
      (fallbackChain.drop (fallbackChain.idxOf executorName + 1)) := by
  unfold attemptedAfter
  rw [laterExecutors_eq h]
  split
  · exact List.nil_sublist _
  · split
    · have hwalk := (walk_sublist executors
        (listedAfter fallbackChain executorName)).map Prod.fst
      rw [listedAfter, List.zipIdx_map_fst] at hwalk
      exact hwalk
    · exact List.nil_sublist _

/-- A run that falls has attempted every available executor after the start. -/
theorem runOver_exhausted {executors : Executors}
    {configured fallbackChain : List String} {executorName : String}
    {last : Chain} (hstart : executorName ∈ configured)
    (hlisted : executorName ∈ fallbackChain)
    (hrun : runOver executors configured fallbackChain executorName = some last)
    (hfalls : last.result.falls = true) :
    ∀ c ∈ listedAfter fallbackChain executorName,
      executors.isAvailable c.2 c.1 ≠ some false →
      c.1 ∈ attemptedAfter executors configured fallbackChain executorName := by
  unfold runOver at hrun
  unfold attemptedAfter
  rw [laterExecutors_eq hlisted] at hrun ⊢
  cases hfirst : executors.run 0 executorName with
  | none =>
      rw [hfirst] at hrun
      cases hrun
  | some first =>
      rw [hfirst] at hrun
      dsimp only at hrun ⊢
      by_cases hgoes : first.falls = true
      · rw [if_pos ⟨hgoes, hstart⟩] at hrun ⊢
        intro c hc havailable
        exact List.mem_map_of_mem
          (fallbackLoop_exhausted hrun hfalls c hc havailable)
      · rw [if_neg fun h => hgoes h.1] at hrun
        cases hrun
        exact (hgoes hfalls).elim

/-- The chain is the configured one reordered; the run attempts executors behind
the start, at most once and best first, all if it falls. -/
theorem fallback_walks_rest {S : Type} [LinearOrder S]
    (config : FallbackConfig S) (executors : Executors) (executorName : String)
    (last : Chain) (hdistinct : config.configured.Nodup)
    (hstart : executorName ∈ config.configured)
    (hrun : runOver executors config.configured config.chain executorName =
      some last) :
    config.chain.Perm config.configured ∧
      (executorName :: attemptedAfter executors config.configured config.chain
        executorName).Sublist config.chain ∧
      (executorName :: attemptedAfter executors config.configured config.chain
        executorName).Nodup ∧
      (config.IsRanked → (attemptedAfter executors config.configured
        config.chain executorName).Pairwise (RankedBefore config.ranking)) ∧
      (¬ config.IsRanked → config.chain = config.configured) ∧
      (last.result.falls = true →
        ∀ c ∈ listedAfter config.chain executorName,
          executors.isAvailable c.2 c.1 ≠ some false →
          c.1 ∈ attemptedAfter executors config.configured config.chain
            executorName) := by
  have hperm := config.chain_perm hdistinct
  have hlisted := hperm.mem_iff.mpr hstart
  have hafter := attemptedAfter_sublist executors config.configured hlisted
  have hplace : config.chain.idxOf executorName < config.chain.length :=
    List.idxOf_lt_length_of_mem hlisted
  have hsublist : (executorName :: attemptedAfter executors config.configured
      config.chain executorName).Sublist config.chain := by
    have hdrop := List.drop_eq_getElem_cons hplace
    rw [List.getElem_idxOf hplace] at hdrop
    have hcons := hafter.cons_cons executorName
    rw [← hdrop] at hcons
    exact hcons.trans (List.drop_sublist _ _)
  refine ⟨hperm, hsublist, hsublist.nodup (hperm.nodup_iff.mpr hdistinct), ?_,
    FallbackConfig.chain_of_not_ranked, runOver_exhausted hstart hlisted hrun⟩
  intro hranked
  have hpairwise := buildFallbackChain_pairwise hranked.2.2 hdistinct
  rw [← FallbackConfig.chain_of_ranked hranked] at hpairwise
  exact hpairwise.sublist (hafter.trans (List.drop_sublist _ _))

namespace FallbackWitness

theorem no_seed (id : String) (profile : ExecutorProfile)
    (h : none = some profile) : profile.id = id := by
  cases h

def registry : CapabilityRegistry where
  profiles id :=
    if id = "claude-code" then
      some { id, kind := "executor", capabilities := [("backend",
        { score := 1 / 10 })] }
    else if id = "wrangler" then
      some { id, kind := "executor", constraints := { fileTools := false } }
    else some { id, kind := "executor", capabilities := [("backend",
      { score := 9 / 10 })] }
  seeds _ := none
  profiles_id := by
    intro id profile h
    split at h
    · cases h
      rfl
    · split at h
      · cases h
        rfl
      · cases h
        rfl
  seeds_id := no_seed

def config : FallbackConfig Rat where
  configured := billingFallbackChain
  ranking := profileRanking registry "backend"
  enabled := true
  materialized := true

def executors : Executors where
  run _ _ := some {
    success := false, error := "credit balance is too low"
    billingError := true }
  isAvailable _ _ := none

def ended (executorName : String) : Chain :=
  (runOver executors config.configured config.chain executorName).getD
    { executorName, result := { success := true }, timelog := [] }

theorem walks_from_cursor :
    config.chain.Perm config.configured ∧
      ∀ c ∈ listedAfter config.chain "cursor",
        executors.isAvailable c.2 c.1 ≠ some false →
        c.1 ∈ attemptedAfter executors config.configured config.chain
          "cursor" := by
  have hrest := fallback_walks_rest config executors "cursor" (ended "cursor")
    (by decide) (by decide) (by decide +kernel)
  exact ⟨hrest.1, hrest.2.2.2.2.2 (by decide +kernel)⟩

/-- From the last executor but one, one more is attempted and four better are
left out. -/
theorem better_ranked_left_out :
    runOver executors config.configured config.chain "claude-code" =
        some (ended "claude-code") ∧
      (ended "claude-code").result.billingError = true ∧
      attemptedAfter executors config.configured config.chain "claude-code" =
        ["wrangler"] ∧
      ∀ name ∈ ["cursor", "deepseek", "opencode", "zen"],
        name ∈ config.configured ∧
          config.ranking.score "claude-code" < config.ranking.score name ∧
          ∀ n, executors.isAvailable n name ≠ some false := by
  refine ⟨by decide +kernel, by decide +kernel, by decide +kernel, ?_⟩
  have hnames : ∀ name ∈ ["cursor", "deepseek", "opencode", "zen"],
      name ∈ config.configured ∧
        config.ranking.score "claude-code" < config.ranking.score name := by
    decide +kernel
  intro name hname
  exact ⟨(hnames name hname).1, (hnames name hname).2, fun _ => nofun⟩

end FallbackWitness

end Voly.Runner
