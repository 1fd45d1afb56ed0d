/-
Episodes of iterative repair: a solver and a judge, called in turn until the
judge lets the work pass.
-/
import Voly.Python.Json

namespace Voly.A2A.IterativeRepair

open Python

/-- The fields of an `AgentTrace` that the environment reads. -/
structure AgentTrace where
  traceId : String
  status : String := "pending"
  decisions : List Json := []
  metrics : List Json := []
  metadata : Dict Json := []

/-- `metadata.get("verdict") == "pass"`. -/
def AgentTrace.passes (trace : AgentTrace) : Bool :=
  match trace.metadata.get? "verdict" with
  | some (.str verdict) => verdict = "pass"
  | _ => false

inductive RequestContext where
  | solve (attempt : Nat) (judgeFeedback : Dict Json)
  | judge (originalTask : String) (solverTrace : AgentTrace)

structure AgentRequest where
  task : String
  acceptanceCriteria : List String
  context : RequestContext
  parentTraceIds : List String
  readOnly : Bool := false
  allowedTools : List String := []

structure MultiAgentEpisode where
  status : String := "running"
  traces : List AgentTrace := []
  decisions : List Json := []
  metrics : List Json := []
  acceptanceCriteria : List String

def readOnlyJudgeTools : List String :=
  ["list_files", "read_file", "search_text", "git_diff"]

structure Agents where
  solver : Nat → AgentTrace
  judge : Nat → AgentTrace

/-- One call of each agent: what was asked, and what came back. -/
structure Round where
  solve : AgentRequest
  solverTrace : AgentTrace
  judge : AgentRequest
  judgeTrace : AgentTrace

def Round.traces (round : Round) : List AgentTrace :=
  [round.solverTrace, round.judgeTrace]

section Run

variable (agents : Agents) (task : String) (criteria : List String)

/-- The loop: the rounds that it ran, and the traces of the episode after it. -/
def repairLoop : Nat → Nat → Dict Json → List AgentTrace →
    List Round × List AgentTrace
  | 0, _, _, traces => ([], traces)
  | left + 1, attempt, feedback, traces =>
      let solverTrace := agents.solver attempt
      let judgeTrace := agents.judge attempt
      let round : Round :=
        { solve :=
            { task
              acceptanceCriteria := criteria
              context := .solve (attempt + 1) feedback
              parentTraceIds :=
                (traces.getLast?.map AgentTrace.traceId).toList }
          solverTrace
          judge :=
            { task := "Evaluate the latest repair"
              acceptanceCriteria := criteria
              context := .judge task solverTrace
              parentTraceIds := [solverTrace.traceId]
              readOnly := true
              allowedTools := readOnlyJudgeTools }
          judgeTrace }
      let traces := traces ++ round.traces
      if judgeTrace.passes then ([round], traces)
      else
        let rest := repairLoop left (attempt + 1) judgeTrace.metadata traces
        (round :: rest.1, rest.2)

/-- `_finish`, which every environment ends with. -/
def finish (episode : MultiAgentEpisode) : MultiAgentEpisode :=
  { episode with
    status :=
      if episode.traces ≠ [] ∧
          ∀ trace ∈ episode.traces, trace.status = "completed" then
        "completed"
      else if ∃ trace ∈ episode.traces, trace.status = "completed" then
        "partial"
      else "failed" }

/-- `IterativeRepairEnv.run`, with the rounds that it ran. -/
def run (maxRepairs : Nat) : List Round × MultiAgentEpisode :=
  let ran := repairLoop agents task criteria (maxRepairs + 1) 0 [] []
  (ran.1, finish
    { traces := ran.2
      decisions := ran.2.flatMap AgentTrace.decisions
      metrics := ran.2.flatMap AgentTrace.metrics
      acceptanceCriteria := criteria })

/-- The rounds up to the first that passes, of those that there may be. -/
def Agents.roundsDue (maxRepairs : Nat) : Nat :=
  ((List.range (maxRepairs + 1)).find? fun i => (agents.judge i).passes).elim
    (maxRepairs + 1) (· + 1)

/-- The metadata of the verdict before a round. -/
def Agents.feedback (first : Dict Json) (attempt : Nat) : Nat → Dict Json
  | 0 => first
  | i + 1 => (agents.judge (attempt + i)).metadata

/-- The rounds that are due have run; only a passing verdict completes. -/
structure Honest (maxRepairs : Nat) (rounds : List Round)
    (episode : MultiAgentEpisode) : Prop where
  calls : rounds.length = agents.roundsDue maxRepairs
  threaded : ∀ i round, rounds[i]? = some round →
    round.traces = [agents.solver i, agents.judge i] ∧
      round.judge.context = .judge task (agents.solver i) ∧
      round.solve.context = .solve (i + 1) (agents.feedback [] 0 i)
  traces : episode.traces = rounds.flatMap Round.traces
  passed : episode.status = "completed" →
    ∃ round ∈ rounds.getLast?, round.judgeTrace.passes = true

variable {agents task criteria}

section Loop

variable (left attempt : Nat) (feedback : Dict Json) (traces : List AgentTrace)

theorem repairLoop_traces :
    (repairLoop agents task criteria left attempt feedback traces).2 = traces ++
      (repairLoop agents task criteria left attempt feedback traces).1.flatMap
        Round.traces := by
  induction left generalizing attempt feedback traces with
  | zero => simp [repairLoop]
  | succ left ih =>
      rw [repairLoop]
      dsimp only
      split
      · simp
      · rw [ih]
        simp

theorem lt_repairLoop_length (n : Nat) :
    n < (repairLoop agents task criteria left attempt feedback
        traces).1.length ↔
      n < left ∧ ∀ i < n, (agents.judge (attempt + i)).passes = false := by
  induction left generalizing attempt feedback traces n with
  | zero => simp [repairLoop]
  | succ left ih =>
      rw [repairLoop]
      dsimp only
      cases n with
      | zero => split <;> simp
      | succ n =>
          rw [Nat.forall_lt_succ_left]
          split
          · next hpass => simp [hpass]
          · next hfail =>
              rw [List.length_cons, Nat.succ_lt_succ_iff, ih]
              simp [hfail, Nat.add_comm, Nat.add_left_comm]

theorem repairLoop_threaded {i : Nat} {round : Round}
    (h : (repairLoop agents task criteria left attempt feedback traces).1[i]? =
      some round) :
    round.traces = [agents.solver (attempt + i), agents.judge (attempt + i)] ∧
      round.judge.context = .judge task (agents.solver (attempt + i)) ∧
      round.solve.context =
        .solve (attempt + i + 1) (agents.feedback feedback attempt i) := by
  induction left generalizing attempt feedback traces i with
  | zero => simp [repairLoop] at h
  | succ left ih =>
      rw [repairLoop] at h
      dsimp only at h
      cases i with
      | zero =>
          split at h <;>
            · cases h
              exact ⟨rfl, rfl, rfl⟩
      | succ i =>
          split at h
          · cases h
          · have hrest := ih _ _ _ h
            rw [Nat.add_assoc, Nat.add_comm 1 i] at hrest
            refine ⟨hrest.1, hrest.2.1, hrest.2.2.trans ?_⟩
            cases i with
            | zero => rfl
            | succ i =>
                rw [Agents.feedback, Nat.add_right_comm attempt 1 i]
                rfl

end Loop

theorem lt_roundsDue (maxRepairs n : Nat) :
    n < agents.roundsDue maxRepairs ↔
      n < maxRepairs + 1 ∧ ∀ i < n, (agents.judge i).passes = false := by
  unfold Agents.roundsDue
  cases hfirst : (List.range (maxRepairs + 1)).find? fun i =>
      (agents.judge i).passes with
  | none =>
      rw [List.find?_range_eq_none] at hfirst
      refine ⟨fun hn => ⟨hn, fun i hi => ?_⟩, fun h => h.1⟩
      simpa using hfirst i (hi.trans hn)
  | some first =>
      obtain ⟨hpass, hmem, hbefore⟩ := List.find?_range_eq_some.mp hfirst
      rw [List.mem_range] at hmem
      refine ⟨fun hn => ⟨?_, fun i hi => ?_⟩, fun h => ?_⟩
      · exact lt_of_lt_of_le hn hmem
      · simpa using hbefore i (lt_of_lt_of_le hi (Nat.lt_succ_iff.mp hn))
      · by_contra hge
        have hfail := h.2 first (Nat.lt_of_succ_le (Nat.le_of_not_lt hge))
        rw [hpass] at hfail
        cases hfail

theorem finish_completed (episode : MultiAgentEpisode) :
    (finish episode).status = "completed" ↔ episode.traces ≠ [] ∧
      ∀ trace ∈ episode.traces, trace.status = "completed" := by
  unfold finish
  dsimp only
  split
  · next h => exact ⟨fun _ => h, fun _ => rfl⟩
  · next h => split <;> simp [h]

end Run

/-- An episode is honest iff a verdict passes in a round, or some trace is not
completed. -/
theorem repair_honest_iff (agents : Agents) (task : String)
    (criteria : List String) (maxRepairs : Nat) :
    Honest agents task maxRepairs (run agents task criteria maxRepairs).1
        (run agents task criteria maxRepairs).2 ↔
      (∃ i ≤ maxRepairs, (agents.judge i).passes = true) ∨
        ∃ i ≤ maxRepairs, (agents.solver i).status ≠ "completed" ∨
          (agents.judge i).status ≠ "completed" := by
  have htraces :=
    @repairLoop_traces agents task criteria (maxRepairs + 1) 0 [] []
  have hlength :=
    @lt_repairLoop_length agents task criteria (maxRepairs + 1) 0 [] []
  have hthread :=
    @repairLoop_threaded agents task criteria (maxRepairs + 1) 0 [] []
  unfold run
  dsimp only
  generalize repairLoop agents task criteria (maxRepairs + 1) 0 [] [] = ran
    at htraces hlength hthread ⊢
  obtain ⟨rounds, traces⟩ := ran
  simp only [List.nil_append, Nat.zero_add] at htraces hlength hthread
  subst htraces
  obtain ⟨last, hlast⟩ : ∃ n, rounds.length = n + 1 :=
    Nat.exists_eq_succ_of_ne_zero (by have := (hlength 0).mpr (by simp); omega)
  obtain ⟨round, hround⟩ : ∃ round, rounds[last]? = some round :=
    ⟨_, List.getElem?_eq_getElem (by omega)⟩
  have hend : rounds.getLast? = some round := by
    rw [List.getLast?_eq_getElem?, hlast, Nat.add_sub_cancel, hround]
  have hjudged : round.judgeTrace = agents.judge last := by
    have htwo := (hthread hround).1
    simp only [Round.traces, List.cons.injEq, and_true] at htwo
    exact htwo.2
  constructor
  · intro h
    by_contra hnot
    simp only [not_or, not_exists, not_and, not_not] at hnot
    obtain ⟨hfail, hdone⟩ := hnot
    have hbound := ((hlength last).mp (by omega)).1
    have hsome : rounds.flatMap Round.traces ≠ [] := by
      intro hnil
      exact absurd (List.flatMap_eq_nil_iff.mp hnil round
        (List.mem_of_getElem? hround)) (List.cons_ne_nil _ _)
    have hall : ∀ trace ∈ rounds.flatMap Round.traces,
        trace.status = "completed" := by
      intro trace hmem
      obtain ⟨other, hother, htrace⟩ := List.mem_flatMap.mp hmem
      obtain ⟨i, hi⟩ := List.mem_iff_getElem?.mp hother
      have hin := ((hlength i).mp (List.getElem?_eq_some_iff.mp hi).1).1
      rw [(hthread hi).1] at htrace
      rcases List.mem_pair.mp htrace with rfl | rfl
      · exact (hdone i (by omega)).1
      · exact (hdone i (by omega)).2
    obtain ⟨other, hother, hpass⟩ :=
      h.passed ((finish_completed _).mpr ⟨hsome, hall⟩)
    rw [hend] at hother
    cases hother
    exact hfail last (by omega) (hjudged ▸ hpass)
  · intro hcase
    refine ⟨eq_of_forall_lt_iff fun n => ?_, fun _ _ h => hthread h, rfl, ?_⟩
    · rw [hlength, lt_roundsDue]
    · intro hcompleted
      refine ⟨round, hend, ?_⟩
      rw [hjudged]
      have hbefore := ((hlength last).mp (by omega)).2
      have hstop := mt (hlength (last + 1)).mpr (by omega)
      by_contra hfail
      have hnone : ∀ i < last + 1, (agents.judge i).passes = false := by
        intro i hi
        rcases Nat.lt_succ_iff_lt_or_eq.mp hi with hi | rfl
        · exact hbefore i hi
        · exact Bool.eq_false_of_not_eq_true hfail
      have hall : maxRepairs ≤ last := by
        by_contra hless
        exact hstop ⟨by omega, hnone⟩
      rcases hcase with ⟨i, hi, hpass⟩ | ⟨i, hi, hopen⟩
      · rw [hnone i (by omega)] at hpass
        cases hpass
      · obtain ⟨other, hother⟩ : ∃ other, rounds[i]? = some other :=
          ⟨_, List.getElem?_eq_getElem (by omega)⟩
        have hdone := ((finish_completed _).mp hcompleted).2
        have hin (trace : AgentTrace)
            (h : trace ∈ [agents.solver i, agents.judge i]) :
            trace.status = "completed" :=
          hdone trace (List.mem_flatMap.mpr ⟨other,
            List.mem_of_getElem? hother, (hthread hother).1 ▸ h⟩)
        rcases hopen with hopen | hopen
        · exact hopen (hin _ (by simp))
        · exact hopen (hin _ (by simp))

namespace RepairWitness

def agents : Agents where
  solver _ := { traceId := "s", status := "completed" }
  judge _ :=
    { traceId := "j", status := "completed"
      metadata := [("verdict", .str "fail")] }

theorem failed_verdict_completed :
    ¬ Honest agents "t" 0 (run agents "t" [] 0).1 (run agents "t" [] 0).2 := by
  intro h
  obtain ⟨round, hround, hpass⟩ := h.passed (by decide)
  cases hround
  exact absurd hpass (by decide)

end RepairWitness

end Voly.A2A.IterativeRepair
