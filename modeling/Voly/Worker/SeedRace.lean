/-
Any number of seed and evidence requests, interleaved at their statements: when
learned evidence stays.
-/
import Voly.Worker.Profiles
import Voly.Records.Keyed
import Mathlib.Tactic.Linarith

namespace Worker

open Interaction

inductive ProfileRequest where
  | seed (body : Option (List ProfilePayload))
  | evidence (body : Option EvidenceRequest)

def ProfileRequest.prog : ProfileRequest → ProfileProg
  | seed body => postSeed body
  | evidence body => postEvidence body

variable {I : Type}

abbrev ProfilePool (I : Type) :=
  Pool ProfileOp ProfileReply I ProfileWorld fun _ => ProfileAnswer

def scoreOf (rows : List CapabilityRow) (key : String × String × String) :
    SqlReal :=
  (Keyed.lookup CapabilityRow.key key rows).bind CapabilityRow.score

/-- The requests beside a table, none of which has begun. -/
def profilePool (requests : I → ProfileRequest) (rows : List CapabilityRow) :
    ProfilePool I where
  world := { rows, seeded := scoreOf rows }
  procs := fun i => (requests i).prog

/-- The row of the dimension itself has been learned from a run. -/
def Learned (rows : List CapabilityRow) (executorId dimension : String) :
    Prop :=
  ∃ row ∈ rows, row.key = (executorId, dimension, "") ∧ 1 ≤ row.internalRuns

/-- A number from 0 to 1. -/
def InUnit (value : SqlReal) : Prop :=
  ∃ number, value = some number ∧ 0 ≤ number ∧ number ≤ 1

/-- What was answered as learned is there, and scores stay between 0 and 1. -/
structure EvidenceKept (pool : ProfilePool I) : Prop where
  answered : ∀ who executorId dimension,
    pool.procs who = .done (.evidence executorId dimension true) →
      Learned pool.world.rows executorId dimension
  scores : ∀ row ∈ pool.world.rows,
    InUnit (pool.world.seeded row.key) → InUnit row.score

/-- Nothing learned is deleted, and scores are updated by numbers from 0
to 1. -/
def SparesLearned (world : ProfileWorld) (_ : I) : ProfileOp → Prop
  | .deleteRows executorId => ∀ row ∈ world.rows,
      row.executorId = executorId → row.internalRuns = 0
  | .updateScore update => ∀ row ∈ world.rows,
      update.applies row = true → InUnit update.runScore
  | _ => True

instance (rows : List CapabilityRow) (executorId dimension : String) :
    Decidable (Learned rows executorId dimension) :=
  inferInstanceAs (Decidable (∃ row ∈ rows, _ ∧ _))

instance (value : SqlReal) : Decidable (InUnit value) :=
  match value with
  | none => isFalse fun ⟨_, h, _⟩ => nomatch h
  | some number =>
      decidable_of_iff (0 ≤ number ∧ number ≤ 1)
        ⟨fun h => ⟨number, rfl, h⟩, fun ⟨_, hsame, h⟩ => by
          cases hsame
          exact h⟩

instance (world : ProfileWorld) (who : I) (op : ProfileOp) :
    Decidable (SparesLearned world who op) := by
  unfold SparesLearned
  split <;> infer_instance

/-- A request knows which row its update has changed. -/
def profileProtocol :
    Protocol ProfileOp ProfileReply (Option (String × String)) where
  allows _ _ := True
  relies _ _ _ := True
  next held op reply := match op, reply with
    | .updateScore update, some (_ + 1) =>
        some (update.executorId, update.dimension)
    | _, _ => held

/-- An answer that reports an update names the row. -/
def Truthful (answer : ProfileAnswer) (held : Option (String × String)) :
    Prop :=
  ∀ executorId dimension, answer = .evidence executorId dimension true →
    held = some (executorId, dimension)

section Follows

variable {next : ProfileProg}

theorem insertRows_follows
    (h : ∀ held, next.wp profileProtocol Truthful held)
    (rows : List CapabilityRow) (held : Option (String × String)) :
    (insertRows next rows).wp profileProtocol Truthful held := by
  induction rows generalizing held with
  | nil => exact h held
  | cons row rest ih =>
      refine ⟨trivial, fun reply _ => ?_⟩
      cases reply with
      | none => simp [Truthful]
      | some done => exact ih _

theorem upsertConstraints_follows (executorId : String)
    (h : ∀ held, next.wp profileProtocol Truthful held)
    (constraints : List (String × Python.Doc))
    (held : Option (String × String)) :
    (upsertConstraints executorId next constraints).wp profileProtocol
      Truthful held := by
  induction constraints generalizing held with
  | nil => exact h held
  | cons constraint rest ih =>
      refine ⟨trivial, fun reply _ => ?_⟩
      cases reply with
      | none => simp [Truthful]
      | some done => exact ih _

theorem upsertOperational_follows (executorId : String) (now : Int)
    (h : ∀ held, next.wp profileProtocol Truthful held)
    (payload : Option OperationalPayload) (held : Option (String × String)) :
    (upsertOperational executorId now next payload).wp profileProtocol
      Truthful held := by
  cases payload with
  | none => exact h held
  | some payload =>
      refine ⟨trivial, fun reply _ => ?_⟩
      cases reply with
      | none => simp [Truthful]
      | some done => exact h _

theorem seedProfiles_follows (now : Int) (profiles : List ProfilePayload)
    (seeded skipped : Nat) (held : Option (String × String)) :
    (seedProfiles now profiles seeded skipped).wp profileProtocol Truthful
      held := by
  induction profiles generalizing seeded skipped held with
  | nil => simp [seedProfiles, Truthful]
  | cons profile rest ih =>
      simp only [seedProfiles]
      split
      · exact ih _ _ _
      · refine ⟨trivial, fun learned _ => ?_⟩
        rcases learned with _ | _ | _
        · simp [Truthful]
        · refine ⟨trivial, fun deleted _ => ?_⟩
          cases deleted with
          | none => simp [Truthful]
          | some done =>
              apply insertRows_follows
              apply upsertConstraints_follows
              apply upsertOperational_follows
              exact ih _ _
        · exact ih _ _ _

theorem request_follows (request : ProfileRequest) :
    request.prog.wp profileProtocol Truthful none := by
  cases request with
  | seed body =>
      cases body with
      | none => simp [ProfileRequest.prog, postSeed, Truthful]
      | some profiles =>
          exact ⟨trivial, fun now _ => seedProfiles_follows now _ _ _ _⟩
  | evidence body =>
      cases body with
      | none => simp [ProfileRequest.prog, postEvidence, Truthful]
      | some body =>
          simp only [ProfileRequest.prog, postEvidence]
          split
          · simp [Truthful]
          · refine ⟨trivial, fun now _ => ⟨trivial, fun changes _ => ?_⟩⟩
            rcases changes with _ | _ | changes
            · simp [Truthful]
            · refine ⟨trivial, fun rate _ => ?_⟩
              cases rate with
              | none => simp [Truthful]
              | some rate =>
                  refine ⟨trivial, fun done _ => ?_⟩
                  cases done <;> simp [Truthful]
            · refine ⟨trivial, fun rate _ => ?_⟩
              cases rate with
              | none => simp [Truthful]
              | some rate =>
                  refine ⟨trivial, fun done _ => ?_⟩
                  cases done <;> simp [Truthful, profileProtocol]

end Follows

section Statements

variable {rows : List CapabilityRow} {executorId dimension : String}
variable {update : ScoreUpdate}

section

variable (h : Learned rows executorId dimension)
include h

theorem Learned.delete {other : String}
    (hspared : ∀ row ∈ rows, row.executorId = other → row.internalRuns = 0) :
    Learned (rows.filter fun row => row.executorId ≠ other)
      executorId dimension := by
  obtain ⟨row, hrow, hkey, hruns⟩ := h
  have hother : row.executorId ≠ other := by
    intro hsame
    rw [hspared row hrow hsame] at hruns
    cases hruns
  exact ⟨row, by simp [hrow, hother], hkey, hruns⟩

theorem Learned.insert (row : CapabilityRow) :
    Learned (rows ++ [row]) executorId dimension := by
  obtain ⟨held, hheld, hlearned⟩ := h
  exact ⟨held, List.mem_append_left _ hheld, hlearned⟩

theorem Learned.run (update : ScoreUpdate) :
    Learned (update.run rows) executorId dimension := by
  obtain ⟨row, hrow, hkey, hruns⟩ := h
  refine ⟨_, List.mem_map_of_mem hrow, ?_⟩
  by_cases happlies : update.applies row = true
  · simp [happlies, hkey]
  · simpa [happlies, hkey] using hruns

end

theorem learned_of_update (h : 0 < rows.countP update.applies) :
    Learned (update.run rows) update.executorId update.dimension := by
  obtain ⟨row, hrow, happlies⟩ := List.countP_pos_iff.mp h
  refine ⟨_, List.mem_map_of_mem hrow, ?_⟩
  have hwhere := happlies
  simp only [ScoreUpdate.applies, Bool.and_eq_true, decide_eq_true_eq]
    at hwhere
  obtain ⟨⟨⟨hexecutor, hdimension⟩, hsub⟩, _⟩ := hwhere
  have hkey : row.key = (update.executorId, update.dimension, "") := by
    simp [CapabilityRow.key, hexecutor, hdimension, hsub]
  simp [happlies, hkey]

theorem InUnit.set {row : CapabilityRow} (hscore : InUnit row.score)
    (hrun : InUnit update.runScore) : InUnit (update.set row).score := by
  obtain ⟨score, hscore, hscore_low, hscore_high⟩ := hscore
  obtain ⟨runScore, hrun, hrun_low, hrun_high⟩ := hrun
  refine ⟨score * (1 - emaAlpha) + runScore * emaAlpha, ?_, ?_, ?_⟩
  · simp [ScoreUpdate.set, hscore, hrun]
  · unfold emaAlpha
    linarith
  · unfold emaAlpha
    linarith

end Statements

/-- Keys are distinct, updated rows learned, scores between 0 and 1. -/
structure TableKept (world : ProfileWorld)
    (held : I → Option (String × String)) : Prop where
  nodup : (world.rows.map CapabilityRow.key).Nodup
  learned : ∀ who executorId dimension,
    held who = some (executorId, dimension) →
      Learned world.rows executorId dimension
  scores : ∀ row ∈ world.rows,
    InUnit (world.seeded row.key) → InUnit row.score

section Serve

variable {world : ProfileWorld} {held : I → Option (String × String)}

theorem TableKept.delete (h : TableKept world held) {executorId : String}
    (hspared : ∀ row ∈ world.rows,
      row.executorId = executorId → row.internalRuns = 0) :
    TableKept { world with
      rows := world.rows.filter fun row => row.executorId ≠ executorId }
      held := by
  refine ⟨?_, ?_, ?_⟩
  · exact h.nodup.sublist (List.filter_sublist.map _)
  · intro who other dimension hheld
    exact (h.learned who other dimension hheld).delete hspared
  · intro row hrow
    exact h.scores row (List.mem_of_mem_filter hrow)

theorem TableKept.insert (h : TableKept world held) {row : CapabilityRow}
    (hnew : row.key ∉ world.rows.map CapabilityRow.key) :
    TableKept {
      rows := world.rows ++ [row]
      seeded := Function.update world.seeded row.key row.score } held := by
  refine ⟨?_, ?_, ?_⟩
  · simpa [List.nodup_append, h.nodup] using hnew
  · intro who executorId dimension hheld
    exact (h.learned who executorId dimension hheld).insert row
  · intro other hother hseeded
    rcases List.mem_append.mp hother with hother | hother
    · have hkey : other.key ≠ row.key := by
        intro hsame
        exact hnew (hsame ▸ List.mem_map_of_mem hother)
      simp only [Function.update_of_ne hkey] at hseeded
      exact h.scores other hother hseeded
    · rw [List.mem_singleton.mp hother] at hseeded ⊢
      simpa using hseeded

theorem TableKept.update (h : TableKept world held) {update : ScoreUpdate}
    (hspared : ∀ row ∈ world.rows,
      update.applies row = true → InUnit update.runScore) :
    TableKept { world with rows := update.run world.rows } held := by
  refine ⟨?_, ?_, ?_⟩
  · simpa using h.nodup
  · intro who executorId dimension hheld
    exact (h.learned who executorId dimension hheld).run update
  · intro row hrow
    obtain ⟨old, hold, hset⟩ := List.mem_map.mp hrow
    by_cases happlies : update.applies old = true
    · rw [if_pos happlies] at hset
      subst hset
      intro hseeded
      rw [ScoreUpdate.set_key] at hseeded
      exact (h.scores old hold hseeded).set (hspared old hold happlies)
    · rw [if_neg happlies] at hset
      subst hset
      exact h.scores old hold

theorem TableKept.hold [DecidableEq I] (h : TableKept world held) {who : I}
    {executorId dimension : String}
    (hlearned : Learned world.rows executorId dimension) :
    TableKept world
      (Function.update held who (some (executorId, dimension))) := by
  refine ⟨h.nodup, ?_, h.scores⟩
  intro other otherId otherDimension hheld
  by_cases hother : other = who
  · subst hother
    simp only [Function.update_self, Option.some.injEq, Prod.mk.injEq]
      at hheld
    obtain ⟨hexecutor, hdimension⟩ := hheld
    subst hexecutor hdimension
    exact hlearned
  · rw [Function.update_of_ne hother] at hheld
    exact h.learned other otherId otherDimension hheld

end Serve

variable [DecidableEq I]

theorem profiles_serve :
    Pool.Serves (fun _ : I => profileProtocol) serveProfiles SparesLearned
      TableKept := by
  intro world held who op reply hkept _ hspared
  refine ⟨trivial, ?_⟩
  have hsame : TableKept world (Function.update held who (held who)) := by
    rw [Function.update_eq_self]
    exact hkept
  cases op with
  | deleteRows executorId =>
      cases reply with
      | none => exact hsame
      | some done => exact hsame.delete hspared
  | insertRow row =>
      cases reply with
      | none => exact hsame
      | some done =>
          simp only [serveProfiles]
          split
          · exact hsame
          · next hnew => exact hsame.insert hnew
  | updateScore update =>
      cases reply with
      | none => exact hsame
      | some proposed =>
          have hupdated := hsame.update hspared
          simp only [serveProfiles, profileProtocol]
          cases hcount : world.rows.countP update.applies with
          | zero => simpa [hcount] using hupdated
          | succ changes =>
              have hlearned : Learned (update.run world.rows)
                  update.executorId update.dimension :=
                learned_of_update (by rw [hcount]; exact Nat.succ_pos _)
              exact (hkept.update hspared).hold hlearned
  | learned executorId =>
      cases reply <;> exact hsame
  | _ => exact hsame

/-- As long as no seed deletes what was learned since it looked, and updates are
within bounds, evidence stays. -/
theorem evidence_kept (requests : I → ProfileRequest)
    (rows : List CapabilityRow)
    (hkeys : (rows.map CapabilityRow.key).Nodup)
    (schedule : List (I × Oracle ProfileOp ProfileReply))
    (hmeets : (profilePool requests rows).Meets serveProfiles SparesLearned
      schedule) :
    EvidenceKept
      ((profilePool requests rows).run serveProfiles schedule) := by
  have hstart : (profilePool requests rows).Follows
      (fun _ => profileProtocol) (fun _ => Truthful) TableKept := by
    refine ⟨fun _ => none, ⟨hkeys, ?_, ?_⟩,
      fun who => request_follows (requests who)⟩
    · intro who executorId dimension hheld
      cases hheld
    · intro row hrow hseeded
      have hfind := Keyed.lookup_key hkeys hrow
      simpa [profilePool, scoreOf, hfind] using hseeded
  obtain ⟨held, hkept, hprocs⟩ :=
    Pool.run_follows profiles_serve schedule hmeets hstart
  refine ⟨?_, hkept.scores⟩
  intro who executorId dimension hdone
  have htruthful := hprocs who
  rw [hdone] at htruthful
  exact hkept.learned who executorId dimension
    (htruthful executorId dimension rfl)

namespace SeedRaceWitness

def row : CapabilityRow where
  executorId := "claude-code"
  kind := "executor"
  dimension := "python"
  subDimension := ""
  score := some (1 / 2)
  confidence := some 0
  updatedAt := 0

def oracle : Oracle ProfileOp ProfileReply
  | .now => 3600000
  | .learned _ => some true
  | .deleteRows _ => some ()
  | .insertRow _ => some ()
  | .upsertConstraint _ _ _ => some ()
  | .upsertOperational _ => some ()
  | .updateScore _ => some 0
  | .completionRate _ => some none
  | .updateOperational _ _ _ => some ()

def requests (runScore : Rat) : Bool → ProfileRequest
  | true => .seed (some [{
      executorId := some "claude-code"
      capabilities := [("python", { score := some (some (7 / 10)) })] }])
  | false => .evidence (some {
      executorId := some "claude-code", dimension := some "python"
      runScore := some (some runScore), success := true })

def turns (order : List Bool) : List (Bool × Oracle ProfileOp ProfileReply) :=
  order.map fun who => (who, oracle)

def poolAfter (runScore : Rat) (order : List Bool) : ProfilePool Bool :=
  (profilePool (requests runScore) [row]).run serveProfiles (turns order)

/-- A seed deletes what was learned after it looked; a score of 5 takes one
above 1. -/
theorem seed_deletes_learned :
    ¬EvidenceKept (poolAfter (9 / 10)
        [true, true, false, false, false, false, true]) ∧
      ¬EvidenceKept (poolAfter 5 [false, false]) := by
  constructor
  · intro h
    have hlearned := h.answered false "claude-code" "python" rfl
    revert hlearned
    decide +kernel
  · intro h
    have hscores := h.scores
    revert hscores
    decide +kernel

/-- The evidence comes first, and the seed is skipped. -/
theorem seed_skipped :
    EvidenceKept (poolAfter (9 / 10)
      [false, false, false, false, true, true, true]) :=
  evidence_kept (requests (9 / 10)) [row] (by decide) _ (by decide +kernel)

end SeedRaceWitness

end Worker
