/-
The profile requests of the capability Worker, as programs that make one SQL
statement after the other.
-/
import Voly.Interaction.System
import Voly.Worker.Json
import Mathlib.Algebra.Order.Ring.Rat

namespace Worker

open Python Interaction

def emaAlpha : Rat := 15 / 100

def debounceMs : Int := 300000

/-- A number in the database; a NaN is stored as `NULL`. -/
abbrev SqlReal := Option Rat

structure CapabilityRow where
  executorId : String
  kind : String
  dimension : String
  subDimension : String
  score : SqlReal
  confidence : SqlReal
  internalRuns : Nat := 0
  successfulRuns : Nat := 0
  updatedAt : Int

def CapabilityRow.key (row : CapabilityRow) : String × String × String :=
  (row.executorId, row.dimension, row.subDimension)

structure OperationalRow where
  executorId : String
  avgLatencyMs : SqlReal
  completionRate : SqlReal
  retryRate : SqlReal
  costPerTaskUsd : SqlReal
  totalRuns : SqlReal
  updatedAt : Int

/-- Numbers are what `Number` makes of the value that is there. -/
structure CapabilityPayload where
  score : Option SqlReal := none
  confidence : Option SqlReal := none
  subScores : List (String × SqlReal) := []

structure OperationalPayload where
  avgLatencyMs : Option SqlReal := none
  completionRate : Option SqlReal := none
  retryRate : Option SqlReal := none
  costPerTaskUsd : Option SqlReal := none
  totalRuns : Option SqlReal := none

structure ProfilePayload where
  executorId : Option String := none
  kind : Option String := none
  capabilities : List (String × CapabilityPayload) := []
  constraints : List (String × Doc) := []
  operational : Option OperationalPayload := none

/-- The body of `POST /profiles/evidence`. -/
structure EvidenceRequest where
  executorId : Option String := none
  dimension : Option String := none
  runScore : Option SqlReal := none
  success : Bool := false

/-- The `UPDATE` of an evidence request. -/
structure ScoreUpdate where
  executorId : String
  dimension : String
  runScore : SqlReal
  success : Bool
  now : Int

inductive ProfileOp where
  | now
  | learned (executorId : String)
  | deleteRows (executorId : String)
  | insertRow (row : CapabilityRow)
  | upsertConstraint (executorId name value : String)
  | upsertOperational (row : OperationalRow)
  | updateScore (update : ScoreUpdate)
  | completionRate (executorId : String)
  | updateOperational (executorId : String) (completionRate : SqlReal)
      (now : Int)

abbrev ProfileReply : ProfileOp → Type
  | .now => Int
  | .learned _ => Option Bool
  | .deleteRows _ => Option Unit
  | .insertRow _ => Option Unit
  | .upsertConstraint _ _ _ => Option Unit
  | .upsertOperational _ => Option Unit
  | .updateScore _ => Option Nat
  | .completionRate _ => Option (Option SqlReal)
  | .updateOperational _ _ _ => Option Unit

inductive ProfileAnswer where
  | seeded (seeded skipped : Nat)
  | evidence (executorId dimension : String) (emaUpdated : Bool)
  | badRequest
  | failed
deriving DecidableEq

abbrev ProfileProg := Prog ProfileOp ProfileReply ProfileAnswer

/-- White space and line terminators of ECMAScript. -/
def isJsSpace (c : Char) : Bool :=
  let n := c.toNat
  (9 ≤ n && n ≤ 13) || n == 32 || n == 160 || n == 5760 ||
    (8192 ≤ n && n ≤ 8202) || n == 8232 || n == 8233 || n == 8239 ||
    n == 8287 || n == 12288 || n == 65279

/-- `String(value ?? "").trim()`. -/
def trimmed (value : Option String) : String :=
  let text := (value.getD "").toList
  String.ofList ((text.dropWhile isJsSpace).reverse.dropWhile isJsSpace).reverse

def constraintToText (value : Doc) : String :=
  if isNull value then "" else coerce value

def capabilityRows (executorId kind : String) (now : Int)
    (capabilities : List (String × CapabilityPayload)) : List CapabilityRow :=
  capabilities.flatMap fun (dimension, cap) =>
    let confidence := cap.confidence.getD (some 0)
    { executorId, kind, dimension, subDimension := ""
      score := cap.score.getD (some (1 / 2)), confidence, updatedAt := now } ::
    cap.subScores.map fun (subDimension, score) =>
      { executorId, kind, dimension, subDimension, score, confidence,
        updatedAt := now }

def operationalRow (executorId : String) (now : Int)
    (payload : OperationalPayload) : OperationalRow where
  executorId := executorId
  avgLatencyMs := payload.avgLatencyMs.getD (some 0)
  completionRate := payload.completionRate.getD (some 1)
  retryRate := payload.retryRate.getD (some 0)
  costPerTaskUsd := payload.costPerTaskUsd.getD (some 0)
  totalRuns := payload.totalRuns.getD (some 0)
  updatedAt := now

def insertRows (next : ProfileProg) : List CapabilityRow → ProfileProg
  | [] => next
  | row :: rest => .ask (.insertRow row) fun
      | none => .done .failed
      | some () => insertRows next rest

def upsertConstraints (executorId : String) (next : ProfileProg) :
    List (String × Doc) → ProfileProg
  | [] => next
  | (name, value) :: rest =>
      .ask (.upsertConstraint executorId name (constraintToText value)) fun
      | none => .done .failed
      | some () => upsertConstraints executorId next rest

def upsertOperational (executorId : String) (now : Int) (next : ProfileProg) :
    Option OperationalPayload → ProfileProg
  | none => next
  | some payload =>
      .ask (.upsertOperational (operationalRow executorId now payload)) fun
      | none => .done .failed
      | some () => next

/-- The loop over the profiles of `POST /profiles/seed`. -/
def seedProfiles (now : Int) :
    List ProfilePayload → Nat → Nat → ProfileProg
  | [], seeded, skipped => .done (.seeded seeded skipped)
  | profile :: rest, seeded, skipped =>
      let executorId := trimmed profile.executorId
      if executorId = "" then seedProfiles now rest seeded skipped
      else
        .ask (.learned executorId) fun
        | none => .done .failed
        | some true => seedProfiles now rest seeded (skipped + 1)
        | some false =>
            .ask (.deleteRows executorId) fun
            | none => .done .failed
            | some () =>
                let kind := profile.kind.getD "executor"
                insertRows
                  (upsertConstraints executorId
                    (upsertOperational executorId now
                      (seedProfiles now rest (seeded + 1) skipped)
                      profile.operational)
                    profile.constraints)
                  (capabilityRows executorId kind now profile.capabilities)

/-- `POST /profiles/seed`; no body stands for one that is not JSON. -/
def postSeed (body : Option (List ProfilePayload)) : ProfileProg :=
  match body with
  | none => .done .failed
  | some profiles => .ask .now fun now => seedProfiles now profiles 0 0

def successValue (success : Bool) : Rat := if success then 1 else 0

def postEvidence (body : Option EvidenceRequest) : ProfileProg :=
  match body with
  | none => .done .failed
  | some body =>
      let executorId := trimmed body.executorId
      let dimension := trimmed body.dimension
      if executorId = "" ∨ dimension = "" then .done .badRequest
      else
        .ask .now fun now =>
        .ask (.updateScore {
          executorId, dimension, runScore := body.runScore.getD (some 0)
          success := body.success, now }) fun
        | none => .done .failed
        | some changes =>
            .ask (.completionRate executorId) fun
            | none => .done .failed
            | some rate =>
                let newRate := rate.join.getD 1 * (1 - emaAlpha) +
                  successValue body.success * emaAlpha
                .ask (.updateOperational executorId (some newRate) now) fun
                | none => .done .failed
                | some () =>
                    .done (.evidence executorId dimension (0 < changes))

namespace ScoreUpdate

variable (update : ScoreUpdate)

/-- The `WHERE` clause: rows that were updated lately are left alone. -/
def applies (row : CapabilityRow) : Bool :=
  row.executorId = update.executorId && row.dimension = update.dimension &&
    row.subDimension = "" && row.updatedAt < update.now - debounceMs

/-- The `SET` clause; arithmetic with `NULL` is `NULL`. -/
def set (row : CapabilityRow) : CapabilityRow :=
  { row with
    score := do
      let score ← row.score
      let runScore ← update.runScore
      return score * (1 - emaAlpha) + runScore * emaAlpha
    confidence := row.confidence.map fun confidence =>
      min (confidence + 2 / 100) 1
    internalRuns := row.internalRuns + 1
    successfulRuns := row.successfulRuns + if update.success then 1 else 0
    updatedAt := update.now }

def run (rows : List CapabilityRow) : List CapabilityRow :=
  rows.map fun row => if update.applies row then update.set row else row

@[simp] theorem set_key (row : CapabilityRow) :
    (update.set row).key = row.key := rfl

@[simp] theorem set_internalRuns (row : CapabilityRow) :
    (update.set row).internalRuns = row.internalRuns + 1 := rfl

@[simp] theorem keys_run (rows : List CapabilityRow) :
    (update.run rows).map CapabilityRow.key = rows.map CapabilityRow.key := by
  rw [run, List.map_map]
  apply List.map_congr_left
  intro row _
  by_cases happlies : update.applies row = true
  · simp [happlies]
  · simp [happlies]

end ScoreUpdate

/-- The rows of the table, and the score that the row of a key was inserted
with. -/
structure ProfileWorld where
  rows : List CapabilityRow := []
  seeded : String × String × String → SqlReal

/-- Statements run unless they are to throw; other replies are the proposed
ones. -/
def serveProfiles {I : Type} (_ : I) :
    Serve ProfileOp ProfileReply ProfileWorld :=
  fun world op proposed =>
    match op, proposed with
    | .learned executorId, some _ =>
        (some (world.rows.any fun row =>
          row.executorId = executorId && 0 < row.internalRuns), world)
    | .deleteRows executorId, some () =>
        (some (), { world with
          rows := world.rows.filter fun row => row.executorId ≠ executorId })
    | .insertRow row, some () =>
        if row.key ∈ world.rows.map CapabilityRow.key then (none, world)
        else (some (), {
          rows := world.rows ++ [row]
          seeded := Function.update world.seeded row.key row.score })
    | .updateScore update, some _ =>
        (some (world.rows.countP update.applies), { world with
          rows := update.run world.rows })
    | .now, proposed => (proposed, world)
    | .learned _, none => (none, world)
    | .deleteRows _, none => (none, world)
    | .insertRow _, none => (none, world)
    | .upsertConstraint _ _ _, proposed => (proposed, world)
    | .upsertOperational _, proposed => (proposed, world)
    | .updateScore _, none => (none, world)
    | .completionRate _, proposed => (proposed, world)
    | .updateOperational _ _ _, proposed => (proposed, world)

end Worker
