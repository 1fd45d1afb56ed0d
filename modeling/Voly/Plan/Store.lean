/-
The effects of the plan subsystem, and a store that serves loads and saves.
-/
import Voly.Plan.Engine
import Voly.Plan.Checks
import Voly.Interaction.System

namespace Voly

open Python Interaction

/-- The check types that `compile_success_criteria` drafts. -/
def draftedCheckTypes : List String :=
  ["command", "files_exist", "files_missing", "git_diff_contains",
    "git_diff_nonempty", "output_regex", "output_nonempty"]

/-- `compile_success_criteria(text).checks`. -/
structure CriteriaCompiler where
  compile : String → List AcceptanceCheck
  drafted : ∀ text, ∀ check ∈ compile text, check.type ∈ draftedCheckTypes

/-- `AcceptanceCheck.from_dict` of what `to_dict` wrote; a check needs a type.
-/
def AcceptanceCheck.reload (check : AcceptanceCheck) :
    Except PyError AcceptanceCheck :=
  if check.type = "" then
    .error (.validation "invalid acceptance check")
  else
    .ok { check with
      expectExit := if check.run = "" then 0 else check.expectExit
      maxLines := if 0 < check.maxLines then check.maxLines else 0
      approvedMaxLines :=
        if 0 < check.approvedMaxLines then check.approvedMaxLines else 0 }

def reloadAcceptance :
    List AcceptanceCheck → Except PyError (List AcceptanceCheck)
  | [] => .ok []
  | check :: rest =>
      match check.reload with
      | .error e => .error e
      | .ok check' =>
          match reloadAcceptance rest with
          | .error e => .error e
          | .ok rest' => .ok (check' :: rest')

/-- `PlanStep.from_dict` of what `to_dict` wrote, with checks drafted from the
criteria. -/
def PlanStep.reload (criteria : CriteriaCompiler) (step : PlanStep) :
    Except PyError PlanStep :=
  if step.id = "" then .error (.validation "invalid plan step")
  else
    match reloadAcceptance step.acceptance with
    | .error e => .error e
    | .ok acceptance =>
        .ok { step with
          role := orElse step.role "developer"
          acceptance :=
            if acceptance = [] ∧ strip step.successCriteria ≠ "" then
              criteria.compile step.successCriteria
            else acceptance }

def reloadSteps (criteria : CriteriaCompiler) :
    List PlanStep → Except PyError (List PlanStep)
  | [] => .ok []
  | step :: rest =>
      match step.reload criteria with
      | .error e => .error e
      | .ok step' =>
          match reloadSteps criteria rest with
          | .error e => .error e
          | .ok rest' => .ok (step' :: rest')

/-- `Plan.from_dict` of what `to_dict` wrote. -/
def Plan.reload (criteria : CriteriaCompiler) (plan : Plan) :
    Except PyError Plan :=
  if plan.planId = "" then
    .error (.validation "invalid plan: missing plan_id in dict")
  else
    match reloadSteps criteria plan.steps with
    | .error e => .error e
    | .ok steps =>
        .ok { plan with
          steps
          schemaVersion :=
            if plan.schemaVersion = 0 then Voly.schemaVersion
            else plan.schemaVersion }

/-- The check of `PlanStore.path`. -/
def storePath (planId : String) : Except PyError Unit :=
  if planId = "" ∨ contains planId "/" ∨
      contains planId (String.ofList [Char.ofNat 92]) ∨
      planId = "." ∨ planId = ".." then
    .error (.validation ("invalid plan_id for path: " ++ quoted planId))
  else .ok ()

/-- What a call returns: success, output, error and the files it reports. -/
structure CallOutcome where
  success : Bool
  output : String := ""
  error : String := ""
  files : List String := []

/-- The outcome or the exception text, and the cost and duration it wrote. -/
structure CallReply where
  outcome : Except String CallOutcome
  costUsd : Option Rat := none
  durationMs : Option Rat := none

/-- The effects on a plan.  A call's start and end are two; `pick n` chooses
among `n` threads. -/
inductive PlanOp where
  | time
  | monotonic
  | newTaskId
  | load (planId : String)
  | save (plan : Plan)
  | git (cwd : String)
  | inspect (check : AcceptanceCheck) (ctx : VerifyContext)
  | pick (n : Nat)
  | callStart (step : PlanStep) (plan : Plan) (instruction : String)
  | callEnd (stepId : String)

@[reducible] def PlanReply : PlanOp → Type
  | .time => Rat
  | .monotonic => Rat
  | .newTaskId => String
  | .load _ => Except PyError (Option Plan)
  | .save _ => Except PyError Unit
  | .git _ => Except PyError (Dict String)
  | .inspect _ _ => Surroundings
  | .pick _ => Nat
  | .callStart _ _ _ => Unit
  | .callEnd _ => CallReply

abbrev PlanScript := Script PlanOp PlanReply Plan PyError

abbrev PlanOracle := Oracle PlanOp PlanReply

/-- `PlanStore.load`. -/
def storeLoad {S : Type} (planId : String) :
    Script PlanOp PlanReply S PyError (Option Plan) := do
  Script.run fun s => (storePath planId, s)
  Script.askOk (PlanOp.load planId) id

/-- The timestamps that a save writes to the plan object. -/
def Plan.stamped (now : Rat) (plan : Plan) : Plan :=
  { plan with
    updatedAt := now
    createdAt := if plan.createdAt ≤ 0 then now else plan.createdAt }

/-- `PlanStore.save`. -/
def storeSave : PlanScript Unit := do
  let now ← Script.ask PlanOp.time
  Script.update (Plan.stamped now)
  let plan ← Script.read
  Script.run fun s => (storePath plan.planId, s)
  Script.askOk (PlanOp.save plan) id

section Wp

variable {S G : Type} {P : Protocol PlanOp PlanReply G} {g : G}

theorem wp_storeLoad {planId : String} {s : S}
    {Q : Except PyError (Option Plan) → S → G → Prop}
    (hrefused : ∀ e, Q (.error e) s g)
    (hallow : storePath planId = .ok () → P.allows g (.load planId))
    (hreply : ∀ reply, storePath planId = .ok () →
      P.relies g (.load planId) reply →
      Q reply s (P.next g (.load planId) reply)) :
    Script.wp P (storeLoad planId) Q s g := by
  unfold storeLoad
  rw [Script.wp_run_bind]
  cases hpath : storePath planId with
  | error e => exact hrefused e
  | ok u => exact ⟨hallow hpath, fun reply => hreply reply hpath⟩

theorem wp_save {plan : Plan} {Q : Except PyError Unit → Plan → G → Prop}
    (htime : P.allows g .time)
    (hrefused : ∀ now e, storePath plan.planId = .error e →
      Q (.error e) (plan.stamped now) (P.next g .time now))
    (hallow : ∀ now, storePath plan.planId = .ok () →
      P.allows (P.next g .time now) (.save (plan.stamped now)))
    (hreply : ∀ now reply, storePath plan.planId = .ok () →
      P.relies (P.next g .time now) (.save (plan.stamped now)) reply →
      Q reply (plan.stamped now)
        (P.next (P.next g .time now) (.save (plan.stamped now)) reply)) :
    Script.wp P storeSave Q plan g := by
  unfold storeSave
  rw [Script.wp_ask_bind]
  refine ⟨htime, fun (now : Rat) _ => ?_⟩
  rw [Script.wp_update_bind, Script.wp_read_bind, Script.wp_run_bind]
  have hplanId : (plan.stamped now).planId = plan.planId := rfl
  rw [hplanId]
  cases hpath : storePath plan.planId with
  | error e => exact hrefused now e hpath
  | ok u => exact ⟨hallow now hpath, fun reply => hreply now reply hpath⟩

end Wp

/-- A question and the reply it got. -/
structure Exchange where
  op : PlanOp
  reply : PlanReply op

/-- The plan files, and what every program exchanged so far, latest first. -/
structure PlanWorld (I : Type) where
  files : String → Option Plan
  log : List (I × Exchange) := []

def readFile (criteria : CriteriaCompiler) (files : String → Option Plan)
    (planId : String) : Except PyError (Option Plan) :=
  match files planId with
  | none => .ok none
  | some plan =>
      match plan.reload criteria with
      | .error e => .error e
      | .ok plan' => .ok (some plan')

/-- A reliable disk answers from the files; other replies are the proposed ones.
-/
def diskAnswer (criteria : CriteriaCompiler) (files : String → Option Plan) :
    (op : PlanOp) → PlanReply op → PlanReply op × (String → Option Plan)
  | .load planId, _ => (readFile criteria files planId, files)
  | .save plan, _ =>
      (.ok (), Function.update files plan.planId (some plan))
  | _, proposed => (proposed, files)

variable {I : Type}

/-- Answer from the files and keep the log. -/
def serveFiles
    (answer : (String → Option Plan) → (op : PlanOp) → PlanReply op →
      PlanReply op × (String → Option Plan))
    (who : I) : Serve PlanOp PlanReply (PlanWorld I) :=
  fun world op proposed =>
    let out := answer world.files op proposed
    (out.1, { files := out.2, log := (who, ⟨op, out.1⟩) :: world.log })

def serveStore (criteria : CriteriaCompiler) (who : I) :
    Serve PlanOp PlanReply (PlanWorld I) :=
  serveFiles (diskAnswer criteria) who

/-- Nothing is dirty, nothing exists, and no pattern matches. -/
def Surroundings.bare : Surroundings where
  gitStatus _ := .ok []
  pathExists _ _ := .ok false
  reCompile _ _ := .ok fun _ => false
  checkCommand _ _ := .ok { type := "command", ok := false }
  checkFileLineLimit _ _ := .ok { type := "file_line_limit", ok := false }

/-- The clock stands still, nobody else writes, every call ends so. -/
def calm (outcome : CallOutcome) : PlanOracle
  | .time | .monotonic => 0
  | .newTaskId => "task"
  | .load _ => .ok none
  | .save _ => .ok ()
  | .git _ => .ok []
  | .inspect _ _ => Surroundings.bare
  | .pick _ => 0
  | .callStart _ _ _ => ()
  | .callEnd _ => { outcome := .ok outcome }

end Voly
