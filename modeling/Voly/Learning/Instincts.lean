/-
The instinct store: instincts, how evidence moves confidence and lifecycle, and
the selection.
-/
import Voly.Python.Json
import Voly.Records.Keyed
import Mathlib.Tactic.Linarith

namespace Voly

open Python

def protectedPatterns : List String :=
  ["ignore policy", "override policy", "bypass security", "disable security",
    "ignore system", "reveal secret"]

def positiveEvidence : List String :=
  ["test_passed", "review_accepted", "user_accepted", "verified_outcome"]

def negativeEvidence : List String :=
  ["rollback", "contradiction", "user_correction", "test_failed", "retry"]

def suspendingEvidence : List String :=
  ["rollback", "contradiction", "user_correction"]

inductive InstinctScope where
  | project
  | organization
  | global
  deriving DecidableEq

inductive InstinctLifecycle where
  | candidate
  | approved
  | suspended
  | retired
  deriving DecidableEq

structure InstinctEvidence where
  kind : String
  sourceId : String
  projectId : String
  outcome : String := ""
  deriving DecidableEq

namespace InstinctEvidence

variable (evidence : InstinctEvidence)

def isPositive : Bool := positiveEvidence.contains evidence.kind

def isNegative : Bool := negativeEvidence.contains evidence.kind

def suspends : Bool := suspendingEvidence.contains evidence.kind

theorem negative_of_suspends (h : evidence.suspends = true) :
    evidence.isPositive = false ∧ evidence.isNegative = true := by
  simp only [suspends, suspendingEvidence, List.contains_iff_mem,
    List.mem_cons, List.not_mem_nil, or_false] at h
  rcases h with h | h | h <;> simp only [isPositive, isNegative, h] <;> decide

end InstinctEvidence

structure Instinct where
  id : String
  trigger : String
  action : String
  scope : InstinctScope
  scopeId : String
  confidence : Rat := 1 / 4
  evidence : List InstinctEvidence := []
  contradictions : List String := []
  lifecycle : InstinctLifecycle := .candidate

inductive LearningError where
  | contentRequired
  | contentProtected
  | unknownInstinct (instinctId : String)
  | noPositiveEvidence
  | oneProject
  | notApproved
  deriving DecidableEq

def LearningError.text : LearningError → String
  | .contentRequired => "trigger and action are required"
  | .contentProtected =>
      "learned content cannot override policy or security rules"
  | .unknownInstinct instinctId => instinctId
  | .noPositiveEvidence => "approval requires positive evidence"
  | .oneProject =>
      "global promotion requires positive evidence from two projects"
  | .notApproved => "global promotion requires manual approval"

namespace Instinct

variable (instinct : Instinct)

/-- A row of the same kind and source is there already. -/
def repeats (evidence : InstinctEvidence) : Bool :=
  instinct.evidence.any fun row =>
    row.kind == evidence.kind && row.sourceId == evidence.sourceId

/-- What `propose` and `add_evidence` both do with evidence that is not a
repetition. -/
def record (evidence : InstinctEvidence) : Instinct :=
  let rows := instinct.evidence ++ [evidence]
  if evidence.isPositive then
    { instinct with
        evidence := rows, confidence := min 1 (instinct.confidence + 15 / 100) }
  else if evidence.isNegative then
    let confidence := max 0 (instinct.confidence - 20 / 100)
    if evidence.suspends then
      { instinct with
          evidence := rows
          confidence
          contradictions := instinct.contradictions ++ [evidence.sourceId]
          lifecycle := if instinct.lifecycle = .approved then .suspended
            else instinct.lifecycle }
    else { instinct with evidence := rows, confidence }
  else { instinct with evidence := rows }

section Record

variable (evidence : InstinctEvidence)

@[simp] theorem record_id : (instinct.record evidence).id = instinct.id := by
  unfold record
  split_ifs <;> rfl

@[simp] theorem record_trigger :
    (instinct.record evidence).trigger = instinct.trigger := by
  unfold record
  split_ifs <;> rfl

@[simp] theorem record_action :
    (instinct.record evidence).action = instinct.action := by
  unfold record
  split_ifs <;> rfl

@[simp] theorem record_scope :
    (instinct.record evidence).scope = instinct.scope := by
  unfold record
  split_ifs <;> rfl

@[simp] theorem record_scopeId :
    (instinct.record evidence).scopeId = instinct.scopeId := by
  unfold record
  split_ifs <;> rfl

@[simp] theorem record_evidence :
    (instinct.record evidence).evidence = instinct.evidence ++ [evidence] := by
  unfold record
  split_ifs <;> rfl

theorem approved_of_record
    (h : (instinct.record evidence).lifecycle = .approved) :
    instinct.lifecycle = .approved ∧ evidence.suspends = false := by
  by_cases hsuspends : evidence.suspends = true
  · obtain ⟨hpositive, hnegative⟩ := evidence.negative_of_suspends hsuspends
    simp only [record, hpositive, hnegative, hsuspends, if_true] at h
    simp only [Bool.false_eq_true, if_false] at h
    split at h
    · cases h
    · next hother => exact absurd h hother
  · have hlifecycle :
        (instinct.record evidence).lifecycle = instinct.lifecycle := by
      unfold record
      split_ifs <;> rfl
    exact ⟨hlifecycle ▸ h, Bool.eq_false_iff.mpr hsuspends⟩

theorem record_confidence :
    (instinct.record evidence).confidence =
      if evidence.isPositive then min 1 (instinct.confidence + 15 / 100)
      else if evidence.isNegative then
        max 0 (instinct.confidence - 20 / 100)
      else instinct.confidence := by
  unfold record
  split_ifs <;> rfl

theorem confidence_mem_of_record
    (h : 0 ≤ instinct.confidence ∧ instinct.confidence ≤ 1) :
    0 ≤ (instinct.record evidence).confidence ∧
      (instinct.record evidence).confidence ≤ 1 := by
  obtain ⟨hlow, hhigh⟩ := h
  have hraised : 0 ≤ min 1 (instinct.confidence + 15 / 100) := by
    apply le_min <;> linarith
  have hlowered : max 0 (instinct.confidence - 20 / 100) ≤ 1 := by
    apply max_le <;> linarith
  rw [record_confidence]
  split_ifs
  · exact ⟨hraised, min_le_left _ _⟩
  · exact ⟨le_max_left _ _, hlowered⟩
  · exact ⟨hlow, hhigh⟩

end Record

/-- The instinct after evidence has come in. -/
def receive (evidence : InstinctEvidence) : Instinct :=
  if instinct.repeats evidence then instinct else instinct.record evidence

@[simp] theorem receive_id (evidence : InstinctEvidence) :
    (instinct.receive evidence).id = instinct.id := by
  unfold receive
  split <;> simp

end Instinct

/-- The arguments of `propose`. -/
structure Proposal where
  trigger : String
  action : String
  projectId : String
  evidence : InstinctEvidence

section Store

variable (lower : String → String) (sha256 : String → String)

def validateContent (trigger action : String) : Except LearningError Unit :=
  if strip trigger = "" ∨ strip action = "" then .error .contentRequired
  else if protectedPatterns.any (Python.contains (lower action)) then
    .error .contentProtected
  else .ok ()

/-- The text whose digest is the id of an instinct. -/
def identityText (projectId trigger action : String) : String :=
  projectId ++ "|" ++ lower (strip trigger) ++ "|" ++ lower (strip action)

def Proposal.instinctId (proposal : Proposal) : String :=
  sha256 (identityText lower proposal.projectId proposal.trigger
    proposal.action)

/-- The instinct that a proposal creates where there is none of its id. -/
def Proposal.fresh (proposal : Proposal) : Instinct where
  id := proposal.instinctId lower sha256
  trigger := strip proposal.trigger
  action := strip proposal.action
  scope := .project
  scopeId := proposal.projectId

namespace InstinctStore

def find (instincts : List Instinct) (instinctId : String) :
    Option Instinct :=
  Keyed.lookup Instinct.id instinctId instincts

/-- The instinct that the proposal is about and the saved instincts. -/
def propose (instincts : List Instinct) (proposal : Proposal) :
    Except LearningError (Instinct × List Instinct) := do
  validateContent lower proposal.trigger proposal.action
  let existing := (find instincts (proposal.instinctId lower sha256)).getD
    (proposal.fresh lower sha256)
  let updated := existing.receive proposal.evidence
  return (updated, Keyed.put Instinct.id updated instincts)

def addEvidence (instincts : List Instinct) (instinctId : String)
    (evidence : InstinctEvidence) :
    Except LearningError (Instinct × List Instinct) :=
  match find instincts instinctId with
  | none => .error (.unknownInstinct instinctId)
  | some instinct =>
      if instinct.repeats evidence then .ok (instinct, instincts)
      else
        let updated := instinct.record evidence
        .ok (updated, Keyed.put Instinct.id updated instincts)

def approve (instincts : List Instinct) (instinctId : String) :
    Except LearningError (Instinct × List Instinct) :=
  match find instincts instinctId with
  | none => .error (.unknownInstinct instinctId)
  | some instinct =>
      if instinct.evidence.any (·.isPositive) then
        let updated := { instinct with lifecycle := .approved }
        .ok (updated, Keyed.put Instinct.id updated instincts)
      else .error .noPositiveEvidence

def positiveProjects (instinct : Instinct) : List String :=
  ((instinct.evidence.filter (·.isPositive)).map (·.projectId)).dedup

def promoteGlobal (instincts : List Instinct) (instinctId : String) :
    Except LearningError (Instinct × List Instinct) :=
  match find instincts instinctId with
  | none => .error (.unknownInstinct instinctId)
  | some instinct =>
      if (positiveProjects instinct).length < 2 then .error .oneProject
      else if instinct.lifecycle ≠ .approved then .error .notApproved
      else
        let updated := { instinct with scope := .global, scopeId := "global" }
        .ok (updated, Keyed.put Instinct.id updated instincts)

/-- Whether an instinct was removed, and the saved instincts. -/
def remove (instincts : List Instinct) (instinctId : String) :
    Bool × List Instinct :=
  let remaining := Keyed.drop Instinct.id instinctId instincts
  if remaining.length = instincts.length then (false, instincts)
  else (true, remaining)

/-- `re.findall(r"[\w-]{4,}", text)`, for the letters that `\w` matches. -/
def longWords (isWord : Char → Bool) (text : String) : List String :=
  let runs := text.toList.splitOnP fun c => !(isWord c || c == '-')
  (runs.filter fun run => 4 ≤ run.length).map String.ofList

/-- Approved, and global or of the project. -/
def eligible (projectId : String) (instinct : Instinct) : Bool :=
  instinct.lifecycle = .approved &&
    (instinct.scope = .global ||
      instinct.scope = .project && instinct.scopeId = projectId)

/-- How many of the terms the trigger contains. -/
def score (terms : List String) (instinct : Instinct) : Nat :=
  terms.countP (Python.contains (lower instinct.trigger))

/-- `key=lambda row: (-row[0], -row[1], row[2].id)`. -/
def ranks (terms : List String) (a b : Instinct) : Bool :=
  if score lower terms a ≠ score lower terms b then
    score lower terms b < score lower terms a
  else if a.confidence ≠ b.confidence then b.confidence < a.confidence
  else a.id ≤ b.id

def shadowSelect (isWord : Char → Bool) (instincts : List Instinct)
    (task projectId : String) (limit : Int) : List Instinct :=
  let terms := (longWords isWord (lower task)).dedup
  let scored := (instincts.filter (eligible projectId)).mergeSort
    (ranks lower terms)
  sliceTo limit (scored.filter fun instinct => 0 < score lower terms instinct)

theorem mem_shadowSelect {isWord : Char → Bool} {instincts : List Instinct}
    {task projectId : String} {limit : Int} {instinct : Instinct}
    (h : instinct ∈ shadowSelect lower isWord instincts task projectId limit) :
    instinct ∈ instincts ∧ eligible projectId instinct = true := by
  have htaken : instinct ∈ ((instincts.filter (eligible projectId)).mergeSort
      (ranks lower (longWords isWord (lower task)).dedup)) := by
    simp only [shadowSelect, sliceTo] at h
    split at h <;> exact List.mem_of_mem_filter (List.mem_of_mem_take h)
  simpa using htaken

end InstinctStore

end Store

structure LearningTaskEvent where
  taskId : String
  status : String
  memoryHits : Int
  retryCount : Int

/-- What `ingest_evidence_record` reads of an `EvidenceRecord`. -/
structure LearningRecord where
  taskId : String
  humanFeedback : List String
  evaluationState : Option String
  retries : Int
  outcomeState : String

/-- What `ingest_business_decision` reads of a plan. -/
structure BusinessPlan where
  planId : String
  task : String
  metadata : Dict Json

def ingestTaskEvent (event : LearningTaskEvent)
    (trigger action projectId : String) : Proposal :=
  let kind :=
    if event.status = "completed" then
      if event.memoryHits ≠ 0 then "verified_outcome" else "observation"
    else if event.retryCount ≠ 0 then "retry" else "test_failed"
  ⟨trigger, action, projectId, ⟨kind, event.taskId, projectId, event.status⟩⟩

def ingestEvidenceRecord (record : LearningRecord)
    (trigger action projectId : String) : Proposal :=
  let corrections := ["reverted", "major_rewrite", "manual_fix", "pr_rejected"]
  let kind :=
    if record.humanFeedback.any corrections.contains then "user_correction"
    else if record.humanFeedback.contains "accepted" then "user_accepted"
    else if record.evaluationState = some "passed" then "test_passed"
    else if record.retries ≠ 0 then "retry"
    else "observation"
  ⟨trigger, action, projectId,
    ⟨kind, record.taskId, projectId, record.outcomeState⟩⟩

section Business

variable (str : Json → String)

/-- `str(meta.get(key) or default)`. -/
def metadataText (metadata : Dict Json) (key default : String) : String :=
  match metadata.get? key with
  | some value => if value.truthy then str value else default
  | none => default

def ingestBusinessDecision (plan : BusinessPlan)
    (projectId : String) : Proposal :=
  let decision := metadataText str plan.metadata "decision" "pending"
  let execution := metadataText str plan.metadata "execution" "pending"
  let (kind, outcome) :=
    if decision = "rejected" then ("user_correction", "rejected")
    else if execution = "completed" then ("verified_outcome", "completed")
    else if decision = "approved" then ("user_accepted", "approved")
    else ("observation", "pending")
  let trigger :=
    "business signal " ++ metadataText str plan.metadata "signal_id" "unknown"
  let action := orElse plan.task
    (metadataText str plan.metadata "action_kind" "review business option")
  ⟨trigger, action, projectId,
    ⟨kind, plan.planId ++ ":" ++ outcome, projectId, outcome⟩⟩

end Business

end Voly
