/-
Run records: one file that many threads and processes update, each with one load
and one atomic write.
-/
import Mathlib.Algebra.Order.Ring.Rat
import Voly.Python.Text
import Voly.Interaction.Steps

namespace Voly.Runtime

open Python Interaction

/-- The status of a run; `finish` also stores other names. -/
inductive RunStatus
  | running
  | completed
  | failed
  | stale
  | named (status : String)
deriving DecidableEq, Repr

def RunStatus.unsettled : RunStatus → Bool
  | .running | .stale => true
  | .completed | .failed | .named _ => false

def RunStatus.ends : RunStatus → Bool
  | .completed | .failed => true
  | .running | .stale | .named _ => false

/-- A `RunRecord`. -/
structure RunRecord where
  taskId : String
  parentTaskId : String := ""
  task : String := ""
  status : RunStatus := .running
  startedAt : Rat := 0
  heartbeatAt : Rat := 0
  totalRoles : Nat := 0
  doneRoles : Nat := 0
  currentRole : String := ""
  roles : List String := []
  error : String := ""
  planId : String := ""
  stepStatuses : List (Dict String) := []
  workflow : String := ""
  lap : Int := 0
  maxLaps : Int := 0
  activeRole : String := ""
  stopReason : String := ""
  latestVerdict : String := ""
  cancelRequested : Bool := false
  timeline : List (Dict String) := []
  workflowMetrics : Dict String := []
  graphNodes : List (Dict String) := []
  graphEdges : List (Dict String) := []
deriving DecidableEq, Repr

/-- The arguments of `workflow_update`. -/
structure WorkflowChange where
  workflow : Option String := none
  lap : Option Int := none
  maxLaps : Option Int := none
  activeRole : Option String := none
  latestVerdict : Option String := none
  stopReason : Option String := none
  transition : Option (Dict String) := none
  metrics : Option (Dict String) := none
deriving DecidableEq, Repr

inductive Update
  | graphUpdate (node : Option (Dict String)) (edges : Option (List (Dict String)))
  | heartbeat (currentRole : String) (doneRoles : Nat)
      (stepStatuses : Option (List (Dict String)))
  | workflowUpdate (change : WorkflowChange)
  | requestCancel
  | finish (status : RunStatus) (error : String)
      (stepStatuses : Option (List (Dict String)))
deriving DecidableEq, Repr

def nodeId (node : Dict String) : String :=
  (node.get? "id").getD ""

/-- A node replaces the one with its id, whose other keys it keeps. -/
def upsertNode (nodes : List (Dict String)) (item : Dict String) :
    List (Dict String) :=
  let id := nodeId item
  if id = "" then nodes
  else
    let byId : Dict (Dict String) :=
      nodes.foldl (fun d existing => d.set (nodeId existing) existing) []
    let merged := item.foldl (fun d entry => d.set entry.1 entry.2)
      ((byId.get? id).getD [])
    let order := nodes.map nodeId
    let order := if id ∈ order then order else order ++ [id]
    order.filterMap (byId.set id merged).get?

/-- The record that a call writes, from the one that it loaded. -/
def Update.apply (now : Rat) (rec : RunRecord) : Update → RunRecord
  | .graphUpdate node edges => { rec with
      heartbeatAt := now
      graphNodes := match node with
        | some item => upsertNode rec.graphNodes item
        | none => rec.graphNodes
      graphEdges := edges.getD rec.graphEdges }
  | .heartbeat currentRole doneRoles stepStatuses => { rec with
      heartbeatAt := now
      currentRole
      doneRoles
      stepStatuses := stepStatuses.getD rec.stepStatuses }
  | .workflowUpdate change => { rec with
      heartbeatAt := now
      workflow := change.workflow.getD rec.workflow
      lap := change.lap.getD rec.lap
      maxLaps := change.maxLaps.getD rec.maxLaps
      activeRole := change.activeRole.getD rec.activeRole
      currentRole := change.activeRole.getD rec.currentRole
      latestVerdict := change.latestVerdict.getD rec.latestVerdict
      stopReason := change.stopReason.getD rec.stopReason
      timeline := rec.timeline ++ change.transition.toList
      workflowMetrics := change.metrics.getD rec.workflowMetrics }
  | .requestCancel => { rec with
      heartbeatAt := now
      cancelRequested := true }
  | .finish status error stepStatuses => { rec with
      status
      heartbeatAt := now
      doneRoles :=
        if status = .completed then rec.totalRoles else rec.doneRoles
      currentRole := ""
      error := (error.take 500).toString
      stepStatuses := stepStatuses.getD rec.stepStatuses }

/-- `request_cancel` refuses a record that does not run a workflow. -/
def Update.refuses (rec : RunRecord) : Update → Bool
  | .requestCancel =>
      decide (rec.status ≠ .running) || decide (rec.workflow = "")
  | .graphUpdate .. | .heartbeat .. | .workflowUpdate _ | .finish .. => false

/-- Seconds since the last heartbeat. -/
def RunRecord.ageSeconds (rec : RunRecord) (now : Rat) : Rat :=
  if rec.heartbeatAt = 0 then 0 else max 0 (now - rec.heartbeatAt)

def isStale (staleAfter now : Rat) (rec : RunRecord) : Bool :=
  decide (rec.status = .running) && decide (staleAfter < rec.ageSeconds now)

/-- The watchdog's `finish`. -/
def reapUpdate : Update :=
  .finish .stale "watchdog: no heartbeat" none

/-- A thread or process between two of its accesses to the file. -/
inductive Caller
  | idle
  | marking
  | writing (update : Update) (loaded : RunRecord)
deriving DecidableEq, Repr

/-- One run's file, its callers, and what they were told. -/
structure Records where
  file : Option RunRecord
  caller : Nat → Caller := fun _ => .idle
  finished : Bool := false
  cancelled : Bool := false

/-- An access to the file; `ok` is false when the access fails, which every
method swallows. -/
inductive Access
  | load (update : Update) (ok : Bool)
  | scan (now : Rat) (ok : Bool)
  | reload (ok : Bool)
  | write (now : Rat) (ok : Bool)
deriving DecidableEq, Repr

def Update.ends : Update → Bool
  | .finish status _ _ => status.ends
  | .graphUpdate .. | .heartbeat .. | .workflowUpdate _ | .requestCancel =>
      false

def Update.statusFrom (loaded : RunRecord) : Update → RunStatus
  | .finish status _ _ => status
  | .graphUpdate .. | .heartbeat .. | .workflowUpdate _ | .requestCancel =>
      loaded.status

namespace Records

def set (s : Records) (id : Nat) (caller : Caller) : Records :=
  { s with caller := Function.update s.caller id caller }

/-- A call returns after its write. -/
def returned (s : Records) (id : Nat) (update : Update) : Records :=
  { s.set id .idle with
    finished := s.finished || update.ends
    cancelled := s.cancelled || decide (update = .requestCancel) }

def loaded (s : Records) (ok : Bool) : Option RunRecord :=
  if ok then s.file else none

/-- A call loads the record; without one it returns at once. -/
def begin (s : Records) (id : Nat) (update : Update) (ok : Bool) : Records :=
  match s.loaded ok with
  | none => { s.set id .idle with finished := s.finished || update.ends }
  | some rec =>
      if update.refuses rec then s.set id .idle
      else s.set id (.writing update rec)

/-- One access of one caller. -/
def step (staleAfter : Rat) (s : Records) (e : Nat × Access) :
    Option Records :=
  match s.caller e.1, e.2 with
  | .idle, .load update ok => some (s.begin e.1 update ok)
  | .idle, .scan now ok =>
      match s.loaded ok with
      | some rec =>
          some (if isStale staleAfter now rec then s.set e.1 .marking else s)
      | none => some s
  | .marking, .reload ok => some (s.begin e.1 reapUpdate ok)
  | .writing update rec, .write now ok =>
      some { s.returned e.1 update with
        file := if ok then some (update.apply now rec) else s.file }
  | _, _ => none

/-- A settled status stays, and an accepted cancel request until then. -/
structure Monotone (s : Records) : Prop where
  status : s.finished = true →
    ∃ rec ∈ s.file, rec.status.unsettled = false
  cancel : s.cancelled = true → s.finished = false →
    ∃ rec ∈ s.file, rec.cancelRequested = true

/-- A write goes on from an unsettled record over such a one, and drops no
cancel request unless it ends the run. -/
def UpToDate (update : Update) (loaded stored : RunRecord) : Prop :=
  ((update.statusFrom loaded).unsettled = true →
    stored.status.unsettled = true) ∧
  (stored.cancelRequested = true → loaded.cancelRequested = true ∨
    update = .requestCancel ∨ update.ends = true)

instance (update : Update) (loaded stored : RunRecord) :
    Decidable (UpToDate update loaded stored) :=
  inferInstanceAs (Decidable (_ ∧ _))

/-- The call that an access begins. -/
def begun (s : Records) (e : Nat × Access) : Option (Update × Bool) :=
  match s.caller e.1, e.2 with
  | .idle, .load update ok => some (update, ok)
  | _, _ => none

/-- The call that an access ends with a write. -/
def written (s : Records) (e : Nat × Access) :
    Option (Update × RunRecord × Bool) :=
  match s.caller e.1, e.2 with
  | .writing update rec, .write _ ok => some (update, rec, ok)
  | _, _ => none

/-- Ending the run finds its record, it is stored, and every write is up to
date. -/
def Timely (s : Records) (e : Nat × Access) : Prop :=
  (∀ c ∈ s.begun e, c.1.ends = true → (s.loaded c.2).isSome = true) ∧
    ∀ c ∈ s.written e,
      (c.2.2 = false → c.1.ends = false ∧ c.1 ≠ .requestCancel) ∧
        ∀ stored ∈ s.file, UpToDate c.1 c.2.1 stored

instance (s : Records) (e : Nat × Access) : Decidable (s.Timely e) :=
  inferInstanceAs (Decidable ((∀ c ∈ _, _) ∧ ∀ c ∈ _, _))

end Records

theorem apply_status (now : Rat) (rec : RunRecord) (update : Update) :
    (update.apply now rec).status = update.statusFrom rec := by
  cases update with
  | _ => rfl

theorem apply_cancelRequested (now : Rat) (rec : RunRecord) (update : Update) :
    (update.apply now rec).cancelRequested =
      (rec.cancelRequested || decide (update = .requestCancel)) := by
  cases update with
  | requestCancel => exact (Bool.or_true _).symm
  | _ => exact (Bool.or_false _).symm

theorem statusFrom_of_ends {update : Update} (h : update.ends = true)
    (rec : RunRecord) : (update.statusFrom rec).unsettled = false := by
  cases update with
  | finish status error steps =>
      cases status with
      | completed => rfl
      | failed => rfl
      | running => cases h
      | stale => cases h
      | named other => cases h
  | _ => cases h

namespace Records

variable {s : Records} {staleAfter : Rat} {id : Nat}

theorem Monotone.set (h : s.Monotone) (caller : Caller) :
    (s.set id caller).Monotone :=
  ⟨h.status, h.cancel⟩

theorem Monotone.begin (h : s.Monotone) (update : Update) {ok : Bool}
    (hfound : update.ends = true → (s.loaded ok).isSome = true) :
    (s.begin id update ok).Monotone := by
  unfold Records.begin
  cases hloaded : s.loaded ok with
  | none =>
      rw [hloaded] at hfound
      have hends : update.ends = false := by
        cases hupdate : update.ends with
        | true => exact absurd (hfound hupdate) Bool.false_ne_true
        | false => rfl
      dsimp only
      rw [hends, Bool.or_false]
      exact ⟨h.status, h.cancel⟩
  | some rec =>
      dsimp only
      split
      · exact h.set .idle
      · exact h.set (.writing update rec)

theorem Monotone.write (h : s.Monotone) (update : Update) (rec : RunRecord)
    (now : Rat) (hfresh : ∀ stored ∈ s.file, UpToDate update rec stored) :
    Monotone { s.returned id update with
      file := some (update.apply now rec) } := by
  constructor
  · intro hfinished
    refine ⟨_, rfl, ?_⟩
    rw [apply_status]
    rcases (Bool.or_eq_true _ _).mp hfinished with hbefore | hends
    · obtain ⟨stored, hmem, hsettled⟩ := h.status hbefore
      cases hstatus : (update.statusFrom rec).unsettled with
      | false => rfl
      | true =>
          have hunsettled := (hfresh stored hmem).1 hstatus
          rw [hsettled] at hunsettled
          cases hunsettled
    · exact statusFrom_of_ends hends rec
  · intro hcancelled hrunning
    refine ⟨_, rfl, ?_⟩
    rw [apply_cancelRequested]
    obtain ⟨hbefore, hends⟩ := (Bool.or_eq_false_iff).mp hrunning
    rcases (Bool.or_eq_true _ _).mp hcancelled with htold | hrequest
    · obtain ⟨stored, hmem, hcancel⟩ := h.cancel htold hbefore
      rcases (hfresh stored hmem).2 hcancel with hloaded | hrequest | hended
      · rw [hloaded, Bool.true_or]
      · rw [decide_eq_true hrequest, Bool.or_true]
      · rw [hends] at hended
        cases hended
    · rw [hrequest, Bool.or_true]

theorem Monotone.unwritten (h : s.Monotone) {update : Update}
    (hends : update.ends = false) (hcancel : update ≠ .requestCancel) :
    Monotone { s.returned id update with file := s.file } := by
  have hfinished : (s.returned id update).finished = s.finished := by
    rw [returned, hends, Bool.or_false]
  have hcancelled : (s.returned id update).cancelled = s.cancelled := by
    rw [returned, decide_eq_false hcancel, Bool.or_false]
  constructor
  · intro h'
    exact h.status (hfinished ▸ h')
  · intro h' h''
    exact h.cancel (hcancelled ▸ h') (hfinished ▸ h'')

theorem Monotone.step (h : s.Monotone) {e : Nat × Access} {s' : Records}
    (htimely : s.Timely e) (hstep : s.step staleAfter e = some s') :
    s'.Monotone := by
  obtain ⟨id, access⟩ := e
  obtain ⟨hbegun, hwritten⟩ := htimely
  unfold Records.step at hstep
  dsimp only at hstep
  split at hstep
  · rename_i update ok hcaller
    cases hstep
    exact h.begin update (hbegun (update, ok) (by rw [begun, hcaller]; rfl))
  · split at hstep
    · cases hstep
      split
      · exact h.set .marking
      · exact h
    · cases hstep
      exact h
  · cases hstep
    exact h.begin reapUpdate nofun
  · rename_i update rec now ok hcaller
    obtain ⟨hstored, hfresh⟩ :=
      hwritten (update, rec, ok) (by rw [written, hcaller]; rfl)
    cases ok with
    | true =>
        cases hstep
        exact h.write update rec now hfresh
    | false =>
        cases hstep
        exact h.unwritten (hstored rfl).1 (hstored rfl).2
  · cases hstep

end Records

/-- Where calls write up to date, settled records and cancel requests stay. -/
theorem run_record_monotone (staleAfter : Rat) (rec : RunRecord)
    (events : List (Nat × Access)) (s : Records)
    (htimely : Throughout (Records.step staleAfter) Records.Timely
      { file := some rec } events)
    (hrun : follow (Records.step staleAfter) { file := some rec } events =
      some s) : s.Monotone := by
  have hstart : Records.Monotone { file := some rec } := ⟨nofun, nofun⟩
  exact follow_invariant
    (fun _ _ _ h hok hstep => Records.Monotone.step h hok hstep)
    hstart htimely hrun

theorem not_monotone_of_unsettled {s : Records} {status : RunStatus}
    (hfinished : s.finished = true)
    (hstatus : s.file.map RunRecord.status = some status)
    (hunsettled : status.unsettled = true) : ¬ s.Monotone := by
  intro h
  obtain ⟨rec, hmem, hsettled⟩ := h.status hfinished
  rw [Option.mem_def.mp hmem, Option.map_some] at hstatus
  rw [Option.some.inj hstatus, hunsettled] at hsettled
  cases hsettled

namespace Runs

/-- The record of a workflow that has just started. -/
def record : RunRecord :=
  { taskId := "run-1", startedAt := 1, heartbeatAt := 1, totalRoles := 1
    workflow := "review-until-clean" }

def beat : Update :=
  .heartbeat "claude-code" 0 none

/-- A call of one thread that nothing comes between. -/
def call (id : Nat) (update : Update) : List (Nat × Access) :=
  [(id, .load update true), (id, .write 11 true)]

/-- A heartbeat, a cancel request and the end of the run, one after the
other. -/
def inTurn : List (Nat × Access) :=
  call 1 beat ++ call 2 .requestCancel ++ call 0 (.finish .completed "" none)

/-- The run ends between a heartbeat's load and its write. -/
def lateBeat : List (Nat × Access) :=
  (1, .load beat true) :: call 0 (.finish .completed "" none) ++
    [(1, .write 12 true)]

/-- The run ends between the watchdog's scan and its mark. -/
def lateMark : List (Nat × Access) :=
  (3, .scan 500 true) :: call 0 (.finish .completed "" none) ++
    [(3, .reload true), (3, .write 501 true)]

/-- A cancel request comes between a workflow update's load and its write. -/
def lateUpdate : List (Nat × Access) :=
  (0, .load (.workflowUpdate { lap := some 2 }) true) ::
    call 2 .requestCancel ++ [(0, .write 12 true)]

def after (events : List (Nat × Access)) : Records :=
  (follow (Records.step 240) { file := some record } events).getD
    { file := none }

theorem follow_after {events : List (Nat × Access)}
    (h : (follow (Records.step 240) { file := some record } events).isSome =
      true) :
    follow (Records.step 240) { file := some record } events =
      some (after events) := by
  obtain ⟨s, hs⟩ := Option.isSome_iff_exists.mp h
  rw [after, hs]
  rfl

theorem in_turn_monotone :
    (after inTurn).finished = true ∧ (after inTurn).cancelled = true ∧
      (after inTurn).Monotone :=
  ⟨rfl, rfl, run_record_monotone 240 record inTurn (after inTurn)
    (by decide +kernel) rfl⟩

theorem updates_lost :
    (∃ s, follow (Records.step 240) { file := some record } lateBeat = some s ∧
      s.finished = true ∧ s.file.map RunRecord.status = some .running ∧
      ¬ s.Monotone) ∧
    (∃ s, follow (Records.step 240) { file := some record } lateMark = some s ∧
      s.finished = true ∧ s.file.map RunRecord.status = some .stale ∧
      ¬ s.Monotone) ∧
    ∃ s, follow (Records.step 240) { file := some record } lateUpdate =
        some s ∧
      s.cancelled = true ∧ s.finished = false ∧
      s.file.map RunRecord.cancelRequested = some false ∧ ¬ s.Monotone := by
  have hbeat : (after lateBeat).file.map RunRecord.status = some .running := by
    decide +kernel
  have hmark : (after lateMark).file.map RunRecord.status = some .stale := by
    decide +kernel
  have hbeaten : (after lateBeat).finished = true := by decide +kernel
  have hmarked : (after lateMark).finished = true := by decide +kernel
  refine ⟨⟨after lateBeat, follow_after (by decide +kernel), hbeaten, hbeat,
      not_monotone_of_unsettled hbeaten hbeat rfl⟩,
    ⟨after lateMark, follow_after (by decide +kernel), hmarked, hmark,
      not_monotone_of_unsettled hmarked hmark rfl⟩,
    ⟨after lateUpdate, follow_after (by decide +kernel), rfl, rfl, rfl, ?_⟩⟩
  intro h
  obtain ⟨rec, hmem, hcancel⟩ := h.cancel rfl rfl
  cases hmem
  cases hcancel

end Runs

end Voly.Runtime
