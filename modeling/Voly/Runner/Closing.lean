/-
The record of a run: the calls of the agent runner up to its end, and what an
exception leaves behind.
-/
import Voly.Runner.Attempts
import Voly.Runner.Heartbeat

namespace Voly.Runner

open Voly.Runtime

/-- What the guards of the runner catch, and what they let through. -/
inductive Raised where
  | exception
  | interrupt
deriving DecidableEq, Repr

/-- The calls of `AgentRunner.run`; executors' calls by attempts. -/
inductive Call where
  | setupRtk | ensureCorrelationId | resolveExecutor | detectTaskType
  | analyzeRepo | firstExecutor
  | newTracker | trackerStart | startThread
  | selectPolicy | captureBaseline | planTask
  | gitBefore | fingerprintsBefore | dirBefore | gitSnapshot
  | enterPxpipe | runExecutor (n : Nat) | leavePxpipe | collectArtifacts
  | noteResult (n : Nat)
  | resolveDimension | buildChain | indexStart
  | buildExecutor (n : Nat) | isAvailable (n : Nat)
  | storeExample
  | gitAfter | fingerprintsAfter | dirAfter | buildReport
  | applySafety | noteSafety
  | evaluate
  | automationMetrics | totalCost | budgetStatus | classifyFailure
  | saveEvidence
  | finish | emitEvent | fireEvidence
deriving DecidableEq, Repr

/-- The calls that stand in a `try` with `except Exception`. -/
def Call.guarded : Call → Bool
  | .newTracker | .trackerStart | .startThread | .selectPolicy
  | .captureBaseline | .planTask | .storeExample | .evaluate | .saveEvidence
  | .finish | .fireEvidence => true
  | _ => false

/-- What the body of a `try` leaves: whether it ran to its end. -/
def guard (body : Except Raised Unit) : Except Raised Bool :=
  match body with
  | .ok _ => .ok true
  | .error .exception => .ok false
  | .error .interrupt => .error .interrupt

/-- All that decides a run, with the heartbeat's steps at the four points where
it meets the record. -/
structure RunInput where
  before : Option Runtime.RunRecord := none
  taskId : String
  parentTaskId : String := ""
  task : String
  executorName : String
  startedAt : Rat := 0
  finishedAt : Rat := 0
  telemetryEnabled : Bool := true
  evidenceEnabled : Bool := true
  evaluationEnabled : Bool := true
  dspyEnabled : Bool := false
  cwdGiven : Bool := true
  safetyEnabled : Bool := true
  emitEvent : Bool := true
  collectEvidence : Bool := true
  /-- `_dspy_plan_task` found a plan. -/
  planned : Bool := false
  attempt : Nat → String → ExecutorResult
  isAvailable : Nat → String → Option Bool := fun _ _ => none
  chain : List String := billingFallbackChain
  safetyError : Option String := none
  raises : Call → Option Raised
  startStores : Bool := true
  finishLoads : Bool := true
  finishWrites : Bool := true
  working : List Turn := []
  stopping : List Turn := []
  finishing : List Turn := []
  ending : List Turn := []

namespace RunInput

variable (input : RunInput)

/-- What a call raises; `chain.index` raises without the executor. -/
def raised : Call → Option Raised
  | .indexStart =>
      if input.executorName ∈ input.chain then none else some .exception
  | c => input.raises c

def call (c : Call) : Except Raised Unit :=
  match input.raised c with
  | none => .ok ()
  | some raised => .error raised

def callWhen (condition : Bool) (c : Call) : Except Raised Unit :=
  if condition then input.call c else .ok ()

/-- A guarded call, where it is made; whether it returned. -/
def tryWhen (condition : Bool) (c : Call) : Except Raised Bool :=
  if condition then guard (input.call c) else .ok false

/-- The calls before the record. -/
def prepare : Except Raised Unit := do
  input.call .setupRtk
  input.call .ensureCorrelationId
  input.call .resolveExecutor
  input.call .detectTaskType
  input.call .analyzeRepo
  input.call .firstExecutor

def startTracking : Except Raised Bool :=
  if input.telemetryEnabled then
    guard do
      input.call .newTracker
      input.call .trackerStart
      input.call .startThread
  else .ok false

/-- The rest of the chain, until an executor can run the task. -/
def fallbackLoop : List (String × Nat) → String × ExecutorResult →
    Except Raised (String × ExecutorResult)
  | [], current => .ok current
  | (name, n) :: rest, current => do
      input.call (.buildExecutor n)
      input.call (.isAvailable n)
      if input.isAvailable n name = some false then fallbackLoop rest current
      else
        input.call (.runExecutor n)
        input.call (.noteResult n)
        let result := input.attempt n name
        if result.falls then fallbackLoop rest (name, result)
        else .ok (name, result)

def firstResult : ExecutorResult := input.attempt 0 input.executorName

def shouldFallback : Bool :=
  input.firstResult.falls && decide (input.executorName ∈ billingFallbackChain)

def rest : List (String × Nat) :=
  (laterExecutors input.chain input.executorName).getD []

def fallBack : Except Raised (String × ExecutorResult) :=
  if input.shouldFallback then do
    input.call .resolveDimension
    input.call .buildChain
    input.call .indexStart
    input.fallbackLoop input.rest (input.executorName, input.firstResult)
  else .ok (input.executorName, input.firstResult)

/-- A hard safety violation fails the result. -/
def afterSafety (result : ExecutorResult) : ExecutorResult :=
  match input.safetyError with
  | some message => { result with success := false, error := message }
  | none => result

/-- The run between the start of the heartbeat and its end. -/
def work : Except Raised (String × ExecutorResult) := do
  let policy ← input.tryWhen
    (input.evidenceEnabled && input.evaluationEnabled) .selectPolicy
  let baseline ← input.tryWhen input.evidenceEnabled .captureBaseline
  let planned ← input.tryWhen input.dspyEnabled .planTask
  input.call .gitBefore
  input.callWhen input.cwdGiven .fingerprintsBefore
  input.callWhen input.cwdGiven .dirBefore
  input.callWhen (input.cwdGiven && input.safetyEnabled) .gitSnapshot
  input.call .enterPxpipe
  input.call (.runExecutor 0)
  input.call .leavePxpipe
  input.call .collectArtifacts
  input.call (.noteResult 0)
  let last ← input.fallBack
  let _ ← input.tryWhen
    (planned && input.planned && last.2.output != "") .storeExample
  input.call .gitAfter
  input.callWhen input.cwdGiven .fingerprintsAfter
  input.callWhen input.cwdGiven .dirAfter
  input.call .buildReport
  input.call .applySafety
  input.call .noteSafety
  let result := input.afterSafety last.2
  let _ ← input.tryWhen (policy && baseline) .evaluate
  input.call .automationMetrics
  input.call .totalCost
  input.callWhen result.success .budgetStatus
  input.call .classifyFailure
  let _ ← input.tryWhen baseline .saveEvidence
  return (last.1, result)

/-- The record that `tracker.start` writes. -/
def startRecord : Runtime.RunRecord where
  taskId := input.taskId
  parentTaskId := input.parentTaskId
  task := (input.task.take 500).toString
  startedAt := input.startedAt
  heartbeatAt := input.startedAt
  totalRoles := 1
  currentRole := input.executorName
  roles := [input.executorName]

/-- The record once the tracking has started, or was not started. -/
def opened : Option Runtime.RunRecord :=
  if input.telemetryEnabled ∧ input.raised .newTracker = none ∧
      input.startStores then some input.startRecord
  else input.before

/-- The record that `tracker.finish` writes. -/
def finished (result : ExecutorResult) (loaded : Runtime.RunRecord) :
    Runtime.RunRecord :=
  let status := if result.success then .completed else .failed
  let error := if result.success then "" else result.error
  (Update.finish status error none).apply input.finishedAt loaded

/-- `finish` and what the heartbeat's thread does about it. -/
def finish (result : ExecutorResult) (w : Tracked) : Tracked :=
  let found := if input.finishLoads then w.file else none
  let w := w.play input.finishing
  match found, input.raised .finish, input.finishWrites with
  | some loaded, none, true =>
      { w with file := some (input.finished result loaded) }
  | _, _, _ => w

/-- What a run returns once its record is done with. -/
def afterwards (last : String × ExecutorResult) :
    Except Raised (String × ExecutorResult) := do
  input.callWhen input.emitEvent .emitEvent
  let _ ← input.tryWhen input.collectEvidence .fireEvidence
  return last

/-- The heartbeat is stopped, the record finished, and the run returns. -/
def close (tracked : Bool) (last : String × ExecutorResult) (w : Tracked) :
    Except Raised (String × ExecutorResult) × Tracked :=
  let w := Tracked.play { w with stopped := true } input.stopping
  let w := if tracked then input.finish last.2 w else w
  let outcome := do
    let _ ← input.tryWhen tracked .finish
    input.afterwards last
  (outcome, w.play input.ending)

/-- `AgentRunner.run`: its end, and the record and the heartbeat then. -/
def agentRun : Except Raised (String × ExecutorResult) × Tracked :=
  match input.prepare with
  | .error raised => (.error raised, { file := input.before })
  | .ok _ =>
      match input.startTracking with
      | .error raised => (.error raised, { file := input.opened })
      | .ok tracked =>
          let heart := if tracked then some .waiting else none
          let w : Tracked := { file := input.opened, heart }
          let w := w.play input.working
          match input.work with
          | .error raised => (.error raised, w)
          | .ok last => input.close tracked last w

/-- The call returns, or it is guarded and raises an `Exception`. -/
def Contained (c : Call) : Prop :=
  ∀ raised ∈ input.raised c, c.guarded = true ∧ raised = .exception

def prepareCalls : List Call :=
  [.setupRtk, .ensureCorrelationId, .resolveExecutor, .detectTaskType,
    .analyzeRepo, .firstExecutor]

/-- Calls that are made on a condition. -/
def whenever (condition : Bool) (calls : List Call) : List Call :=
  if condition then calls else []

def loopCalls : List (String × Nat) → List Call
  | [] => []
  | (name, n) :: rest =>
      [.buildExecutor n] ++ ([.isAvailable n] ++
        if input.isAvailable n name = some false then loopCalls rest
        else [.runExecutor n] ++ ([.noteResult n] ++
          if (input.attempt n name).falls then loopCalls rest else []))

def loopResult : List (String × Nat) → String × ExecutorResult →
    String × ExecutorResult
  | [], current => current
  | (name, n) :: rest, current =>
      if input.isAvailable n name = some false then loopResult rest current
      else if (input.attempt n name).falls then
        loopResult rest (name, input.attempt n name)
      else (name, input.attempt n name)

def fallbackCalls : List Call :=
  whenever input.shouldFallback ([.resolveDimension] ++ ([.buildChain] ++
    ([.indexStart] ++ input.loopCalls input.rest)))

def lastResult : String × ExecutorResult :=
  if input.shouldFallback then
    input.loopResult input.rest (input.executorName, input.firstResult)
  else (input.executorName, input.firstResult)

def policyChosen : Bool :=
  input.evidenceEnabled && input.evaluationEnabled &&
    (input.raised .selectPolicy).isNone

def baselineTaken : Bool :=
  input.evidenceEnabled && (input.raised .captureBaseline).isNone

def taskPlanned : Bool :=
  input.dspyEnabled && (input.raised .planTask).isNone

/-- The calls between the heartbeat's start and end, as far as each is
contained. -/
def calls : List Call := List.flatten [
  whenever (input.evidenceEnabled && input.evaluationEnabled) [.selectPolicy],
  whenever input.evidenceEnabled [.captureBaseline],
  whenever input.dspyEnabled [.planTask],
  [.gitBefore],
  whenever input.cwdGiven [.fingerprintsBefore],
  whenever input.cwdGiven [.dirBefore],
  whenever (input.cwdGiven && input.safetyEnabled) [.gitSnapshot],
  [.enterPxpipe],
  [.runExecutor 0],
  [.leavePxpipe],
  [.collectArtifacts],
  [.noteResult 0],
  input.fallbackCalls,
  whenever (input.taskPlanned && input.planned &&
    input.lastResult.2.output != "") [.storeExample],
  [.gitAfter],
  whenever input.cwdGiven [.fingerprintsAfter],
  whenever input.cwdGiven [.dirAfter],
  [.buildReport],
  [.applySafety],
  [.noteSafety],
  whenever (input.policyChosen && input.baselineTaken) [.evaluate],
  [.automationMetrics],
  [.totalCost],
  whenever (input.afterSafety input.lastResult.2).success [.budgetStatus],
  [.classifyFailure],
  whenever input.baselineTaken [.saveEvidence]]

/-- No exception leaves the run between the start of the heartbeat and its
end. -/
def Unbroken : Prop := ∀ c ∈ input.calls, input.Contained c

/-- The computation returns `a`, unless one of the calls is not contained. -/
structure Returns {A : Type} (m : Except Raised A) (calls : List Call) (a : A) :
    Prop where
  value : (∀ c ∈ calls, input.Contained c) → m = .ok a
  contained : ∀ b, m = .ok b → ∀ c ∈ calls, input.Contained c

variable {input} {A B : Type}

theorem returns_ok (a : A) : input.Returns (.ok a) [] a :=
  ⟨fun _ => rfl, fun _ _ => List.forall_mem_nil _⟩

section

variable {m : Except Raised A} {f : A → Except Raised B} {a : A} {b : B}
  {c : Call}

theorem Returns.bind {calls more : List Call} (hm : input.Returns m calls a)
    (hf : input.Returns (f a) more b) :
    input.Returns (m >>= f) (calls ++ more) b := by
  constructor
  · intro hall
    rw [List.forall_mem_append] at hall
    rw [hm.value hall.1]
    exact hf.value hall.2
  · intro result hresult
    cases hfirst : m with
    | error raised =>
        rw [hfirst] at hresult
        cases hresult
    | ok first =>
        have hcalls := hm.contained first hfirst
        have hsame := hm.value hcalls
        rw [hsame] at hresult
        exact List.forall_mem_append.mpr
          ⟨hcalls, hf.contained result hresult⟩

theorem Returns.step {calls : List Call} {more : List (List Call)}
    (hm : input.Returns m calls a) (hf : input.Returns (f a) more.flatten b) :
    input.Returns (m >>= f) (calls :: more).flatten b :=
  hm.bind hf

theorem contained_of_none (h : input.raised c = none) :
    input.Contained c := by
  intro raised hraised
  rw [h] at hraised
  cases hraised

theorem returns_call (h : c.guarded = false) :
    input.Returns (input.call c) [c] () := by
  unfold call
  constructor
  · intro hall
    cases hraised : input.raised c with
    | none => rfl
    | some raised =>
        have hguarded := (hall c List.mem_cons_self raised hraised).1
        rw [h] at hguarded
        cases hguarded
  · intro b hb
    cases hraised : input.raised c with
    | none => exact List.forall_mem_singleton.mpr (contained_of_none hraised)
    | some raised =>
        rw [hraised] at hb
        cases hb

theorem returns_callWhen (condition : Bool) (h : c.guarded = false) :
    input.Returns (input.callWhen condition c) (whenever condition [c]) () := by
  cases condition with
  | true => exact returns_call h
  | false => exact returns_ok ()

theorem returns_tryWhen (condition : Bool) (h : c.guarded = true) :
    input.Returns (input.tryWhen condition c) (whenever condition [c])
      (condition && (input.raised c).isNone) := by
  cases condition with
  | false => exact returns_ok false
  | true =>
      change input.Returns (guard (input.call c)) [c] (input.raised c).isNone
      unfold call
      cases hraised : input.raised c with
      | none =>
          exact ⟨fun _ => rfl, fun _ _ =>
            List.forall_mem_singleton.mpr (contained_of_none hraised)⟩
      | some raised =>
          cases raised with
          | exception =>
              refine ⟨fun _ => rfl, fun _ _ =>
                List.forall_mem_singleton.mpr ?_⟩
              intro other hother
              rw [hraised] at hother
              cases hother
              exact ⟨h, rfl⟩
          | interrupt =>
              constructor
              · intro hall
                have hkind := (hall c List.mem_cons_self _ hraised).2
                cases hkind
              · intro b hb
                cases hb

end

theorem returns_fallbackLoop (rest : List (String × Nat))
    (current : String × ExecutorResult) :
    input.Returns (input.fallbackLoop rest current) (input.loopCalls rest)
      (input.loopResult rest current) := by
  induction rest generalizing current with
  | nil => exact returns_ok current
  | cons item rest ih =>
      obtain ⟨name, n⟩ := item
      unfold fallbackLoop loopCalls loopResult
      refine (returns_call rfl).bind ((returns_call rfl).bind ?_)
      split
      · exact ih current
      · refine (returns_call rfl).bind ((returns_call rfl).bind ?_)
        dsimp only
        split
        · exact ih _
        · exact returns_ok _

theorem returns_fallBack :
    input.Returns input.fallBack input.fallbackCalls input.lastResult := by
  unfold fallBack fallbackCalls lastResult whenever
  split
  · exact (returns_call rfl).bind ((returns_call rfl).bind
      ((returns_call rfl).bind (returns_fallbackLoop _ _)))
  · exact returns_ok _

theorem returns_work :
    input.Returns input.work input.calls
      (input.lastResult.1, input.afterSafety input.lastResult.2) := by
  unfold work calls
  refine Returns.step (returns_tryWhen _ rfl) ?_
  refine Returns.step (returns_tryWhen _ rfl) ?_
  refine Returns.step (returns_tryWhen _ rfl) ?_
  refine Returns.step (returns_call rfl) ?_
  refine Returns.step (returns_callWhen _ rfl) ?_
  refine Returns.step (returns_callWhen _ rfl) ?_
  refine Returns.step (returns_callWhen _ rfl) ?_
  refine Returns.step (returns_call rfl) ?_
  refine Returns.step (returns_call rfl) ?_
  refine Returns.step (returns_call rfl) ?_
  refine Returns.step (returns_call rfl) ?_
  refine Returns.step (returns_call rfl) ?_
  refine Returns.step returns_fallBack ?_
  refine Returns.step (returns_tryWhen _ rfl) ?_
  refine Returns.step (returns_call rfl) ?_
  refine Returns.step (returns_callWhen _ rfl) ?_
  refine Returns.step (returns_callWhen _ rfl) ?_
  refine Returns.step (returns_call rfl) ?_
  refine Returns.step (returns_call rfl) ?_
  refine Returns.step (returns_call rfl) ?_
  refine Returns.step (returns_tryWhen _ rfl) ?_
  refine Returns.step (returns_call rfl) ?_
  refine Returns.step (returns_call rfl) ?_
  refine Returns.step (returns_callWhen _ rfl) ?_
  refine Returns.step (returns_call rfl) ?_
  refine Returns.step (returns_tryWhen _ rfl) ?_
  exact returns_ok _

end RunInput

namespace RunInput

variable (input : RunInput)

def Prepared : Prop := ∀ c ∈ prepareCalls, input.raised c = none

instance : Decidable input.Prepared :=
  inferInstanceAs (Decidable (∀ c ∈ prepareCalls, _))

/-- The tracker and the heartbeat are there. -/
structure Beats : Prop where
  prepared : input.Prepared
  enabled : input.telemetryEnabled = true
  tracker : input.raised .newTracker = none
  started : input.raised .trackerStart = none
  thread : input.raised .startThread = none

/-- The file holds the record of a run that has not ended when the work
begins. -/
def Unsettled : Prop :=
  ∃ record ∈ if input.Prepared then input.opened else input.before,
    record.status.unsettled = true

/-- `finish` finds the record and stores it. -/
structure FinishStored : Prop where
  quiet : input.raised .finish = none
  loads : input.finishLoads = true
  writes : input.finishWrites = true

/-- Where the heartbeat's thread is when `finish` writes. -/
def phaseAtFinish : Phase :=
  (input.stopping ++ input.finishing).foldl (Phase.turn true)
    (input.working.foldl (Phase.turn false) .waiting)

/-- A heartbeat that loaded the record before `finish` writes it afterwards. -/
def Overtaken : Prop :=
  input.phaseAtFinish = .holding ∧ overwrites input.ending = true

variable {input}

theorem guard_ok_true {body : Except Raised Unit} :
    guard body = .ok true ↔ body = .ok () := by
  unfold guard
  split
  · exact ⟨fun _ => rfl, fun _ => rfl⟩
  · exact ⟨fun h => (nomatch h), fun h => (nomatch h)⟩
  · exact ⟨fun h => (nomatch h), fun h => (nomatch h)⟩

theorem call_ok {c : Call} : input.call c = .ok () ↔ input.raised c = none := by
  unfold call
  cases input.raised c with
  | none => exact ⟨fun _ => rfl, fun _ => rfl⟩
  | some raised => exact ⟨fun h => (nomatch h), fun h => (nomatch h)⟩

theorem call_bind_ok {A : Type} {c : Call} {next : Unit → Except Raised A}
    {a : A} : (input.call c >>= next) = .ok a ↔
      input.raised c = none ∧ next () = .ok a := by
  rw [← call_ok]
  cases hcall : input.call c with
  | ok u => exact ⟨fun h => ⟨rfl, h⟩, fun h => h.2⟩
  | error raised => exact ⟨fun h => (nomatch h), fun h => (nomatch h.1)⟩

theorem prepare_ok : input.prepare = .ok () ↔ input.Prepared := by
  simp only [prepare, call_bind_ok, call_ok, Prepared, prepareCalls,
    List.forall_mem_cons, List.not_mem_nil, false_imp_iff, implies_true,
    and_true]

theorem startTracking_true :
    input.startTracking = .ok true ↔ input.telemetryEnabled = true ∧
      input.raised .newTracker = none ∧ input.raised .trackerStart = none ∧
      input.raised .startThread = none := by
  unfold startTracking
  split
  · next henabled =>
      simp only [guard_ok_true, call_bind_ok, call_ok, henabled, true_and]
  · next henabled =>
      exact ⟨fun h => (nomatch h), fun h => (henabled h.1).elim⟩

theorem beats_iff :
    input.Beats ↔ input.Prepared ∧ input.startTracking = .ok true := by
  rw [startTracking_true]
  exact ⟨fun h => ⟨h.prepared, h.enabled, h.tracker, h.started, h.thread⟩,
    fun h => ⟨h.1, h.2.1, h.2.2.1, h.2.2.2.1, h.2.2.2.2⟩⟩

theorem work_ok_iff : (∃ last, input.work = .ok last) ↔ input.Unbroken :=
  ⟨fun ⟨last, hlast⟩ => returns_work.contained last hlast,
    fun h => ⟨_, returns_work.value h⟩⟩

theorem closed_iff_settled {w : Tracked} (h : w.heart = none) :
    w.Closed ↔ ¬ ∃ record ∈ w.file, record.status.unsettled = true := by
  constructor
  · rintro hclosed ⟨record, hrecord, hunsettled⟩
    rw [hclosed.settled record hrecord] at hunsettled
    cases hunsettled
  · intro hsettled
    refine ⟨fun record hrecord => ?_, fun hheart => ?_⟩
    · exact Bool.not_eq_true _ ▸ fun hunsettled =>
        hsettled ⟨record, hrecord, hunsettled⟩
    · rw [h] at hheart
      cases hheart

theorem finished_settled (result : ExecutorResult) (loaded : Runtime.RunRecord) :
    (input.finished result loaded).status.unsettled = false := by
  rw [finished, apply_status]
  cases result.success <;> rfl

theorem finish_stored (h : input.FinishStored) (result : ExecutorResult)
    {w : Tracked} {loaded : Runtime.RunRecord} (hfile : w.file = some loaded) :
    input.finish result w =
      { w.play input.finishing with
        file := some (input.finished result loaded) } := by
  unfold finish
  rw [h.loads, if_pos rfl, hfile, h.quiet, h.writes]

theorem finish_unstored (h : ¬ input.FinishStored) (result : ExecutorResult)
    (w : Tracked) : input.finish result w = w.play input.finishing := by
  unfold finish
  dsimp only
  split
  · next loaded hfound hquiet hwrites =>
      refine (h ⟨hquiet, ?_, hwrites⟩).elim
      cases hloads : input.finishLoads with
      | true => rfl
      | false =>
          rw [hloads] at hfound
          cases hfound
  · rfl

theorem finish_settled (result : ExecutorResult) {w : Tracked}
    (h : w.All fun status => status.unsettled = false) :
    (input.finish result w).All fun status => status.unsettled = false := by
  by_cases hstored : input.FinishStored
  · cases hfile : w.file with
    | some loaded =>
        rw [finish_stored hstored result hfile]
        refine ⟨fun record hrecord => ?_, (h.play input.finishing).held⟩
        cases hrecord
        exact finished_settled result loaded
    | none =>
        have hfinish : input.finish result w = w.play input.finishing := by
          unfold finish
          rw [hfile, ite_self]
        rw [hfinish]
        exact h.play _
  · rw [finish_unstored hstored]
    exact h.play _

theorem finish_stopped (result : ExecutorResult) (w : Tracked) :
    (input.finish result w).stopped = w.stopped := by
  unfold finish
  dsimp only
  split
  · exact Tracked.play_stopped w _
  · exact Tracked.play_stopped w _

theorem close_quiet (tracked : Bool) (last : String × ExecutorResult)
    (w : Tracked) : (input.close tracked last w).2.stopped = true := by
  unfold close
  rw [Tracked.play_stopped]
  cases tracked with
  | true => exact (finish_stopped _ _).trans (Tracked.play_stopped _ _)
  | false => exact Tracked.play_stopped _ _

theorem close_settled (last : String × ExecutorResult) {w : Tracked}
    (h : w.All fun status => status.unsettled = false) :
    (input.close true last w).2.Closed := by
  have hstop : Tracked.All (fun status => status.unsettled = false)
      { w with stopped := true } := ⟨h.file, h.held⟩
  have hfinish : (input.finish last.2 _).All _ :=
    finish_settled last.2 (hstop.play input.stopping)
  exact ⟨(hfinish.play input.ending).file, fun _ => close_quiet true last w⟩

theorem close_closed_iff (last : String × ExecutorResult) {w : Tracked}
    {status : RunStatus} (hstatus : status.unsettled = true)
    (h : w.All (· = status)) (hfile : w.file.isSome = true)
    (hheart : w.heart.map Heart.phase =
      some (input.working.foldl (Phase.turn false) .waiting)) :
    (input.close true last w).2.Closed ↔
      input.FinishStored ∧ ¬ input.Overtaken := by
  have hstop : Tracked.All (· = status) { w with stopped := true } :=
    ⟨h.file, h.held⟩
  have hall := hstop.play input.stopping
  have hsome := Tracked.play_file (w := { w with stopped := true }) hfile
    input.stopping
  obtain ⟨loaded, hloaded⟩ := Option.isSome_iff_exists.mp hsome
  have hphase : ((Tracked.play { w with stopped := true } input.stopping).play
      input.finishing).heart.map Heart.phase = some input.phaseAtFinish := by
    have hplay := Tracked.play_phase (w := { w with stopped := true }) hfile
      (input.stopping ++ input.finishing)
    rw [Tracked.play, List.foldl_append] at hplay
    refine hplay.trans ?_
    rw [← Function.comp_def (List.foldl _ · _) Heart.phase, ← Option.map_map,
      hheart]
    rfl
  by_cases hstored : input.FinishStored
  · obtain ⟨heart, hsomewhere, hwhere⟩ := Option.map_eq_some_iff.mp hphase
    have hend : (input.close true last w).2 = Tracked.play _ input.ending :=
      congrArg (Tracked.play · input.ending)
        (finish_stored hstored last.2 hloaded)
    have hquiet : (input.close true last w).2.stopped = true :=
      close_quiet true last w
    by_cases hheld : input.phaseAtFinish = .holding
    · rw [← hwhere] at hheld
      obtain ⟨role, held, rfl⟩ : ∃ role held, heart = .holding role held := by
        cases heart with
        | waiting => cases hheld
        | awake => cases hheld
        | holding role held => exact ⟨role, held, rfl⟩
      have hsame := (hall.play input.finishing).held role held hsomewhere
      have hwrite := Tracked.play_holding (w := { Tracked.play _ _ with
        file := some (input.finished last.2 loaded) }) hsomewhere
        ((Tracked.play_stopped _ _).trans (Tracked.play_stopped _ _))
        input.ending
      rw [← hend] at hwrite
      split at hwrite
      · next hover =>
          obtain ⟨record, hrecord, hstored'⟩ := Option.map_eq_some_iff.mp hwrite
          constructor
          · intro hclosed
            have hsettled := hclosed.settled record hrecord
            rw [hstored', hsame, hstatus] at hsettled
            cases hsettled
          · rintro ⟨_, hfree⟩
            exact (hfree ⟨hwhere ▸ rfl, hover⟩).elim
      · next hover =>
          refine ⟨fun _ => ⟨hstored, fun hright => hover hright.2⟩, fun _ => ?_⟩
          refine ⟨fun record hrecord => ?_, fun _ => hquiet⟩
          rw [hwrite] at hrecord
          cases hrecord
          exact finished_settled _ _
    · refine ⟨fun _ => ⟨hstored, fun hright => hheld hright.1⟩, fun _ => ?_⟩
      refine ⟨?_, fun _ => hquiet⟩
      rw [hend]
      refine (Tracked.All.play (p := fun status => status.unsettled = false)
        ⟨?_, ?_⟩ input.ending).file
      · intro record hrecord
        cases hrecord
        exact finished_settled _ _
      · intro role held hholds
        have hsome' : some heart = some (Heart.holding role held) :=
          hsomewhere.symm.trans hholds
        cases hsome'
        exact (hheld hwhere.symm).elim
  · have hend : (input.close true last w).2 = Tracked.play _ input.ending :=
      congrArg (Tracked.play · input.ending)
        (finish_unstored hstored last.2 _)
    have hkept := (hall.play input.finishing).play input.ending
    have hthere := Tracked.play_file (Tracked.play_file hsome input.finishing)
      input.ending
    obtain ⟨record, hrecord⟩ := Option.isSome_iff_exists.mp hthere
    constructor
    · intro hclosed
      rw [hend] at hclosed
      have hsettled := hclosed.settled record hrecord
      rw [hkept.file record hrecord, hstatus] at hsettled
      cases hsettled
    · exact fun hright => (hstored hright.1).elim

theorem agentRun_unbeaten (h : ¬ input.Beats) :
    input.agentRun.2.heart = none ∧ input.agentRun.2.file =
      if input.Prepared then input.opened else input.before := by
  unfold agentRun
  cases hprepare : input.prepare with
  | error raised =>
      have hnot : ¬ input.Prepared := fun hprepared => by
        rw [prepare_ok.mpr hprepared] at hprepare
        cases hprepare
      rw [if_neg hnot]
      exact ⟨rfl, rfl⟩
  | ok u =>
      rw [if_pos (prepare_ok.mp hprepare)]
      cases htracking : input.startTracking with
      | error raised => exact ⟨rfl, rfl⟩
      | ok tracked =>
          cases tracked with
          | true =>
              exact (h (beats_iff.mpr
                ⟨prepare_ok.mp hprepare, htracking⟩)).elim
          | false =>
              have hsame : Tracked.play { file := input.opened }
                  input.working = { file := input.opened } :=
                Tracked.play_none rfl _
              dsimp only
              rw [if_neg Bool.false_ne_true, hsame]
              cases input.work with
              | error raised => exact ⟨rfl, rfl⟩
              | ok last =>
                  have hstopped : (input.close false last
                      { file := input.opened }).2 =
                      { file := input.opened, stopped := true } := by
                    have hstill (turns : List Turn) : Tracked.play
                        { file := input.opened, stopped := true } turns =
                        { file := input.opened, stopped := true } :=
                      Tracked.play_none rfl turns
                    unfold close
                    dsimp only
                    rw [if_neg Bool.false_ne_true, hstill, hstill]
                  dsimp only
                  rw [hstopped]
                  exact ⟨rfl, rfl⟩

/-- The record and the heartbeat when the work has ended. -/
def worked (input : RunInput) : Tracked :=
  Tracked.play { file := input.opened, heart := some .waiting } input.working

theorem agentRun_beating (h : input.Beats) :
    input.agentRun = match input.work with
      | .error raised => (.error raised, input.worked)
      | .ok last => input.close true last input.worked := by
  obtain ⟨hprepared, htracking⟩ := beats_iff.mp h
  unfold agentRun
  rw [prepare_ok.mpr hprepared, htracking]
  rfl

theorem not_closed_of_beating {w : Tracked} (hheart : w.heart.isSome = true)
    (hstopped : w.stopped = false) : ¬ w.Closed := by
  intro hclosed
  have hstop := hclosed.quiet hheart
  rw [hstopped] at hstop
  cases hstop

/-- The record is closed iff no heartbeat met an exception, and an open record
got to its end, was stored, and stayed. -/
theorem record_closed_iff (input : RunInput) :
    input.agentRun.2.Closed ↔
      (input.Beats → input.Unbroken) ∧
      (input.Unsettled → input.Beats ∧ input.Unbroken ∧ input.FinishStored ∧
        ¬ input.Overtaken) := by
  by_cases hbeats : input.Beats
  · rw [agentRun_beating hbeats]
    by_cases hunbroken : input.Unbroken
    · obtain ⟨last, hlast⟩ := work_ok_iff.mpr hunbroken
      rw [hlast]
      dsimp only
      rw [Unsettled, if_pos hbeats.prepared]
      by_cases hopen : ∃ record ∈ input.opened, record.status.unsettled = true
      · obtain ⟨record, hrecord, hunsettled⟩ := hopen
        have hfile : input.opened.isSome = true := by
          rw [Option.mem_def.mp hrecord]
          rfl
        have hbegin : Tracked.All (· = record.status)
            { file := input.opened, heart := some .waiting } := by
          refine ⟨fun other hother => ?_, fun role loaded hheld => ?_⟩
          · rw [Option.mem_unique hother hrecord]
          · cases hheld
        have hend := close_closed_iff last hunsettled
          (hbegin.play input.working) (Tracked.play_file hfile input.working)
          (Tracked.play_phase hfile input.working)
        refine hend.trans ⟨fun hright => ?_, fun hright => ?_⟩
        · exact ⟨fun _ => hunbroken, fun _ => ⟨hbeats, hunbroken, hright⟩⟩
        · exact (hright.2 ⟨record, hrecord, hunsettled⟩).2.2
      · have hbegin : Tracked.All (fun status => status.unsettled = false)
            { file := input.opened, heart := some .waiting } := by
          refine ⟨fun record hrecord => ?_, fun role loaded hheld => ?_⟩
          · exact Bool.eq_false_of_not_eq_true fun hunsettled =>
              hopen ⟨record, hrecord, hunsettled⟩
          · cases hheld
        have hclosed : (input.close true last input.worked).2.Closed :=
          close_settled last (hbegin.play input.working)
        exact ⟨fun _ => ⟨fun _ => hunbroken, fun h => (hopen h).elim⟩,
          fun _ => hclosed⟩
    · cases hwork : input.work with
      | ok last => exact (hunbroken (work_ok_iff.mp ⟨last, hwork⟩)).elim
      | error raised =>
          have hgoing : ¬ input.worked.Closed := not_closed_of_beating
            ((Tracked.play_heart _ _).trans rfl)
            ((Tracked.play_stopped _ _).trans rfl)
          exact ⟨fun hclosed => (hgoing hclosed).elim,
            fun hright => (hunbroken (hright.1 hbeats)).elim⟩
  · obtain ⟨hheart, hfile⟩ := agentRun_unbeaten hbeats
    rw [closed_iff_settled hheart, hfile]
    exact ⟨fun hsettled => ⟨fun h => (hbeats h).elim, fun h =>
      (hsettled h).elim⟩, fun h hopen => hbeats (h.2 hopen).1⟩

end RunInput

namespace RunInputWitness

def raising : RunInput where
  taskId := "t1"
  task := "fix the login"
  executorName := "cursor"
  attempt := fun _ _ => { success := true }
  raises := fun c => if c = .runExecutor 0 then some .exception else none

/-- The run raises, its record says running, and its heartbeat goes on. -/
theorem raising_not_closed :
    raising.agentRun.1 = .error .exception ∧
      raising.agentRun.2.file.map Runtime.RunRecord.status = some .running ∧
      raising.agentRun.2.heart.isSome = true ∧
      raising.agentRun.2.stopped = false ∧ ¬ raising.agentRun.2.Closed := by
  have hheart : raising.agentRun.2.heart.isSome = true := by decide +kernel
  have hstopped : raising.agentRun.2.stopped = false := by decide +kernel
  refine ⟨?_, by decide +kernel, hheart, hstopped,
    RunInput.not_closed_of_beating hheart hstopped⟩
  rfl

end RunInputWitness

end Voly.Runner
