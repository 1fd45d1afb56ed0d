/-
The event stream of a plan execution: a loop that polls the store while another
thread runs the plan.
-/
import Voly.Plan.Runner
import Voly.Telemetry.Cost
import Mathlib.Data.List.Destutter

namespace Voly.Stream

open Python Telemetry

/-- `_STATUS_EVENT`. -/
def statusEvent : StepStatus → String
  | .pending => "queued"
  | .running | .done => "running"
  | .verifying => "verifying"
  | .verified | .skipped => "completed"
  | .failed => "failed"

inductive StreamEvent where
  | start (planId : String)
  | node (planId nodeId : String) (status : StepStatus) (event role : String)
      (costUsd durationMs : Rat)
  | done (planId : String) (success : Bool) (status : PlanStatus)
      (costUsd durationMs : Rat) (error : String)
  | error (message : String)

/-- A run in its own thread: the store at each save, with one list of ids, and
its end. -/
structure Execution where
  planId : String
  before : Option Plan
  saves : List Plan
  outcome : Except String PlanRunResult
  ids : List String
  nodup : ids.Nodup
  sameIds : ∀ plan ∈ before.toList ++ saves, plan.ids = ids

/-- How much the run has done at each load and each look. -/
structure Schedule (saves : Nat) where
  load : Nat → Nat
  check : Nat → Nat
  load_le : ∀ k, load k ≤ check k
  check_le : ∀ k, check k ≤ load (k + 1)
  ends : ∃ k, saves < check k

section

variable (exec : Execution) (schedule : Schedule exec.saves.length)

/-- What the store returns after a number of saves. -/
def Execution.stored (n : Nat) : Option Plan :=
  (exec.before.toList ++ exec.saves.take n).getLast?

/-- The events for the steps whose status is another than the last one. -/
def observe (planId : String) : Dict StepStatus → List PlanStep →
    List StreamEvent × Dict StepStatus
  | last, [] => ([], last)
  | last, step :: rest =>
      if last.get? step.id = some step.status then observe planId last rest
      else
        let rest := observe planId (last.set step.id step.status) rest
        (.node planId step.id step.status (statusEvent step.status) step.role
          step.costUsd step.durationMs :: rest.1, rest.2)

def poll (last : Dict StepStatus) (k : Nat) :
    List StreamEvent × Dict StepStatus :=
  match exec.stored (schedule.load k) with
  | some plan => observe exec.planId last plan.steps
  | none => ([], last)

/-- `future.result()` and what is sent of it; an exception leaves the
generator. -/
def Execution.closing : List StreamEvent :=
  match exec.outcome with
  | .ok result =>
      [.done exec.planId result.success result.plan.status
        (roundTo 6 (result.plan.steps.map PlanStep.costUsd).sum)
        result.durationMs result.error]
  | .error _ => []

/-- The loop, with the number of polls that it may take. -/
def pollLoop : Nat → Nat → Dict StepStatus → List StreamEvent
  | 0, _, _ => []
  | fuel + 1, k, last =>
      let polled := poll exec schedule last k
      polled.1 ++
        if exec.saves.length < schedule.check k then exec.closing
        else pollLoop fuel (k + 1) polled.2

/-- The poll that finds the run ended. -/
def Schedule.last {saves : Nat} (schedule : Schedule saves) : Nat :=
  Nat.find schedule.ends

def stream : List StreamEvent :=
  .start exec.planId :: pollLoop exec schedule (schedule.last + 1) 0 []

def StreamEvent.isStart : StreamEvent → Bool
  | .start _ => true
  | _ => false

def StreamEvent.isEnd : StreamEvent → Bool
  | .done .. | .error _ => true
  | _ => false

/-- The end that goes with an outcome. -/
def StreamEvent.Closes (outcome : Except String PlanRunResult) :
    StreamEvent → Prop
  | .done .. => ∃ result, outcome = .ok result
  | .error _ => ∃ message, outcome = .error message
  | _ => False

def StreamEvent.statusOf? (stepId : String) : StreamEvent → Option StepStatus
  | .node _ nodeId status .. => if nodeId = stepId then some status else none
  | _ => none

def lastSent (stepId : String) (events : List StreamEvent) :
    Option StepStatus :=
  (events.filterMap (StreamEvent.statusOf? stepId)).getLast?

/-- One start, one end, and for each step the status of the final plan. -/
structure Complete (events : List StreamEvent) : Prop where
  starts : ∃ rest, events = .start exec.planId :: rest ∧
    ∀ event ∈ rest, event.isStart = false
  ends : ∃ front closing, events = front ++ [closing] ∧
    closing.Closes exec.outcome ∧ ∀ event ∈ front, event.isEnd = false
  nodes : ∀ plan ∈ exec.stored exec.saves.length, ∀ step ∈ plan.steps,
    lastSent step.id events = some step.status

/-- The status of a step in what the store returns. -/
def Execution.shown (n : Nat) (stepId : String) : Option StepStatus :=
  (exec.stored n).bind fun plan => plan.statusOf stepId

variable {exec schedule} {stepId : String}

theorem lastSent_append (first second : List StreamEvent) :
    lastSent stepId (first ++ second) =
      (lastSent stepId second).or (lastSent stepId first) := by
  rw [lastSent, List.filterMap_append, List.getLast?_append]
  rfl

theorem observe_spec {planId : String} {steps : List PlanStep}
    (hnodup : (steps.map PlanStep.id).Nodup) (last : Dict StepStatus)
    (stepId : String) :
    (lastSent stepId (observe planId last steps).1).or (last.get? stepId) =
        (observe planId last steps).2.get? stepId ∧
      (observe planId last steps).2.get? stepId =
        ((steps.find? fun step => step.id = stepId).map PlanStep.status).or
          (last.get? stepId) ∧
      ∀ event ∈ (observe planId last steps).1,
        event.isStart = false ∧ event.isEnd = false := by
  induction steps generalizing last with
  | nil => exact ⟨rfl, rfl, List.forall_mem_nil _⟩
  | cons step rest ih =>
      obtain ⟨hfresh, hrest⟩ := List.nodup_cons.mp hnodup
      have hnone (hid : step.id = stepId) :
          (rest.find? fun step => step.id = stepId) = none := by
        rw [List.find?_eq_none]
        intro other hmem heq
        exact hfresh (List.mem_map.mpr
          ⟨other, hmem, (of_decide_eq_true heq).trans hid.symm⟩)
      rw [observe]
      split
      · next hsame =>
          obtain ⟨hsent, hnow, hnodes⟩ := ih hrest last
          refine ⟨hsent, hnow.trans ?_, hnodes⟩
          by_cases hid : step.id = stepId
          · rw [hnone hid, List.find?_cons_of_pos (by simpa using hid), ← hid,
              hsame]
            rfl
          · rw [List.find?_cons_of_neg (by simpa using hid)]
      · have hone (more : List StreamEvent) : lastSent stepId
            (.node planId step.id step.status (statusEvent step.status)
              step.role step.costUsd step.durationMs :: more) =
            (lastSent stepId more).or
              (if step.id = stepId then some step.status else none) := by
          refine (lastSent_append [_] more).trans (congrArg _ ?_)
          by_cases hid : step.id = stepId <;>
            simp [lastSent, StreamEvent.statusOf?, hid]
        obtain ⟨hsent, hnow, hnodes⟩ := ih hrest (last.set step.id step.status)
        rw [Dict.get?_set] at hsent hnow
        dsimp only
        rw [hone, Option.or_assoc]
        refine ⟨?_, ?_, List.forall_mem_cons.mpr ⟨⟨rfl, rfl⟩, hnodes⟩⟩
        · by_cases hid : step.id = stepId
          · simpa [hid] using hsent
          · simpa [hid] using hsent
        · rw [hnow]
          by_cases hid : step.id = stepId
          · simp [hnone hid, hid]
          · simp [hid]

/-- What the statuses that were sent last are before a load. -/
structure Behind (n : Nat) (last : Dict StepStatus) : Prop where
  known : ∀ stepId ∉ exec.ids, last.get? stepId = none
  empty : exec.stored n = none → ∀ stepId, last.get? stepId = none

theorem stored_none {n m : Nat} (hle : n ≤ m) (h : exec.stored m = none) :
    exec.stored n = none := by
  simp only [Execution.stored, List.getLast?_eq_none_iff,
    List.append_eq_nil_iff] at h ⊢
  exact ⟨h.1, List.prefix_nil.mp (h.2 ▸ List.take_prefix_take_left hle)⟩

theorem ids_of_stored {n : Nat} {plan : Plan} (h : exec.stored n = some plan) :
    plan.ids = exec.ids := by
  rcases List.mem_append.mp (List.mem_of_getLast? h) with hmem | hmem
  · exact exec.sameIds plan (List.mem_append_left _ hmem)
  · exact exec.sameIds plan
      (List.mem_append_right _ (List.mem_of_mem_take hmem))

theorem shown_unknown (n : Nat) (h : stepId ∉ exec.ids) :
    exec.shown n stepId = none := by
  unfold Execution.shown
  cases hstored : exec.stored n with
  | none => rfl
  | some plan =>
      rw [← ids_of_stored hstored] at h
      refine Option.map_eq_none_iff.mpr (List.find?_eq_none.mpr ?_)
      intro step hmem hid
      exact h (List.mem_map.mpr ⟨step, hmem, of_decide_eq_true hid⟩)

theorem poll_spec {last : Dict StepStatus} {k : Nat}
    (h : @Behind exec (schedule.load k) last) (stepId : String) :
    (lastSent stepId (poll exec schedule last k).1).or (last.get? stepId) =
        exec.shown (schedule.load k) stepId ∧
      (poll exec schedule last k).2.get? stepId =
        exec.shown (schedule.load k) stepId ∧
      ∀ event ∈ (poll exec schedule last k).1,
        event.isStart = false ∧ event.isEnd = false := by
  unfold poll Execution.shown
  cases hstored : exec.stored (schedule.load k) with
  | none =>
      refine ⟨?_, h.empty hstored stepId, List.forall_mem_nil _⟩
      rw [h.empty hstored stepId]
      rfl
  | some plan =>
      have hids := ids_of_stored hstored
      obtain ⟨hsent, hnow, hnodes⟩ := @observe_spec exec.planId plan.steps
        (by have := exec.nodup; rwa [← hids] at this) last stepId
      have hshown : (observe exec.planId last plan.steps).2.get? stepId =
          plan.statusOf stepId := by
        rw [hnow]
        by_cases hmem : stepId ∈ exec.ids
        · rw [← hids] at hmem
          obtain ⟨step, hstep⟩ := plan.exists_getStep? hmem
          rw [Plan.statusOf, hstep]
          rw [Plan.getStep?] at hstep
          rw [hstep]
          rfl
        · rw [h.known stepId hmem, Option.or_none]
          rfl
      exact ⟨hsent.trans hshown, hshown, hnodes⟩

/-- Until the run is found ended, the status sent last for a step is the one
shown. -/
theorem pollLoop_spec {fuel k : Nat} {last : Dict StepStatus}
    (hfuel : schedule.last + 1 = k + fuel)
    (h : @Behind exec (schedule.load k) last) (hk : k ≤ schedule.last) :
    ∃ nodes, pollLoop exec schedule fuel k last = nodes ++ exec.closing ∧
      (∀ event ∈ nodes, event.isStart = false ∧ event.isEnd = false) ∧
      ∀ stepId, (lastSent stepId nodes).or (last.get? stepId) =
        exec.shown (schedule.load schedule.last) stepId := by
  induction fuel generalizing k last with
  | zero => omega
  | succ fuel ih =>
      rw [pollLoop]
      have hspec := fun stepId => poll_spec h stepId
      have hnodes := (hspec "").2.2
      split
      · next hended =>
          have hlast : schedule.last = k :=
            le_antisymm (Nat.find_min' schedule.ends hended) hk
          refine ⟨_, rfl, hnodes, fun stepId => ?_⟩
          rw [hlast]
          exact (hspec stepId).1
      · next hrunning =>
          have hne : k ≠ schedule.last := by
            rintro rfl
            exact hrunning (Nat.find_spec schedule.ends)
          have hbehind : @Behind exec (schedule.load (k + 1))
              (poll exec schedule last k).2 := by
            refine ⟨fun stepId hmem => ?_, fun hnone stepId => ?_⟩
            · rw [(hspec stepId).2.1]
              exact shown_unknown _ hmem
            · have hbefore := stored_none
                ((schedule.load_le k).trans (schedule.check_le k)) hnone
              rw [(hspec stepId).2.1, Execution.shown, hbefore]
              rfl
          obtain ⟨more, hmore, hmores, hshown⟩ :=
            ih (by omega) hbehind (by omega)
          refine ⟨(poll exec schedule last k).1 ++ more, ?_, ?_,
            fun stepId => ?_⟩
          · rw [hmore, List.append_assoc]
          · exact List.forall_mem_append.mpr ⟨hnodes, hmores⟩
          · rw [lastSent_append, Option.or_assoc, (hspec stepId).1,
              ← (hspec stepId).2.1]
            exact hshown stepId

theorem lastSent_closing : lastSent stepId exec.closing = none := by
  unfold Execution.closing
  split <;> rfl

/-- The events of a stream between its start and its end. -/
theorem stream_spec : ∃ nodes,
    stream exec schedule = .start exec.planId :: (nodes ++ exec.closing) ∧
      (∀ event ∈ nodes, event.isStart = false ∧ event.isEnd = false) ∧
      ∀ stepId, lastSent stepId (stream exec schedule) =
        exec.shown (schedule.load schedule.last) stepId := by
  have hstart : @Behind exec (schedule.load 0) [] :=
    ⟨fun _ _ => rfl, fun _ _ => rfl⟩
  obtain ⟨nodes, hnodes, hplain, hshown⟩ :=
    @pollLoop_spec exec schedule (schedule.last + 1) 0 [] (by omega) hstart
      (Nat.zero_le _)
  have hstream : stream exec schedule =
      [.start exec.planId] ++ (nodes ++ exec.closing) :=
    congrArg (List.cons _) hnodes
  refine ⟨nodes, hstream, hplain, fun stepId => ?_⟩
  rw [hstream, lastSent_append, lastSent_append, lastSent_closing]
  exact hshown stepId

theorem observe_sends {planId : String} {steps : List PlanStep}
    (hnodup : (steps.map PlanStep.id).Nodup) (last : Dict StepStatus)
    {now : Option StepStatus} (hnow : (steps.find? fun step =>
      step.id = stepId).map PlanStep.status = now) :
    (observe planId last steps).1.filterMap (StreamEvent.statusOf? stepId) =
      if last.get? stepId = now then [] else now.toList := by
  induction steps generalizing last now with
  | nil =>
      subst hnow
      exact (ite_self _).symm
  | cons step rest ih =>
      obtain ⟨hfresh, hrest⟩ := List.nodup_cons.mp hnodup
      subst hnow
      rw [observe]
      by_cases hid : step.id = stepId
      · subst hid
        have hnone : (rest.find? fun other => other.id = step.id) = none := by
          rw [List.find?_eq_none]
          intro other hmem heq
          exact hfresh (List.mem_map.mpr ⟨other, hmem, of_decide_eq_true heq⟩)
        have hquiet : ∀ last, (observe planId last rest).1.filterMap
            (StreamEvent.statusOf? step.id) = [] := by
          intro last
          rw [ih hrest last rfl, hnone]
          exact ite_self _
        rw [List.find?_cons_of_pos (by simp), Option.map_some]
        split
        · exact hquiet last
        · simp [StreamEvent.statusOf?, hquiet]
      · rw [List.find?_cons_of_neg (by simpa using hid)]
        split
        · exact ih hrest last rfl
        · rw [List.filterMap_cons_none (by simp [StreamEvent.statusOf?, hid]),
            ih hrest _ rfl, Dict.get?_set, if_neg hid]

theorem poll_sends (last : Dict StepStatus) (k : Nat) :
    (poll exec schedule last k).1.filterMap (StreamEvent.statusOf? stepId) =
        (if last.get? stepId = exec.shown (schedule.load k) stepId then []
        else (exec.shown (schedule.load k) stepId).toList) ∧
      (poll exec schedule last k).2.get? stepId =
        (exec.shown (schedule.load k) stepId).or (last.get? stepId) := by
  unfold poll Execution.shown
  cases hstored : exec.stored (schedule.load k) with
  | none => exact ⟨(ite_self _).symm, rfl⟩
  | some plan =>
      have hnodup : (plan.steps.map PlanStep.id).Nodup := by
        have := exec.nodup
        rwa [← ids_of_stored hstored] at this
      exact ⟨observe_sends hnodup last rfl,
        (observe_spec hnodup last stepId).2.1⟩

/-- Without repetitions, after `last` comes `now` unless it is the same. -/
theorem destutter_next {α : Type} [DecidableEq α] (last now : Option α)
    {sent seen : List α} (h : (now.or last).toList ++ sent =
      ((now.or last).toList ++ seen).destutter (· ≠ ·)) :
    last.toList ++ ((if last = now then [] else now.toList) ++ sent) =
      (last.toList ++ (now.toList ++ seen)).destutter (· ≠ ·) := by
  cases now with
  | none =>
      rw [Option.toList_none, ite_self]
      exact h
  | some now =>
      cases last with
      | none => exact h
      | some last =>
          by_cases hsame : last = now
          · subst hsame
            rw [if_pos rfl]
            exact h.trans (List.destutter'_cons_neg _ (not_not.mpr rfl)).symm
          · rw [if_neg fun heq => hsame (Option.some.inj heq)]
            exact (congrArg (List.cons last) h).trans
              (List.destutter'_cons_pos _ hsame).symm

theorem pollLoop_sends {fuel k : Nat} {last : Dict StepStatus}
    (hfuel : schedule.last + 1 = k + fuel) :
    (last.get? stepId).toList ++ (pollLoop exec schedule fuel k last).filterMap
        (StreamEvent.statusOf? stepId) =
      ((last.get? stepId).toList ++ (List.range' k fuel).flatMap fun k =>
        (exec.shown (schedule.load k) stepId).toList).destutter (· ≠ ·) := by
  have hend : ∀ last : Option StepStatus,
      last.toList ++ [] = (last.toList ++ []).destutter (· ≠ ·) := by
    rintro (_ | _) <;> rfl
  induction fuel generalizing k last with
  | zero => exact hend _
  | succ fuel ih =>
      obtain ⟨hsent, hnext⟩ := @poll_sends exec schedule stepId last k
      rw [pollLoop, List.filterMap_append, hsent, List.range'_succ,
        List.flatMap_cons]
      apply destutter_next
      split
      · next hended =>
          have hzero : fuel = 0 := by
            have hlast := Nat.find_min' schedule.ends hended
            unfold Schedule.last at hfuel
            omega
          have hclosing : exec.closing.filterMap
              (StreamEvent.statusOf? stepId) = [] := by
            unfold Execution.closing
            split <;> rfl
          rw [hclosing, hzero]
          exact hend _
      · rw [← hnext]
        exact ih (by omega)

end

/-- The stream is complete iff the run returns and the last load shows its end.
-/
theorem complete_iff (exec : Execution)
    (schedule : Schedule exec.saves.length) :
    Complete exec (stream exec schedule) ↔
      (∃ result, exec.outcome = .ok result) ∧
        ∀ plan ∈ exec.stored exec.saves.length, ∀ step ∈ plan.steps,
          exec.shown (schedule.load schedule.last) step.id =
            some step.status := by
  obtain ⟨nodes, hstream, hplain, hshown⟩ := @stream_spec exec schedule
  constructor
  · intro h
    refine ⟨?_, fun plan hplan step hstep => ?_⟩
    · cases houtcome : exec.outcome with
      | ok result => exact ⟨result, rfl⟩
      | error message =>
          obtain ⟨front, closing, hends, hcloses, -⟩ := h.ends
          have hmem : closing ∈ stream exec schedule := by
            rw [hends]
            exact List.mem_append_right front (List.mem_singleton_self closing)
          have hend : closing.isEnd = true := by
            cases closing with
            | start | node => exact hcloses.elim
            | done | error => rfl
          rw [hstream, Execution.closing, houtcome, List.append_nil] at hmem
          rcases List.mem_cons.mp hmem with rfl | hnode
          · exact hcloses.elim
          · rw [(hplain closing hnode).2] at hend
            exact nomatch hend
    · rw [← hshown step.id]
      exact h.nodes plan hplan step hstep
  · rintro ⟨⟨result, houtcome⟩, hfinal⟩
    have hclosing : ∃ event, exec.closing = [event] ∧
        event.Closes exec.outcome ∧ event.isStart = false := by
      simp only [Execution.closing, houtcome]
      exact ⟨_, rfl, ⟨result, rfl⟩, rfl⟩
    obtain ⟨event, hevent, hcloses, hnostart⟩ := hclosing
    rw [hevent] at hstream
    refine ⟨⟨nodes ++ [event], hstream, ?_⟩,
      ⟨.start exec.planId :: nodes, event, hstream, hcloses, ?_⟩,
      fun plan hplan step hstep =>
        (hshown step.id).trans (hfinal plan hplan step hstep)⟩
    · intro other hmem
      rcases List.mem_append.mp hmem with hmem | hmem
      · exact (hplain other hmem).1
      · rwa [List.mem_singleton.mp hmem]
    · intro other hmem
      rcases List.mem_cons.mp hmem with rfl | hmem
      · rfl
      · exact (hplain other hmem).2

/-- For each step the stream sends what the polls have shown, in their order and
without repetitions. -/
theorem stream_sends (exec : Execution)
    (schedule : Schedule exec.saves.length) (stepId : String) :
    (stream exec schedule).filterMap (StreamEvent.statusOf? stepId) =
      ((List.range (schedule.last + 1)).filterMap fun k =>
        exec.shown (schedule.load k) stepId).destutter (· ≠ ·) := by
  rw [List.range_eq_range', List.filterMap_eq_flatMap_toList fun k =>
    exec.shown (schedule.load k) stepId]
  exact @pollLoop_sends exec schedule stepId (schedule.last + 1) 0 []
    (Nat.zero_add _).symm

namespace StreamWitness

def shown (status : StepStatus) : Plan :=
  { planId := "p1", cwd := "/repo", steps := [{ id := "a", status }] }

/-- A step that runs and is verified, in two saves. -/
def execution : Execution where
  planId := "p1"
  before := some (shown .pending)
  saves := [shown .running, shown .verified]
  outcome := .ok
    { plan := { shown .verified with status := .completed }, success := true,
      taskId := "t1", durationMs := 5, error := "", exit := .allTerminal,
      left := shown .verified }
  ids := ["a"]
  nodup := List.nodup_singleton "a"
  sameIds := by decide

/-- The run saves twice and ends between the first load and the first look. -/
def schedule : Schedule execution.saves.length where
  load
    | 0 => 0
    | _ + 1 => 3
  check _ := 3
  load_le
    | 0 => Nat.zero_le 3
    | _ + 1 => le_rfl
  check_le _ := le_rfl
  ends := ⟨0, by decide⟩

/-- The stream ends with the step pending, which is verified. -/
theorem stream_misses_final :
    execution.shown 2 "a" = some .verified ∧
      lastSent "a" (stream execution schedule) = some .pending ∧
      ¬Complete execution (stream execution schedule) := by
  obtain ⟨nodes, -, -, hshown⟩ := @stream_spec execution schedule
  have hlast : schedule.last = 0 :=
    (Nat.find_eq_zero schedule.ends).mpr (by decide)
  have hsent : lastSent "a" (stream execution schedule) = some .pending := by
    rw [hshown, hlast]
    rfl
  refine ⟨rfl, hsent, fun h => ?_⟩
  have hfinal := h.nodes (shown .verified) rfl
    { id := "a", status := .verified } (List.mem_singleton_self _)
  rw [hsent] at hfinal
  exact nomatch Option.some.inj hfinal

end StreamWitness

end Voly.Stream
