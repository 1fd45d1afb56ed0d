/-
What every run of the repair loop keeps to: rounds, success, silence, cost and
stop reason.
-/
import Voly.Interaction.Noted
import Voly.Workflow.ReviewUntilClean

namespace Voly.Workflow

open Python Interaction Telemetry

abbrev ReviewExchange := Interaction.Exchange ReviewOp ReviewReply

def isWorker (e : ReviewExchange) : Bool :=
  match e.op with
  | .worker _ => true
  | _ => false

def isCall (e : ReviewExchange) : Bool :=
  match e.op with
  | .worker _ | .review _ => true
  | _ => false

def review? : ReviewExchange → Option Review
  | ⟨.review _, review⟩ => some review
  | _ => none

def lastReview (log : List ReviewExchange) : Option Review :=
  (log.filterMap review?).getLast?

def callCost : ReviewExchange → Rat
  | ⟨.worker _, run⟩ => run.costUsd
  | ⟨.review _, review⟩ => reviewCost review
  | _ => 0

section Reading

variable (str : Doc → String)

/-- How a review is read; one that came back with an error is not parsed. -/
def Review.outcome (review : Review) :
    Except String (ReviewVerdict × List String) :=
  if review.error ≠ "" then .error review.error
  else parseReviewVerdict str review.content

def Review.parsedClean (review : Review) : Prop :=
  review.outcome str = .ok (.clean, [])

/-- The reason to stop that an exchange gives. -/
def reasonOf : ReviewExchange → Option ReviewStopReason
  | ⟨.cancellationRequested, requested⟩ =>
      if requested = true then some .cancelled else none
  | ⟨.clock (.remaining since total), now⟩ =>
      if total - (now - since) ≤ 0 then some .deadline else none
  | ⟨.worker _, run⟩ =>
      if run.success then none
      else if run.budgetExceeded then some .spendLimit
      else some .executorFailed
  | ⟨.review _, review⟩ =>
      match review.outcome str with
      | .error _ =>
          if review.error ≠ "" ∧ review.spendLimited = true then
            some .spendLimit
          else some .reviewFailed
      | .ok (.clean, _) => some .clean
      | .ok (.blocking, _) => none
  | _ => none

/-- No call is made behind an exchange that gives a reason to stop. -/
def Quiet (log : List ReviewExchange) : Prop :=
  log.Pairwise fun e later => reasonOf str e ≠ none → isCall later = false

/-- A finished run against its log. -/
structure Contract (config : ReviewConfig) (result : ReviewLoopResult)
    (log : List ReviewExchange) : Prop where
  rounds : (log.countP isWorker : Int) ≤ config.maxRounds
  success : result.success = true ↔
    ∃ review, lastReview log = some review ∧ review.parsedClean str
  quiet : Quiet str log
  cost : result.totalCostUsd = roundTo 6 (log.map callCost).sum
  reason : log.filterMap (reasonOf str) =
    if result.stopReason = .maxRounds then [] else [result.stopReason]
  full : result.stopReason = .maxRounds →
    (log.countP isWorker : Int) = config.maxRounds

end Reading

def LapEnd.lap? : LapEnd → Option ReviewLap
  | .ended _ _ lap _ => lap
  | .blocked lap => some lap

def LapEnd.reason? : LapEnd → Option ReviewStopReason
  | .ended _ reason _ _ => some reason
  | .blocked _ => none

def LapEnd.success : LapEnd → Bool
  | .ended success _ _ _ => success
  | .blocked _ => false

section Lap

variable (str : Doc → String) (config : ReviewConfig)

/-- The rest of a lap after `counted` worker calls and `spent` dollars. -/
structure LapLaw (counted : Nat) (spent : Rat) (out : LapEnd)
    (es : List ReviewExchange) : Prop where
  calls : counted + es.countP isWorker = out.lap?.toList.length
  cost : spent + (es.map callCost).sum =
    (out.lap?.toList.map ReviewLap.costUsd).sum
  quiet : Quiet str es
  reasons : es.filterMap (reasonOf str) = out.reason?.toList
  rounds : out.reason? ≠ some .maxRounds
  success : ∀ review, lastReview es = some review →
    (out.success = true ↔ review.parsedClean str)
  silent : lastReview es = none → out.success = false

/-- A reading of the clock for a duration. -/
def Idle (e : ReviewExchange) : Prop :=
  ∃ now, e = ⟨.clock .duration, now⟩

variable {str} {counted : Nat} {spent : Rat} {out : LapEnd}
  {e : ReviewExchange} {es : List ReviewExchange}

section

variable {tail : List ReviewExchange} {started now : Rat} {run : RunnerResult}

theorem lastReview_cons :
    lastReview (e :: es) = (lastReview es).or (review? e) := by
  unfold lastReview
  rw [List.filterMap_cons]
  cases review? e with
  | none => exact (Option.or_none).symm
  | some review =>
      dsimp only
      rw [List.getLast?_cons]
      cases (es.filterMap review?).getLast? with
      | none => rfl
      | some last => rfl

theorem LapLaw.prepend
    (h : LapLaw str (counted + [e].countP isWorker) (spent + callCost e) out
      es) (hreason : reasonOf str e = none) (hreview : review? e = none) :
    LapLaw str counted spent out (e :: es) where
  calls := by
    rw [← h.calls, Nat.add_assoc, ← List.countP_append,
      List.singleton_append]
  cost := by
    rw [← h.cost, List.map_cons, List.sum_cons, add_assoc]
  quiet := by
    refine List.pairwise_cons.mpr ⟨?_, h.quiet⟩
    intro later _ hne
    exact absurd hreason hne
  reasons := by
    rw [List.filterMap_cons_none hreason, h.reasons]
  rounds := h.rounds
  success := by
    intro review hlast
    rw [lastReview_cons, hreview, Option.or_none] at hlast
    exact h.success review hlast
  silent := by
    intro hlast
    rw [lastReview_cons, hreview, Option.or_none] at hlast
    exact h.silent hlast

theorem Idle.facts (str : Doc → String) (h : Idle e) :
    isWorker e = false ∧ isCall e = false ∧ callCost e = 0 ∧
      reasonOf str e = none ∧ review? e = none := by
  obtain ⟨now, rfl⟩ := h
  exact ⟨rfl, rfl, rfl, rfl, rfl⟩

theorem idle_tail (str : Doc → String) (h : ∀ later ∈ tail, Idle later) :
    tail.countP isWorker = 0 ∧ (tail.map callCost).sum = 0 ∧
      Quiet str tail ∧ tail.filterMap (reasonOf str) = [] ∧
      lastReview tail = none := by
  induction tail with
  | nil => exact ⟨rfl, rfl, List.Pairwise.nil, rfl, rfl⟩
  | cons e tail ih =>
      obtain ⟨hworker, _, hcost, hreason, hreview⟩ :=
        (h e List.mem_cons_self).facts str
      obtain ⟨hworkers, hcosts, hquiet, hreasons, hreviews⟩ :=
        ih fun later hlater => h later (List.mem_cons_of_mem _ hlater)
      refine ⟨?_, ?_, ?_, ?_, ?_⟩
      · rw [List.countP_cons_of_neg (by simp [hworker]), hworkers]
      · rw [List.map_cons, List.sum_cons, hcost, hcosts, add_zero]
      · refine List.pairwise_cons.mpr ⟨?_, hquiet⟩
        intro later _ hne
        exact absurd hreason hne
      · rw [List.filterMap_cons_none hreason, hreasons]
      · rw [lastReview_cons, hreviews, hreview]
        rfl

theorem LapLaw.last (htail : ∀ later ∈ tail, Idle later)
    (hcalls : counted + [e].countP isWorker = out.lap?.toList.length)
    (hcost : spent + callCost e =
      (out.lap?.toList.map ReviewLap.costUsd).sum)
    (hreason : reasonOf str e = out.reason?)
    (hrounds : out.reason? ≠ some .maxRounds)
    (hsuccess : ∀ review, review? e = some review →
      (out.success = true ↔ review.parsedClean str))
    (hsilent : review? e = none → out.success = false) :
    LapLaw str counted spent out (e :: tail) := by
  obtain ⟨hworkers, hcosts, hquiet, hreasons, hreviews⟩ :=
    idle_tail str htail
  have hlast : lastReview (e :: tail) = review? e := by
    rw [lastReview_cons, hreviews, Option.none_or]
  refine ⟨?_, ?_, ?_, ?_, hrounds, ?_, ?_⟩
  · rw [← hcalls, ← List.singleton_append, List.countP_append, hworkers,
      Nat.add_zero]
  · rw [← hcost, List.map_cons, List.sum_cons, hcosts, add_zero]
  · refine List.pairwise_cons.mpr ⟨?_, hquiet⟩
    intro later hlater _
    exact ((htail later hlater).facts str).2.1
  · rw [← List.singleton_append, List.filterMap_append, hreasons,
      List.append_nil, ← hreason]
    cases hthis : reasonOf str e with
    | none => rw [List.filterMap_cons_none hthis]; rfl
    | some reason => rw [List.filterMap_cons_some hthis]; rfl
  · rw [hlast]
    exact hsuccess
  · rw [hlast]
    exact hsilent

theorem cancelledNow_emits :
    (cancelledNow config).Emits () fun out _ es =>
      ∃ requested, out = .ok requested ∧
        (es = [] ∧ requested = false ∨
          es = [⟨.cancellationRequested, requested⟩]) := by
  unfold cancelledNow
  apply Script.Emits.ite
  · intro _
    apply Script.Emits.ask
    intro requested
    exact ⟨requested, rfl, Or.inr rfl⟩
  · intro _
    exact Script.Emits.pure ⟨false, rfl, Or.inl ⟨rfl, rfl⟩⟩

theorem remaining_reason (h : config.deadlineSeconds - (now - started) ≤ 0) :
    reasonOf str ⟨.clock (.remaining started config.deadlineSeconds), now⟩ =
      some .deadline :=
  if_pos h

theorem remaining_no_reason (h : ¬config.deadlineSeconds - (now - started) ≤ 0) :
    reasonOf str ⟨.clock (.remaining started config.deadlineSeconds), now⟩ =
      none :=
  if_neg h

theorem worker_no_reason (call : WorkerCall) (h : run.success = true) :
    reasonOf str ⟨.worker call, run⟩ = none :=
  if_pos h

theorem worker_reason (call : WorkerCall) (h : ¬run.success = true) :
    reasonOf str ⟨.worker call, run⟩ =
      some (if run.budgetExceeded then .spendLimit else .executorFailed) := by
  change (if run.success = true then _ else _) = _
  rw [if_neg h]
  split <;> rfl

theorem judge_ends (str : Doc → String) (lap : ReviewLap) (call : ReviewCall)
    (review : Review) (hcontent : lap.reviewerOutput = review.content) :
    ((judge str lap review).lap?.map ReviewLap.costUsd = some lap.costUsd) ∧
      reasonOf str ⟨.review call, review⟩ = (judge str lap review).reason? ∧
      (judge str lap review).reason? ≠ some .maxRounds ∧
      ((judge str lap review).success = true ↔ review.parsedClean str) := by
  by_cases herror : review.error ≠ ""
  · have houtcome : review.outcome str = .error review.error := if_pos herror
    have hjudge : judge str lap review = .ended false
        (if review.spendLimited then .spendLimit else .reviewFailed)
        (some { lap with error := review.error }) review.error :=
      if_pos herror
    rw [hjudge]
    refine ⟨rfl, ?_, ?_, ?_⟩
    · simp only [reasonOf, houtcome, LapEnd.reason?, herror, true_and,
        not_false_eq_true, ne_eq]
      split <;> rfl
    · simp only [LapEnd.reason?]
      split <;> decide
    · simp [LapEnd.success, Review.parsedClean, houtcome]
  · have houtcome : review.outcome str =
        parseReviewVerdict str review.content := if_neg herror
    unfold judge
    rw [if_neg herror, hcontent]
    cases hparse : parseReviewVerdict str review.content with
    | error error =>
        rw [hparse] at houtcome
        refine ⟨rfl, ?_, ?_, ?_⟩
        · simp [reasonOf, houtcome, LapEnd.reason?, herror]
        · simp [LapEnd.reason?]
        · simp [LapEnd.success, Review.parsedClean, houtcome]
    | ok verdict =>
        obtain ⟨verdict, findings⟩ := verdict
        have hfindings := clean_iff_no_findings hparse
        rw [hparse] at houtcome
        cases verdict with
        | clean =>
            cases hfindings.mp rfl
            refine ⟨rfl, ?_, ?_, ?_⟩
            · simp [reasonOf, houtcome, LapEnd.reason?]
            · simp [LapEnd.reason?]
            · simp [LapEnd.success, Review.parsedClean, houtcome]
        | blocking =>
            refine ⟨rfl, ?_, ?_, ?_⟩
            · simp [reasonOf, houtcome, LapEnd.reason?]
            · simp [LapEnd.reason?]
            · simp [LapEnd.success, Review.parsedClean, houtcome]

theorem judge_law {lap : ReviewLap} {call : ReviewCall} {review : Review}
    (htail : ∀ later ∈ tail, Idle later)
    (hcontent : lap.reviewerOutput = review.content)
    (hcost : spent + reviewCost review = lap.costUsd) :
    LapLaw str 1 spent (judge str lap review)
      (⟨.review call, review⟩ :: tail) := by
  obtain ⟨hlap, hreason, hrounds, hsuccess⟩ :=
    judge_ends str lap call review hcontent
  obtain ⟨last, hlast, hlastCost⟩ := Option.map_eq_some_iff.mp hlap
  apply LapLaw.last htail
  · rw [hlast]
    rfl
  · rw [hlast]
    simpa [callCost, hlastCost] using hcost
  · exact hreason
  · exact hrounds
  · intro other hother
    cases hother
    exact hsuccess
  · intro hnone
    cases hnone

end

section

variable {B : Type} {started : Rat} {f : Rat → ReviewScript B}
  {R : Except String B → Unit → List ReviewExchange → Prop}

theorem elapsedMs_bind
    (h : ∀ now : Rat, (f (max 0 ((now - started) * 1000))).Emits ()
      fun out s es => R out s (⟨.clock .duration, now⟩ :: es)) :
    (elapsedMs started >>= f).Emits () R :=
  Script.Emits.ask_bind h

theorem remainingSeconds_bind
    (h : ∀ now : Rat, (f (config.deadlineSeconds - (now - started))).Emits ()
      fun out s es => R out s
        (⟨.clock (.remaining started config.deadlineSeconds), now⟩ :: es)) :
    (remainingSeconds config started >>= f).Emits () R :=
  Script.Emits.ask_bind h

end

/-- What a lap's script must do from some point on. -/
def LapEmits (str : Doc → String) (counted : Nat) (spent : Rat)
    (x : ReviewScript LapEnd) : Prop :=
  x.Emits () fun out _ es =>
    ∃ lapEnd, out = .ok lapEnd ∧ LapLaw str counted spent lapEnd es

theorem cancelledNow_lap {stopped rest : ReviewScript LapEnd}
    (hstopped : stopped.Emits () fun out _ es => ∃ lapEnd, out = .ok lapEnd ∧
      LapLaw str counted spent lapEnd
        (⟨.cancellationRequested, true⟩ :: es))
    (hrest : LapEmits str counted spent rest) :
    LapEmits str counted spent (do
      if ← cancelledNow config then stopped else rest) := by
  apply Script.Emits.seq (cancelledNow_emits config)
  · rintro requested s es ⟨_, hout, hes⟩
    cases hout
    cases requested with
    | true =>
        rcases hes with ⟨_, hfalse⟩ | rfl
        · cases hfalse
        · exact hstopped
    | false =>
        rcases hes with ⟨rfl, _⟩ | rfl
        · exact hrest
        · apply Script.Emits.mono hrest
          rintro out s' es ⟨lapEnd, rfl, hlaw⟩
          refine ⟨lapEnd, rfl, LapLaw.prepend ?_ rfl rfl⟩
          simpa [isWorker, callCost] using hlaw
  · rintro error s es ⟨_, hout, _⟩
    cases hout

theorem idle_nil : ∀ later ∈ ([] : List ReviewExchange), Idle later := by
  intro later hlater
  cases hlater

theorem idle_one (now : Rat) :
    ∀ later ∈ ([⟨.clock .duration, now⟩] : List ReviewExchange),
      Idle later := by
  intro later hlater
  exact ⟨now, List.mem_singleton.mp hlater⟩

theorem LapEmits.prepend (e : ReviewExchange) {x : ReviewScript LapEnd}
    (h : LapEmits str (counted + [e].countP isWorker) (spent + callCost e) x)
    (hreason : reasonOf str e = none) (hreview : review? e = none) :
    x.Emits () fun out _ es =>
      ∃ lapEnd, out = .ok lapEnd ∧
        LapLaw str counted spent lapEnd (e :: es) := by
  apply Script.Emits.mono h
  rintro out s es ⟨lapEnd, hout, hlaw⟩
  exact ⟨lapEnd, hout, hlaw.prepend hreason hreview⟩

theorem LapLaw.left {reason : ReviewStopReason} {lap : Option ReviewLap}
    {error : String} {tail : List ReviewExchange}
    (htail : ∀ later ∈ tail, Idle later)
    (hcalls : counted + [e].countP isWorker = lap.toList.length)
    (hcost : spent + callCost e = (lap.toList.map ReviewLap.costUsd).sum)
    (hreason : reasonOf str e = some reason) (hrounds : reason ≠ .maxRounds)
    (hreview : review? e = none) :
    LapLaw str counted spent (.ended false reason lap error)
      (e :: tail) := by
  apply LapLaw.last htail hcalls hcost hreason
  · simpa [LapEnd.reason?] using hrounds
  · intro review hsome
    rw [hreview] at hsome
    cases hsome
  · intro _
    rfl

theorem reviewPart_law (str : Doc → String) (started lapStarted : Rat)
    (lap : ReviewLap) :
    LapEmits str 1 lap.costUsd
      (reviewPart str config started lapStarted lap) := by
  apply remainingSeconds_bind
  intro now
  apply Script.Emits.ite
  · intro hpast
    apply elapsedMs_bind
    intro later
    refine Script.Emits.pure ⟨_, rfl, ?_⟩
    apply LapLaw.left (idle_one later)
    · rfl
    · simp [callCost]
    · exact remaining_reason config hpast
    · decide
    · rfl
  · intro htime
    apply LapEmits.prepend _ _ (remaining_no_reason config htime) rfl
    apply cancelledNow_lap
    · refine Script.Emits.pure ⟨_, rfl, ?_⟩
      apply LapLaw.left idle_nil
      · rfl
      · simp [callCost]
      · rfl
      · decide
      · rfl
    · apply Script.Emits.ask_bind
      intro reviewStarted
      apply LapEmits.prepend _ _ rfl rfl
      apply Script.Emits.ask_bind
      intro evidence
      apply LapEmits.prepend _ _ rfl rfl
      apply Script.Emits.ask_bind
      intro review
      apply elapsedMs_bind
      intro reviewEnded
      apply elapsedMs_bind
      intro lapEnded
      refine Script.Emits.pure ⟨_, rfl, ?_⟩
      apply judge_law
      · intro later hlater
        rcases List.mem_cons.mp hlater with rfl | hlater
        · exact ⟨_, rfl⟩
        · exact idle_one lapEnded later hlater
      · rfl
      · simp [callCost]

theorem reviewLap_law (str : Doc → String) (started : Rat) (number : Nat)
    (findings : List String) :
    LapEmits str 0 0 (reviewLap str config started number findings) := by
  apply cancelledNow_lap
  · refine Script.Emits.pure ⟨_, rfl, ?_⟩
    apply LapLaw.left idle_nil
    · rfl
    · simp [callCost]
    · rfl
    · decide
    · rfl
  · apply remainingSeconds_bind
    intro now
    apply Script.Emits.ite
    · intro hpast
      refine Script.Emits.pure ⟨_, rfl, ?_⟩
      apply LapLaw.left idle_nil
      · rfl
      · simp [callCost]
      · exact remaining_reason config hpast
      · decide
      · rfl
    · intro htime
      apply LapEmits.prepend _ _ (remaining_no_reason config htime) rfl
      apply Script.Emits.ask_bind
      intro lapStarted
      apply LapEmits.prepend _ _ rfl rfl
      apply Script.Emits.ask_bind
      intro run
      apply Script.Emits.ite
      · intro hsuccess
        apply LapEmits.prepend _ _ (worker_no_reason _ hsuccess) rfl
        have hpart := reviewPart_law config str started lapStarted
          (lapFromRun number run)
        simpa [callCost, isWorker, lapFromRun] using hpart
      · intro hfailed
        apply elapsedMs_bind
        intro lapEnded
        refine Script.Emits.pure ⟨_, rfl, ?_⟩
        apply LapLaw.left (idle_one lapEnded)
        · rfl
        · simp [callCost, lapFromRun]
        · exact worker_reason _ hfailed
        · split <;> decide
        · rfl

end Lap

section Loop

variable (str : Doc → String) (config : ReviewConfig)

/-- The loop with `left` rounds to go, against its exchanges. -/
structure LoopLaw (left : Nat) (laps : List ReviewLap)
    (result : ReviewLoopResult) (es : List ReviewExchange) : Prop where
  rounds : es.countP isWorker ≤ left
  full : result.stopReason = .maxRounds → es.countP isWorker = left
  cost : (laps.map ReviewLap.costUsd).sum + (es.map callCost).sum =
    (result.laps.map ReviewLap.costUsd).sum
  quiet : Quiet str es
  reasons : es.filterMap (reasonOf str) =
    if result.stopReason = .maxRounds then [] else [result.stopReason]
  success : ∀ review, lastReview es = some review →
    (result.success = true ↔ review.parsedClean str)
  silent : lastReview es = none → result.success = false

variable {str}

theorem lastReview_append (es later : List ReviewExchange) :
    lastReview (es ++ later) = (lastReview later).or (lastReview es) := by
  unfold lastReview
  rw [List.filterMap_append, List.getLast?_append]

theorem LapLaw.ends {success : Bool} {reason : ReviewStopReason}
    {lap : Option ReviewLap} {error : String} {es : List ReviewExchange}
    (h : LapLaw str 0 0 (.ended success reason lap error) es) (left : Nat)
    (laps : List ReviewLap) (workflowId : String) :
    LoopLaw str (left + 1) laps
      ⟨success, reason, laps ++ lap.toList, error, workflowId⟩ es where
  rounds := by
    have hcalls := h.calls
    rw [Nat.zero_add] at hcalls
    rw [hcalls]
    cases lap with
    | none => exact Nat.zero_le _
    | some lap => exact Nat.succ_le_succ (Nat.zero_le _)
  full := by
    intro hmax
    exact absurd (congrArg some hmax) h.rounds
  cost := by
    have hcost := h.cost
    rw [zero_add] at hcost
    rw [hcost, List.map_append, List.sum_append]
    rfl
  quiet := h.quiet
  reasons := by
    rw [if_neg fun hmax => absurd (congrArg some hmax) h.rounds]
    exact h.reasons
  success := h.success
  silent := h.silent

theorem LapLaw.goes {lap : ReviewLap} {es later : List ReviewExchange}
    (h : LapLaw str 0 0 (.blocked lap) es) {left : Nat}
    {laps : List ReviewLap} {result : ReviewLoopResult}
    (hlater : LoopLaw str left (laps ++ [lap]) result later) :
    LoopLaw str (left + 1) laps result (es ++ later) := by
  have hcalls : es.countP isWorker = 1 := by
    rw [← Nat.zero_add (es.countP isWorker), h.calls]
    rfl
  have hreasons : es.filterMap (reasonOf str) = [] := h.reasons
  refine ⟨?_, ?_, ?_, ?_, ?_, ?_, ?_⟩
  · rw [List.countP_append, hcalls, Nat.add_comm]
    exact Nat.succ_le_succ hlater.rounds
  · intro hmax
    rw [List.countP_append, hcalls, hlater.full hmax, Nat.add_comm]
  · have hcost : (es.map callCost).sum = lap.costUsd := by
      rw [← zero_add (es.map callCost).sum, h.cost]
      simp [LapEnd.lap?]
    rw [← hlater.cost, List.map_append, List.map_append, List.sum_append,
      List.sum_append, hcost]
    simp [add_assoc]
  · refine List.pairwise_append.mpr ⟨h.quiet, hlater.quiet, ?_⟩
    intro e he next _ hne
    exact absurd (List.filterMap_eq_nil_iff.mp hreasons e he) hne
  · rw [List.filterMap_append, hreasons, List.nil_append, hlater.reasons]
  · intro review hlast
    rw [lastReview_append] at hlast
    cases hnext : lastReview later with
    | some next =>
        rw [hnext] at hlast
        cases hlast
        exact hlater.success review hnext
    | none =>
        rw [hnext, Option.none_or] at hlast
        have hblocked := h.success review hlast
        rw [hlater.silent hnext]
        exact hblocked
  · intro hlast
    rw [lastReview_append] at hlast
    exact hlater.silent (Option.or_eq_none_iff.mp hlast).1

theorem reviewLoop_law (started : Rat) (left number : Nat)
    (laps : List ReviewLap) (findings : List String) :
    (reviewLoop str config started left number laps findings).Emits ()
      fun out _ es => ∃ result, out = .ok result ∧
        LoopLaw str left laps result es := by
  induction left generalizing number laps findings with
  | zero =>
      refine Script.Emits.pure ⟨_, rfl, ?_⟩
      refine ⟨Nat.le_refl 0, fun _ => rfl, add_zero _, List.Pairwise.nil, rfl,
        ?_, fun _ => rfl⟩
      intro review hnone
      cases hnone
  | succ left ih =>
      apply Script.Emits.seq (reviewLap_law config str started number findings)
      · rintro lapEnd s es ⟨_, hout, hlaw⟩
        cases hout
        cases lapEnd with
        | ended success reason lap error =>
            refine Script.Emits.pure ⟨_, rfl, ?_⟩
            rw [List.append_nil]
            exact hlaw.ends left laps config.workflowId
        | blocked lap =>
            apply Script.Emits.mono
              (ih (number + 1) (laps ++ [lap]) lap.findings)
            rintro out s' later ⟨result, rfl, hlater⟩
            exact ⟨result, rfl, hlaw.goes hlater⟩
      · rintro error s es ⟨_, hout, _⟩
        cases hout

end Loop

section Run

variable (str : Doc → String) (config : ReviewConfig)

/-- A run in its surroundings: what it returns or raises, and its log. -/
def reviewRun (env : Interaction.Surroundings ReviewOp ReviewReply) :
    Except String ReviewLoopResult × List ReviewExchange :=
  let out := Script.eval env.answer (reviewUntilClean str config) () []
  (out.1.1, out.2)

theorem rounds_of_check (h : checkArguments config = .ok ()) :
    (config.maxRounds.toNat : Int) = config.maxRounds := by
  unfold checkArguments at h
  split at h
  · cases h
  split at h
  · cases h
  split at h
  · cases h
  · next hrounds =>
      apply Int.toNat_of_nonneg
      have hlow := (not_not.mp hrounds).1
      omega

theorem LoopLaw.contract {result : ReviewLoopResult}
    {es : List ReviewExchange} (now : Rat)
    (hcheck : checkArguments config = .ok ())
    (h : LoopLaw str config.maxRounds.toNat [] result es) :
    Contract str config result (⟨.clock .start, now⟩ :: es) := by
  have hrounds := rounds_of_check config hcheck
  have hcalls : (⟨.clock .start, now⟩ :: es).countP isWorker =
      es.countP isWorker := List.countP_cons_of_neg (by simp [isWorker])
  have hlast : lastReview (⟨.clock .start, now⟩ :: es) = lastReview es := by
    rw [lastReview_cons]
    exact Option.or_none
  refine ⟨?_, ?_, ?_, ?_, ?_, ?_⟩
  · rw [hcalls, ← hrounds]
    exact Int.ofNat_le.mpr h.rounds
  · rw [hlast]
    cases hreview : lastReview es with
    | none => simp [h.silent hreview]
    | some review => simpa using h.success review hreview
  · refine List.pairwise_cons.mpr ⟨?_, h.quiet⟩
    intro later _ hne
    exact absurd rfl hne
  · have hcost := h.cost
    rw [List.map_nil, List.sum_nil, zero_add] at hcost
    rw [ReviewLoopResult.totalCostUsd, ← hcost, List.map_cons, List.sum_cons]
    exact congrArg (roundTo 6) (zero_add _).symm
  · exact h.reasons
  · intro hmax
    rw [hcalls, h.full hmax, hrounds]

end Run

namespace ReviewWitness

def cleanReview : Review where
  content := "\x7b\"verdict\": \"clean\"\x7d"

def cheap : Interaction.Surroundings ReviewOp ReviewReply := fun _ op =>
  match op with
  | .clock _ => (0 : Rat)
  | .cancellationRequested => false
  | .worker _ => { success := true, costUsd := 1 / 10000000 }
  | .gitDiffEvidence _ _ => ""
  | .review _ => cleanReview

def costsOf :
    Except String ReviewLoopResult × List ReviewExchange → Option (Rat × Rat)
  | (.ok result, log) =>
      some (result.totalCostUsd, (log.map callCost).sum)
  | (.error _, _) => none

end ReviewWitness

end Voly.Workflow
