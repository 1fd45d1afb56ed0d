/-
Runs of the agentic judge: when a run returns, and records all or nothing.
-/
import Voly.A2A.JudgeCalls

namespace Voly.A2A

open Python

section Verdict

variable (py : JudgeBuiltins) (verdict metrics : Doc)

def MetricGiven (name : String) : Prop :=
  ∃ metric, metricOf py verdict metrics name = .ok metric

/-- A metric that is missing, no number, or out of range. -/
def MetricRefused (name : String) : Prop :=
  ∃ text, metricOf py verdict metrics name = .error (.invalid text)

/-- The answers that are recorded as a whole, or not at all. -/
def AllOrNothing (content : String) : Prop :=
  match py.loads content with
  | .error (.invalid _) => True
  | .error (.raised _) => False
  | .ok verdict =>
      ∀ metrics, subscript verdict "metrics" = .ok metrics →
        MetricRefused py verdict metrics "architecture_usefulness" ∨
          (∀ name ∈ roleMetricNames, MetricGiven py verdict metrics name) ∧
            ∃ value, subscript verdict "verdict" = .ok value

variable {py verdict metrics}

theorem MetricGiven.not_refused {name : String}
    (h : MetricGiven py verdict metrics name) :
    ¬MetricRefused py verdict metrics name := by
  rintro ⟨text, htext⟩
  obtain ⟨metric, hmetric⟩ := h
  rw [hmetric] at htext
  cases htext

/-- The loop records a metric for each name, or stops at one. -/
theorem recordMetrics_cases (names : List String) (trace : JudgeTrace) :
    ((∀ name ∈ names, MetricGiven py verdict metrics name) ∧
      ∃ recorded, recorded.length = names.length ∧
        recordMetrics py verdict metrics names trace =
          (.ok (), { trace with metrics := trace.metrics ++ recorded })) ∨
    ∃ front name rest fault, names = front ++ name :: rest ∧
      (∀ other ∈ front, MetricGiven py verdict metrics other) ∧
      metricOf py verdict metrics name = .error fault ∧
      ∃ recorded, recorded.length = front.length ∧
        recordMetrics py verdict metrics names trace =
          (.error fault,
            { trace with metrics := trace.metrics ++ recorded }) := by
  induction names generalizing trace with
  | nil =>
      refine Or.inl ⟨List.forall_mem_nil _, [], rfl, ?_⟩
      rw [List.append_nil]
      rfl
  | cons name rest ih =>
      cases hmetric : metricOf py verdict metrics name with
      | error fault =>
          refine Or.inr ⟨[], name, rest, fault, rfl, List.forall_mem_nil _,
            hmetric, [], rfl, ?_⟩
          rw [recordMetrics, List.append_nil, hmetric]
          rfl
      | ok metric =>
          have hgiven : MetricGiven py verdict metrics name :=
            ⟨metric, hmetric⟩
          have hstep : recordMetrics py verdict metrics (name :: rest) trace =
              recordMetrics py verdict metrics rest
                { trace with metrics := trace.metrics ++ [metric] } := by
            rw [recordMetrics, hmetric]
            rfl
          rcases ih { trace with metrics := trace.metrics ++ [metric] } with
            ⟨hall, recorded, hlength, hrun⟩ |
            ⟨front, other, later, fault, rfl, hall, hfault, recorded, hlength,
              hrun⟩
          · refine Or.inl ⟨List.forall_mem_cons.mpr ⟨hgiven, hall⟩,
              metric :: recorded, congrArg (· + 1) hlength, ?_⟩
            rw [hstep, hrun, List.append_assoc, List.singleton_append]
          · refine Or.inr ⟨name :: front, other, later, fault, rfl,
              List.forall_mem_cons.mpr ⟨hgiven, hall⟩, hfault,
              metric :: recorded, congrArg (· + 1) hlength, ?_⟩
            rw [hstep, hrun, List.append_assoc, List.singleton_append]

theorem subscript_invalid {value : Doc} {key : String} {fault : JudgeFault}
    (h : subscript value key = .error fault) :
    ∃ text, fault = .invalid text := by
  unfold subscript at h
  split at h
  · split at h
    · cases h
    · cases h
      exact ⟨_, rfl⟩
  · cases h
    exact ⟨_, rfl⟩

/-- A trace comes out, and a failed one is blank. -/
def WellConcluded (out : Except String JudgeTrace) : Prop :=
  ∃ trace, out = .ok trace ∧ (trace.status = .failed → trace.Blank)

section Conclude

variable {content : String} {trace changed : JudgeTrace}

theorem concluded_completed
    (h : recordVerdict py content trace = (.ok (), changed))
    (hstatus : changed.status = .completed) :
    WellConcluded (concludeTrace py content trace) := by
  refine ⟨changed, ?_, ?_⟩
  · rw [concludeTrace, h]
  · rw [hstatus]
    intro hfailed
    cases hfailed

theorem not_concluded_raised {text : String}
    (h : recordVerdict py content trace = (.error (.raised text), changed)) :
    ¬WellConcluded (concludeTrace py content trace) := by
  rintro ⟨out, hout, _⟩
  rw [concludeTrace, h] at hout
  cases hout

theorem concluded_invalid {text : String}
    (h : recordVerdict py content trace = (.error (.invalid text), changed)) :
    WellConcluded (concludeTrace py content trace) ↔ changed.Blank := by
  have hout : concludeTrace py content trace = .ok { changed with
      status := .failed
      error := orElse changed.error ("invalid judge result: " ++ text) } := by
    rw [concludeTrace, h]
  rw [hout]
  constructor
  · rintro ⟨out, hsame, hfailed⟩
    cases hsame
    have hblank := hfailed rfl
    exact ⟨hblank.metrics, hblank.decisions, hblank.verdict⟩
  · intro hblank
    exact ⟨_, rfl, fun _ =>
      ⟨hblank.metrics, hblank.decisions, hblank.verdict⟩⟩

theorem not_blank {recorded : List RoleMetric} {n : Nat}
    (hmetrics : changed.metrics = trace.metrics ++ recorded)
    (hlength : recorded.length = n + 1) : ¬changed.Blank := by
  intro hblank
  rw [hblank.metrics] at hmetrics
  have hnil := (List.append_eq_nil_iff.mp hmetrics.symm).2
  rw [hnil] at hlength
  cases hlength

theorem recordVerdict_unread {fault : JudgeFault}
    (h : py.loads content = .error fault) :
    recordVerdict py content trace = (.error fault, trace) := by
  apply Mutation.bind_error
  rw [Mutation.lift_apply, h]

theorem recordVerdict_read (h : py.loads content = .ok verdict) :
    recordVerdict py content trace = (do
      let metrics ← Mutation.lift (subscript verdict "metrics")
      recordMetrics py verdict metrics roleMetricNames
      let value ← Mutation.lift (subscript verdict "verdict")
      Mutation.update (JudgeTrace.decided py verdict value)) trace := by
  apply Mutation.bind_ok
  rw [Mutation.lift_apply, h]

section

variable (hloads : py.loads content = .ok verdict)
  (hmetrics : subscript verdict "metrics" = .ok metrics)
include hloads hmetrics

theorem recordVerdict_metrics :
    recordVerdict py content trace = (do
      recordMetrics py verdict metrics roleMetricNames
      let value ← Mutation.lift (subscript verdict "verdict")
      Mutation.update (JudgeTrace.decided py verdict value)) trace := by
  rw [recordVerdict_read hloads]
  apply Mutation.bind_ok
  rw [Mutation.lift_apply, hmetrics]

theorem concluded_given {recorded : List RoleMetric}
    (hlength : recorded.length = 5)
    (hrun : recordMetrics py verdict metrics roleMetricNames trace =
      (.ok (), { trace with metrics := trace.metrics ++ recorded })) :
    WellConcluded (concludeTrace py content trace) ↔
      ∃ value, subscript verdict "verdict" = .ok value := by
  have hrest : recordVerdict py content trace = (do
      let value ← Mutation.lift (subscript verdict "verdict")
      Mutation.update (JudgeTrace.decided py verdict value))
        { trace with metrics := trace.metrics ++ recorded } := by
    rw [recordVerdict_metrics hloads hmetrics]
    exact Mutation.bind_ok hrun
  cases hvalue : subscript verdict "verdict" with
  | ok value =>
      rw [hvalue] at hrest
      exact ⟨fun _ => ⟨value, rfl⟩, fun _ => concluded_completed hrest rfl⟩
  | error fault =>
      rw [hvalue] at hrest
      obtain ⟨text, rfl⟩ := subscript_invalid hvalue
      constructor
      · intro h
        have hblank := (concluded_invalid hrest).mp h
        exact absurd hblank (not_blank rfl hlength)
      · rintro ⟨value, hsome⟩
        cases hsome

end

/-- An answer at whose metrics the loop stops is harmless if that is the first
one and it is refused. -/
theorem concluded_stopped (hblank : trace.Blank)
    (hloads : py.loads content = .ok verdict)
    (hmetrics : subscript verdict "metrics" = .ok metrics)
    {front rest : List String} {name : String} {fault : JudgeFault}
    {recorded : List RoleMetric}
    (hsplit : roleMetricNames = front ++ name :: rest)
    (hall : ∀ other ∈ front, MetricGiven py verdict metrics other)
    (hfault : metricOf py verdict metrics name = .error fault)
    (hlength : recorded.length = front.length)
    (hrun : recordMetrics py verdict metrics roleMetricNames trace =
      (.error fault, { trace with metrics := trace.metrics ++ recorded })) :
    WellConcluded (concludeTrace py content trace) ↔
      MetricRefused py verdict metrics "architecture_usefulness" := by
  have hrun : recordVerdict py content trace =
      (.error fault, { trace with metrics := trace.metrics ++ recorded }) := by
    rw [recordVerdict_metrics hloads hmetrics]
    exact Mutation.bind_error hrun
  cases front with
  | nil =>
      have hname : "architecture_usefulness" = name := (List.cons.inj hsplit).1
      have hnone : recorded = [] := List.length_eq_zero_iff.mp hlength
      rw [hnone, List.append_nil] at hrun
      rw [hname, MetricRefused, hfault]
      cases fault with
      | invalid text =>
          exact ⟨fun _ => ⟨text, rfl⟩,
            fun _ => (concluded_invalid hrun).mpr hblank⟩
      | raised text =>
          constructor
          · exact fun h => absurd h (not_concluded_raised hrun)
          · rintro ⟨_, hsame⟩
            cases hsame
  | cons first front =>
      have hname : "architecture_usefulness" = first :=
        (List.cons.inj hsplit).1
      have hgiven := hall first List.mem_cons_self
      rw [hname]
      constructor
      · intro h
        cases fault with
        | invalid text =>
            have hblank := (concluded_invalid hrun).mp h
            exact absurd hblank (not_blank rfl hlength)
        | raised text => exact absurd h (not_concluded_raised hrun)
      · exact fun h => absurd h hgiven.not_refused

/-- The answers whose final content is recorded as a whole or not at all. -/
theorem concludeTrace_iff (hblank : trace.Blank) :
    WellConcluded (concludeTrace py content trace) ↔ AllOrNothing py content := by
  unfold AllOrNothing
  cases hloads : py.loads content with
  | error fault =>
      have hrun : recordVerdict py content trace = (.error fault, trace) :=
        recordVerdict_unread hloads
      cases fault with
      | invalid text =>
          exact ⟨fun _ => trivial,
            fun _ => (concluded_invalid hrun).mpr hblank⟩
      | raised text => exact ⟨not_concluded_raised hrun, False.elim⟩
  | ok verdict =>
      dsimp only
      cases hmetrics : subscript verdict "metrics" with
      | error fault =>
          have hrun : recordVerdict py content trace =
              (.error fault, trace) := by
            rw [recordVerdict_read hloads]
            apply Mutation.bind_error
            rw [Mutation.lift_apply, hmetrics]
          obtain ⟨text, rfl⟩ := subscript_invalid hmetrics
          constructor
          · intro _ metrics heq
            cases heq
          · exact fun _ => (concluded_invalid hrun).mpr hblank
      | ok metrics =>
          simp only [Except.ok.injEq, forall_eq']
          rcases @recordMetrics_cases py verdict metrics roleMetricNames
            trace with ⟨hall, recorded, hlength, hrun⟩ |
              ⟨front, name, rest, fault, hsplit, hall, hfault, recorded,
                hlength, hrun⟩
          · rw [concluded_given hloads hmetrics hlength hrun]
            have hfirst := hall "architecture_usefulness" List.mem_cons_self
            constructor
            · exact fun hvalue => Or.inr ⟨hall, hvalue⟩
            · rintro (hrefused | ⟨_, hvalue⟩)
              · exact absurd hrefused hfirst.not_refused
              · exact hvalue
          · rw [concluded_stopped hblank hloads hmetrics hsplit hall hfault
              hlength hrun]
            refine ⟨Or.inl, fun h => h.resolve_right ?_⟩
            rintro ⟨hgiven, _⟩
            obtain ⟨metric, hmetric⟩ := hgiven name (by simp [hsplit])
            rw [hfault] at hmetric
            cases hmetric

end Conclude

end Verdict

/-- The responses that a run hears, up to an error, an end or the step limit. -/
def heard : Nat → (Nat → JudgeResponse) → List JudgeResponse
  | 0, _ => []
  | steps + 1, responses =>
      let response := responses 0
      if response.error ≠ "" then []
      else if response.toolCalls.isEmpty then [response]
      else response :: heard steps fun i => responses (i + 1)

def finalContent (before : String) (responses : List JudgeResponse) : String :=
  match responses.getLast? with
  | some response => response.content
  | none => before

theorem finalContent_cons (before : String) (response : JudgeResponse)
    (rest : List JudgeResponse) :
    finalContent before (response :: rest) =
      finalContent response.content rest := by
  cases rest with
  | nil => rfl
  | cons next rest => rfl

namespace AgenticJudge

section Loop

variable {judge : AgenticJudge} {py : JudgeBuiltins} {request : AgentRequest}

variable (judge py request) in
/-- A granted tool call that ends the run with an exception. -/
def CallCrashes (call : JudgeCall) : Prop :=
  call.nameText py ∈ request.allowedTools ∧
    judge.workspace.Crashes (call.nameText py) call.argumentItems

theorem answerCall_ok (call : JudgeCall) :
    (∃ result, judge.answerCall py request.allowedTools call = .ok result) ↔
      ¬judge.CallCrashes py request call := by
  unfold CallCrashes answerCall
  rw [← @JudgeWorkspace.call_crashed _ judge.maxOutputChars]
  dsimp only
  split
  · next hdenied => exact ⟨fun _ h => hdenied h.1, fun _ => ⟨_, rfl⟩⟩
  · next hgranted =>
      have hallowed : call.nameText py ∈ request.allowedTools :=
        not_not.mp hgranted
      split
      · next hok =>
          rw [hok]
          exact ⟨fun _ h => not_crashed_ok _ h.2, fun _ => ⟨_, rfl⟩⟩
      · next text hrefused =>
          rw [hrefused]
          exact ⟨fun _ h => not_crashed_refused _ h.2, fun _ => ⟨_, rfl⟩⟩
      · next text hcrashed =>
          rw [hcrashed]
          constructor
          · rintro ⟨_, hsame⟩
            cases hsame
          · exact fun h => absurd ⟨hallowed, text, rfl⟩ h

structure LoopKept (steps : Nat) (responses : List JudgeResponse)
    (before after : JudgeState) : Prop where
  blank : before.trace.Blank → after.trace.Blank
  content : after.finalContent = finalContent before.finalContent responses
  asked : after.asked.length ≤ before.asked.length + steps

theorem loop_kept (steps : Nat) (responses : Nat → JudgeResponse)
    (st : JudgeState) :
    ((∀ response ∈ heard steps responses, ∀ call ∈ response.toolCalls,
        ¬judge.CallCrashes py request call) ∧
      ∃ after, judge.loop py request steps responses st = .ok after ∧
        LoopKept steps (heard steps responses) st after) ∨
    ((∃ response ∈ heard steps responses, ∃ call ∈ response.toolCalls,
        judge.CallCrashes py request call) ∧
      ∃ text, judge.loop py request steps responses st = .error text) := by
  induction steps generalizing responses st with
  | zero =>
      exact Or.inl ⟨List.forall_mem_nil _, st, rfl, id, rfl, Nat.le_refl _⟩
  | succ steps ih =>
      have hasked : (asking request st).asked.length = st.asked.length + 1 := by
        rw [asking, List.length_append, List.length_singleton]
      rw [loop, heard]
      dsimp only
      by_cases herror : (responses 0).error ≠ ""
      · rw [if_pos herror, if_pos herror]
        refine Or.inl ⟨List.forall_mem_nil _, _, rfl, ?_, rfl, ?_⟩
        · exact fun h => ⟨h.metrics, h.decisions, h.verdict⟩
        · exact hasked.le.trans (by omega)
      rw [if_neg herror, if_neg herror]
      have hblank (h : st.trace.Blank) :
          (judge.hearing (responses 0) (asking request st)).trace.Blank :=
        ⟨h.metrics, h.decisions, h.verdict⟩
      by_cases hcalls : (responses 0).toolCalls.isEmpty = true
      · rw [if_pos hcalls, if_pos hcalls]
        refine Or.inl ⟨?_, _, rfl, hblank, rfl, ?_⟩
        · rw [List.forall_mem_singleton, List.isEmpty_iff.mp hcalls]
          exact List.forall_mem_nil _
        · exact hasked.le.trans (by omega)
      rw [if_neg hcalls, if_neg hcalls]
      cases hresults : (responses 0).toolCalls.mapM
          (judge.answerCall py request.allowedTools) with
      | error text =>
          refine Or.inr ⟨?_, text, rfl⟩
          by_contra hnone
          have hall : ∀ call ∈ (responses 0).toolCalls, ∃ result,
              judge.answerCall py request.allowedTools call = .ok result := by
            intro call hcall
            rw [answerCall_ok]
            exact fun hcrash => hnone
              ⟨_, List.mem_cons_self, call, hcall, hcrash⟩
          obtain ⟨results, hok⟩ := exists_mapM hall
          rw [hresults] at hok
          cases hok
      | ok results =>
          have hfirst : ∀ call ∈ (responses 0).toolCalls,
              ¬judge.CallCrashes py request call := fun call hcall =>
            (answerCall_ok call).mp (exists_of_mapM hresults call hcall)
          rcases ih (fun i => responses (i + 1)) (answering (responses 0)
              results (judge.hearing (responses 0) (asking request st))) with
            ⟨hall, after, hloop, hkept⟩ |
            ⟨⟨response, hresponse, hcrash⟩, text, hloop⟩
          · refine Or.inl ⟨List.forall_mem_cons.mpr ⟨hfirst, hall⟩, after,
              hloop, ?_, ?_, ?_⟩
            · exact fun h => hkept.blank
                ⟨h.metrics, h.decisions, h.verdict⟩
            · rw [finalContent_cons]
              exact hkept.content
            · exact hkept.asked.trans (by
                change (asking request st).asked.length + steps ≤ _
                omega)
          · exact Or.inr ⟨⟨response, List.mem_cons_of_mem _ hresponse,
              hcrash⟩, text, hloop⟩

end Loop

/-- A trace within the step limit; a failed one has no metric and no verdict. -/
def RunsWell (judge : AgenticJudge)
    (out : Except String (JudgeTrace × List JudgeChat)) : Prop :=
  ∃ trace asked, out = .ok (trace, asked) ∧ asked.length ≤ judge.stepLimit ∧
    (trace.status = .failed → trace.Blank)

/-- The run returns a trace within its step limit, and a failed one has neither
metric nor verdict, iff the request is read-only, no granted tool call that is
heard crashes, and the last content is recorded as a whole or not at all. -/
theorem judge_run_iff (judge : AgenticJudge) (py : JudgeBuiltins)
    (request : AgentRequest) (responses : Nat → JudgeResponse) :
    judge.RunsWell (judge.run py request responses) ↔
      request.readOnly = true ∧
      (∀ response ∈ heard judge.stepLimit responses,
        ∀ call ∈ response.toolCalls, ¬judge.CallCrashes py request call) ∧
      AllOrNothing py
        (finalContent "" (heard judge.stepLimit responses)) := by
  unfold run
  cases hreadOnly : request.readOnly with
  | false =>
      constructor
      · rintro ⟨_, _, hout, _⟩
        cases hout
      · rintro ⟨hfalse, _⟩
        cases hfalse
  | true =>
      simp only [Bool.not_true, Bool.false_eq_true, if_false, true_and]
      rcases @loop_kept judge py request judge.stepLimit responses
          { trace :=
              { task := request.task,
                parentTraceIds := request.parentTraceIds,
                model := judge.model, provider := judge.provider }
            messages := [{ role := "user", content := request.payload }] } with
        ⟨hall, after, hloop, hkept⟩ | ⟨⟨response, hresponse, call, hcall,
          hcrash⟩, text, hloop⟩
      · have hblank : after.trace.Blank := hkept.blank ⟨rfl, rfl, rfl⟩
        have hconcluded := @concludeTrace_iff py after.finalContent after.trace
          hblank
        rw [hkept.content] at hconcluded
        rw [hloop]
        constructor
        · rintro ⟨trace, asked, hout, _, hfailed⟩
          obtain ⟨_, hafter, hout⟩ := ok_of_bind hout
          cases hafter
          obtain ⟨concluded, hconclude, hpure⟩ := ok_of_bind hout
          cases hpure
          rw [hkept.content] at hconclude
          exact ⟨hall, hconcluded.mp ⟨_, hconclude, hfailed⟩⟩
        · rintro ⟨_, hanswer⟩
          obtain ⟨trace, htrace, hfailed⟩ := hconcluded.mpr hanswer
          rw [← hkept.content] at htrace
          refine ⟨trace, after.asked, ?_, ?_, hfailed⟩
          · change (concludeTrace py after.finalContent after.trace >>= _) = _
            rw [htrace]
            rfl
          · simpa using hkept.asked
      · rw [hloop]
        constructor
        · rintro ⟨_, _, hout, _⟩
          cases hout
        · rintro ⟨hall, _⟩
          exact absurd hcrash (hall response hresponse call hcall)

end AgenticJudge

namespace AgenticJudgeWitness

open Files

def builtins : JudgeBuiltins where
  loads text :=
    match (loads text.toList).filter Doc.proper with
    | some value => .ok value
    | none => .error (.invalid "not JSON")
  float value :=
    match value.num? with
    | some number => .ok (.finite number.value)
    | none => .error (.invalid "not a number")
  str value := (value.str?).getD ""

def files : FileSystem where
  entries := [(["w"], .dir)]
  nodup := by decide
  ordinary := by decide
  below := by decide

theorem root_mem : (["w"], Node.dir) ∈ files.entries := by decide

def judge : AgenticJudge where
  workspace :=
    { files
      root := ["w"]
      resolved :=
        FileSystem.resolved_of_mem root_mem fun _ => Node.noConfusion
      lower := fun text => text.map Char.toLower }
  model := "judge-model"
  provider := "anthropic"

def request : AgentRequest :=
  { task := "Judge", readOnly := true, allowedTools := ["read_file"] }

def halfValid : Nat → JudgeResponse := fun _ =>
  { content := "\x7b\"verdict\": \"pass\", \"metrics\": " ++
      "\x7b\"architecture_usefulness\": 0.8, " ++
      "\"implementation_correctness\": 4\x7d\x7d" }

def pathless : Nat → JudgeResponse := fun _ =>
  { toolCalls := [{ name := some (.str "read_file") }] }

def shown (out : Except String (JudgeTrace × List JudgeChat)) :
    (TraceStatus × List String) × String :=
  match out with
  | .ok (trace, _) =>
      ((trace.status, trace.metrics.map RoleMetric.name), trace.error)
  | .error text => ((.pending, []), text)

theorem failed_records_metric :
    shown (judge.run builtins request halfValid) =
      ((.failed, ["architecture_usefulness"]),
        "invalid judge result: role metric score must be between 0 and 1") ∧
    shown (judge.run builtins request pathless) =
      ((.pending, []), "missing a required argument") ∧
    ¬judge.RunsWell (judge.run builtins request halfValid) := by
  have hfailed : shown (judge.run builtins request halfValid) =
      ((.failed, ["architecture_usefulness"]),
        "invalid judge result: role metric score must be between 0 and 1") := by
    decide +kernel
  refine ⟨hfailed, by decide +kernel, ?_⟩
  rintro ⟨trace, asked, hout, _, hblank⟩
  rw [hout] at hfailed
  have hstatus := congrArg (fun row => row.1.1) hfailed
  have hmetrics := congrArg (fun row => row.1.2) hfailed
  have hnone := (hblank hstatus).metrics
  change trace.metrics.map RoleMetric.name = _ at hmetrics
  rw [hnone] at hmetrics
  cases hmetrics

end AgenticJudgeWitness

end Voly.A2A
