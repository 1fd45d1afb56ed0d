/-
The guard against empty content in whole runs of `chat`: which calls fail, and
which responses pass.
-/
import Voly.Gateway.Wire
import Voly.Gateway.Chat

namespace Voly.Gateway

open Python Interaction

namespace ProviderResponse

def carriesToolCall : ProviderResponse → Bool
  | .anthropic data => data.content.any fun block => block.call?.isSome
  | .openai data | .compat data | .workersChat data =>
      !data.first.messageOrEmpty.toolCalls.isEmpty
  | .google data =>
      data.candidatesOr.head?.any fun candidate =>
        candidate.partsOr.any fun part => part.functionCall.isSome
  | .workersClassic data => !data.toolCalls.isEmpty

def text : ProviderResponse → String
  | .anthropic data =>
      "".intercalate (data.content.map AnthropicBlock.ownText)
  | .openai data | .compat data | .workersChat data =>
      data.first.messageOrEmpty.content.orEmpty.getD ""
  | .google data =>
      "".intercalate ((data.candidatesOr.head?.getD {}).partsOr.map
        fun part => part.text.getD "")
  | .workersClassic data => data.response.orEmpty.getD ""

/-- The reason for which the provider stopped. -/
def finish : ProviderResponse → String
  | .anthropic data => data.stopReason.orEmpty.getD ""
  | .openai data | .compat data | .workersChat data =>
      data.first.finishReason.orEmpty.getD ""
  | .google data =>
      (data.candidatesOr.head?.getD {}).finishReason.orEmpty.getD ""
  | .workersClassic _ => ""

def tokenLimit : ProviderResponse → Option String
  | .anthropic _ => some "max_tokens"
  | .openai _ | .compat _ | .workersChat _ => some "length"
  | .google _ => some "MAX_TOKENS"
  | .workersClassic _ => none

/-- A tool call, or an answer that the limit on tokens cut off. -/
def Usable (response : ProviderResponse) : Prop :=
  response.carriesToolCall = true ∨
    response.tokenLimit = some response.finish

/-- There is a text, or the provider stopped for a reason that the guard
knows. -/
def Recognised (response : ProviderResponse) : Prop :=
  response.text ≠ "" ∨ response.finish ∈ legitEmptyStops

instance (response : ProviderResponse) : Decidable response.Usable :=
  inferInstanceAs (Decidable (_ ∨ _))

instance (response : ProviderResponse) : Decidable response.Recognised :=
  inferInstanceAs (Decidable (_ ∨ _))

theorem isEmpty_iff (response : Response) :
    isEmptyContentResponse response = false ↔
      response.content.getD "" ≠ "" ∨
        response.stopReason.getD "" ∈ legitEmptyStops := by
  cases h : response.content with
  | none => simp [isEmptyContentResponse, h]
  | some text =>
      simp [isEmptyContentResponse, h]
      tauto

theorem normalised_spec {loads : String → Option Value} {model : String}
    {response : ProviderResponse} {answer : Answer}
    (h : response.normalised loads model = .ok answer) :
    answer.error = "" ∧ answer.content.getD "" = response.text ∧
      answer.stopReason.getD "" = response.finish := by
  cases response with
  | openai data =>
      obtain ⟨choices, _, _⟩ := data
      cases choices with
      | nil => cases h
      | cons choice rest =>
          obtain ⟨message, _⟩ := choice
          cases message with
          | none => cases h
          | some message =>
              cases h
              exact ⟨rfl, rfl, rfl⟩
  | google data =>
      simp only [normalised, callGoogle] at h
      simp only [text, finish]
      split at h
      · cases h
      · next hcandidates =>
          cases h
          rw [hcandidates]
          exact ⟨rfl, rfl, rfl⟩
  | _ =>
      cases h
      exact ⟨rfl, rfl, rfl⟩

end ProviderResponse

/-- The call raises, returns an error, or returns what the guard discards. -/
def Fails : Except String Answer → Prop
  | .ok answer => (guardEmpty answer.toResponse).error ≠ ""
  | .error _ => True

/-- All but the last call fail, and the last one just when the result is an
error. -/
def Settles (calls : List (Except String Answer)) (result : Response) : Prop :=
  if result.error = "" then
    ∃ front last, calls = front ++ [last] ∧ (∀ call ∈ front, Fails call) ∧
      ¬ Fails last
  else ∀ call ∈ calls, Fails call

theorem guardEmpty_answered (result : Response) (h : result.error = "") :
    (guardEmpty result).error = "" ↔ isEmptyContentResponse result = false := by
  cases hempty : isEmptyContentResponse result with
  | false => simp [guardEmpty, emptyContentError, h, hempty]
  | true => simp [guardEmpty, emptyContentError, h, hempty, emptyContentText]

theorem fails_normalised {loads : String → Option Value} {model : String}
    {response : ProviderResponse} {answer : Answer}
    (h : response.normalised loads model = .ok answer) :
    ¬ Fails (.ok answer) ↔ response.Recognised := by
  obtain ⟨herror, htext, hfinish⟩ := ProviderResponse.normalised_spec h
  have hguard := guardEmpty_answered answer.toResponse herror
  rw [ProviderResponse.isEmpty_iff] at hguard
  rw [ProviderResponse.Recognised, ← htext, ← hfinish]
  exact not_not.trans hguard

theorem guardEmpty_directResult (call : Except String Answer) :
    (guardEmpty (directResult call)).error ≠ "" ↔ Fails call := by
  cases call with
  | ok answer => exact Iff.rfl
  | error e =>
      by_cases he : e = ""
      · subst he
        simp [Fails, directResult, failed, guardEmpty, emptyContentError,
          isEmptyContentResponse, legitEmptyStops, emptyContentText]
      · simp [Fails, directResult, failed, guardEmpty, emptyContentError, he]

theorem Settles.after {calls rest : List (Except String Answer)}
    {result : Response} (h : Settles rest result)
    (hcalls : ∀ call ∈ calls, Fails call) : Settles (calls ++ rest) result := by
  unfold Settles at h ⊢
  split at h
  · next herror =>
      rw [if_pos herror]
      obtain ⟨front, last, rfl, hfront, hlast⟩ := h
      refine ⟨calls ++ front, last, by simp, ?_, hlast⟩
      intro call hcall
      rcases List.mem_append.mp hcall with hcall | hcall
      · exact hcalls call hcall
      · exact hfront call hcall
  · next herror =>
      rw [if_neg herror]
      intro call hcall
      rcases List.mem_append.mp hcall with hcall | hcall
      · exact hcalls call hcall
      · exact h call hcall

theorem Settles.of_error {calls : List (Except String Answer)}
    {result : Response} (herror : result.error ≠ "")
    (h : ∀ call ∈ calls, Fails call) : Settles calls result := by
  rw [Settles, if_neg herror]
  exact h

theorem Settles.single {call : Except String Answer} {result : Response}
    (h : result.error ≠ "" ↔ Fails call) : Settles [call] result := by
  unfold Settles
  split
  · next herror =>
      exact ⟨[], call, rfl, nofun, fun hfails => h.mpr hfails herror⟩
  · next herror => simpa using h.mp herror

theorem Settles.congr {calls : List (Except String Answer)}
    {result other : Response} (h : Settles calls result)
    (herror : other.error = result.error) : Settles calls other := by
  rw [Settles, herror]
  exact h

theorem Settles.spares_iff {before after : List (Except String Answer)}
    {call : Except String Answer} {result : Response}
    (h : Settles (before ++ call :: after) result) :
    after = [] ∧ result.error = "" ↔ ¬ Fails call := by
  unfold Settles at h
  split at h
  · next herror =>
      obtain ⟨front, last, hcalls, hfront, hlast⟩ := h
      rcases List.eq_nil_or_concat after with rfl | ⟨others, end_, rfl⟩
      · obtain ⟨-, hsame⟩ := List.append_inj' hcalls rfl
        cases hsame
        simp [herror, hlast]
      · have hsplit : (before ++ call :: others) ++ [end_] = front ++ [last] :=
          by simpa using hcalls
        obtain ⟨rfl, -⟩ := List.append_inj' hsplit rfl
        have hfails := hfront call (by simp)
        simp [hfails]
  · next herror =>
      have hfails := h call (by simp)
      simp [herror, hfails]

/-- The observer notes what the providers answer. -/
def callLog :
    Protocol GatewayOp GatewayReply (List (Except String Answer)) where
  allows _ _ := True
  relies _ _ _ := True
  next log op :=
    match op with
    | .call _ _ _ => fun answer => log ++ [answer]
    | _ => fun _ => log

/-- However it is answered, the script makes calls and ends as `Q` says. -/
def Logs {A : Type} (x : GatewayScript A)
    (Q : List (Except String Answer) → Except String A → Prop) : Prop :=
  ∀ log, Script.wp callLog x
    (fun out _ log' => ∃ calls, log' = log ++ calls ∧ Q calls out) () log

/-- The script calls no provider and does not raise. -/
abbrev Quiet {A : Type} (x : GatewayScript A) : Prop :=
  Logs x fun calls out => calls = [] ∧ ∃ a, out = .ok a

section Rules

variable {A B : Type} {x : GatewayScript A} {f : A → GatewayScript B}
  {Q : List (Except String Answer) → Except String A → Prop}
  {R : List (Except String Answer) → Except String B → Prop}

theorem Logs.pure {a : A} (h : Q [] (.ok a)) :
    Logs (Pure.pure a : GatewayScript A) Q :=
  fun log => ⟨[], (List.append_nil log).symm, h⟩

theorem Logs.mono {Q' : List (Except String Answer) → Except String A → Prop}
    (h : Logs x Q) (hQ : ∀ calls out, Q calls out → Q' calls out) :
    Logs x Q' := by
  intro log
  apply Script.wp_mono (h log)
  intro out _ log' hout
  obtain ⟨calls, hlog, hcalls⟩ := hout
  exact ⟨calls, hlog, hQ calls out hcalls⟩

theorem Logs.bind (hx : Logs x Q)
    (hf : ∀ a calls, Q calls (.ok a) →
      Logs (f a) fun rest out => R (calls ++ rest) out)
    (herror : ∀ e calls, Q calls (.error e) → R calls (.error e)) :
    Logs (x >>= f) R := by
  intro log
  apply Script.wp_seq (hx log)
  · intro a _ log' hout
    obtain ⟨calls, rfl, hcalls⟩ := hout
    apply Script.wp_mono (hf a calls hcalls (log ++ calls))
    intro out _ log' hrest
    obtain ⟨rest, hlog, hrest⟩ := hrest
    exact ⟨calls ++ rest, by rw [hlog, List.append_assoc], hrest⟩
  · intro e _ log' hout
    obtain ⟨calls, hlog, hcalls⟩ := hout
    exact ⟨calls, hlog, herror e calls hcalls⟩

theorem Quiet.bind (hx : Quiet x) (hf : ∀ a, Logs (f a) R) :
    Logs (x >>= f) R := by
  apply Logs.bind hx
  · intro a calls hcalls
    obtain ⟨rfl, -⟩ := hcalls
    exact hf a
  · intro e calls hcalls
    obtain ⟨-, a, ha⟩ := hcalls
    cases ha

theorem Logs.ite {c : Prop} [Decidable c] {y : GatewayScript A}
    (hx : c → Logs x Q) (hy : ¬c → Logs y Q) :
    Logs (if c then x else y) Q := by
  split
  · next hc => exact hx hc
  · next hc => exact hy hc

theorem quiet_pure (a : A) : Quiet (Pure.pure a : GatewayScript A) :=
  Logs.pure ⟨rfl, a, rfl⟩

end Rules

def GatewayOp.calls : GatewayOp → Bool
  | call _ _ _ => true
  | _ => false

theorem quiet_ask {op : GatewayOp} (hop : op.calls = false) :
    Quiet (Script.ask op : GatewayScript (GatewayReply op)) := by
  intro log
  refine ⟨trivial, ?_⟩
  intro reply _
  refine ⟨[], ?_, rfl, reply, rfl⟩
  rw [List.append_nil]
  cases op with
  | call route sent kwargs => cases hop
  | _ => rfl

theorem quiet_isHealthy (provider : String) : Quiet (isHealthy provider) :=
  quiet_ask rfl

theorem quiet_checkNamed (provider : String) : Quiet (checkNamed provider) :=
  Logs.ite (fun _ => quiet_pure true) fun _ => quiet_isHealthy provider

theorem quiet_markProviderFromError (provider error : String) :
    Quiet (markProviderFromError provider error) := by
  unfold markProviderFromError excludeProviderOnGatewayError markUnhealthy
  apply Logs.ite (fun _ => quiet_pure ())
  intro _
  apply Logs.ite (fun _ => quiet_pure ())
  intro _
  apply Logs.ite (fun _ => quiet_pure ())
  intro _
  exact quiet_ask rfl

theorem quiet_firstHealthy (preferred : String) (candidates : List String) :
    Quiet (firstHealthy preferred candidates) := by
  induction candidates with
  | nil => exact quiet_pure none
  | cons p rest ih =>
      rw [firstHealthy]
      apply Logs.ite (fun _ => ih)
      intro _
      apply (quiet_isHealthy p).bind
      intro up
      exact Logs.ite (fun _ => quiet_pure _) fun _ => ih

theorem quiet_bestProvider (preferred : String) :
    Quiet (bestProvider preferred) := by
  apply (quiet_isHealthy preferred).bind
  intro up
  apply Logs.ite (fun _ => quiet_pure _)
  intro _
  apply (quiet_firstHealthy preferred _).bind
  exact fun found => quiet_pure _

theorem quiet_reroute (request : Request) : Quiet (reroute request) := by
  unfold reroute
  refine Logs.ite (fun _ => ?_) fun _ => quiet_pure _
  apply (quiet_isHealthy _).bind
  intro up
  apply Logs.ite (fun _ => quiet_pure _)
  intro _
  apply (quiet_bestProvider _).bind
  intro best
  refine Logs.ite (fun _ => ?_) fun _ => quiet_pure _
  apply Quiet.bind (quiet_ask rfl)
  exact fun _ => quiet_pure _

theorem logs_directCall (sent : Sent) :
    Logs (directCall sent) fun calls out =>
      ∃ call, calls = [call] ∧ out = .ok (directResult call) :=
  fun _ => ⟨trivial, fun call _ => ⟨[call], rfl, call, rfl, rfl⟩⟩

/-- An attempt makes one call, and hands on its result unless it fails. -/
def Attempted (calls : List (Except String Answer))
    (out : Except String (Except String Response)) : Prop :=
  ∃ call, calls = [call] ∧
    ((∃ result, out = .ok (.ok result) ∧ result.error = "" ∧ ¬ Fails call) ∨
      ∃ e, out = .ok (.error e) ∧ Fails call)

theorem outcome_cases (result : Response) :
    (∃ kept, outcome result = .ok kept ∧ kept.error = "" ∧
      (guardEmpty result).error = "") ∨
    ∃ e, outcome result = .error e ∧ (guardEmpty result).error ≠ "" := by
  unfold outcome
  split
  · next h => exact Or.inl ⟨_, rfl, h, h⟩
  · next h => exact Or.inr ⟨_, rfl, h⟩

theorem attempted_outcome {call : Except String Answer} {result : Response}
    (h : (guardEmpty result).error ≠ "" ↔ Fails call) :
    Attempted [call] (.ok (outcome result)) := by
  refine ⟨call, rfl, ?_⟩
  rcases outcome_cases result with ⟨kept, hkept, herror, hguard⟩ |
      ⟨e, he, hguard⟩
  · exact Or.inl
      ⟨kept, by rw [hkept], herror, fun hfails => h.mpr hfails hguard⟩
  · exact Or.inr ⟨e, by rw [he], h.mp hguard⟩

theorem logs_attempt_direct (sent : Sent) :
    Logs (attempt (directCall sent)) Attempted := by
  intro log
  refine ⟨trivial, ?_⟩
  intro call _
  exact ⟨[call], rfl, attempted_outcome (guardEmpty_directResult call)⟩

theorem logs_attempt_single (sent : Sent) (kwargs : Dict String) :
    Logs (attempt (singleCall sent kwargs)) Attempted := by
  intro log
  refine ⟨trivial, ?_⟩
  intro call _
  cases call with
  | ok answer => exact ⟨[.ok answer], rfl, attempted_outcome Iff.rfl⟩
  | error e =>
      exact ⟨[.error e], rfl, .error e, rfl, Or.inr ⟨e, rfl, trivial⟩⟩

/-- The calls of a path end as `Settles` says. -/
abbrev LogsSettled (x : GatewayScript Response) : Prop :=
  Logs x fun calls out => ∃ result, out = .ok result ∧ Settles calls result

theorem settles_nil {result : Response} (h : result.error ≠ "") :
    Settles [] result :=
  Settles.of_error h nofun

theorem append_ne_empty {front : String} (h : front ≠ "") (rest : String) :
    front ++ rest ≠ "" := by
  intro heq
  exact h (String.append_eq_empty_iff.mp heq).1

section Paths

variable (gateway : AIGateway) (request : Request)

theorem LogsSettled.after {x : GatewayScript Response} (h : LogsSettled x)
    {calls : List (Except String Answer)}
    (hcalls : ∀ call ∈ calls, Fails call) :
    Logs x fun rest out =>
      ∃ result, out = .ok result ∧ Settles (calls ++ rest) result := by
  apply Logs.mono h
  intro rest out hout
  obtain ⟨result, hresult, hsettles⟩ := hout
  exact ⟨result, hresult, hsettles.after hcalls⟩

theorem logsSettled_of_error {result : Response} (h : result.error ≠ "")
    {calls : List (Except String Answer)}
    (hcalls : ∀ call ∈ calls, Fails call) :
    Logs (pure result : GatewayScript Response) fun rest out =>
      ∃ result, out = .ok result ∧ Settles (calls ++ rest) result := by
  apply Logs.pure
  refine ⟨result, rfl, ?_⟩
  rw [List.append_nil]
  exact Settles.of_error h hcalls

/-- The step of both loops: one attempt, whose result is handed on or whose
error leads to the rest. -/
theorem logsSettled_attempt {call : GatewayScript Response}
    {f : Except String Response → GatewayScript Response}
    (hcall : Logs (attempt call) Attempted)
    (hok : ∀ result, ∃ marked, f (.ok result) = pure marked ∧
      marked.error = result.error)
    (herror : ∀ e calls, (∀ call ∈ calls, Fails call) →
      Logs (f (.error e)) fun rest out =>
        ∃ result, out = .ok result ∧ Settles (calls ++ rest) result) :
    LogsSettled (attempt call >>= f) := by
  apply Logs.bind hcall
  · intro out calls hattempted
    obtain ⟨c, rfl, hcases⟩ := hattempted
    rcases hcases with ⟨result, hout, hresult, hkept⟩ | ⟨e, hout, hfails⟩
    · cases hout
      obtain ⟨marked, hmarked, hsame⟩ := hok result
      rw [hmarked]
      apply Logs.pure
      refine ⟨marked, rfl, Settles.single ?_⟩
      simp [hsame, hresult, hkept]
    · cases hout
      apply herror e [c]
      intro call hmem
      rwa [List.mem_singleton.mp hmem]
  · intro e calls hattempted
    obtain ⟨c, -, ⟨_, hout, _⟩ | ⟨_, hout, _⟩⟩ := hattempted
    · cases hout
    · cases hout

theorem gatewayAttempts_settled (position : Nat) (lastError : String)
    (chain : List Entry) :
    LogsSettled (gatewayAttempts gateway request position lastError chain) := by
  have hall : allModelsFailed ≠ "" := by decide
  induction chain generalizing position lastError with
  | nil =>
      exact Logs.pure ⟨_, rfl, settles_nil (append_ne_empty hall _)⟩
  | cons spec rest ih =>
      rw [gatewayAttempts]
      apply (quiet_checkNamed _).bind
      intro up
      refine Logs.ite (fun _ => ?_) fun _ => ih _ _
      apply logsSettled_attempt (logs_attempt_single _ _)
      · intro result
        refine ⟨_, rfl, ?_⟩
        split
        · rfl
        · rfl
      · intro e calls hcalls
        apply (quiet_markProviderFromError _ e).bind
        intro _
        exact Logs.ite
          (fun _ => logsSettled_of_error (append_ne_empty hall e) hcalls)
          fun _ => (ih _ _).after hcalls

theorem logs_attempt_fallbackCall (provider model : String) :
    Logs (attempt (fallbackCall gateway request provider model)) Attempted := by
  unfold fallbackCall
  split
  · exact logs_attempt_single _ _
  · exact logs_attempt_direct _

theorem directAttempts_settled (primaryError lastError : String)
    (chain : List Entry) :
    LogsSettled
      (directAttempts gateway request primaryError lastError chain) := by
  have hall : allFallbacksFailed ≠ "" := by decide
  induction chain generalizing lastError with
  | nil =>
      exact Logs.pure ⟨_, rfl, settles_nil (append_ne_empty hall _)⟩
  | cons spec rest ih =>
      rw [directAttempts]
      refine Logs.ite (fun _ => ih _) fun _ => ?_
      apply (quiet_isHealthy _).bind
      intro up
      refine Logs.ite (fun _ => ?_) fun _ => ih _
      apply logsSettled_attempt (logs_attempt_fallbackCall _ _ _ _)
      · exact fun result => ⟨_, rfl, rfl⟩
      · intro e calls hcalls
        apply (quiet_markProviderFromError _ e).bind
        exact fun _ => (ih e).after hcalls

theorem directWithModelFallback_settled :
    LogsSettled (directWithModelFallback gateway request) := by
  apply Logs.bind (logs_directCall _)
  · intro result calls hcall
    obtain ⟨call, rfl, hresult⟩ := hcall
    cases hresult
    have hguard := guardEmpty_directResult call
    refine Logs.ite (fun hfallback => ?_) fun _ => ?_
    · apply (directAttempts_settled gateway request _ _ _).after
      intro c hc
      rw [List.mem_singleton.mp hc]
      exact hguard.mp hfallback.1
    · exact Logs.pure ⟨_, rfl, Settles.single hguard⟩
  · intro e calls hcall
    obtain ⟨_, -, hout⟩ := hcall
    cases hout

theorem delegatedOrDirect_settled :
    LogsSettled (delegatedOrDirect gateway request) := by
  have hdirect := directWithModelFallback_settled gateway request
  unfold delegatedOrDirect
  refine Logs.ite (fun _ => ?_) fun _ => hdirect
  apply Logs.bind (logs_directCall _)
  · intro result calls hcall
    obtain ⟨call, rfl, hresult⟩ := hcall
    cases hresult
    have hguard := guardEmpty_directResult call
    refine Logs.ite (fun _ => ?_) fun hnot => ?_
    · apply Logs.pure
      exact ⟨_, rfl, (Settles.single hguard).congr rfl⟩
    · have hfails : ∀ c ∈ [call], Fails c := by
        intro c hc
        rw [List.mem_singleton.mp hc]
        exact hguard.mp fun herror => hnot (Or.inl herror)
      apply Logs.bind (hdirect.after hfails)
      · intro direct rest hrest
        obtain ⟨_, hout, hsettles⟩ := hrest
        cases hout
        apply Logs.pure
        refine ⟨_, rfl, ?_⟩
        rw [List.append_nil]
        split
        · exact hsettles.congr rfl
        · exact hsettles
      · intro e rest hrest
        obtain ⟨_, hout, _⟩ := hrest
        cases hout
  · intro e calls hcall
    obtain ⟨_, -, hout⟩ := hcall
    cases hout

theorem dispatch_settled : LogsSettled (dispatch gateway request) :=
  Logs.ite (fun _ => gatewayAttempts_settled gateway request _ _ _)
    fun _ => delegatedOrDirect_settled gateway request

end Paths

/-- No call, or calls that settle with an end that agrees. -/
def Answered (calls : List (Except String Answer))
    (out : Except String Response) : Prop :=
  calls = [] ∨ ∃ result, Settles calls result ∧
    ((∃ handed, out = .ok handed ∧ handed.error = result.error) ∨
      result.error = "" ∧ ∃ e, out = .error e)

theorem Quiet.answered {x : GatewayScript Response} (h : Quiet x) :
    Logs x Answered :=
  Logs.mono h fun _ _ hout => Or.inl hout.1

section Chat

variable (sha256 : List Char → String) (gateway : AIGateway)
  (request : Request)

theorem logs_settleResult (key : String) (result : Response) :
    Logs (settleResult gateway request key result) fun calls out =>
      calls = [] ∧ (out = .ok result ∨ result.error = "" ∧ ∃ e, out = .error e)
    := by
  have hdone : Logs (pure result : GatewayScript Response) fun calls out =>
      calls = [] ∧ (out = .ok result ∨
        result.error = "" ∧ ∃ e, out = .error e) :=
    Logs.pure ⟨rfl, Or.inl rfl⟩
  unfold settleResult
  refine Logs.ite (fun _ => ?_) fun hsuccess => ?_
  · refine Logs.ite (fun _ => ?_) fun _ => hdone
    exact (quiet_markProviderFromError _ _).bind fun _ => hdone
  · have herror : result.error = "" := not_not.mp hsuccess
    apply Quiet.bind (quiet_ask rfl)
    intro _
    apply Quiet.bind (quiet_ask rfl)
    intro _
    refine Logs.ite (fun _ => ?_) fun _ => hdone
    intro log
    refine ⟨trivial, ?_⟩
    intro stored _
    cases stored with
    | ok _ => exact ⟨[], (List.append_nil log).symm, rfl, Or.inl rfl⟩
    | error e =>
        exact ⟨[], (List.append_nil log).symm, rfl, Or.inr ⟨herror, e, rfl⟩⟩

theorem quiet_rateLimitReached : Quiet (rateLimitReached gateway) := by
  refine Logs.ite (fun _ => ?_) fun _ => quiet_pure _
  apply Quiet.bind (quiet_ask rfl)
  exact fun _ => quiet_pure _

theorem admitted_answered (key : String) :
    Logs (admitted gateway request key) Answered := by
  apply (quiet_rateLimitReached gateway).bind
  intro reached
  apply Logs.ite (fun _ => (quiet_pure _).answered)
  intro _
  apply Quiet.bind (quiet_ask rfl)
  intro ok
  refine Logs.ite (fun _ => ?_) fun _ => (quiet_pure _).answered
  apply Logs.bind (dispatch_settled gateway request)
  · intro result calls hcalls
    obtain ⟨_, hresult, hsettles⟩ := hcalls
    cases hresult
    apply Logs.mono (logs_settleResult gateway request key result)
    rintro rest out ⟨rfl, hout⟩
    rw [List.append_nil]
    refine Or.inr ⟨result, hsettles, ?_⟩
    rcases hout with rfl | hraised
    · exact Or.inl ⟨result, rfl, rfl⟩
    · exact Or.inr hraised
  · intro e calls hcalls
    obtain ⟨_, hout, _⟩ := hcalls
    cases hout

theorem chat_answered (h : gateway.enabled = true) :
    Logs (chat sha256 gateway request) Answered := by
  unfold chat
  rw [if_pos h]
  split
  · exact fun log => ⟨[], (List.append_nil log).symm, Or.inl rfl⟩
  · apply (quiet_reroute request).bind
    intro request
    unfold lookedUp
    dsimp only
    refine Logs.ite (fun _ => ?_) fun _ => admitted_answered gateway request _
    apply Quiet.bind (quiet_ask rfl)
    intro cached
    cases cached with
    | some value => exact (quiet_pure _).answered
    | none => exact admitted_answered gateway request _
  · exact (quiet_pure _).answered

def noteCalls :
    Serve GatewayOp GatewayReply (List (Except String Answer)) :=
  fun log op reply => (reply, callLog.next log op reply)

/-- What a run of `chat` returns or raises, and the calls that it makes. -/
def runChat (oracle : Nat → GatewayOracle) :
    Except String Response × List (Except String Answer) :=
  let run := (chat sha256 gateway request ()).exec noteCalls oracle 0 []
  (run.1.1, run.2)

theorem runChat_of_logs {oracle : Nat → GatewayOracle}
    {Q : List (Except String Answer) → Except String Response → Prop}
    (h : Logs (chat sha256 gateway request) Q) :
    Q (runChat sha256 gateway request oracle).2
      (runChat sha256 gateway request oracle).1 := by
  obtain ⟨log, hlog, calls, hcalls, hQ⟩ :=
    Prog.exec_of_wp noteCalls oracle (fun log noted => log = noted)
      (fun n w g op hsame _ => ⟨trivial, by rw [hsame]; rfl⟩) _ 0 [] rfl (h [])
  rw [List.nil_append] at hcalls
  rw [runChat, hlog, hcalls]
  exact hQ

/-- No call follows, and the run does not return an error. -/
def Spares (out : Except String Response)
    (later : List (Except String Answer)) : Prop :=
  later = [] ∧ ∀ result, out = .ok result → result.error = ""

/-- A usable response is spared iff the guard knows it or is not used at all. -/
theorem usable_spared_iff (oracle : Nat → GatewayOracle)
    (loads : String → Option Value) (model : String)
    (response : ProviderResponse) (answer : Answer)
    (hanswer : response.normalised loads model = .ok answer)
    (earlier later : List (Except String Answer))
    (hcalls : (runChat sha256 gateway request oracle).2 =
      earlier ++ .ok answer :: later) :
    (response.Usable →
        Spares (runChat sha256 gateway request oracle).1 later) ↔
      (response.Usable →
        gateway.enabled = false ∨ response.Recognised) := by
  refine imp_congr_right fun _ => ?_
  cases henabled : gateway.enabled with
  | false =>
      have hchat : chat sha256 gateway request = directCall request.sent := by
        rw [chat, henabled]
        rfl
      obtain ⟨call, hcall, hout⟩ :=
        @runChat_of_logs sha256 gateway request oracle _
          (hchat ▸ logs_directCall request.sent)
      rw [hcalls] at hcall
      have hsplit := (List.append_eq_singleton_iff.mp hcall).resolve_right
        fun h => List.cons_ne_nil _ _ h.2
      obtain ⟨rfl, rfl⟩ := List.cons.inj hsplit.2
      refine iff_of_true ⟨rfl, ?_⟩ (Or.inl rfl)
      intro result hresult
      rw [hout] at hresult
      cases hresult
      exact (ProviderResponse.normalised_spec hanswer).1
  | true =>
      have hrun := @runChat_of_logs sha256 gateway request oracle _
        (chat_answered sha256 gateway request henabled)
      rw [hcalls] at hrun
      have hfails := fails_normalised hanswer
      rcases hrun with hnone | ⟨result, hsettles, hout⟩
      · exact absurd hnone (by simp)
      · have hspares := hsettles.spares_iff.trans hfails
        simp only [Bool.true_eq_false, false_or]
        rw [← hspares, Spares]
        refine and_congr_right fun _ => ?_
        rcases hout with ⟨handed, hhanded, hsame⟩ | ⟨herror, e, he⟩
        · rw [hhanded, ← hsame]
          simp
        · rw [he]
          simp [herror]

end Chat

namespace EmptyContentWitness

def callTurn (text : Option String) : ProviderResponse :=
  .google { candidates := some [{
    parts := some [{ text, functionCall := some { name := "read_file" } }]
    finishReason := some (some "STOP") }] }

def turnAnswer (text : String) : Answer where
  content := some text
  model := "gemini-2.5-pro"
  stopReason := some "STOP"
  toolCalls := [toolCallValue "" "read_file" []]

def request : Request where
  messages := []
  model := "gemini-2.5-pro"
  provider := "google"

def fallbackModel : Entry where
  provider := some "openai"
  model := some "gpt-4o"

def gateway : AIGateway where
  cacheEnabled := false
  rateLimitEnabled := false
  fallback := { chain := [fallbackModel] }
  dlp := { secretPatterns := [], piiPatterns := [] }

def other : Answer where
  content := some "Hello."
  model := "gpt-4o"
  stopReason := some "stop"

def answers (text : String) (_ : Nat) : GatewayOracle
  | .healthy _ => true
  | .markUnhealthy _ _ => ()
  | .warnRerouted _ _ => ()
  | .call _ sent _ =>
      .ok (if sent.provider = "google" then turnAnswer text else other)
  | .cacheGet _ => none
  | .cacheSet _ _ => .ok ()
  | .requestsInLastMinute => 0
  | .recordRequest _ _ _ _ => ()
  | .spendCheck _ _ => true
  | .spendRecord _ _ => ()

def run (text : String) :
    Except String Response × List (Except String Answer) :=
  runChat (fun _ => "") gateway request (answers text)

/-- The function call is thrown away and the other model is asked. -/
theorem function_call_discarded :
    (callTurn none).normalised (fun _ => none) "gemini-2.5-pro" =
        .ok (turnAnswer "") ∧
      (callTurn none).Usable ∧
      (run "").2 = [.ok (turnAnswer ""), .ok other] ∧
      ¬ Spares (run "").1 [.ok other] := by
  refine ⟨rfl, by decide, rfl, ?_⟩
  exact fun h => List.cons_ne_nil _ _ h.1

/-- With a text beside it, it is handed on. -/
theorem function_call_kept :
    ((callTurn (some "Reading.")).Usable →
        Spares (run "Reading.").1 []) ↔
      ((callTurn (some "Reading.")).Usable →
        gateway.enabled = false ∨ (callTurn (some "Reading.")).Recognised) :=
  usable_spared_iff (fun _ => "") gateway request (answers "Reading.")
    (fun _ => none) "gemini-2.5-pro" (callTurn (some "Reading."))
    (turnAnswer "Reading.") rfl [] [] rfl

end EmptyContentWitness

end Voly.Gateway
