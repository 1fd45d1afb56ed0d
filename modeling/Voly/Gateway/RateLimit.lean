/-
The gateway's rate limit: how many provider calls fall into a window of sixty
seconds.
-/
import Voly.Timing.Window
import Voly.Gateway.Chat

namespace Voly.Gateway

open Python Interaction Timing

/-- The clock at each question, the request times, and the provider calls. -/
structure RateWorld where
  questions : Nat := 0
  requestsLastMinute : List Rat := []
  calls : List Rat := []
deriving DecidableEq

/-- The world after a question at clock reading `now`. -/
def RateWorld.after (w : RateWorld) (now : Rat) : GatewayOp → RateWorld
  | .call _ _ _ =>
      { w with questions := w.questions + 1, calls := w.calls ++ [now] }
  | .recordRequest _ _ _ _ =>
      { w with
        questions := w.questions + 1
        requestsLastMinute := recent 60 now (w.requestsLastMinute ++ [now]) }
  | _ => { w with questions := w.questions + 1 }

/-- The metrics count their requests; other replies are the proposed ones. -/
def RateWorld.serve (clock : Nat → Rat) : Serve GatewayOp GatewayReply RateWorld :=
  fun w op reply =>
    let now := clock w.questions
    let served : GatewayReply op := match op, reply with
      | .requestsInLastMinute, _ =>
          (recent 60 now w.requestsLastMinute).length
      | .healthy _, reply => reply
      | .markUnhealthy _ _, reply => reply
      | .warnRerouted _ _, reply => reply
      | .call _ _ _, reply => reply
      | .cacheGet _, reply => reply
      | .cacheSet _ _, reply => reply
      | .recordRequest _ _ _ _, reply => reply
      | .spendCheck _ _, reply => reply
      | .spendRecord _ _, reply => reply
    (served, w.after now op)

/-- A chat with the replies that are proposed to its questions. -/
structure Exchange where
  request : Request
  oracle : Nat → GatewayOracle

section Session

variable (sha256 : List Char → String) (gateway : AIGateway)
  (clock : Nat → Rat)

def afterChat (w : RateWorld) (exchange : Exchange) : RateWorld :=
  ((chat sha256 gateway exchange.request ()).exec (RateWorld.serve clock)
    exchange.oracle 0 w).2

def afterChats (w : RateWorld) (exchanges : List Exchange) : RateWorld :=
  exchanges.foldl (afterChat sha256 gateway clock) w

end Session

/-- A usable answer: no exception, no error, and content where due. -/
def Usable : Except String Answer → Prop
  | .ok answer => (guardEmpty answer.toResponse).error = ""
  | .error _ => False

/-- Every provider call of the chat returns a usable answer. -/
def Exchange.Answered (exchange : Exchange) : Prop :=
  ∀ n route sent kwargs,
    Usable (exchange.oracle n (.call route sent kwargs))

/-- How far a chat has come: not yet let through, let through, one provider
call made, that call recorded. -/
inductive Admission
  | waiting
  | admitted
  | called
  | recorded
deriving DecidableEq

def Admission.next (requestsPerMinute : Int) (admission : Admission) :
    (op : GatewayOp) → GatewayReply op → Admission
  | .requestsInLastMinute, count =>
      if (count : Int) < requestsPerMinute then .admitted else admission
  | .call _ _ _, _ => .called
  | .recordRequest _ _ _ _, _ => .recorded
  | _, _ => admission

/-- One call after the limit was asked, one record after the call. -/
def Admission.allows (admission : Admission) : GatewayOp → Prop
  | .requestsInLastMinute => admission = .waiting
  | .call _ _ _ => admission = .admitted
  | .recordRequest _ _ _ _ => admission = .called
  | _ => True

def rateProtocol (requestsPerMinute : Int) :
    Protocol GatewayOp GatewayReply Admission where
  allows := Admission.allows
  relies := fun _ op reply =>
    match op, reply with
    | .call _ _ _, reply => Usable reply
    | _, _ => True
  next := Admission.next requestsPerMinute

section Chat

variable {r : Int} {admission : Admission}

/-- One provider call was made and answered, or none was. -/
def Ended (out : Except String Response) (admission : Admission) : Prop :=
  ∃ result, out = .ok result ∧
    (result.error = "" ∧ admission = .called ∨
      result.error ≠ "" ∧ admission = .admitted)

theorem health_unnoticed (r : Int) (admission : Admission) :
    HealthUnnoticed (rateProtocol r) admission :=
  ⟨fun _ => trivial, fun _ _ => rfl⟩

theorem wp_marked_timed (provider error : String) :
    Script.wp (rateProtocol r) (markProviderFromError provider error)
      (fun _ _ after => after = admission) () admission := by
  unfold markProviderFromError
  split
  · rfl
  · unfold excludeProviderOnGatewayError
    split
    · rfl
    · unfold markUnhealthy
      split
      · rfl
      · exact ⟨trivial, fun _ _ => rfl⟩

theorem outcome_usable {answer : Answer} (h : Usable (.ok answer)) :
    outcome answer.toResponse = .ok (guardEmpty answer.toResponse) :=
  if_pos h

theorem wp_singleCall_timed (sent : Sent) (kwargs : Dict String) :
    Script.wp (rateProtocol r) (attempt (singleCall sent kwargs))
      (fun out _ after => ∃ result, out = .ok (.ok result) ∧
        result.error = "" ∧ after = .called) () .admitted := by
  unfold attempt
  rw [Script.wp_handle, Script.wp_bind]
  refine ⟨rfl, ?_⟩
  intro answer husable
  cases answer with
  | ok answer =>
      exact ⟨_, congrArg Except.ok (outcome_usable husable), husable, rfl⟩
  | error e => exact husable.elim

theorem wp_directCall_timed (sent : Sent) :
    Script.wp (rateProtocol r) (directCall sent)
      (fun out _ after => ∃ result, out = .ok result ∧
        (guardEmpty result).error = "" ∧ after = .called) () .admitted := by
  refine ⟨rfl, ?_⟩
  intro answer husable
  cases answer with
  | ok answer => exact ⟨_, rfl, husable, rfl⟩
  | error e => exact husable.elim

variable (gateway : AIGateway) (request : Request)

theorem failed_error_ne {text e : String} (h : text ≠ "") :
    (failed (text ++ e)).error ≠ "" := by
  intro heq
  exact h (String.append_eq_empty_iff.mp heq).1

theorem gatewayAttempts_rate (position : Nat) (lastError : String)
    (chain : List Entry) :
    Script.wp (rateProtocol r)
      (gatewayAttempts gateway request position lastError chain)
      (fun out _ after => Ended out after) () .admitted := by
  induction chain generalizing position lastError with
  | nil =>
      exact ⟨_, rfl, .inr ⟨failed_error_ne (by decide +kernel), rfl⟩⟩
  | cons spec rest ih =>
      rw [gatewayAttempts]
      apply (health_unnoticed r _).wp_checkNamed_bind
      intro up
      cases up with
      | false => exact ih _ _
      | true =>
          rw [if_pos rfl, Script.wp_bind]
          apply Script.wp_mono (wp_singleCall_timed _ _)
          rintro _ _ _ ⟨result, rfl, herror, rfl⟩
          refine ⟨_, rfl, .inl ⟨?_, rfl⟩⟩
          split
          · exact herror
          · exact herror

theorem directWithModelFallback_rate :
    Script.wp (rateProtocol r) (directWithModelFallback gateway request)
      (fun out _ after => Ended out after) () .admitted := by
  unfold directWithModelFallback
  rw [Script.wp_bind]
  apply Script.wp_mono (wp_directCall_timed _)
  rintro _ _ _ ⟨result, rfl, herror, rfl⟩
  dsimp only
  rw [if_neg fun h => h.1 herror]
  exact ⟨_, rfl, .inl ⟨herror, rfl⟩⟩

theorem delegatedOrDirect_rate :
    Script.wp (rateProtocol r) (delegatedOrDirect gateway request)
      (fun out _ after => Ended out after) () .admitted := by
  unfold delegatedOrDirect
  split
  · rw [Script.wp_bind]
    apply Script.wp_mono (wp_directCall_timed _)
    rintro _ _ _ ⟨result, rfl, herror, rfl⟩
    dsimp only
    rw [if_pos (.inl herror)]
    exact ⟨_, rfl, .inl ⟨herror, rfl⟩⟩
  · exact directWithModelFallback_rate gateway request

theorem dispatch_rate :
    Script.wp (rateProtocol r) (dispatch gateway request)
      (fun out _ after => Ended out after) () .admitted := by
  unfold dispatch
  split
  · exact gatewayAttempts_rate gateway request _ _ _
  · exact delegatedOrDirect_rate gateway request

theorem settleResult_rate (key : String) {result : Response}
    (h : result.error = "" ∧ admission = .called ∨
      result.error ≠ "" ∧ admission = .admitted) :
    Script.wp (rateProtocol r) (settleResult gateway request key result)
      (fun _ _ after => after ≠ .called) () admission := by
  unfold settleResult
  rcases h with ⟨hnone, rfl⟩ | ⟨herror, rfl⟩
  · rw [if_neg (not_not_intro hnone)]
    rw [Script.wp_ask_bind]
    refine ⟨trivial, fun _ _ => ?_⟩
    rw [Script.wp_ask_bind]
    refine ⟨rfl, fun _ _ => ?_⟩
    split
    · rw [Script.wp_bind, Script.wp_askOk]
      refine ⟨trivial, ?_⟩
      intro stored _
      cases stored with
      | ok _ => exact nofun
      | error e => exact nofun
    · exact nofun
  · rw [if_pos herror]
    split
    · rw [Script.wp_bind]
      apply Script.wp_mono (wp_marked_timed request.provider result.error)
      rintro out _ _ rfl
      cases out with
      | ok _ => exact nofun
      | error e => exact nofun
    · exact nofun

theorem admitted_rate (key : String) (hlimit : gateway.rateLimitEnabled = true) :
    Script.wp (rateProtocol gateway.requestsPerMinute)
      (admitted gateway request key)
      (fun _ _ after => after ≠ .called) () .waiting := by
  unfold admitted rateLimitReached
  rw [if_pos hlimit, Script.wp_bind, Script.wp_ask_bind]
  refine ⟨rfl, ?_⟩
  intro count _
  rw [Script.wp_pure]
  by_cases hroom : (count : Int) < gateway.requestsPerMinute
  · have hnext : (rateProtocol gateway.requestsPerMinute).next .waiting
        .requestsInLastMinute count = .admitted := if_pos hroom
    rw [hnext, decide_eq_false (by omega)]
    dsimp only
    rw [if_neg Bool.false_ne_true, Script.wp_ask_bind]
    refine ⟨trivial, ?_⟩
    intro ok _
    cases ok with
    | false => exact nofun
    | true =>
        rw [if_pos rfl, Script.wp_bind]
        apply Script.wp_mono (dispatch_rate gateway request)
        rintro _ _ _ ⟨result, rfl, hended⟩
        exact settleResult_rate gateway request key hended
  · have hnext : (rateProtocol gateway.requestsPerMinute).next .waiting
        .requestsInLastMinute count = .waiting := if_neg hroom
    rw [hnext, decide_eq_true (by omega)]
    dsimp only
    rw [if_pos rfl]
    exact nofun

theorem lookedUp_rate (sha256 : List Char → String)
    (hlimit : gateway.rateLimitEnabled = true) :
    Script.wp (rateProtocol gateway.requestsPerMinute)
      (lookedUp sha256 gateway request)
      (fun _ _ after => after ≠ .called) () .waiting := by
  unfold lookedUp
  dsimp only
  split
  · rw [Script.wp_ask_bind]
    refine ⟨trivial, ?_⟩
    intro cached _
    cases cached with
    | some value => exact nofun
    | none => exact admitted_rate gateway request _ hlimit
  · exact admitted_rate gateway request _ hlimit

/-- A chat makes at most one call, after it was let through, and records it. -/
theorem chat_rate (sha256 : List Char → String)
    (henabled : gateway.enabled = true)
    (hlimit : gateway.rateLimitEnabled = true) :
    Script.wp (rateProtocol gateway.requestsPerMinute)
      (chat sha256 gateway request)
      (fun _ _ after => after ≠ .called) () .waiting := by
  unfold chat
  rw [if_pos henabled]
  split
  · exact nofun
  · rw [Script.wp_bind]
    apply (health_unnoticed _ _).reroute request
    · exact lookedUp_rate gateway request sha256 hlimit
    · intro alternative
      exact ⟨trivial,
        lookedUp_rate gateway (request.reroutedTo alternative) sha256 hlimit⟩
  · exact nofun

end Chat

/-- The calls are limited, and after an admission there is room for one more. -/
structure RateWorld.Within (w : RateWorld) (clock : Nat → Rat) (r : Int)
    (admission : Admission) : Prop where
  limited : Limited 60 r.toNat (if admission = .called then 1 else 0)
    (clock w.questions) w.requestsLastMinute w.calls
  room : admission = .admitted →
    ∀ a, clock w.questions < a + 60 → since a w.requestsLastMinute < r.toNat

section Session

variable {clock : Nat → Rat} {r : Int} {w : RateWorld} {admission : Admission}

theorem RateWorld.Within.passed (h : w.Within clock r admission)
    (hclock : Monotone clock) :
    RateWorld.Within { w with questions := w.questions + 1 } clock r
      admission where
  limited := h.limited.later (hclock w.questions.le_succ)
  room hadmitted a ha :=
    h.room hadmitted a (lt_of_le_of_lt (hclock w.questions.le_succ) ha)

theorem RateWorld.Within.serve (h : w.Within clock r admission)
    (hclock : Monotone clock) {op : GatewayOp} (reply : GatewayReply op)
    (hallow : admission.allows op) :
    RateWorld.Within (RateWorld.serve clock w op reply).2 clock r
      (Admission.next r admission op (RateWorld.serve clock w op reply).1) := by
  have hstep : clock w.questions ≤ clock (w.questions + 1) :=
    hclock w.questions.le_succ
  cases op with
  | requestsInLastMinute =>
      have hwaiting : admission = .waiting := hallow
      subst hwaiting
      dsimp only [RateWorld.serve, RateWorld.after, Admission.next]
      split
      · rename_i hroom
        refine ⟨h.limited.later hstep, ?_⟩
        intro _ a ha
        have hle : since a w.requestsLastMinute ≤
            (recent 60 (clock w.questions) w.requestsLastMinute).length :=
          since_le_recent hstep ha
        show since a w.requestsLastMinute < r.toNat
        omega
      · exact h.passed hclock
  | call route sent kwargs =>
      have hadmitted : admission = .admitted := hallow
      subst hadmitted
      have hcalled := h.limited.happen (h.room rfl)
      exact ⟨hcalled.later hstep, nofun⟩
  | recordRequest provider model tokens cost =>
      have hcalled : admission = .called := hallow
      subst hcalled
      exact ⟨h.limited.count.later hstep, nofun⟩
  | _ => exact h.passed hclock

variable (sha256 : List Char → String) (gateway : AIGateway)

theorem afterChat_within (henabled : gateway.enabled = true)
    (hlimit : gateway.rateLimitEnabled = true) (hclock : Monotone clock)
    {exchange : Exchange} (hanswered : exchange.Answered)
    (h : w.Within clock gateway.requestsPerMinute .waiting) :
    (afterChat sha256 gateway clock w exchange).Within clock
      gateway.requestsPerMinute .waiting := by
  obtain ⟨admission, hwithin, hdone⟩ := Prog.exec_of_wp (RateWorld.serve clock)
    exchange.oracle
    (fun w admission => RateWorld.Within w clock gateway.requestsPerMinute
      admission)
    (by
      intro n w admission op hw hallow
      refine ⟨?_, hw.serve hclock _ hallow⟩
      cases op with
      | call route sent kwargs => exact hanswered n route sent kwargs
      | _ => trivial)
    _ 0 w h (chat_rate gateway exchange.request sha256 henabled hlimit)
  refine ⟨?_, nofun⟩
  have hlimited := hwithin.limited
  rw [if_neg hdone] at hlimited
  exact hlimited

/-- With every provider call answered, no window of sixty seconds holds more
calls than the rate limit allows. -/
theorem rate_limit_holds (exchanges : List Exchange)
    (hclock : Monotone clock) (henabled : gateway.enabled = true)
    (hlimit : gateway.rateLimitEnabled = true)
    (hanswered : ∀ exchange ∈ exchanges, exchange.Answered) (a : Rat) :
    within 60 a (afterChats sha256 gateway clock {} exchanges).calls ≤
      gateway.requestsPerMinute.toNat := by
  have hrun : ∀ w : RateWorld,
      w.Within clock gateway.requestsPerMinute .waiting →
      (afterChats sha256 gateway clock w exchanges).Within clock
        gateway.requestsPerMinute .waiting := by
    induction exchanges with
    | nil => exact fun w h => h
    | cons exchange rest ih =>
        intro w h
        have hfirst := hanswered exchange List.mem_cons_self
        have hrest := fun e he =>
          hanswered e (List.mem_cons_of_mem exchange he)
        exact ih hrest _
          (afterChat_within sha256 gateway henabled hlimit hclock hfirst h)
  have hstart : RateWorld.Within {} clock gateway.requestsPerMinute .waiting :=
    ⟨limited_nil _ _ _ _, nofun⟩
  exact (hrun {} hstart).limited.window a

end Session

namespace RateLimitWitness

def gateway : AIGateway where
  cacheEnabled := false
  requestsPerMinute := 1
  dlp := { secretPatterns := [], piiPatterns := [] }

def clock (n : Nat) : Rat := n

theorem clock_monotone : Monotone clock :=
  Nat.mono_cast

def oracle (answer : Except String Answer) : GatewayOracle
  | .healthy _ => true
  | .markUnhealthy _ _ => ()
  | .warnRerouted _ _ => ()
  | .call _ _ _ => answer
  | .cacheGet _ => none
  | .cacheSet _ _ => .ok ()
  | .requestsInLastMinute => 0
  | .recordRequest _ _ _ _ => ()
  | .spendCheck _ _ => true
  | .spendRecord _ _ => ()

def exchange (answer : Except String Answer) : Exchange where
  request := { messages := [], model := "claude-sonnet-4-6" }
  oracle := fun _ => oracle answer

def answered : Exchange := exchange (.ok { content := some "Hello" })

def timedOut : Exchange := exchange (.error "timeout")

theorem answered_answered : answered.Answered := by
  intro n route sent kwargs
  have husable : Usable (.ok { content := some "Hello" }) := by
    rw [Usable]
    decide +kernel
  exact husable

theorem one_call_a_minute :
    within 60 0 (afterChats (fun text => String.ofList text) gateway clock {}
      [answered, answered]).calls ≤ 1 :=
  rate_limit_holds (fun text => String.ofList text) gateway
    [answered, answered] clock_monotone rfl rfl
    (by
      intro exchange hmem
      rw [List.mem_pair] at hmem
      rcases hmem with rfl | rfl
      · exact answered_answered
      · exact answered_answered) 0

/-- Calls that fail are not counted. -/
theorem two_calls_a_minute :
    gateway.enabled = true ∧ gateway.rateLimitEnabled = true ∧
      gateway.requestsPerMinute = 1 ∧ Monotone clock ∧
      within 60 0 (afterChats (fun text => String.ofList text) gateway clock {}
        [timedOut, timedOut]).calls = 2 :=
  ⟨rfl, rfl, rfl, clock_monotone, by decide +kernel⟩

end RateLimitWitness

end Voly.Gateway
