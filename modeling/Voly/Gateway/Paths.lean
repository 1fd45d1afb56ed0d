/-
The two fallback paths side by side: the (provider, model) pairs that each of
them calls.
-/
import Voly.Gateway.Fallback
import Voly.Candidates.Walk

namespace Voly.Gateway

open Python Interaction Candidates

/-- The providers' status at the start and what each call comes to. -/
structure Providers where
  healthy : String → Bool
  answer : String → String → Except String Answer

/-- What a path leaves behind: the providers it excluded and the pairs it
called. -/
structure Trail where
  excluded : List String := []
  called : List (String × String) := []

/-- The providers answer; the health checker takes exclusions into account. -/
def Providers.serve (providers : Providers) (trail : Trail) :
    (op : GatewayOp) → GatewayReply op × Trail
  | .healthy p =>
      (providers.healthy p && decide (p ∉ trail.excluded), trail)
  | .markUnhealthy p _ =>
      ((), { trail with excluded := p :: trail.excluded })
  | .warnRerouted _ _ => ((), trail)
  | .call _ sent _ =>
      (providers.answer sent.provider sent.model,
        { trail with
          called := trail.called ++ [(sent.provider, sent.model)] })
  | .cacheGet _ => (none, trail)
  | .cacheSet _ _ => (.ok (), trail)
  | .requestsInLastMinute => (0, trail)
  | .recordRequest _ _ _ _ => ((), trail)
  | .spendCheck _ _ => (true, trail)
  | .spendRecord _ _ => ((), trail)

/-- The pairs that a path calls, in order. -/
def Providers.attempts (providers : Providers)
    (path : GatewayScript Response) : List (String × String) :=
  (Script.eval providers.serve path () {}).2.called

def singleOutcome : Except String Answer → Except String Response
  | .ok answer => outcome answer.toResponse
  | .error e => .error e

def directOutcome (answer : Except String Answer) : Except String Response :=
  outcome (directResult answer)

/-- The error text, if there is one. -/
def errorOf : Except String Response → Option String
  | .ok _ => none
  | .error e => some e

/-- The call does not give a usable answer. -/
def Providers.loses (providers : Providers) (pair : String × String) : Bool :=
  (errorOf (singleOutcome (providers.answer pair.1 pair.2))).isSome

/-- The call ends in an error that excludes its provider. -/
def Providers.bars (providers : Providers) (pair : String × String) : Bool :=
  (errorOf (singleOutcome (providers.answer pair.1 pair.2))).any terminal

/-- The chain as a walk over pairs, under the excluded providers. -/
def Providers.rules (providers : Providers) :
    Rules (String × String) (List String) where
  usable excluded pair :=
    providers.healthy pair.1 && decide (pair.1 ∉ excluded)
  succeeds pair := !providers.loses pair
  exclude excluded pair :=
    if providers.bars pair = true ∧ strip pair.1 ≠ "" then
      strip pair.1 :: excluded
    else excluded

theorem outcome_failed (e : String) :
    outcome (failed e) = .error (if e = "" then emptyContentText else e) := by
  by_cases he : e = ""
  · subst he
    simp [outcome, guardEmpty, emptyContentError, isEmptyContentResponse,
      failed, legitEmptyStops, emptyContentText]
  · simp [outcome, guardEmpty, emptyContentError, failed, he]

theorem errorOf_directOutcome (answer : Except String Answer) :
    (errorOf (directOutcome answer)).isSome =
      (errorOf (singleOutcome answer)).isSome := by
  cases answer with
  | ok answer => rfl
  | error e =>
      simp [directOutcome, directResult, singleOutcome, outcome_failed,
        errorOf]

theorem terminal_directOutcome (answer : Except String Answer) :
    (errorOf (directOutcome answer)).any terminal =
      (errorOf (singleOutcome answer)).any terminal := by
  cases answer with
  | ok answer => rfl
  | error e =>
      by_cases he : e = ""
      · subst he
        have hdirect : errorOf (directOutcome (.error "")) =
            some emptyContentText := by
          simp [directOutcome, directResult, outcome_failed, errorOf]
        have hsingle : errorOf (singleOutcome (.error "")) = some "" := rfl
        rw [hdirect, hsingle, Option.any_some, Option.any_some,
          terminal_emptyContentText, terminal_empty]
      · simp [directOutcome, directResult, singleOutcome, outcome_failed,
          errorOf, he]

section Comparison

variable (providers : Providers)

def Trail.call (trail : Trail) (pair : String × String) : Trail :=
  { trail with called := trail.called ++ [pair] }

theorem eval_singleCall (sent : Sent) (kwargs : Dict String) (w : Trail) :
    Script.eval providers.serve (attempt (singleCall sent kwargs)) () w =
      ((.ok (singleOutcome (providers.answer sent.provider sent.model)), ()),
        w.call (sent.provider, sent.model)) := by
  have hask : Script.eval providers.serve (singleCall sent kwargs) () w =
      (((providers.answer sent.provider sent.model).map Answer.toResponse,
        ()), w.call (sent.provider, sent.model)) := rfl
  cases hanswer : providers.answer sent.provider sent.model with
  | ok answer =>
      rw [hanswer] at hask
      exact Script.eval_handle_ok _ (Script.eval_bind_ok _ hask)
  | error e =>
      rw [hanswer] at hask
      exact Script.eval_handle_error _ (Script.eval_bind_error _ hask)

theorem eval_direct (sent : Sent) (w : Trail) :
    Script.eval providers.serve (directCall sent) () w =
      ((.ok (directResult (providers.answer sent.provider sent.model)), ()),
        w.call (sent.provider, sent.model)) := rfl

theorem eval_directCall (sent : Sent) (w : Trail) :
    Script.eval providers.serve (attempt (directCall sent)) () w =
      ((.ok (directOutcome (providers.answer sent.provider sent.model)), ()),
        w.call (sent.provider, sent.model)) := by
  exact Script.eval_handle_ok _ (Script.eval_bind_ok _
    (eval_direct providers sent w))

theorem eval_markProviderFromError (p e : String) (w : Trail) :
    Script.eval providers.serve (markProviderFromError p e) () w =
      ((.ok (), ()),
        { w with excluded :=
            if terminal e = true ∧ strip p ≠ "" then strip p :: w.excluded
            else w.excluded }) := by
  unfold markProviderFromError excludeProviderOnGatewayError markUnhealthy
  by_cases hp : p = ""
  · subst hp
    have hstrip : strip "" = "" := rfl
    simp [hstrip]
  by_cases he : e = ""
  · subst he
    simp
  by_cases hterminal : terminal e = true
  · by_cases hstrip : strip p = ""
    · simp [hp, he, hterminal, hstrip]
    · simp [hp, he, hterminal, hstrip]
      rfl
  · simp [hp, he, hterminal]

theorem exclude_eq (pair : String × String) (excluded : List String)
    {e : String} (h : errorOf (singleOutcome
      (providers.answer pair.1 pair.2)) = some e) :
    providers.rules.exclude excluded pair =
      if terminal e = true ∧ strip pair.1 ≠ "" then
        strip pair.1 :: excluded
      else excluded := by
  simp [Providers.rules, Providers.bars, h]

def Entry.pair (entry : Entry) : String × String :=
  (entry.provider.getD "", entry.model.getD "")

/-- Both keys are there, and the provider is not empty. -/
def Entry.Named (entry : Entry) : Prop :=
  ∃ p m, entry = { provider := some p, model := some m } ∧ p ≠ ""

def Entry.Complete (entry : Entry) : Prop :=
  entry.Named ∧ entry.pair.2 ≠ ""

variable (gateway : AIGateway) (request : Request)

theorem gatewayAttempts_called {chain : List Entry}
    (hnamed : ∀ entry ∈ chain, entry.Named) (i : Nat) (lastError : String)
    (w : Trail) :
    (Script.eval providers.serve
      (gatewayAttempts gateway request i lastError chain) () w).2.called =
      w.called ++ providers.rules.walkUntil gateway.fallback.retries i
        w.excluded (chain.map Entry.pair) := by
  induction chain generalizing i lastError w with
  | nil => simp [gatewayAttempts, Rules.walkUntil]
  | cons entry chain ih =>
      obtain ⟨p, m, rfl, hp⟩ := hnamed entry List.mem_cons_self
      have hrest := fun e he => hnamed e (List.mem_cons_of_mem _ he)
      have hup : Script.eval providers.serve (checkNamed p) () w =
          ((.ok (providers.rules.usable w.excluded (p, m)), ()), w) := by
        rw [checkNamed, if_neg hp]
        rfl
      simp only [gatewayAttempts, Option.getD_some, List.map_cons]
      rw [Script.eval_bind_ok _ hup]
      by_cases husable : providers.rules.usable w.excluded (p, m) = true
      · rw [if_pos husable, Script.eval_bind_ok _
          (eval_singleCall providers _ _ w)]
        simp only [Sent.via]
        cases hout : singleOutcome (providers.answer p m) with
        | ok result =>
            have hsucceeds : providers.rules.succeeds (p, m) = true := by
              simp [Providers.rules, Providers.loses, hout, errorOf]
            exact congrArg (w.called ++ ·)
              (Rules.walkUntil_last husable (Or.inl hsucceeds)).symm
        | error e =>
            have herror : errorOf (singleOutcome
                (providers.answer (p, m).1 (p, m).2)) = some e := by
              rw [hout]
              rfl
            have hfails : providers.rules.succeeds (p, m) = false := by
              simp [Providers.rules, Providers.loses, hout, errorOf]
            simp only
            rw [Script.eval_bind_ok _
              (eval_markProviderFromError providers p e _)]
            by_cases hlast : gateway.fallback.retries ≤ i
            · rw [if_pos hlast]
              exact congrArg (w.called ++ ·)
                (Rules.walkUntil_last husable (Or.inr hlast)).symm
            · rw [if_neg hlast, ih hrest, Entry.pair, Option.getD_some,
                Option.getD_some, Rules.walkUntil_call husable hfails hlast,
                exclude_eq providers (p, m) w.excluded herror]
              simp [Trail.call]
      · have hskip : providers.rules.usable w.excluded (p, m) = false := by
          simpa using husable
        rw [if_neg husable, ih hrest]
        exact congrArg (w.called ++ ·) (Rules.walkUntil_skip hskip).symm

theorem eval_fallbackCall (p m : String) (w : Trail) :
    ∃ out, Script.eval providers.serve
        (attempt (fallbackCall gateway request p m)) () w =
          ((.ok out, ()), w.call (p, m)) ∧
      (errorOf out).isSome = providers.loses (p, m) ∧
      (errorOf out).any terminal = providers.bars (p, m) := by
  unfold fallbackCall
  by_cases hcf : gateway.cloudflareEnabled = true ∧ p ∈ cfProviders
  · rw [if_pos hcf]
    exact ⟨_, eval_singleCall providers _ _ w, rfl, rfl⟩
  · rw [if_neg hcf]
    exact ⟨_, eval_directCall providers _ w, errorOf_directOutcome _,
      terminal_directOutcome _⟩

theorem directAttempts_called {chain : List Entry}
    (hcomplete : ∀ entry ∈ chain, entry.Complete)
    (primaryError lastError : String) (w : Trail) :
    (Script.eval providers.serve
      (directAttempts gateway request primaryError lastError chain) ()
      w).2.called =
      w.called ++
        providers.rules.walk w.excluded (chain.map Entry.pair) := by
  induction chain generalizing lastError w with
  | nil => simp [directAttempts, Rules.walk]
  | cons entry chain ih =>
      obtain ⟨⟨p, m, rfl, hp⟩, hm⟩ := hcomplete entry List.mem_cons_self
      have hrest := fun e he => hcomplete e (List.mem_cons_of_mem _ he)
      have hnamed : ¬(p = "" ∨ m = "") := by
        rintro (hempty | hempty)
        · exact hp hempty
        · exact hm hempty
      have hup : Script.eval providers.serve (isHealthy p) () w =
          ((.ok (providers.rules.usable w.excluded (p, m)), ()), w) := rfl
      simp only [directAttempts, Option.getD_some, List.map_cons]
      rw [if_neg hnamed, Script.eval_bind_ok _ hup]
      by_cases husable : providers.rules.usable w.excluded (p, m) = true
      · obtain ⟨out, heval, hsome, hterminal⟩ :=
          eval_fallbackCall providers gateway request p m w
        rw [if_pos husable, Script.eval_bind_ok _ heval]
        cases out with
        | ok result =>
            have hsucceeds : providers.rules.succeeds (p, m) = true := by
              change (!providers.loses (p, m)) = true
              rw [← hsome]
              rfl
            exact congrArg (w.called ++ ·)
              (Rules.walk_done husable hsucceeds).symm
        | error e =>
            have hfails : providers.rules.succeeds (p, m) = false := by
              change (!providers.loses (p, m)) = false
              rw [← hsome]
              rfl
            have hbars : providers.bars (p, m) = terminal e := hterminal.symm
            simp only
            rw [Script.eval_bind_ok _
              (eval_markProviderFromError providers p e _), ih hrest,
              Entry.pair, Option.getD_some, Option.getD_some,
              Rules.walk_call husable hfails]
            simp [Trail.call, Providers.rules, hbars]
      · have hskip : providers.rules.usable w.excluded (p, m) = false := by
          simpa using husable
        rw [if_neg husable, ih hrest]
        exact congrArg (w.called ++ ·) (Rules.walk_skip hskip).symm

theorem guardEmpty_error (result : Response) :
    (guardEmpty result).error ≠ "" ↔
      (errorOf (outcome result)).isSome = true := by
  unfold outcome
  by_cases h : (guardEmpty result).error = ""
  · simp [h, errorOf]
  · simp [h, errorOf]

def FallbackChain.pairs (fallback : FallbackChain) : List (String × String) :=
  fallback.chain.map Entry.pair

def Request.primary (request : Request) : String × String :=
  (request.provider, request.model)

theorem sliceTo_map {A B : Type} (f : A → B) (n : Int) (xs : List A) :
    sliceTo n (xs.map f) = (sliceTo n xs).map f := by
  unfold sliceTo
  by_cases h : 0 ≤ n
  · simp [h, List.map_take]
  · simp [h, List.map_take]

theorem gatewayCall_attempts (hprimary : request.provider ≠ "")
    (hcomplete : ∀ entry ∈ gateway.fallback.chain, entry.Complete) :
    providers.attempts (gatewayCall gateway request) =
      providers.rules.walkUntil gateway.fallback.retries 0 []
        (request.primary :: gateway.fallback.pairs) := by
  refine (gatewayAttempts_called providers gateway request ?_ 0 "None"
    {}).trans (List.nil_append _)
  intro entry hentry
  rcases List.mem_cons.mp hentry with rfl | hentry
  · exact ⟨request.provider, request.model, rfl, hprimary⟩
  · exact (hcomplete entry hentry).1

theorem directWithModelFallback_attempts
    (hcomplete : ∀ entry ∈ gateway.fallback.chain, entry.Complete) :
    providers.attempts (directWithModelFallback gateway request) =
      request.primary ::
        if providers.loses request.primary = true ∧
            gateway.fallback.enabled = true ∧ gateway.fallback.pairs ≠ [] then
          providers.rules.walk []
            (sliceTo gateway.fallback.retries gateway.fallback.pairs)
        else [] := by
  have hslice : ∀ entry ∈
      sliceTo gateway.fallback.retries gateway.fallback.chain,
      entry.Complete := by
    intro entry hentry
    unfold sliceTo at hentry
    split at hentry
    · exact hcomplete entry (List.mem_of_mem_take hentry)
    · exact hcomplete entry (List.mem_of_mem_take hentry)
  have hloses : providers.loses request.primary =
      (errorOf (directOutcome (providers.answer request.provider
        request.model))).isSome :=
    (errorOf_directOutcome _).symm
  unfold Providers.attempts directWithModelFallback
  rw [Script.eval_bind_ok _ (eval_direct providers request.sent {})]
  have hguard := guardEmpty_error (directResult
    (providers.answer request.provider request.model))
  change _ ↔ (errorOf (directOutcome _)).isSome = true at hguard
  rw [← hloses] at hguard
  have hpairs : gateway.fallback.chain ≠ [] ↔ gateway.fallback.pairs ≠ [] := by
    simp [FallbackChain.pairs]
  dsimp only
  by_cases hfallback : (guardEmpty (directResult (providers.answer
      request.sent.provider request.sent.model))).error ≠ "" ∧
      gateway.fallback.enabled = true ∧ gateway.fallback.chain ≠ []
  · rw [if_pos hfallback, if_pos ⟨hguard.mp hfallback.1, hfallback.2.1,
      hpairs.mp hfallback.2.2⟩]
    refine (directAttempts_called providers gateway request hslice _ _
      _).trans ?_
    rw [FallbackChain.pairs, sliceTo_map]
    rfl
  · have hnone : ¬(providers.loses request.primary = true ∧
        gateway.fallback.enabled = true ∧ gateway.fallback.pairs ≠ []) := by
      rintro ⟨hlost, henabled, hchain⟩
      exact hfallback ⟨hguard.mpr hlost, henabled, hpairs.mpr hchain⟩
    rw [if_neg hfallback, if_neg hnone]
    rfl

/-- No entry at the primary's provider is tried while that provider is usable.
-/
def Providers.NotRetried (providers : Providers) (p : String)
    (window : List (String × String)) : Prop :=
  ∀ before pair rest, window = before ++ pair :: rest → pair.1 = p →
    providers.rules.answered [] before = false →
    providers.rules.usable (providers.rules.after [] before) pair = false

/-- A usable entry beyond the next one means that the next one is usable. -/
def Providers.NotOverrun (providers : Providers) (excluded : List String)
    (k : Nat) (pairs : List (String × String)) : Prop :=
  providers.rules.answered excluded (pairs.take k) = false →
    ∀ pair ∈ pairs.drop (k + 1),
      providers.rules.usable
        (providers.rules.after excluded (pairs.take k)) pair = true →
      ∃ next, pairs[k]? = some next ∧
        providers.rules.usable
          (providers.rules.after excluded (pairs.take k)) next = true

/-- The condition under which both paths call the same pairs. -/
def PathsAgree (providers : Providers) (fallback : FallbackChain)
    (primary : String × String) : Prop :=
  let rules := providers.rules
  let excluded := rules.exclude [] primary
  let k := (fallback.retries - 1).toNat
  if providers.loses primary = false then True
  else if fallback.enabled = false ∨ fallback.pairs = [] then
    fallback.retries ≤ 0 ∨
      ∀ pair ∈ fallback.pairs, rules.usable excluded pair = false
  else if fallback.retries ≤ 0 then
    ∀ pair ∈ sliceTo fallback.retries fallback.pairs,
      rules.usable [] pair = false
  else
    (providers.bars primary = true →
      providers.NotRetried primary.1 (fallback.pairs.take (k + 1))) ∧
    providers.NotOverrun excluded k fallback.pairs

theorem notRetried_iff (p : String) (window : List (String × String)) :
    providers.NotRetried p window ↔
      ∀ pair ∈ providers.rules.walk [] window, pair.1 ≠ p := by
  constructor
  · intro h pair hpair hp
    obtain ⟨before, rest, hwindow, hanswered, husable⟩ :=
      (Rules.mem_walk_iff [] window pair).mp hpair
    rw [h before pair rest hwindow hp hanswered] at husable
    cases husable
  · intro h before pair rest hwindow hp hanswered
    by_contra husable
    refine h pair ?_ hp
    exact (Rules.mem_walk_iff [] window pair).mpr
      ⟨before, rest, hwindow, hanswered, by simpa using husable⟩

/-- Excluding a provider changes nothing for a walk that calls no pair of it. -/
theorem walk_exclude {p : String} {window : List (String × String)}
    (h : ∀ pair ∈ providers.rules.walk [] window, pair.1 ≠ p) :
    providers.rules.walk [p] window = providers.rules.walk [] window := by
  refine (Rules.walk_restrict (P := fun pair => decide (pair.1 ≠ p))
    (R := fun excluded excluded' =>
      ∀ q, q ∈ excluded' ↔ q = p ∨ q ∈ excluded) ?_ ?_ ?_ window ?_).1
  · intro excluded excluded' pair hR
    simp [Providers.rules, hR, Bool.and_assoc, Bool.and_comm]
  · intro excluded excluded' pair hR q
    simp only [Providers.rules]
    split
    · rw [List.mem_cons, List.mem_cons, hR, or_left_comm]
    · exact hR q
  · simp
  · intro pair hpair
    exact decide_eq_true (h pair hpair)

theorem walkUntil_avoids {p : String} (n : Int) (i : Nat)
    (l : List (String × String)) :
    ∀ pair ∈ providers.rules.walkUntil n i [p] l, pair.1 ≠ p := by
  refine Rules.walkUntil_forall (I := fun excluded => p ∈ excluded) ?_ ?_
    (List.mem_singleton_self p) l
  · rintro excluded pair hp husable rfl
    simp [Providers.rules, hp] at husable
  · intro excluded pair hp
    simp only [Providers.rules]
    split
    · exact List.mem_cons_of_mem _ hp
    · exact hp

theorem window_agree_iff (p : String) (k : Nat)
    (pairs : List (String × String)) :
    providers.rules.walkUntil (1 + k : Nat) 1 [p] pairs =
        providers.rules.walk [] (pairs.take (k + 1)) ↔
      providers.NotRetried p (pairs.take (k + 1)) ∧
        providers.NotOverrun [p] k pairs := by
  have hsame : (∀ pair ∈ providers.rules.walk [] (pairs.take (k + 1)),
      pair.1 ≠ p) →
      (providers.rules.walkUntil (1 + k : Nat) 1 [p] pairs =
        providers.rules.walk [] (pairs.take (k + 1)) ↔
        providers.NotOverrun [p] k pairs) := by
    intro havoids
    rw [← walk_exclude providers havoids]
    exact Rules.walkUntil_eq_walk_iff 1 k [p] pairs
  rw [notRetried_iff]
  constructor
  · intro h
    have havoids := walkUntil_avoids providers (p := p) (1 + k : Nat) 1 pairs
    rw [h] at havoids
    exact ⟨havoids, (hsame havoids).mp h⟩
  · rintro ⟨havoids, hoverrun⟩
    exact (hsame havoids).mpr hoverrun

theorem strip_cfProvider {p : String} (h : p ∈ cfProviders) :
    strip p = p := by
  have hall : ∀ q ∈ cfProviders, strip q = q := by decide +kernel
  exact hall p h

theorem exclude_primary (hcf : request.provider ∈ cfProviders) :
    providers.rules.exclude [] request.primary =
      if providers.bars request.primary = true then [request.provider]
      else [] := by
  have hprimary : strip request.provider ≠ "" := by
    rw [strip_cfProvider hcf]
    rintro hempty
    rw [hempty] at hcf
    revert hcf
    decide
  have hexclude : providers.rules.exclude [] request.primary =
      if providers.bars request.primary = true ∧ strip request.provider ≠ ""
        then [strip request.provider] else [] := rfl
  by_cases hbars : providers.bars request.primary = true
  · rw [hexclude, if_pos ⟨hbars, hprimary⟩, if_pos hbars,
      strip_cfProvider hcf]
  · rw [hexclude, if_neg (fun h => hbars h.1), if_neg hbars]

theorem positive_retries_agree_iff (hcf : request.provider ∈ cfProviders)
    (k : Nat) (pairs : List (String × String)) :
    providers.rules.walkUntil (1 + k : Nat) 1
          (providers.rules.exclude [] request.primary) pairs =
        providers.rules.walk [] (pairs.take (k + 1)) ↔
      (providers.bars request.primary = true →
        providers.NotRetried request.primary.1 (pairs.take (k + 1))) ∧
      providers.NotOverrun (providers.rules.exclude [] request.primary) k
        pairs := by
  rw [exclude_primary providers request hcf]
  by_cases hbars : providers.bars request.primary = true
  · rw [if_pos hbars, window_agree_iff providers request.provider k pairs]
    constructor
    · rintro ⟨hretried, hoverrun⟩
      exact ⟨fun _ => hretried, hoverrun⟩
    · rintro ⟨hretried, hoverrun⟩
      exact ⟨hretried hbars, hoverrun⟩
  · rw [if_neg hbars]
    refine (Rules.walkUntil_eq_walk_iff 1 k [] pairs).trans ?_
    constructor
    · intro hoverrun
      exact ⟨fun h => (hbars h).elim, hoverrun⟩
    · rintro ⟨_, hoverrun⟩
      exact hoverrun

/-- The paths call the same pairs exactly under the condition. -/
theorem fallback_paths_agree_iff (hcf : request.provider ∈ cfProviders)
    (hcomplete : ∀ entry ∈ gateway.fallback.chain, entry.Complete)
    (hhealthy : providers.healthy request.provider = true) :
    providers.attempts (gatewayCall gateway request) =
        providers.attempts (directWithModelFallback gateway request) ↔
      PathsAgree providers gateway.fallback request.primary := by
  have hprimary : request.provider ≠ "" := by
    intro hempty
    rw [hempty] at hcf
    revert hcf
    decide
  rw [gatewayCall_attempts providers gateway request hprimary hcomplete,
    directWithModelFallback_attempts providers gateway request hcomplete]
  have husable : providers.rules.usable [] request.primary = true := by
    simp [Providers.rules, Request.primary, hhealthy]
  simp only [PathsAgree]
  by_cases hloses : providers.loses request.primary = true
  · have hfails : providers.rules.succeeds request.primary = false := by
      simp [Providers.rules, hloses]
    have hlost : ¬providers.loses request.primary = false := by
      simp [hloses]
    rw [if_neg hlost]
    by_cases hoff : gateway.fallback.enabled = false ∨
        gateway.fallback.pairs = []
    · have hnone : ¬(providers.loses request.primary = true ∧
          gateway.fallback.enabled = true ∧ gateway.fallback.pairs ≠ []) := by
        rintro ⟨_, henabled, hpairs⟩
        rcases hoff with hoff | hoff
        · rw [henabled] at hoff
          cases hoff
        · exact hpairs hoff
      rw [if_pos hoff, if_neg hnone]
      by_cases hretries : gateway.fallback.retries ≤ 0
      · rw [Rules.walkUntil_last husable (Or.inr (by simpa using hretries))]
        simp [hretries]
      · rw [Rules.walkUntil_call husable hfails (by simpa using hretries),
          List.cons.injEq, Rules.walkUntil_eq_nil_iff]
        simp [hretries]
    · obtain ⟨henabled, hpairs⟩ := not_or.mp hoff
      rw [if_neg hoff, if_pos ⟨hloses, by simpa using henabled, hpairs⟩]
      by_cases hretries : gateway.fallback.retries ≤ 0
      · rw [Rules.walkUntil_last husable (Or.inr (by simpa using hretries)),
          if_pos hretries, List.cons.injEq, eq_comm (a := ([] : List _)),
          Rules.walk_eq_nil_iff]
        simp
      · rw [Rules.walkUntil_call husable hfails (by simpa using hretries),
          if_neg hretries, List.cons.injEq]
        have hcount : gateway.fallback.retries =
            ((1 + (gateway.fallback.retries - 1).toNat : Nat) : Int) := by
          omega
        have hwindow : sliceTo gateway.fallback.retries gateway.fallback.pairs =
            gateway.fallback.pairs.take
              ((gateway.fallback.retries - 1).toNat + 1) := by
          unfold sliceTo
          rw [if_pos (by omega)]
          congr 1
          omega
        have hagree := positive_retries_agree_iff providers request hcf
          (gateway.fallback.retries - 1).toNat gateway.fallback.pairs
        rw [← hcount] at hagree
        rw [hwindow, ← hagree]
        simp
  · have hkept : providers.loses request.primary = false := by
      simpa using hloses
    have hsucceeds : providers.rules.succeeds request.primary = true := by
      simp [Providers.rules, hkept]
    rw [Rules.walkUntil_last husable (Or.inl hsucceeds)]
    simp [hkept]

end Comparison

namespace PathsWitness

def spent : Providers where
  healthy := fun _ => true
  answer := fun _ _ => .error "insufficient_quota"

def question : Request where
  messages := []
  model := "claude-sonnet-4-6"

def gateway : AIGateway where
  accountId := "acct"
  fallback :=
    { chain := [{ provider := some "deepseek", model := some "deepseek-chat" }]
      enabled := false }
  dlp := { secretPatterns := [], piiPatterns := [] }

theorem disabled_chain_called :
    spent.attempts (gatewayCall gateway question) =
        [("anthropic", "claude-sonnet-4-6"), ("deepseek", "deepseek-chat")] ∧
      spent.attempts (directWithModelFallback gateway question) =
        [("anthropic", "claude-sonnet-4-6")] := by
  decide +kernel

theorem switched_off_agree_iff :
    spent.attempts (gatewayCall gateway question) =
        spent.attempts (directWithModelFallback gateway question) ↔
      PathsAgree spent gateway.fallback question.primary :=
  fallback_paths_agree_iff spent gateway question (by decide)
    (by
      intro entry hentry
      rw [List.mem_singleton.mp hentry]
      exact ⟨⟨"deepseek", "deepseek-chat", rfl, by decide⟩, by decide⟩)
    rfl

end PathsWitness

end Voly.Gateway
