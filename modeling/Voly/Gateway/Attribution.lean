/-
Which provider errors lead to an exclusion, in a session of chat calls.
-/
import Voly.Gateway.Chat

namespace Voly.Gateway

open Python Interaction

/-- What a chat call exchanges; a reply carries its error text. -/
inductive Event where
  | checked (provider : String) (up : Bool)
  | rerouted (alternative : String)
  | admitted
  | replied (provider error : String)
  | marked (provider : String)
  deriving DecidableEq

/-- What the provider said: the error it returned or raised. -/
def errorText : Except String Answer → String
  | .ok answer => answer.error
  | .error e => e

/-- The entries that a question and its reply leave in the log. -/
def observe : (op : GatewayOp) → GatewayReply op → List Event
  | .healthy p, up => [.checked p up]
  | .markUnhealthy p _, _ => [.marked p]
  | .warnRerouted _ alternative, _ => [.rerouted alternative]
  | .call _ sent _, answer => [.replied sent.provider (errorText answer)]
  | .spendCheck _ _, _ => [.admitted]
  | _, _ => []

/-- Any question, any reply, and a log of the exchange. -/
def watch : Protocol GatewayOp GatewayReply (List Event) where
  allows := fun _ _ => True
  relies := fun _ _ _ => True
  next := fun log op reply => log ++ observe op reply

/-- Some call to the provider ended in an error that excludes it, names compared
without blanks around. -/
def Justified (log : List Event) (name : String) : Prop :=
  ∃ provider error, Event.replied provider error ∈ log ∧
    strip provider = name ∧ terminal error = true

/-- Every exclusion in `log` is justified by what came before it. -/
def AttributedAfter (earlier log : List Event) : Prop :=
  ∀ before name after, log = before ++ Event.marked name :: after →
    Justified (earlier ++ before) name

def Attributed (log : List Event) : Prop := AttributedAfter [] log

/-- The provider that a call is for, once it was rerouted. -/
def target (requested : String) (log : List Event) : String :=
  log.foldl (fun provider event =>
    match event with
    | .rerouted alternative => alternative
    | _ => provider) requested

/-- The last word on an admitted call: an error text, or the gateway's refusal.
-/
def wordStep (cf : Bool) : Option (Option String) → Event →
    Option (Option String)
  | _, .admitted => some none
  | some _, .replied _ error =>
      some (if error = "" then none else some error)
  | some word, .checked p false =>
      some (if cf then some ("provider " ++ p ++ " unhealthy") else word)
  | state, _ => state

def wordState (cf : Bool) (log : List Event) : Option (Option String) :=
  log.foldl (wordStep cf) none

/-- The last word reads as an error that excludes a provider. -/
def Damning (cf : Bool) (log : List Event) : Bool :=
  (wordState cf log).join.any terminal

theorem Justified.mono {log log' : List Event} {name : String}
    (h : Justified log name) (hsub : log ⊆ log') : Justified log' name := by
  obtain ⟨provider, error, hmem, hname, hterminal⟩ := h
  exact ⟨provider, error, hsub hmem, hname, hterminal⟩

theorem attributedAfter_nil (earlier : List Event) :
    AttributedAfter earlier [] := by
  intro before name after h
  cases before with
  | nil => cases h
  | cons event before => cases h

theorem attributedAfter_snoc {earlier log : List Event} {event : Event} :
    AttributedAfter earlier (log ++ [event]) ↔
      AttributedAfter earlier log ∧
        ∀ name, event = .marked name → Justified (earlier ++ log) name := by
  constructor
  · intro h
    constructor
    · rintro before name after rfl
      exact h before name (after ++ [event]) (by simp)
    · rintro name rfl
      exact h log name [] rfl
  · rintro ⟨hlog, hevent⟩ before name after h
    rcases List.eq_nil_or_concat after with rfl | ⟨rest, last, rfl⟩
    · obtain ⟨rfl, hlast⟩ := List.append_inj' h rfl
      exact hevent name (List.cons.inj hlast).1
    · rw [List.concat_eq_append, ← List.cons_append, ← List.append_assoc] at h
      obtain ⟨hfront, _⟩ := List.append_inj' h rfl
      exact hlog before name rest hfront

theorem attributedAfter_append {earlier log log' : List Event} :
    AttributedAfter earlier (log ++ log') ↔
      AttributedAfter earlier log ∧ AttributedAfter (earlier ++ log) log' := by
  constructor
  · intro h
    constructor
    · rintro before name after rfl
      exact h before name (after ++ log') (by simp)
    · rintro before name after rfl
      rw [List.append_assoc]
      exact h (log ++ before) name after (by simp)
  · rintro ⟨hlog, hlog'⟩
    induction log' using List.reverseRecOn with
    | nil =>
        rw [List.append_nil]
        exact hlog
    | append_singleton rest event ih =>
        obtain ⟨hrest, hevent⟩ := attributedAfter_snoc.mp hlog'
        rw [← List.append_assoc]
        refine attributedAfter_snoc.mpr ⟨ih hrest, ?_⟩
        intro name hname
        rw [← List.append_assoc]
        exact hevent name hname

theorem AttributedAfter.mono {earlier earlier' log : List Event}
    (h : AttributedAfter earlier log) (hsub : earlier ⊆ earlier') :
    AttributedAfter earlier' log := by
  intro before name after hlog
  refine (h before name after hlog).mono ?_
  intro event hevent
  rcases List.mem_append.mp hevent with hevent | hevent
  · exact List.mem_append_left _ (hsub hevent)
  · exact List.mem_append_right _ hevent

theorem target_append (requested : String) (log log' : List Event) :
    target requested (log ++ log') = target (target requested log) log' :=
  List.foldl_append

theorem wordState_snoc (cf : Bool) (log : List Event) (event : Event) :
    wordState cf (log ++ [event]) = wordStep cf (wordState cf log) event := by
  simp [wordState, List.foldl_append]

/-- The log goes on with attributed exclusions and no rerouting. -/
def Continues (log log' : List Event) : Prop :=
  ∃ rest, log' = log ++ rest ∧ AttributedAfter log rest ∧
    ∀ requested, target requested rest = requested

theorem Continues.refl (log : List Event) : Continues log log :=
  ⟨[], (List.append_nil log).symm, attributedAfter_nil log, fun _ => rfl⟩

theorem Continues.trans {a b c : List Event} (h : Continues a b)
    (h' : Continues b c) : Continues a c := by
  obtain ⟨rest, rfl, hrest, htarget⟩ := h
  obtain ⟨rest', rfl, hrest', htarget'⟩ := h'
  refine ⟨rest ++ rest', List.append_assoc _ _ _,
    attributedAfter_append.mpr ⟨hrest, hrest'⟩, ?_⟩
  intro requested
  rw [target_append, htarget, htarget']

theorem singleton_split {a b : Event} {before after : List Event}
    (h : [a] = before ++ b :: after) : before = [] ∧ a = b := by
  cases before with
  | nil => exact ⟨rfl, (List.cons.inj h).1⟩
  | cons event before =>
      obtain ⟨_, hrest⟩ := List.cons.inj h
      cases before <;> cases hrest

theorem Continues.event (log : List Event) {event : Event}
    (hmark : ∀ name, event ≠ .marked name)
    (hroute : ∀ alternative, event ≠ .rerouted alternative) :
    Continues log (log ++ [event]) := by
  refine ⟨[event], rfl, ?_, ?_⟩
  · intro before name after h
    exact (hmark name (singleton_split h).2).elim
  · intro requested
    cases event with
    | rerouted alternative => exact (hroute alternative rfl).elim
    | _ => rfl

theorem Continues.marked {log : List Event} {name : String}
    (h : Justified log name) : Continues log (log ++ [.marked name]) := by
  refine ⟨[.marked name], rfl, ?_, fun _ => rfl⟩
  intro before other after hlog
  obtain ⟨rfl, hname⟩ := singleton_split hlog
  cases hname
  rw [List.append_nil]
  exact h

theorem damning_replied {cf : Bool} {log : List Event}
    (h : (wordState cf log).isSome = true) (provider error : String) :
    (wordState cf (log ++ [.replied provider error])).isSome = true ∧
      Damning cf (log ++ [.replied provider error]) = terminal error := by
  obtain ⟨word, hword⟩ := Option.isSome_iff_exists.mp h
  rw [Damning, wordState_snoc, hword]
  by_cases herror : error = ""
  · subst herror
    exact ⟨rfl, terminal_empty.symm⟩
  · simp [wordStep, herror]

/-- Not a refusal of the gateway itself. -/
def Response.Plain (result : Response) : Prop :=
  result.spendLimited = false ∧ result.dlpBlocked = false

theorem guardEmpty_plain {result : Response} (h : result.Plain) :
    (guardEmpty result).Plain := by
  unfold guardEmpty emptyContentError
  split
  · exact h
  · exact ⟨rfl, rfl⟩

theorem directResult_plain (answer : Except String Answer) :
    (directResult answer).Plain := by
  cases answer <;> exact ⟨rfl, rfl⟩

/-- What an attempted call hands on agrees with what the provider said. -/
def Tells (out : Except String Response) (error : String) : Prop :=
  match out with
  | .ok result => result.Plain ∧ result.error = "" ∧ terminal error = false
  | .error e => terminal e = terminal error

theorem tells_outcome {result : Response} (h : result.Plain) :
    Tells (outcome result) result.error := by
  have hplain := guardEmpty_plain h
  have hterminal : terminal (guardEmpty result).error =
      terminal result.error := by
    unfold guardEmpty emptyContentError
    by_cases herror : result.error = ""
    · by_cases hempty : isEmptyContentResponse result = false
      · simp [herror, hempty]
      · simp [herror, hempty]
    · simp [herror]
  unfold outcome
  split
  · next hnone =>
      rw [hnone, terminal_empty] at hterminal
      exact ⟨hplain, hnone, hterminal.symm⟩
  · exact hterminal

theorem tells_directResult (answer : Except String Answer) :
    Tells (outcome (directResult answer)) (errorText answer) := by
  have htells := tells_outcome (directResult_plain answer)
  cases answer <;> exact htells

def exclusion (provider error : String) : List Event :=
  if terminal error = true ∧ strip provider ≠ "" then
    [.marked (strip provider)]
  else []

theorem wp_markProviderFromError (provider error : String)
    (log : List Event) {Q : Except String Unit → Unit → List Event → Prop} :
    Script.wp watch (markProviderFromError provider error) Q () log ↔
      Q (.ok ()) () (log ++ exclusion provider error) := by
  unfold markProviderFromError excludeProviderOnGatewayError markUnhealthy
    exclusion
  by_cases hp : provider = ""
  · subst hp
    have hstrip : strip "" = "" := rfl
    simp [hstrip]
  by_cases he : error = ""
  · subst he
    simp
  by_cases hterminal : terminal error = true
  · by_cases hstrip : strip provider = ""
    · simp [hp, he, hterminal, hstrip]
    · simp only [hp, he, hterminal, hstrip, or_self, ite_false,
        ne_eq, not_false_eq_true, and_self, ite_true, reduceCtorEq,
        Script.wp_ask]
      constructor
      · rintro ⟨_, h⟩
        exact h () trivial
      · intro h
        exact ⟨trivial, fun _ _ => h⟩
  · simp [hp, he, hterminal]

theorem continues_exclusion {provider error : String} {log : List Event}
    (h : terminal error = true → Justified log (strip provider)) :
    Continues log (log ++ exclusion provider error) := by
  unfold exclusion
  by_cases hmark : terminal error = true ∧ strip provider ≠ ""
  · rw [if_pos hmark]
    exact Continues.marked (h hmark.1)
  · rw [if_neg hmark, List.append_nil]
    exact Continues.refl log

theorem damning_exclusion (cf : Bool) (provider error : String)
    (log : List Event) :
    wordState cf (log ++ exclusion provider error) = wordState cf log := by
  unfold exclusion
  split
  · rw [wordState_snoc]
    cases wordState cf log <;> rfl
  · rw [List.append_nil]

/-- An attempted call and the reply it leaves behind. -/
def Calls (call : GatewayScript Response) (provider : String) : Prop :=
  ∀ log, Script.wp watch (attempt call)
    (fun out _ log' => ∃ answered error, out = .ok answered ∧
      log' = log ++ [.replied provider error] ∧ Tells answered error) () log

theorem calls_single (sent : Sent) (kwargs : Dict String) :
    Calls (singleCall sent kwargs) sent.provider := by
  intro log
  unfold attempt singleCall
  rw [Script.wp_handle, Script.wp_bind, Script.wp_askOk]
  refine ⟨trivial, ?_⟩
  intro answer _
  cases answer with
  | ok answer =>
      exact ⟨_, answer.error, rfl, rfl, tells_directResult (.ok answer)⟩
  | error e => exact ⟨_, e, rfl, rfl, rfl⟩

theorem calls_direct (sent : Sent) :
    Calls (directCall sent) sent.provider := by
  intro log
  unfold attempt directCall
  rw [Script.wp_handle, Script.wp_bind, Script.wp_ask_bind]
  refine ⟨trivial, ?_⟩
  intro answer _
  exact ⟨_, errorText answer, rfl, rfl, tells_directResult answer⟩

/-- Admitted calls keep the last word in step with their result. -/
def Spoken (cf : Bool) (log : List Event) (lastError : String) : Prop :=
  (wordState cf log).isSome = true ∧ terminal lastError = Damning cf log

theorem Continues.replied (log : List Event) (provider error : String) :
    Continues log (log ++ [.replied provider error]) :=
  Continues.event log (fun _ h => nomatch h) (fun _ h => nomatch h)

theorem spoken_failed {cf : Bool} {log : List Event}
    (h : (wordState cf log).isSome = true) {provider error e : String}
    (htells : Tells (.error e) error) :
    Continues log
        (log ++ [.replied provider error] ++ exclusion provider e) ∧
      Spoken cf
        (log ++ [.replied provider error] ++ exclusion provider e) e := by
  obtain ⟨hstate, hdamning⟩ := damning_replied h provider error
  have hjustified : terminal e = true →
      Justified (log ++ [.replied provider error]) (strip provider) := by
    intro hterminal
    exact ⟨provider, error, by simp, rfl, htells.symm.trans hterminal⟩
  refine ⟨(Continues.replied log provider error).trans
    (continues_exclusion hjustified), ?_, ?_⟩
  · rw [damning_exclusion]
    exact hstate
  · rw [Damning, damning_exclusion]
    exact Eq.trans htells hdamning.symm

theorem spoken_answered {cf : Bool} {log : List Event}
    (h : (wordState cf log).isSome = true) (provider : String)
    {error : String} {result : Response} (htells : Tells (.ok result) error) :
    Spoken cf (log ++ [.replied provider error]) result.error := by
  obtain ⟨hstate, hdamning⟩ := damning_replied h provider error
  refine ⟨hstate, ?_⟩
  rw [hdamning, htells.2.1, htells.2.2, terminal_empty]

section Specs

variable (gateway : AIGateway) (request : Request)

/-- The run of a loop ends in a result that tells the last word. -/
def Ends (cf : Bool) (log : List Event) (out : Except String Response)
    (log' : List Event) : Prop :=
  Continues log log' ∧ (wordState cf log').isSome = true ∧
    ∃ result, out = .ok result ∧ result.Plain ∧
      terminal result.error = Damning cf log'

theorem Ends.after {cf : Bool} {log log' log'' : List Event}
    {out : Except String Response} (h : Continues log log')
    (hends : Ends cf log' out log'') : Ends cf log out log'' :=
  ⟨h.trans hends.1, hends.2⟩

theorem wp_isHealthy (provider : String) (log : List Event)
    {Q : Except String Bool → Unit → List Event → Prop} :
    Script.wp watch (isHealthy provider) Q () log ↔
      ∀ up, Q (.ok up) () (log ++ [.checked provider up]) := by
  unfold isHealthy
  rw [Script.wp_ask]
  constructor
  · rintro ⟨_, h⟩ up
    exact h up trivial
  · intro h
    exact ⟨trivial, fun up _ => h up⟩

theorem Continues.checked (log : List Event) (provider : String)
    (up : Bool) : Continues log (log ++ [.checked provider up]) :=
  Continues.event log (fun _ h => nomatch h) (fun _ h => nomatch h)

section

variable {log : List Event}

theorem wp_checkNamed {provider : String}
    (hstate : (wordState true log).isSome = true)
    {Q : Except String Bool → Unit → List Event → Prop}
    (hup : ∀ log', Continues log log' → (wordState true log').isSome = true →
      Q (.ok true) () log')
    (hdown : ∀ log', Continues log log' →
      Spoken true log' ("provider " ++ provider ++ " unhealthy") →
      Q (.ok false) () log') :
    Script.wp watch (checkNamed provider) Q () log := by
  unfold checkNamed
  obtain ⟨word, hword⟩ := Option.isSome_iff_exists.mp hstate
  by_cases hname : provider = ""
  · rw [if_pos hname]
    exact hup log (Continues.refl log) hstate
  · rw [if_neg hname, wp_isHealthy]
    intro up
    have hnext := Continues.checked log provider up
    cases up with
    | true =>
        apply hup _ hnext
        rw [wordState_snoc, hword]
        rfl
    | false =>
        apply hdown _ hnext
        rw [Spoken, Damning, wordState_snoc, hword]
        exact ⟨rfl, rfl⟩

theorem gatewayAttempts_spec (position : Nat) (lastError : String)
    (chain : List Entry) (hstate : (wordState true log).isSome = true)
    (hspoken : chain ≠ [] ∨ Spoken true log lastError) :
    Script.wp watch
      (gatewayAttempts gateway request position lastError chain)
      (fun out _ log' => Ends true log out log') () log := by
  induction chain generalizing position lastError log with
  | nil =>
      have hlast := hspoken.resolve_left fun h => h rfl
      refine ⟨Continues.refl log, hstate, _, rfl, ⟨rfl, rfl⟩, ?_⟩
      rw [← hlast.2]
      exact terminal_append (by simp) lastError
  | cons spec rest ih =>
      rw [gatewayAttempts, Script.wp_bind]
      apply wp_checkNamed hstate
      · -- the provider is called
        intro log₁ hcontinues hstate₁
        dsimp only
        rw [if_pos rfl, Script.wp_bind]
        have hcall : Calls (singleCall (request.sent.via
            (spec.provider.getD request.provider)
            (spec.model.getD request.model)) request.kwargs)
            (spec.provider.getD request.provider) := calls_single _ _
        refine Script.wp_mono (hcall log₁) ?_
        rintro _ _ _ ⟨answered, error, rfl, rfl, htells⟩
        cases answered with
        | ok result =>
            have hspoken := spoken_answered hstate₁
              (spec.provider.getD request.provider) htells
            refine Ends.after (hcontinues.trans (Continues.replied _ _ _))
              ⟨Continues.refl _, hspoken.1, _, rfl, ?_, ?_⟩
            · split <;> exact htells.1
            · rw [← hspoken.2]
              split <;> rfl
        | error e =>
            obtain ⟨hnext, hspoken⟩ := spoken_failed hstate₁ htells
            simp only
            rw [Script.wp_bind, wp_markProviderFromError]
            by_cases hlast : gateway.fallback.retries ≤ position
            · rw [if_pos hlast]
              refine Ends.after (hcontinues.trans hnext)
                ⟨Continues.refl _, hspoken.1, _, rfl, ⟨rfl, rfl⟩, ?_⟩
              rw [← hspoken.2]
              exact terminal_append (by simp) e
            · rw [if_neg hlast]
              refine Script.wp_mono (ih _ _ hspoken.1 (Or.inr hspoken)) ?_
              intro out _ log₂ hends
              exact Ends.after (hcontinues.trans hnext) hends
      · -- the provider is passed over
        intro log₁ hcontinues hspoken
        dsimp only
        rw [if_neg Bool.false_ne_true]
        refine Script.wp_mono (ih _ _ hspoken.1 (Or.inr hspoken)) ?_
        intro out _ log₂ hends
        exact Ends.after hcontinues hends

theorem calls_fallback (provider model : String) :
    Calls (fallbackCall gateway request provider model) provider := by
  unfold fallbackCall
  split
  · exact calls_single _ _
  · exact calls_direct _

theorem directAttempts_spec (primaryError lastError : String)
    (chain : List Entry) (hspoken : Spoken false log lastError) :
    Script.wp watch
      (directAttempts gateway request primaryError lastError chain)
      (fun out _ log' => Ends false log out log') () log := by
  induction chain generalizing lastError log with
  | nil =>
      refine ⟨Continues.refl log, hspoken.1, _, rfl, ⟨rfl, rfl⟩, ?_⟩
      rw [← hspoken.2]
      exact terminal_append (by simp) lastError
  | cons spec rest ih =>
      rw [directAttempts]
      by_cases hnamed : spec.provider.getD "" = "" ∨ spec.model.getD "" = ""
      · rw [if_pos hnamed]
        exact ih lastError hspoken
      rw [if_neg hnamed, Script.wp_bind, wp_isHealthy]
      intro up
      dsimp only
      have hchecked := Continues.checked log (spec.provider.getD "") up
      have hword : wordState false
          (log ++ [.checked (spec.provider.getD "") up]) =
          wordState false log := by
        rw [wordState_snoc]
        obtain ⟨word, hword⟩ := Option.isSome_iff_exists.mp hspoken.1
        cases up <;> simp [hword, wordStep]
      have hspoken₁ : Spoken false
          (log ++ [.checked (spec.provider.getD "") up]) lastError := by
        rw [Spoken, Damning, hword]
        exact hspoken
      cases up with
      | false =>
          rw [if_neg Bool.false_ne_true]
          refine Script.wp_mono (ih lastError hspoken₁) ?_
          intro out _ log₂ hends
          exact Ends.after hchecked hends
      | true =>
          rw [if_pos rfl, Script.wp_bind]
          refine Script.wp_mono (calls_fallback gateway request _ _ _) ?_
          rintro _ _ _ ⟨answered, error, rfl, rfl, htells⟩
          cases answered with
          | ok result =>
              have hanswered := spoken_answered hspoken₁.1
                (spec.provider.getD "") htells
              exact Ends.after (hchecked.trans (Continues.replied _ _ _))
                ⟨Continues.refl _, hanswered.1, _, rfl, htells.1,
                  hanswered.2⟩
          | error e =>
              obtain ⟨hnext, hfailed⟩ := spoken_failed hspoken₁.1 htells
              simp only
              rw [Script.wp_bind, wp_markProviderFromError]
              refine Script.wp_mono (ih e hfailed) ?_
              intro out _ log₂ hends
              exact Ends.after (hchecked.trans hnext) hends

theorem wp_directCall (sent : Sent)
    (hstate : (wordState false log).isSome = true)
    {Q : Except String Response → Unit → List Event → Prop}
    (h : ∀ result log', Continues log log' → (guardEmpty result).Plain →
      Spoken false log' (guardEmpty result).error → Q (.ok result) () log') :
    Script.wp watch (directCall sent) Q () log := by
  unfold directCall
  rw [Script.wp_ask_bind]
  refine ⟨trivial, ?_⟩
  intro answer _
  apply h _ _ (Continues.replied _ sent.provider (errorText answer))
    (guardEmpty_plain (directResult_plain answer))
  obtain ⟨hnext, hdamning⟩ :=
    damning_replied hstate sent.provider (errorText answer)
  refine ⟨hnext, ?_⟩
  have htells := tells_directResult answer
  refine Eq.trans ?_ hdamning.symm
  unfold outcome at htells
  split at htells
  · next hnone => rw [hnone, terminal_empty, htells.2.2]
  · exact htells

theorem directWithModelFallback_spec
    (hstate : (wordState false log).isSome = true) :
    Script.wp watch (directWithModelFallback gateway request)
      (fun out _ log' => Ends false log out log') () log := by
  unfold directWithModelFallback
  rw [Script.wp_bind]
  apply wp_directCall _ hstate
  intro result log₁ hcontinues hplain hspoken
  dsimp only
  split
  · refine Script.wp_mono (directAttempts_spec gateway request _ _ _ hspoken) ?_
    intro out _ log₂ hends
    exact Ends.after hcontinues hends
  · exact ⟨hcontinues, hspoken.1, _, rfl, hplain, hspoken.2⟩

theorem delegatedOrDirect_spec (hstate : (wordState false log).isSome = true) :
    Script.wp watch (delegatedOrDirect gateway request)
      (fun out _ log' => Ends false log out log') () log := by
  unfold delegatedOrDirect
  split
  · rw [Script.wp_bind]
    apply wp_directCall _ hstate
    intro result log₁ hcontinues hplain hspoken
    dsimp only
    split
    · exact ⟨hcontinues, hspoken.1, _, rfl, hplain, hspoken.2⟩
    · rw [Script.wp_bind]
      refine Script.wp_mono
        (directWithModelFallback_spec gateway request hspoken.1) ?_
      rintro _ _ log₂ ⟨hnext, hstate₂, direct, rfl, hdirect, hterminal⟩
      refine ⟨hcontinues.trans hnext, hstate₂, _, rfl, ?_, ?_⟩
      · split <;> exact hdirect
      · rw [← hterminal]
        split <;> rfl
  · exact directWithModelFallback_spec gateway request hstate

end

/-- The call goes through the Cloudflare chain. -/
def AIGateway.routes (gateway : AIGateway) (provider : String) : Bool :=
  gateway.cloudflareEnabled && decide (provider ∈ cfProviders)

theorem dispatch_spec {log : List Event}
    (hstate : (wordState (gateway.routes request.provider) log).isSome =
      true) :
    Script.wp watch (dispatch gateway request)
      (fun out _ log' => Ends (gateway.routes request.provider) log out log')
      () log := by
  unfold dispatch
  by_cases hcf : gateway.cloudflareEnabled = true ∧
      request.provider ∈ cfProviders
  · have hroutes : gateway.routes request.provider = true := by
      simp [AIGateway.routes, hcf]
    rw [if_pos hcf]
    rw [hroutes] at hstate ⊢
    exact gatewayAttempts_spec gateway request 0 "None" _ hstate
      (Or.inl (List.cons_ne_nil _ _))
  · have hroutes : gateway.routes request.provider = false := by
      simpa [AIGateway.routes] using hcf
    rw [if_neg hcf]
    rw [hroutes] at hstate ⊢
    exact delegatedOrDirect_spec gateway request hstate

/-- The exclusion that closes a call for `provider`. -/
def finalMark (provider : String) (log : List Event) : List Event :=
  if Damning (gateway.routes provider) log = true ∧ strip provider ≠ "" then
    [.marked (strip provider)]
  else []

/-- A call leaves attributed exclusions, and at its end the one its last word
names. -/
def Closes (requested : String) (log : List Event) : Prop :=
  ∃ core, log = core ++ finalMark gateway (target requested core) core ∧
    Attributed core

theorem closes_quiet {requested : String} {log : List Event}
    (hattributed : Attributed log)
    (hquiet : ∀ cf, Damning cf log = false) :
    Closes gateway requested log := by
  refine ⟨log, ?_, hattributed⟩
  unfold finalMark
  rw [hquiet, if_neg (fun h => Bool.false_ne_true h.1), List.append_nil]

theorem watch_silent {op : GatewayOp}
    (hsilent : ∀ reply, observe op reply = []) (log : List Event)
    (reply : GatewayReply op) : watch.next log op reply = log := by
  change log ++ observe op reply = log
  rw [hsilent, List.append_nil]

theorem wp_silent {A : Type} (op : GatewayOp)
    (hsilent : ∀ reply, observe op reply = [])
    {f : GatewayReply op → GatewayScript A} {log : List Event}
    {Q : Except String A → Unit → List Event → Prop}
    (h : ∀ reply, Script.wp watch (f reply) Q () log) :
    Script.wp watch (Script.ask op >>= f) Q () log := by
  rw [Script.wp_ask_bind]
  refine ⟨trivial, ?_⟩
  intro reply _
  rw [watch_silent hsilent]
  exact h reply

theorem wp_settleResult (key : String) (result : Response)
    (hplain : result.Plain) {log : List Event}
    {Q : Except String Response → Unit → List Event → Prop}
    (h : ∀ out, Q out () (log ++ exclusion request.provider result.error)) :
    Script.wp watch (settleResult gateway request key result) Q () log := by
  unfold settleResult
  by_cases herror : result.error = ""
  · have hnone : exclusion request.provider result.error = [] := by
      simp [exclusion, herror]
    simp only [hnone, List.append_nil] at h
    rw [if_neg (by simpa using herror)]
    refine wp_silent _ (fun _ => rfl) fun _ => ?_
    refine wp_silent _ (fun _ => rfl) fun _ => ?_
    split
    · rw [Script.wp_bind, Script.wp_askOk]
      refine ⟨trivial, ?_⟩
      intro stored _
      rw [watch_silent fun _ => rfl]
      cases stored <;> exact h _
    · exact h _
  · have hboth : result.spendLimited = false ∧ result.dlpBlocked = false :=
      hplain
    rw [if_pos herror, if_pos hboth, Script.wp_bind,
      wp_markProviderFromError]
    exact h _

theorem admitted_spec (key : String) {requested : String} {log : List Event}
    (hattributed : Attributed log)
    (hquiet : ∀ cf, wordState cf log = none)
    (htarget : target requested log = request.provider) :
    Script.wp watch (admitted gateway request key)
      (fun _ _ log' => Closes gateway requested log') () log := by
  have hcalm : ∀ cf, Damning cf log = false := by
    intro cf
    rw [Damning, hquiet]
    rfl
  have hchecked : Attributed (log ++ [.admitted]) := by
    refine attributedAfter_snoc.mpr ⟨hattributed, ?_⟩
    intro name h
    cases h
  have hstate : ∀ cf, wordState cf (log ++ [.admitted]) = some none := by
    intro cf
    rw [wordState_snoc, hquiet]
    rfl
  have hrefused : ∀ cf, Damning cf (log ++ [.admitted]) = false := by
    intro cf
    rw [Damning, hstate]
    rfl
  apply wp_admitted ⟨trivial, fun _ => List.append_nil log⟩
    (closes_quiet gateway hattributed hcalm) trivial
    (closes_quiet gateway hchecked hrefused)
  change Script.wp watch _ _ () (log ++ [.admitted])
  rw [Script.wp_bind]
  have hsome : (wordState (gateway.routes request.provider)
      (log ++ [.admitted])).isSome = true := by
    rw [hstate]
    rfl
  refine Script.wp_mono (dispatch_spec gateway request hsome) ?_
  rintro _ _ core ⟨hcontinues, _, result, rfl, hplain, hterminal⟩
  apply wp_settleResult gateway request key result hplain
  intro out
  obtain ⟨rest, rfl, hrest, hsame⟩ := hcontinues
  have htarget' : target requested (log ++ [.admitted] ++ rest) =
      request.provider := by
    rw [target_append, hsame, target_append, htarget]
    rfl
  refine ⟨_, ?_, attributedAfter_append.mpr ⟨hchecked, hrest⟩⟩
  unfold finalMark exclusion
  rw [htarget', hterminal]

/-- Only checks of providers and reroutings so far. -/
def Opening (log : List Event) : Prop :=
  ∀ event ∈ log, (∃ p up, event = .checked p up) ∨
    ∃ alternative, event = .rerouted alternative

theorem Opening.snoc_checked {log : List Event} (h : Opening log)
    (provider : String) (up : Bool) :
    Opening (log ++ [.checked provider up]) := by
  intro event hevent
  rcases List.mem_append.mp hevent with hevent | hevent
  · exact h event hevent
  · exact Or.inl ⟨provider, up, List.mem_singleton.mp hevent⟩

theorem Opening.snoc_rerouted {log : List Event} (h : Opening log)
    (alternative : String) : Opening (log ++ [.rerouted alternative]) := by
  intro event hevent
  rcases List.mem_append.mp hevent with hevent | hevent
  · exact h event hevent
  · exact Or.inr ⟨alternative, List.mem_singleton.mp hevent⟩

theorem Opening.attributed {log : List Event} (h : Opening log) :
    Attributed log := by
  rintro before name after rfl
  rcases h (.marked name) (by simp) with ⟨_, _, hname⟩ | ⟨_, hname⟩
  · cases hname
  · cases hname

theorem Opening.wordState {log : List Event} (h : Opening log) (cf : Bool) :
    wordState cf log = none := by
  induction log using List.reverseRecOn with
  | nil => rfl
  | append_singleton rest event ih =>
      have hrest : Opening rest := fun e he => h e (by simp [he])
      rw [wordState_snoc, ih hrest]
      rcases h event (by simp) with ⟨p, up, rfl⟩ | ⟨alternative, rfl⟩
      · cases up <;> rfl
      · rfl

theorem target_checked (requested : String) (log : List Event)
    (provider : String) (up : Bool) :
    target requested (log ++ [.checked provider up]) =
      target requested log := by
  rw [target_append]
  rfl

theorem firstHealthy_spec (preferred requested : String)
    (candidates : List String) {log : List Event} (hopening : Opening log) :
    Script.wp watch (firstHealthy preferred candidates)
      (fun out _ log' => ∃ found, out = .ok found ∧ Opening log' ∧
        target requested log' = target requested log) () log := by
  induction candidates generalizing log with
  | nil => exact ⟨none, rfl, hopening, rfl⟩
  | cons p rest ih =>
      rw [firstHealthy]
      by_cases hp : p = preferred
      · rw [if_pos hp]
        exact ih hopening
      · rw [if_neg hp, Script.wp_bind, wp_isHealthy]
        intro up
        have hnext := hopening.snoc_checked p up
        cases up with
        | true => exact ⟨some p, rfl, hnext, target_checked _ _ _ _⟩
        | false =>
            refine Script.wp_mono (ih hnext) ?_
            rintro out _ log' ⟨found, rfl, hopening', htarget⟩
            rw [target_checked] at htarget
            exact ⟨found, rfl, hopening', htarget⟩

theorem reroute_spec :
    Script.wp watch (reroute request)
      (fun out _ log => ∃ rerouted, out = .ok rerouted ∧ Opening log ∧
        target request.provider log = rerouted.provider) () [] := by
  have hstart : Opening [] := by
    intro event hevent
    cases hevent
  unfold reroute
  split
  · rw [Script.wp_bind, wp_isHealthy]
    intro up
    have hfirst := hstart.snoc_checked request.provider up
    cases up with
    | true => exact ⟨request, rfl, hfirst, rfl⟩
    | false =>
        dsimp only
        rw [if_neg Bool.false_ne_true, Script.wp_bind]
        unfold bestProvider
        rw [Script.wp_bind, wp_isHealthy]
        intro up
        have hsecond := hfirst.snoc_checked request.provider up
        cases up with
        | true =>
            refine ⟨request, rfl, hsecond, rfl⟩
        | false =>
            dsimp only
            rw [if_neg Bool.false_ne_true, Script.wp_bind]
            refine Script.wp_mono (firstHealthy_spec request.provider
              request.provider providerPriority hsecond) ?_
            rintro _ _ log ⟨found, rfl, hopening, htarget⟩
            rw [target_checked, target_checked] at htarget
            cases found with
            | none => exact ⟨request, rfl, hopening, htarget⟩
            | some p =>
                dsimp only
                rw [Script.wp_pure]
                dsimp only
                by_cases hp : true = true ∧ p ≠ request.provider
                · rw [if_pos hp, Script.wp_ask_bind]
                  refine ⟨trivial, fun _ _ => ?_⟩
                  refine ⟨request.reroutedTo p, rfl,
                    hopening.snoc_rerouted p, ?_⟩
                  change target request.provider (log ++ [.rerouted p]) = p
                  rw [target_append]
                  rfl
                · rw [if_neg hp]
                  exact ⟨request, rfl, hopening, htarget⟩
  · exact ⟨request, rfl, hstart, rfl⟩

theorem damning_of_quiet {cf : Bool} {log : List Event}
    (h : wordState cf log = none) : Damning cf log = false := by
  rw [Damning, h]
  rfl

variable (sha256 : List Char → String)

theorem lookedUp_spec {requested : String} {log : List Event}
    (hopening : Opening log)
    (htarget : target requested log = request.provider) :
    Script.wp watch (lookedUp sha256 gateway request)
      (fun _ _ log' => Closes gateway requested log') () log := by
  have hadmitted := admitted_spec gateway request
    (cacheKey sha256 request (orElse request.cacheScope gateway.cacheScope))
    hopening.attributed hopening.wordState htarget
  unfold lookedUp
  by_cases hcache : gateway.cacheEnabled = true
  · dsimp only
    rw [if_pos hcache]
    refine wp_silent _ (fun _ => rfl) fun cached => ?_
    cases cached with
    | some value =>
        exact closes_quiet gateway hopening.attributed fun cf =>
          damning_of_quiet (hopening.wordState cf)
    | none => exact hadmitted
  · dsimp only
    rw [if_neg hcache]
    exact hadmitted

theorem chat_spec :
    Script.wp watch (chat sha256 gateway request)
      (fun _ _ log => Closes gateway request.provider log) () [] := by
  have hnothing : Closes gateway request.provider [] :=
    closes_quiet gateway (attributedAfter_nil []) fun _ => rfl
  unfold chat
  split
  · split
    · exact hnothing
    · rw [Script.wp_bind]
      refine Script.wp_mono (reroute_spec request) ?_
      rintro _ _ log ⟨rerouted, rfl, hopening, htarget⟩
      exact lookedUp_spec gateway rerouted sha256 hopening htarget
    · exact hnothing
  · unfold directCall
    rw [Script.wp_ask_bind]
    refine ⟨trivial, ?_⟩
    intro answer _
    apply closes_quiet
    · obtain ⟨rest, hlog, hrest, _⟩ := Continues.replied []
        request.sent.provider (errorText answer)
      change Attributed ([] ++ [.replied request.sent.provider _])
      rw [hlog]
      exact hrest
    · intro cf
      rfl

end Specs

structure ChatCall where
  gateway : AIGateway
  request : Request
  oracle : Nat → GatewayOracle

/-- Every proposed reply is given and logged. -/
def logging : Serve GatewayOp GatewayReply (List Event) :=
  fun log op reply => (reply, log ++ observe op reply)

section Sessions

variable (sha256 : List Char → String)

/-- What one call leaves in the log. -/
def segment (call : ChatCall) : List Event :=
  ((chat sha256 call.gateway call.request ()).exec logging call.oracle 0
    []).2

def sessionLog (calls : List ChatCall) : List Event :=
  (calls.map (segment sha256)).flatten

/-- If the last word excludes a provider, a call to the requested one earned it.
-/
def Blameless (earlier : List Event) (call : ChatCall) : Prop :=
  let log := segment sha256 call
  let provider := target call.request.provider log
  Damning (call.gateway.routes provider) log = true → strip provider ≠ "" →
    Justified (earlier ++ log) (strip provider)

theorem segment_closes (call : ChatCall) :
    Closes call.gateway call.request.provider (segment sha256 call) := by
  obtain ⟨log, hlog, hcloses⟩ := Prog.exec_of_wp logging call.oracle
    (fun (log : List Event) log' => log = log')
    (by
      rintro n log _ op rfl _
      exact ⟨trivial, rfl⟩)
    _ 0 [] rfl (chat_spec call.gateway call.request sha256)
  unfold segment
  rw [hlog]
  exact hcloses

theorem justified_exclusions {log marks : List Event} {name : String}
    (hmarks : ∀ event ∈ marks, ∃ other, event = .marked other) :
    Justified (log ++ marks) name ↔ Justified log name := by
  constructor
  · rintro ⟨provider, error, hmem, hearned⟩
    rcases List.mem_append.mp hmem with hmem | hmem
    · exact ⟨provider, error, hmem, hearned⟩
    · obtain ⟨other, hother⟩ := hmarks _ hmem
      cases hother
  · intro h
    exact h.mono (List.subset_append_left _ _)

theorem finalMark_marks (gateway : AIGateway) (provider : String)
    (log : List Event) :
    ∀ event ∈ finalMark gateway provider log, ∃ other,
      event = .marked other := by
  intro event hevent
  unfold finalMark at hevent
  split at hevent
  · exact ⟨_, List.mem_singleton.mp hevent⟩
  · cases hevent

theorem damning_finalMark (cf : Bool) (gateway : AIGateway)
    (provider : String) (log : List Event) :
    Damning cf (log ++ finalMark gateway provider log) = Damning cf log := by
  unfold Damning finalMark
  split
  · rw [wordState_snoc]
    cases wordState cf log <;> rfl
  · rw [List.append_nil]

theorem target_finalMark (requested : String) (gateway : AIGateway)
    (provider : String) (log : List Event) :
    target requested (log ++ finalMark gateway provider log) =
      target requested log := by
  unfold finalMark
  split
  · rw [target_append]
    rfl
  · rw [List.append_nil]

theorem segment_attributed_iff (earlier : List Event) (call : ChatCall) :
    AttributedAfter earlier (segment sha256 call) ↔
      Blameless sha256 earlier call := by
  obtain ⟨core, hsegment, hcore⟩ := segment_closes sha256 call
  have hmarks := finalMark_marks call.gateway
    (target call.request.provider core) core
  unfold Blameless
  rw [hsegment]
  dsimp only
  rw [target_finalMark, damning_finalMark, ← List.append_assoc,
    justified_exclusions hmarks, attributedAfter_append]
  have hearlier : AttributedAfter earlier core :=
    AttributedAfter.mono hcore (List.nil_subset _)
  unfold finalMark
  constructor
  · rintro ⟨_, hmark⟩ hdamning hname
    have hfinal := hmark [] (strip (target call.request.provider core)) []
      (if_pos ⟨hdamning, hname⟩)
    rwa [List.append_nil] at hfinal
  · intro hblameless
    refine ⟨hearlier, ?_⟩
    split
    · next hdamning =>
        intro before name after hlog
        obtain ⟨rfl, hname⟩ := singleton_split hlog
        cases hname
        rw [List.append_nil]
        exact hblameless hdamning.1 hdamning.2
    · exact attributedAfter_nil _

theorem sessionLog_attributed_iff (earlier : List Event)
    (calls : List ChatCall) :
    AttributedAfter earlier (sessionLog sha256 calls) ↔
      ∀ before call after, calls = before ++ call :: after →
        Blameless sha256 (earlier ++ sessionLog sha256 before) call := by
  induction calls generalizing earlier with
  | nil =>
      constructor
      · intro _ before call after h
        cases before <;> cases h
      · intro _
        exact attributedAfter_nil earlier
  | cons first rest ih =>
      have hsplit : sessionLog sha256 (first :: rest) =
          segment sha256 first ++ sessionLog sha256 rest := rfl
      rw [hsplit, attributedAfter_append, segment_attributed_iff, ih]
      constructor
      · rintro ⟨hfirst, hrest⟩ before call after h
        cases before with
        | nil =>
            cases h
            rw [sessionLog, List.map_nil, List.flatten_nil, List.append_nil]
            exact hfirst
        | cons head before =>
            cases h
            have hcall := hrest before call after rfl
            rwa [List.append_assoc] at hcall
      · intro h
        constructor
        · have hfirst := h [] first rest rfl
          rwa [sessionLog, List.map_nil, List.flatten_nil,
            List.append_nil] at hfirst
        · rintro before call after rfl
          have hcall := h (first :: before) call after rfl
          rw [List.append_assoc]
          exact hcall

/-- Over any sequence of calls, every excluded provider has earned it just
when every call is blameless. -/
theorem exclusions_attributed_iff (calls : List ChatCall) :
    Attributed (sessionLog sha256 calls) ↔
      ∀ before call after, calls = before ++ call :: after →
        Blameless sha256 (sessionLog sha256 before) call :=
  sessionLog_attributed_iff sha256 [] calls

end Sessions

namespace AttributionWitness

def oracle : GatewayOracle
  | .healthy _ => true
  | .markUnhealthy _ _ => ()
  | .warnRerouted _ _ => ()
  | .call _ sent _ =>
      .error (if sent.provider = "anthropic" then "timeout"
        else "insufficient_quota")
  | .cacheGet _ => none
  | .cacheSet _ _ => .ok ()
  | .requestsInLastMinute => 0
  | .recordRequest _ _ _ _ => ()
  | .spendCheck _ _ => true
  | .spendRecord _ _ => ()

def timedOut : ChatCall where
  gateway :=
    { accountId := "acct"
      cacheEnabled := false
      fallback :=
        { chain :=
            [{ provider := some "deepseek", model := some "deepseek-chat" }] }
      dlp := { secretPatterns := [], piiPatterns := [] } }
  request := { messages := [], model := "claude-sonnet-4-6" }
  oracle := fun _ => oracle

theorem timedOut_log :
    sessionLog (fun text => String.ofList text) [timedOut] =
      [.checked "anthropic" true, .admitted, .checked "anthropic" true,
        .replied "anthropic" "timeout", .checked "deepseek" true,
        .replied "deepseek" "insufficient_quota", .marked "deepseek",
        .marked "anthropic"] := by
  decide +kernel

theorem timedOut_not_attributed :
    ¬Attributed (sessionLog (fun text => String.ofList text) [timedOut]) := by
  rw [timedOut_log]
  intro h
  obtain ⟨provider, error, hmem, hname, hterminal⟩ :=
    h [.checked "anthropic" true, .admitted, .checked "anthropic" true,
      .replied "anthropic" "timeout", .checked "deepseek" true,
      .replied "deepseek" "insufficient_quota", .marked "deepseek"]
      "anthropic" [] rfl
  have htimeout : terminal "timeout" = false := by decide +kernel
  have hdeepseek : strip "deepseek" ≠ "anthropic" := by decide +kernel
  simp only [List.nil_append, List.mem_cons, List.not_mem_nil, or_false,
    reduceCtorEq, false_or, Event.replied.injEq] at hmem
  rcases hmem with ⟨rfl, rfl⟩ | ⟨rfl, rfl⟩
  · rw [htimeout] at hterminal
    cases hterminal
  · exact hdeepseek hname

end AttributionWitness

end Voly.Gateway
