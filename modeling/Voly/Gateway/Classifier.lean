/-
The semantic classifier of provider errors: signal tables over the error text
and patterns for quota and context errors.
-/
import Voly.Regex.Match
import Voly.Python.Text

namespace Voly.Gateway

open Python

inductive ErrorType where
  | rateLimited
  | quotaExhausted
  | unauthorized
  | accountDeactivated
  | oauthInvalidToken
  | forbidden
  | contextOverflow
  | serverError
  | emptyContent
  deriving DecidableEq

/-- The letters that `re.IGNORECASE` does not tell apart. -/
def foldCase (c : Char) : Char :=
  if c.toNat = 304 ∨ c.toNat = 305 then 'i'
  else if c.toNat = 383 then 's'
  else if c.toNat = 8490 then 'k'
  else c.toLower

def sameLetter (c d : Char) : Bool := foldCase c == foldCase d

/-- `str.lower()`, as far as it gives ASCII letters. -/
def lowerText (s : List Char) : List Char :=
  s.flatMap fun c =>
    if c.toNat = 304 then ['i', Char.ofNat 775]
    else if c.toNat = 8490 then ['k']
    else [c.toLower]

/-- `signal in text`. -/
def has (text : List Char) (signal : String) : Bool :=
  text.tails.any fun rest => signal.toList.isPrefixOf rest

def hasAny (text : List Char) (signals : List String) : Bool :=
  signals.any (has text)

def creditsExhaustedSignals : List String := [
  "insufficient_quota",
  "billing_hard_limit_reached",
  "exceeded your current quota",
  "exceeded your current usage quota",
  "credit_balance_too_low",
  "your credit balance is too low",
  "credits exhausted",
  "out of credits",
  "payment required",
  "free tier of the model has been exhausted",
  "insufficient balance",
  "insufficient_balance",
  "insufficient account balance",
  "credit balance is too low",
  "insufficient credits",
  "billing error",
  "billing issue",
  "billing problem",
  "update your billing",
  "billing details required"]

def accountDeactivatedSignals : List String := [
  "account_deactivated",
  "account has been deactivated",
  "account has been disabled",
  "your account has been suspended",
  "this account is deactivated",
  "verify your account to continue",
  "this service has been disabled in this account for violation",
  "this service has been disabled in this account"]

def oauthInvalidTokenSignals : List String := [
  "invalid authentication credentials",
  "oauth 2",
  "login cookie",
  "valid authentication credential",
  "invalid credentials"]

def gatewayConfigSignals : List String := [
  "cf-aig-authorization",
  "cf-aig",
  "gateway authentication",
  "invalid gateway token",
  "provider key not found",
  "no provider key",
  "provider key not configured",
  "byok"]

def dailyQuotaSignals : List String := [
  "today's quota",
  "daily quota",
  "try again tomorrow"]

/-- `.` matches anything but a newline. -/
def dot : Regex := .letter fun c => c != '\n'

/-- A literal text, whatever its case. -/
def literal (s : String) : Regex := .text sameLetter s

/-- `first.*last`. -/
def gap (first last : String) : Regex :=
  .seq (literal first) (.seq (.star dot) (literal last))

/-- `a.?b`. -/
def near (a b : String) : Regex :=
  .seq (literal a) (.seq (.opt dot) (literal b))

def quotaPatterns : List Regex := [
  gap "daily" "limit",
  gap "daily" "quota",
  .seq (near "per" "day") (.seq (.star dot) (literal "limit")),
  gap "monthly" "limit",
  gap "monthly" "quota",
  .seq (near "per" "month") (.seq (.star dot) (literal "limit")),
  gap "quota" "exceed",
  gap "exceed" "quota",
  gap "insufficient" "quota",
  gap "billing" "cap",
  gap "credit" "exhaust",
  literal "out of credits",
  near "hard" "limit",
  gap "plan" "limit",
  literal "individual quota reached",
  literal "enable overages",
  literal "insufficient_g1_credits_balance"]

def contextOverflowPatterns : List Regex := [
  literal "context overflow",
  literal "prompt too large",
  literal "context window",
  literal "maximum context",
  literal "exceeds context",
  literal "input too long",
  literal "token limit",
  literal "too many tokens",
  literal "context length",
  gap "exceed" "context",
  literal "messages exceed"]

/-- `pat.search(text)` for a pattern that asks for no word boundary. -/
def found (pattern : Regex) (text : List Char) : Bool :=
  pattern.search (fun _ => false) false text

def isCreditsExhausted (text : List Char) : Bool :=
  hasAny (lowerText text) creditsExhaustedSignals

def isAccountDeactivated (text : List Char) : Bool :=
  hasAny (lowerText text) accountDeactivatedSignals

def isOauthInvalidToken (text : List Char) : Bool :=
  hasAny (lowerText text) oauthInvalidTokenSignals

def isGatewayConfigError (text : List Char) : Bool :=
  hasAny (lowerText text) gatewayConfigSignals

def isDailyQuotaExhausted (text : List Char) : Bool :=
  hasAny (lowerText text) dailyQuotaSignals

def looksLikeQuotaExhausted (text : List Char) : Bool :=
  quotaPatterns.any fun pattern => found pattern text

def isContextOverflow (text : List Char) : Bool :=
  contextOverflowPatterns.any fun pattern => found pattern text

/-- Without a status code only the tables decide. -/
def classifyText (text : List Char) : Option ErrorType :=
  if isAccountDeactivated text then some .accountDeactivated
  else if isCreditsExhausted text then some .quotaExhausted
  else if looksLikeQuotaExhausted text || isDailyQuotaExhausted text then
    some .quotaExhausted
  else if isOauthInvalidToken text then some .oauthInvalidToken
  else if isContextOverflow text then some .contextOverflow
  else none

def classifyProviderError (statusCode : Option Int) (text : List Char) :
    Option ErrorType :=
  let credits := isCreditsExhausted text
  let deactivated := isAccountDeactivated text
  if !credits && !deactivated && isGatewayConfigError text then
    some .unauthorized
  else
    match statusCode with
    | none => classifyText text
    | some code =>
        if credits && (code = 400 ∨ code = 402 ∨ code = 403) then
          some .quotaExhausted
        else if code = 429 then
          if credits || looksLikeQuotaExhausted text ||
              isDailyQuotaExhausted text then
            some .quotaExhausted
          else some .rateLimited
        else if code = 401 then
          if isOauthInvalidToken text then some .oauthInvalidToken
          else if deactivated then some .accountDeactivated
          else some .unauthorized
        else if code = 402 then some .quotaExhausted
        else if code = 403 then
          if deactivated then some .accountDeactivated else some .forbidden
        else if 500 ≤ code then some .serverError
        else if code = 400 && isContextOverflow text then
          some .contextOverflow
        else classifyText text

def errorKind (text : List Char) : Option ErrorType :=
  match classifyProviderError none text with
  | some kind => some kind
  | none =>
      if hasAny (lowerText text)
          ["401", "unauthorized", "invalid x-api-key"] then
        some .unauthorized
      else if hasAny (lowerText text) ["quota", "billing", "credit"] then
        some .quotaExhausted
      else none

def recoverableProviderErrors : List ErrorType :=
  [.unauthorized, .quotaExhausted, .accountDeactivated, .oauthInvalidToken,
    .forbidden]

/-- The error text classifies as one that excludes its provider. -/
def terminal (error : String) : Bool :=
  match errorKind error.toList with
  | some kind => decide (kind ∈ recoverableProviderErrors)
  | none => false

example : terminal "insufficient_quota" = true := by decide +kernel

/-- No occurrence of the signal starts within `front`, whatever follows. -/
def apart : List Char → List Char → Bool
  | [], _ => true
  | c :: front, signal =>
      !(c :: front).isPrefixOf signal && !signal.isPrefixOf (c :: front) &&
        apart front signal

/-- Every signal that classification reads. -/
def allSignals : List String :=
  creditsExhaustedSignals ++ accountDeactivatedSignals ++
    oauthInvalidTokenSignals ++ gatewayConfigSignals ++ dailyQuotaSignals ++
    ["401", "unauthorized", "invalid x-api-key"] ++
    ["quota", "billing", "credit"]

/-- A front text that changes no classification. -/
def neutral (front : List Char) : Bool :=
  allSignals.all (fun signal => apart (lowerText front) signal.toList) &&
    (quotaPatterns ++ contextOverflowPatterns).all fun pattern =>
      pattern.skips (fun _ => false) false front

theorem lowerText_append (front text : List Char) :
    lowerText (front ++ text) = lowerText front ++ lowerText text :=
  List.flatMap_append

theorem isPrefixOf_append_of_not {signal front : List Char}
    (h₁ : front.isPrefixOf signal = false)
    (h₂ : signal.isPrefixOf front = false) (text : List Char) :
    signal.isPrefixOf (front ++ text) = false := by
  induction front generalizing signal with
  | nil => cases h₁
  | cons c front ih =>
      cases signal with
      | nil => cases h₂
      | cons d signal =>
          by_cases hcd : c = d
          · subst hcd
            simp only [List.isPrefixOf, beq_self_eq_true, Bool.true_and,
              List.cons_append] at h₁ h₂ ⊢
            exact ih h₁ h₂
          · have hdc : (d == c) = false := by
              simpa using Ne.symm hcd
            simp [List.isPrefixOf, hdc]

theorem has_cons (c : Char) (text : List Char) (signal : String) :
    has (c :: text) signal =
      (signal.toList.isPrefixOf (c :: text) || has text signal) := by
  simp [has]

theorem has_append {front : List Char} {signal : String}
    (h : apart front signal.toList = true) (text : List Char) :
    has (front ++ text) signal = has text signal := by
  induction front with
  | nil => rfl
  | cons c front ih =>
      simp only [apart, Bool.and_eq_true, Bool.not_eq_true'] at h
      obtain ⟨⟨hfront, hsignal⟩, hrest⟩ := h
      have hhere := isPrefixOf_append_of_not hfront hsignal text
      rw [List.cons_append] at hhere ⊢
      rw [has_cons, hhere, Bool.false_or]
      exact ih hrest

theorem hasAny_append {front : List Char} {signals : List String}
    (h : ∀ signal ∈ signals, apart (lowerText front) signal.toList = true)
    (text : List Char) :
    hasAny (lowerText (front ++ text)) signals =
      hasAny (lowerText text) signals := by
  rw [lowerText_append]
  unfold hasAny
  induction signals with
  | nil => rfl
  | cons signal rest ih =>
      rw [List.any_cons, List.any_cons,
        has_append (h signal List.mem_cons_self),
        ih fun s hs => h s (List.mem_cons_of_mem signal hs)]

theorem found_append {front : List Char} {pattern : Regex}
    (h : pattern.skips (fun _ => false) false front = true)
    (text : List Char) : found pattern (front ++ text) = found pattern text := by
  unfold found
  rw [Regex.search_of_skips h]
  cases front with
  | nil => rfl
  | cons c front => rw [Regex.behind_const]

section Neutral

variable {front : List Char} (h : neutral front = true) (text : List Char)
include h

theorem neutral_signals {signals : List String} (hsub : signals ⊆ allSignals) :
    hasAny (lowerText (front ++ text)) signals =
      hasAny (lowerText text) signals := by
  simp only [neutral, Bool.and_eq_true, List.all_eq_true] at h
  exact hasAny_append (fun signal hsignal => h.1 signal (hsub hsignal)) text

theorem neutral_patterns {patterns : List Regex}
    (hsub : patterns ⊆ quotaPatterns ++ contextOverflowPatterns) :
    patterns.any (fun pattern => found pattern (front ++ text)) =
      patterns.any fun pattern => found pattern text := by
  simp only [neutral, Bool.and_eq_true, List.all_eq_true] at h
  induction patterns with
  | nil => rfl
  | cons pattern rest ih =>
      have hskips := h.2 pattern (hsub List.mem_cons_self)
      rw [List.any_cons, List.any_cons, found_append hskips,
        ih fun p hp => hsub (List.mem_cons_of_mem pattern hp)]

theorem errorKind_append : errorKind (front ++ text) = errorKind text := by
  have hsignals : ∀ signals : List String, signals ⊆ allSignals →
      hasAny (lowerText (front ++ text)) signals =
        hasAny (lowerText text) signals :=
    fun signals hsub => neutral_signals h text hsub
  have hpatterns : ∀ patterns : List Regex,
      patterns ⊆ quotaPatterns ++ contextOverflowPatterns →
      (patterns.any fun pattern => found pattern (front ++ text)) =
        patterns.any fun pattern => found pattern text :=
    fun patterns hsub => neutral_patterns h text hsub
  have hcredits : isCreditsExhausted (front ++ text) = isCreditsExhausted text :=
    hsignals _ fun s hs => by simp [allSignals, hs]
  have hdeactivated :
      isAccountDeactivated (front ++ text) = isAccountDeactivated text :=
    hsignals _ fun s hs => by simp [allSignals, hs]
  have hoauth : isOauthInvalidToken (front ++ text) = isOauthInvalidToken text :=
    hsignals _ fun s hs => by simp [allSignals, hs]
  have hconfig :
      isGatewayConfigError (front ++ text) = isGatewayConfigError text :=
    hsignals _ fun s hs => by simp [allSignals, hs]
  have hdaily :
      isDailyQuotaExhausted (front ++ text) = isDailyQuotaExhausted text :=
    hsignals _ fun s hs => by simp [allSignals, hs]
  have hquota :
      looksLikeQuotaExhausted (front ++ text) = looksLikeQuotaExhausted text :=
    hpatterns _ fun p hp => List.mem_append_left _ hp
  have hcontext : isContextOverflow (front ++ text) = isContextOverflow text :=
    hpatterns _ fun p hp => List.mem_append_right _ hp
  have hunauthorized := hsignals
    ["401", "unauthorized", "invalid x-api-key"] fun s hs =>
      List.mem_append_left _ (List.mem_append_right _ hs)
  have hwords := hsignals ["quota", "billing", "credit"] fun s hs =>
    List.mem_append_right _ hs
  simp only [errorKind, classifyProviderError, classifyText, hcredits,
    hdeactivated, hoauth, hconfig, hdaily, hquota, hcontext, hunauthorized,
    hwords]

end Neutral

/-- What the gateway writes in front of the last error of a chain. -/
def allModelsFailed : String := "All models failed. Last: "

def allFallbacksFailed : String := "All fallbacks failed. Last: "

/-- What an answer without content is reported as. -/
def emptyContentText : String :=
  "empty_content: provider returned no usable content"

-- one evaluation of the tables for all the fixed texts
theorem fixed_texts :
    (∀ front ∈ [allModelsFailed, allFallbacksFailed],
      neutral front.toList = true) ∧
    ∀ error ∈ ["", emptyContentText], terminal error = false := by
  decide +kernel

theorem terminal_append {front : String}
    (h : front ∈ [allModelsFailed, allFallbacksFailed]) (error : String) :
    terminal (front ++ error) = terminal error := by
  unfold terminal
  rw [String.toList_append, errorKind_append (fixed_texts.1 front h)]

@[simp] theorem terminal_empty : terminal "" = false :=
  fixed_texts.2 "" (by simp)

@[simp] theorem terminal_emptyContentText :
    terminal emptyContentText = false :=
  fixed_texts.2 emptyContentText (by simp)

end Voly.Gateway
