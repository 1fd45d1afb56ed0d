/-
Data loss prevention: which texts of a request are scanned, and when a match
keeps it from being sent.
-/
import Voly.Gateway.Chat

namespace Voly.Gateway

open Python Interaction

/-- The letter classes of `re`: `\w`, `\d`, `\s` and equality that ignores
case. -/
structure Letters where
  word : Char → Bool
  digit : Char → Bool
  space : Char → Bool
  same : Char → Char → Bool

section Patterns

variable (letters : Letters)

def alphanumeric : String :=
  "ABCDEFGHIJKLMNOPQRSTUVWXYZabcdefghijklmnopqrstuvwxyz0123456789"

/-- `[...]`. -/
def among (chars : String) : Regex := .letter fun c => chars.toList.contains c

/-- `[...]`, ignoring case. -/
def Letters.among (chars : String) : Regex :=
  .letter fun c => chars.toList.any fun d => letters.same d c

def Letters.text (s : String) : Regex := Regex.text letters.same s

def Letters.spaces : Regex := .letter letters.space

def Letters.digits : Regex := .letter letters.digit

def quoteMark : Regex :=
  .letter fun c => c.toNat == 34 || c.toNat == 39 || c.toNat == 96

def Letters.pattern (source : String) (regex : Regex) : Pattern where
  source
  search := .ok (regex.search letters.word false)

def secretPatterns : List Pattern := [
  letters.pattern ("(?i)(api[_-]?key|secret[_-]?key|token|password|" ++
      "auth[_-]?token)\\s*[:=]\\s*[\\\"'`]?\\S+[\\\"'`]?")
    (.concat [
      .oneOf [
        .concat [letters.text "api", .opt (letters.among "_-"),
          letters.text "key"],
        .concat [letters.text "secret", .opt (letters.among "_-"),
          letters.text "key"],
        letters.text "token",
        letters.text "password",
        .concat [letters.text "auth", .opt (letters.among "_-"),
          letters.text "token"]],
      .star letters.spaces, letters.among ":=", .star letters.spaces,
      .opt quoteMark, .plus (.letter fun c => !letters.space c),
      .opt quoteMark]),
  letters.pattern ("(?i)(eyJ[A-Za-z0-9_-]\x7b10,\x7d\\." ++
      "[A-Za-z0-9_-]\x7b10,\x7d\\.[A-Za-z0-9_-]*)")
    (.concat [
      letters.text "eyJ", .atLeast 10 (letters.among (alphanumeric ++ "_-")),
      letters.among ".", .atLeast 10 (letters.among (alphanumeric ++ "_-")),
      letters.among ".", .star (letters.among (alphanumeric ++ "_-"))]),
  letters.pattern "(?i)(sk-[A-Za-z0-9]\x7b12,\x7d)"
    (.concat [letters.text "sk-", .atLeast 12 (letters.among alphanumeric)]),
  letters.pattern "(?i)(ghp_[A-Za-z0-9]\x7b12,\x7d)"
    (.concat [letters.text "ghp_", .atLeast 12 (letters.among alphanumeric)]),
  letters.pattern "(?i)(xox[baprs]-[A-Za-z0-9-]\x7b10,\x7d)"
    (.concat [letters.text "xox", letters.among "baprs", letters.among "-",
      .atLeast 10 (letters.among (alphanumeric ++ "-"))]),
  letters.pattern
    "(?i)(-----BEGIN\\s+(RSA|EC|DSA|OPENSSH)\\s+PRIVATE KEY-----)"
    (.concat [
      letters.text "-----BEGIN", .plus letters.spaces,
      .oneOf (["RSA", "EC", "DSA", "OPENSSH"].map letters.text),
      .plus letters.spaces, letters.text "PRIVATE KEY-----"])]

def piiPatterns : List Pattern := [
  letters.pattern "\\b\\d\x7b3\x7d-\\d\x7b2\x7d-\\d\x7b4\x7d\\b"
    (.concat [.boundary, .times 3 letters.digits .eps, among "-",
      .times 2 letters.digits .eps, among "-",
      .times 4 letters.digits .eps, .boundary]),
  letters.pattern "\\b\\d\x7b16\x7d\\b"
    (.concat [.boundary, .times 16 letters.digits .eps, .boundary]),
  letters.pattern
    ("\\b[A-Za-z0-9._%+-]+@[A-Za-z0-9.-]+\\.[A-Z|a-z]\x7b2,\x7d\\b")
    (.concat [
      .boundary, .plus (among (alphanumeric ++ "._%+-")), among "@",
      .plus (among (alphanumeric ++ ".-")), among ".",
      .atLeast 2 (among
        "ABCDEFGHIJKLMNOPQRSTUVWXYZ|abcdefghijklmnopqrstuvwxyz"),
      .boundary])]

end Patterns

/-- `re.search` finds a match; a pattern that does not compile finds none. -/
def Pattern.Finds (pattern : Pattern) (content : List Char) : Prop :=
  ∃ search, pattern.search = .ok search ∧ search content = true

def Pattern.Compiles (pattern : Pattern) : Prop :=
  ∃ search, pattern.search = .ok search

/-- The patterns that are switched on. -/
def DLPConfig.active (dlp : DLPConfig) : List Pattern :=
  (if dlp.blockSecrets then dlp.secretPatterns else []) ++
    (if dlp.blockPii then dlp.piiPatterns else []) ++ dlp.blockPatterns

/-- All active patterns compile, and one of them finds a match. -/
def DLPConfig.Catches (dlp : DLPConfig) (content : List Char) : Prop :=
  (∀ pattern ∈ dlp.active, pattern.Compiles) ∧
    ∃ pattern ∈ dlp.active, pattern.Finds content

def GatewayOp.isCall : GatewayOp → Bool
  | .call _ _ _ => true
  | _ => false

section Scan

variable (label : Pattern → String) (content : List Char)

theorem searchAll_compiled (patterns : List Pattern)
    (h : ∀ pattern ∈ patterns, pattern.Compiles) :
    ∃ violations, searchAll label content patterns = .ok violations ∧
      (violations ≠ [] ↔ ∃ pattern ∈ patterns, pattern.Finds content) := by
  induction patterns with
  | nil => exact ⟨[], rfl, by simp⟩
  | cons pattern rest ih =>
      obtain ⟨search, hsearch⟩ := h pattern List.mem_cons_self
      obtain ⟨violations, hrest, hiff⟩ := ih fun other hother =>
        h other (List.mem_cons_of_mem _ hother)
      refine ⟨if search content then label pattern :: violations
        else violations, ?_, ?_⟩
      · rw [searchAll, hsearch, hrest]
        rfl
      · have hfinds : pattern.Finds content ↔ search content = true := by
          constructor
          · rintro ⟨other, hother, hfound⟩
            rw [hsearch] at hother
            cases hother
            exact hfound
          · intro hfound
            exact ⟨search, hsearch, hfound⟩
        simp only [List.exists_mem_cons_iff, hfinds, ← hiff]
        by_cases hfound : search content = true
        · simp [hfound]
        · simp [hfound]

theorem searchAll_uncompiled (patterns : List Pattern)
    (h : ∃ pattern ∈ patterns, ¬pattern.Compiles) :
    ∃ e, searchAll label content patterns = .error e := by
  induction patterns with
  | nil =>
      obtain ⟨pattern, hmem, _⟩ := h
      cases hmem
  | cons pattern rest ih =>
      rw [searchAll]
      cases hsearch : pattern.search with
      | error e => exact ⟨e, rfl⟩
      | ok search =>
          obtain ⟨other, hmem, hother⟩ := h
          have hrest : other ∈ rest := by
            rcases List.mem_cons.mp hmem with rfl | hmem
            · exact (hother ⟨search, hsearch⟩).elim
            · exact hmem
          obtain ⟨e, he⟩ := ih ⟨other, hrest, hother⟩
          rw [he]
          exact ⟨e, rfl⟩

end Scan

theorem scan_compiled {dlp : DLPConfig} (henabled : dlp.enabled = true)
    (content : List Char) (h : ∀ pattern ∈ dlp.active, pattern.Compiles) :
    ∃ violations, dlp.scan content = .ok violations ∧
      (violations ≠ [] ↔ ∃ pattern ∈ dlp.active, pattern.Finds content) := by
  simp only [DLPConfig.active, List.mem_append] at h ⊢
  obtain ⟨secrets, hsecrets, hsecrets'⟩ := searchAll_compiled
    (fun pattern => "Secret pattern matched: " ++ slice 60 pattern.source ++
      "...") content _ fun pattern hmem => h pattern (Or.inl (Or.inl hmem))
  obtain ⟨pii, hpii, hpii'⟩ := searchAll_compiled
    (fun pattern => "PII pattern matched: " ++ slice 60 pattern.source ++
      "...") content _ fun pattern hmem => h pattern (Or.inl (Or.inr hmem))
  obtain ⟨custom, hcustom, hcustom'⟩ := searchAll_compiled
    (fun pattern => "Custom pattern matched: " ++ pattern.source) content _
    fun pattern hmem => h pattern (Or.inr hmem)
  refine ⟨secrets ++ pii ++ custom, ?_, ?_⟩
  · unfold DLPConfig.scan
    rw [if_pos henabled, hsecrets, hpii, hcustom]
    rfl
  · simp only [or_and_right, exists_or, ← hsecrets', ← hpii', ← hcustom']
    simp only [ne_eq, List.append_eq_nil_iff, not_and_or]

theorem scan_uncompiled {dlp : DLPConfig} (henabled : dlp.enabled = true)
    (content : List Char) (h : ∃ pattern ∈ dlp.active, ¬pattern.Compiles) :
    ∃ e, dlp.scan content = .error e := by
  unfold DLPConfig.scan
  rw [if_pos henabled]
  obtain ⟨pattern, hpattern, hfails⟩ := h
  simp only [DLPConfig.active, List.mem_append] at hpattern
  -- the first list with a pattern that does not compile raises
  cases hsecrets : searchAll (fun pattern => "Secret pattern matched: " ++
      slice 60 pattern.source ++ "...") content
      (if dlp.blockSecrets then dlp.secretPatterns else []) with
  | error e => exact ⟨e, rfl⟩
  | ok secrets =>
      cases hpii : searchAll (fun pattern => "PII pattern matched: " ++
          slice 60 pattern.source ++ "...") content
          (if dlp.blockPii then dlp.piiPatterns else []) with
      | error e => exact ⟨e, rfl⟩
      | ok pii =>
          cases hcustom : searchAll (fun pattern =>
              "Custom pattern matched: " ++ pattern.source) content
              dlp.blockPatterns with
          | error e => exact ⟨e, rfl⟩
          | ok custom =>
              rcases hpattern with (hmem | hmem) | hmem
              · obtain ⟨e, he⟩ := searchAll_uncompiled _ content _
                  ⟨pattern, hmem, hfails⟩
                rw [hsecrets] at he
                cases he
              · obtain ⟨e, he⟩ := searchAll_uncompiled _ content _
                  ⟨pattern, hmem, hfails⟩
                rw [hpii] at he
                cases he
              · obtain ⟨e, he⟩ := searchAll_uncompiled _ content _
                  ⟨pattern, hmem, hfails⟩
                rw [hcustom] at he
                cases he

mutual

/-- The strings of a document. -/
def texts : Value → List String
  | .str s => [s]
  | .list items => itemTexts items
  | .dict items => fieldTexts items
  | _ => []

def itemTexts : List Value → List String
  | [] => []
  | item :: rest => texts item ++ itemTexts rest

def fieldTexts : List (String × Value) → List String
  | [] => []
  | (_, item) :: rest => texts item ++ fieldTexts rest

end

def messageTexts : Value → List String
  | .dict fields =>
      match Dict.get? fields "content" with
      | some content => texts content
      | none => []
  | _ => []

/-- The system prompt, if there is one, and the contents of the messages. -/
def Request.sentTexts (request : Request) : List String :=
  request.system.toList.filter (· ≠ "") ++
    request.messages.flatMap messageTexts

/-- Whatever the replies, no provider is called and the result is blocked. -/
def Blocks (sha256 : List Char → String) (gateway : AIGateway)
    (request : Request) : Prop :=
  Script.wp (Script.kind fun op => op.isCall = false)
    (chat sha256 gateway request)
    (fun out _ _ => ∃ result, out = .ok result ∧ result.dlpBlocked = true)
    () ()

/-- If a text that would be sent matches an active pattern, the request is
blocked. -/
def Complete (sha256 : List Char → String) (gateway : AIGateway)
    (request : Request) : Prop :=
  (∃ text ∈ request.sentTexts, ∃ pattern ∈ gateway.dlp.active,
    pattern.Finds text.toList) → Blocks sha256 gateway request

section Blocking

variable {sha256 : List Char → String} {gateway : AIGateway}
  {request : Request}

theorem reroute_healthy {Q : Except String Request → Unit → Unit → Prop}
    {p : GatewayOp → Prop}
    (h : Script.wp (Script.kind p) (reroute request) Q () ()) :
    Q (.ok request) () () := by
  unfold reroute at h
  split at h
  · rw [Script.wp_bind] at h
    exact h.2 true trivial
  · exact h

section

variable {p : GatewayOp → Prop}
  {Q : Except String Response → Unit → Unit → Prop}

/-- Past the scan a request may still be refused, here for want of a budget. -/
theorem admitted_refused {key : String}
    (h : Script.wp (Script.kind p) (admitted gateway request key) Q () ()) :
    ∃ result, Q (.ok result) () () ∧ result.dlpBlocked = false := by
  have hspend : Script.wp (Script.kind p) (do
        let ok ← Script.ask
          (GatewayOp.spendCheck (estimatedCost request) request.agent)
        if ok then do
          let result ← dispatch gateway request
          settleResult gateway request key result
        else pure { failed "Spend limit exceeded" with spendLimited := true })
      Q () () → ∃ result, Q (.ok result) () () ∧ result.dlpBlocked = false := by
    intro hspend
    exact ⟨_, hspend.2 false trivial, rfl⟩
  unfold admitted rateLimitReached at h
  rw [Script.wp_bind] at h
  split at h
  · rw [Script.wp_ask_bind] at h
    have hcount := h.2 (0 : Nat) trivial
    rw [Script.wp_pure] at hcount
    dsimp only at hcount
    split at hcount
    · exact ⟨_, hcount, rfl⟩
    · exact hspend hcount
  · exact hspend h

theorem lookedUp_refused
    (h : Script.wp (Script.kind p) (lookedUp sha256 gateway request) Q () ()) :
    ∃ result, Q (.ok result) () () ∧ result.dlpBlocked = false := by
  unfold lookedUp at h
  dsimp only at h
  split at h
  · exact admitted_refused (h.2 none trivial)
  · exact admitted_refused h

end

theorem blocks_iff (henabled : gateway.enabled = true)
    (hdlp : gateway.dlp.enabled = true) :
    Blocks sha256 gateway request ↔
      gateway.dlp.Catches (dumps (.list request.messages)) := by
  unfold Blocks chat
  rw [if_pos henabled]
  by_cases hcompiles : ∀ pattern ∈ gateway.dlp.active, pattern.Compiles
  · obtain ⟨violations, hscan, hfound⟩ := scan_compiled hdlp
      (dumps (.list request.messages)) hcompiles
    have hcatches : gateway.dlp.Catches (dumps (.list request.messages)) ↔
        violations ≠ [] := by
      rw [hfound]
      exact ⟨And.right, And.intro hcompiles⟩
    rw [hscan, hcatches]
    cases violations with
    | nil =>
        constructor
        · intro h
          rw [Script.wp_bind] at h
          obtain ⟨result, ⟨_, hresult, hblocked⟩, hfree⟩ :=
            lookedUp_refused (reroute_healthy h)
          cases hresult
          rw [hfree] at hblocked
          cases hblocked
        · intro h
          exact (h rfl).elim
    | cons violation violations =>
        constructor
        · intro _
          exact List.cons_ne_nil _ _
        · intro _
          exact ⟨_, rfl, rfl⟩
  · have huncompiled : ∃ pattern ∈ gateway.dlp.active, ¬pattern.Compiles := by
      simpa using hcompiles
    obtain ⟨e, hscan⟩ := scan_uncompiled hdlp
      (dumps (.list request.messages)) huncompiled
    rw [hscan]
    constructor
    · rintro ⟨_, hresult, _⟩
      cases hresult
    · intro h
      exact (hcompiles h.1).elim

/-- Data loss prevention is complete iff no text that is sent has a match, or
the serialized messages have one. -/
theorem dlp_complete_iff (henabled : gateway.enabled = true)
    (hdlp : gateway.dlp.enabled = true) :
    Complete sha256 gateway request ↔
      gateway.dlp.Catches (dumps (.list request.messages)) ∨
        ∀ text ∈ request.sentTexts, ∀ pattern ∈ gateway.dlp.active,
          ¬pattern.Finds text.toList := by
  unfold Complete
  rw [blocks_iff henabled hdlp]
  constructor
  · intro h
    by_cases hcaught : gateway.dlp.Catches (dumps (.list request.messages))
    · exact Or.inl hcaught
    · refine Or.inr ?_
      intro text htext pattern hpattern hfinds
      exact hcaught (h ⟨text, htext, pattern, hpattern, hfinds⟩)
  · rintro (hcaught | hclean) ⟨text, htext, pattern, hpattern, hfinds⟩
    · exact hcaught
    · exact (hclean text htext pattern hpattern hfinds).elim

end Blocking

namespace DlpWitness

def ascii : Letters where
  word := fun c => c.isAlphanum || c == '_'
  digit := Char.isDigit
  space := fun c => decide (9 ≤ c.toNat ∧ c.toNat ≤ 13) ||
    decide (28 ≤ c.toNat ∧ c.toNat ≤ 32)
  same := fun c d => c.toLower == d.toLower

def gateway : AIGateway where
  dlp :=
    { enabled := true
      secretPatterns := secretPatterns ascii
      piiPatterns := piiPatterns ascii }

def saying (content : String) : Request where
  messages := [.dict [("role", .str "user"), ("content", .str content)]]
  model := "m"

def secretSystem : Request :=
  { saying "hello" with system := some "password: hunter2" }

def found (content : List Char) : Bool :=
  gateway.dlp.active.any fun pattern =>
    match pattern.search with
    | .ok search => search content
    | .error _ => false

theorem found_iff (content : List Char) : found content = true ↔
    ∃ pattern ∈ gateway.dlp.active, pattern.Finds content := by
  unfold found
  rw [List.any_eq_true]
  constructor
  · rintro ⟨pattern, hmem, hfound⟩
    refine ⟨pattern, hmem, ?_⟩
    split at hfound
    · next search hsearch => exact ⟨search, hsearch, hfound⟩
    · cases hfound
  · rintro ⟨pattern, hmem, search, hsearch, hfound⟩
    refine ⟨pattern, hmem, ?_⟩
    rw [hsearch]
    exact hfound

theorem not_complete {request : Request} (text : String)
    (htext : text ∈ request.sentTexts) (hfound : found text.toList = true)
    (hmissed : found (dumps (.list request.messages)) = false) :
    ¬Complete (fun s => String.ofList s) gateway request := by
  intro h
  obtain ⟨pattern, hpattern, hfinds⟩ := (found_iff _).mp hfound
  have hblocks := h ⟨text, htext, pattern, hpattern, hfinds⟩
  have hcaught := (found_iff _).mpr ((blocks_iff rfl rfl).mp hblocks).2
  rw [hmissed] at hcaught
  cases hcaught

/-- A password in the system prompt, or a number behind an escaped newline,
passes. -/
theorem secrets_sent :
    ¬Complete (fun s => String.ofList s) gateway secretSystem ∧
      ¬Complete (fun s => String.ofList s) gateway
        (saying "my number:\n123-45-6789") :=
  ⟨not_complete "password: hunter2" (by decide +kernel)
      (by decide +kernel) (by decide +kernel),
    not_complete "my number:\n123-45-6789" (by decide +kernel)
      (by decide +kernel) (by decide +kernel)⟩

theorem all_compile : ∀ pattern ∈ gateway.dlp.active, pattern.Compiles := by
  intro pattern hpattern
  have hall : (gateway.dlp.active.all fun pattern =>
      match pattern.search with
      | .ok _ => true
      | .error _ => false) = true := by
    decide +kernel
  have hcompiles := List.all_eq_true.mp hall pattern hpattern
  split at hcompiles
  · next search hsearch => exact ⟨search, hsearch⟩
  · cases hcompiles

theorem number_complete :
    Complete (fun s => String.ofList s) gateway (saying "123-45-6789") :=
  (dlp_complete_iff rfl rfl).mpr
    (Or.inl ⟨all_compile, (found_iff _).mp (by decide +kernel)⟩)

end DlpWitness

end Voly.Gateway
