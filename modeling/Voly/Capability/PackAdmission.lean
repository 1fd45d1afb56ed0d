/-
Static admission of external packs: the risk patterns, the capped scan, and
which components are staged.
-/
import Voly.Gateway.Dlp
import Voly.Python.JsonDoc
import Mathlib.Data.List.Dedup

namespace Voly

open Python Gateway

inductive Severity where
  | low
  | medium
  | high
  | critical
deriving DecidableEq

/-- `severity in {"high", "critical"}`. -/
def Severity.severe : Severity → Bool
  | .high | .critical => true
  | .low | .medium => false

/-- `_RISK_ORDER`. -/
def Severity.rank : Severity → Nat
  | .low => 0
  | .medium => 1
  | .high => 2
  | .critical => 3

structure PackSecurityFinding where
  findingId : String
  severity : Severity
  path : String
  message : String
deriving DecidableEq

structure PackComponent where
  kind : String
  componentId : String
  path : String
deriving DecidableEq

/-- A file of the pack source; the text that the scan reads may raise. -/
structure SourceFile (B : Type) where
  content : B
  size : Nat
  text : Option (List Char)

structure PackRiskPattern where
  findingId : String
  severity : Severity
  message : String
  regex : Regex
  kinds : Option (List String) := none

def PackRiskPattern.applies (pattern : PackRiskPattern) (kind : String) :
    Bool :=
  match pattern.kinds with
  | some kinds => kinds.contains kind
  | none => true

section Patterns

variable (letters : Letters)

/-- `\b(a|b|...)\b`. -/
def wholeWords (words : List String) : Regex :=
  .concat [.boundary, .oneOf (words.map letters.text), .boundary]

/-- `.{0,n}`. -/
def withinLine (n : Nat) : Regex := .upTo n (.letter fun c => c != '\n')

def packRiskPatterns : List PackRiskPattern := [
  { findingId := "prompt_instruction_override"
    severity := .high
    message := "Instruction attempts to override prior or system guidance"
    regex := .concat [wholeWords letters ["ignore", "disregard", "override"],
      withinLine 50, wholeWords letters ["previous", "prior", "system"]]
    kinds := some ["agent", "skill", "rule", "legacy_command"] },
  { findingId := "prompt_secret_exfiltration"
    severity := .critical
    message := "Instruction requests disclosure or transmission of secrets"
    regex := .concat [
      .boundary,
      .oneOf [letters.text "reveal", letters.text "print",
        letters.text "send", letters.text "upload",
        .concat [letters.text "exfiltrat", .star (.letter letters.word)]],
      .boundary, withinLine 80, .boundary,
      .oneOf [letters.text "secret", letters.text "token",
        letters.text "password",
        .concat [letters.text "api", .opt (letters.among "_ -"),
          letters.text "key"],
        letters.text ".env"],
      .boundary] },
  { findingId := "destructive_command"
    severity := .critical
    message := "Destructive filesystem or Git command detected"
    regex := .oneOf [
      .concat [letters.text "rm", .plus letters.spaces, letters.text "-rf",
        .boundary],
      .concat [letters.text "remove-item", .boundary, withinLine 60,
        letters.text "-recurse", .boundary],
      .concat [letters.text "git", .plus letters.spaces, letters.text "reset",
        .plus letters.spaces, letters.text "--hard", .boundary],
      .concat [letters.text "format", .plus letters.spaces,
        letters.among "abcdefghijklmnopqrstuvwxyz", letters.text ":"]] },
  { findingId := "subprocess_execution"
    severity := .medium
    message := "Component may launch a subprocess"
    regex := .oneOf [wholeWords letters ["subprocess"],
      wholeWords letters ["child_process"], wholeWords letters ["os.system"],
      wholeWords letters ["execSync"], wholeWords letters ["spawnSync"],
      .concat [letters.text "\"command\"", .star letters.spaces,
        letters.text ":"]]
    kinds := some ["hook", "mcp_config", "legacy_command", "skill"] },
  { findingId := "network_access"
    severity := .medium
    message := "Component may access the network"
    regex := .oneOf [
      .concat [letters.text "http", .opt (letters.text "s"),
        letters.text "://"],
      wholeWords letters ["curl"], wholeWords letters ["wget"],
      .concat [.boundary, letters.text "fetch", .star letters.spaces,
        letters.text "("],
      .concat [.boundary, letters.text "requests."]] },
  { findingId := "secret_access"
    severity := .high
    message :=
      "Component may read credentials or secret-bearing environment data"
    regex := .oneOf [wholeWords letters ["process.env"],
      wholeWords letters ["os.environ"],
      .concat [.boundary, letters.text "getenv", .star letters.spaces,
        letters.text "("],
      .concat [letters.text ".env", .boundary],
      .concat [letters.text "api", .opt (letters.among "_ -"),
        letters.text "key"],
      .concat [letters.text "access", .opt (letters.among "_ -"),
        letters.text "token"]]
    kinds := some ["hook", "mcp_config", "legacy_command", "skill"] },
  { findingId := "filesystem_write"
    severity := .medium
    message := "Component may modify the filesystem"
    regex := .oneOf [letters.text "write_text", letters.text "writeFile",
      letters.text "appendFile", letters.text "mkdir",
      letters.text "copy-item", letters.text "move-item",
      letters.text "remove-item",
      .concat [letters.text ">", .star letters.spaces, letters.among "./~"],
      .concat [letters.text "tee", .plus letters.spaces]]
    kinds := some ["hook", "legacy_command", "skill"] }]

/-- The prohibition of `is_negated`; `$` also matches before a last line feed.
-/
def negation : Regex :=
  .concat [
    .oneOf [letters.text "never",
      .concat [letters.text "do", .plus letters.spaces, letters.text "not"],
      letters.text "don't",
      .concat [letters.text "must", .plus letters.spaces,
        letters.text "not"],
      letters.text "avoid", letters.text "prevent", letters.text "block",
      letters.text "detect"],
    .upTo 35 (.letter fun c => c != '.' && c != '\n'),
    .opt (.letter fun c => c == '\n')]

/-- `is_negated(text, match_start)`. -/
def isNegated (text : List Char) (matchStart : Nat) : Bool :=
  ((text.take matchStart).drop (matchStart - 50)).tails.any
    ((negation letters).matchesWhole letters.word false)

/-- `_scan_patterns` for one pattern: only the first match counts. -/
def scanPattern (component : PackComponent) (text : List Char)
    (pattern : PackRiskPattern) : List PackSecurityFinding :=
  if pattern.applies component.kind then
    match (pattern.regex.starts letters.word false 0 text).head? with
    | none => []
    | some start =>
        if pattern.severity.severe && isNegated letters text start then []
        else
          [⟨pattern.findingId, pattern.severity, component.path,
            pattern.message⟩]
  else []

/-- The servers of an MCP configuration: `payload.get("mcpServers", payload)`
and its values have to be objects. -/
def mcpShape : Doc → Bool
  | .dict items =>
      let servers := ((Doc.dict items).field? "mcpServers").getD (.dict items)
      match servers with
      | .dict servers =>
          servers.all fun server =>
            match ((Doc.dict servers).field? server.1) with
            | some (.dict _) => true
            | _ => false
      | _ => false
  | _ => false

def inspectMcpConfig (path : String) (text : List Char) :
    List PackSecurityFinding :=
  match (loads text).filter Doc.proper with
  | none =>
      [⟨"invalid_mcp_json", .high, path,
        "MCP configuration is not valid JSON"⟩]
  | some payload =>
      if mcpShape payload then []
      else
        [⟨"invalid_mcp_shape", .high, path,
          "MCP configuration must contain a server mapping"⟩]

def maxComponentBytes : Nat := 512000

def maxFindings : Nat := 200

variable {B : Type}

def scanComponent (files : String → SourceFile B) (component : PackComponent) :
    List PackSecurityFinding :=
  let file := files component.path
  if maxComponentBytes < file.size then
    [⟨"component_too_large", .high, component.path,
      "Component exceeds the static admission size limit"⟩]
  else
    match file.text with
    | none =>
        [⟨"component_unreadable", .high, component.path,
          "Component could not be read for admission"⟩]
    | some text =>
        (if component.kind = "mcp_config" then
          inspectMcpConfig component.path text else []) ++
          (packRiskPatterns letters).flatMap (scanPattern letters component text)

/-- The loop of `admit_external_pack`. -/
def scanComponents (files : String → SourceFile B) :
    List PackComponent → List PackSecurityFinding → List PackSecurityFinding
  | [], findings => findings
  | component :: rest, findings =>
      let findings := findings ++ scanComponent letters files component
      if maxFindings ≤ findings.length then findings
      else scanComponents files rest findings

/-- `PackAdmissionReport`; the order of its findings is left out. -/
structure PackAdmissionReport where
  findings : List PackSecurityFinding

/-- `_overall_risk`. -/
def PackAdmissionReport.riskLevel (report : PackAdmissionReport) : Severity :=
  report.findings.foldl (fun worst finding =>
    if worst.rank < finding.severity.rank then finding.severity else worst)
    .low

def PackAdmissionReport.decision (report : PackAdmissionReport) : String :=
  if report.riskLevel.severe then "quarantine" else "allow"

def PackAdmissionReport.quarantinedComponents (report : PackAdmissionReport) :
    List String :=
  sorted ((report.findings.filter fun finding =>
    finding.severity.severe).map PackSecurityFinding.path).dedup

def admitExternalPack (files : String → SourceFile B)
    (components : List PackComponent) : PackAdmissionReport :=
  ⟨(scanComponents letters files components []).take maxFindings⟩

end Patterns

structure StagedPackComponent where
  kind : String
  componentId : String
  sourcePath : String
  stagedPath : Option String
  sha256 : String
  status : String
deriving DecidableEq

section Staging

variable {B : Type} (sha256 : B → String)

/-- The components of `build_pack_manifest`. -/
def stageComponents (files : String → SourceFile B)
    (components : List PackComponent) (admission : PackAdmissionReport) :
    List StagedPackComponent :=
  components.map fun component =>
    let quarantined :=
      admission.quarantinedComponents.contains component.path
    { kind := component.kind
      componentId := component.componentId
      sourcePath := component.path
      stagedPath :=
        if quarantined then none else some ("content/" ++ component.path)
      sha256 := sha256 (files component.path).content
      status := if quarantined then "quarantined" else "staged" }

/-- What `_copy_staged_components` copies: from where, and to where. -/
def stagedCopies (components : List StagedPackComponent) :
    List (String × String) :=
  components.filterMap fun component =>
    component.stagedPath.map fun path => (component.sourcePath, path)

end Staging

section Law

variable (letters : Letters) {B : Type} (files : String → SourceFile B)

/-- The pattern matches somewhere, with no prohibition before that place. -/
def Exposes (pattern : PackRiskPattern) (text : List Char) : Prop :=
  ∃ before found after, text = before ++ found ++ after ∧
    pattern.regex.Matches letters.word
      (Regex.behind letters.word false before) found
      (Regex.ahead letters.word false after) ∧
    isNegated letters text before.length = false

/-- A component that has to stay out: too large, unreadable, or exposing an
applicable high or critical risk. -/
def Risky (component : PackComponent) : Prop :=
  maxComponentBytes < (files component.path).size ∨
    (files component.path).text = none ∨
    ∃ text, (files component.path).text = some text ∧
      ∃ pattern ∈ packRiskPatterns letters,
        pattern.applies component.kind = true ∧
        pattern.severity.severe = true ∧ Exposes letters pattern text

/-- The component is quarantined, so it has no staged path and is not
copied. -/
def KeptOut (sha256 : B → String) (components : List PackComponent)
    (component : PackComponent) : Prop :=
  let admission := admitExternalPack letters files components
  let staged := stageComponents sha256 files components admission
  component.path ∈ admission.quarantinedComponents ∧
    (∀ entry ∈ staged, entry.sourcePath = component.path →
      entry.stagedPath = none ∧ entry.status = "quarantined") ∧
    ∀ copy ∈ stagedCopies staged, copy.1 ≠ component.path

/-- A component with this path gives a high or critical finding below the cap.
-/
def Caught (components : List PackComponent) (component : PackComponent) :
    Prop :=
  ∃ before other after, components = before ++ other :: after ∧
    other.path = component.path ∧
    ∃ early finding late,
      scanComponent letters files other = early ++ finding :: late ∧
      finding.severity.severe = true ∧
      (before.flatMap (scanComponent letters files)).length + early.length <
        maxFindings

variable {letters files}

theorem scanComponents_take (components : List PackComponent)
    (findings : List PackSecurityFinding) :
    (scanComponents letters files components findings).take maxFindings =
      (findings ++ components.flatMap (scanComponent letters files)).take
        maxFindings := by
  induction components generalizing findings with
  | nil => rw [scanComponents, List.flatMap_nil, List.append_nil]
  | cons component rest ih =>
      rw [scanComponents, List.flatMap_cons, ← List.append_assoc]
      split
      case isTrue hfull => rw [List.take_append_of_le_length hfull]
      case isFalse => exact ih _

section

variable {component : PackComponent} {text : List Char}
  {pattern : PackRiskPattern} {components : List PackComponent}

theorem mem_take_iff {A : Type} {xs : List A} {n : Nat} {x : A} :
    x ∈ xs.take n ↔
      ∃ before after, xs = before ++ x :: after ∧ before.length < n := by
  constructor
  · intro h
    obtain ⟨before, after, hsplit⟩ := List.append_of_mem h
    have hlength := congrArg List.length hsplit
    rw [List.length_take, List.length_append, List.length_cons] at hlength
    refine ⟨before, after ++ xs.drop n, ?_, by omega⟩
    rw [← List.cons_append, ← List.append_assoc, ← hsplit,
      List.take_append_drop]
  · rintro ⟨before, after, rfl, hlt⟩
    rw [List.take_append, List.take_cons (by omega)]
    exact List.mem_append_right _ List.mem_cons_self

theorem mem_scanPattern_iff {finding : PackSecurityFinding} :
    finding ∈ scanPattern letters component text pattern ↔
      pattern.applies component.kind = true ∧
        ∃ start, (pattern.regex.starts letters.word false 0 text).head? =
            some start ∧
          (pattern.severity.severe && isNegated letters text start) = false ∧
          finding = ⟨pattern.findingId, pattern.severity, component.path,
            pattern.message⟩ := by
  unfold scanPattern
  cases happlies : pattern.applies component.kind with
  | false => simp
  | true =>
      rw [if_pos rfl]
      cases hstart :
          (pattern.regex.starts letters.word false 0 text).head? with
      | none => simp
      | some start =>
          dsimp only
          cases hnegated :
              pattern.severity.severe && isNegated letters text start with
          | true =>
              rw [if_pos rfl]
              constructor
              · intro hmem
                cases hmem
              · rintro ⟨_, _, hsame, hopen, _⟩
                cases hsame
                rw [hnegated] at hopen
                cases hopen
          | false =>
              rw [if_neg Bool.false_ne_true, List.mem_singleton]
              constructor
              · intro heq
                exact ⟨rfl, start, rfl, hnegated, heq⟩
              · rintro ⟨_, _, _, _, heq⟩
                exact heq

theorem scanPattern_path {finding : PackSecurityFinding}
    (h : finding ∈ scanPattern letters component text pattern) :
    finding.path = component.path := by
  obtain ⟨_, _, _, _, rfl⟩ := mem_scanPattern_iff.mp h
  rfl

theorem inspectMcpConfig_path {path : String} {finding : PackSecurityFinding}
    (h : finding ∈ inspectMcpConfig path text) : finding.path = path := by
  unfold inspectMcpConfig at h
  split at h
  · rw [List.mem_singleton.mp h]
  · split at h
    · cases h
    · rw [List.mem_singleton.mp h]

theorem scanComponent_path {finding : PackSecurityFinding}
    (h : finding ∈ scanComponent letters files component) :
    finding.path = component.path := by
  unfold scanComponent at h
  dsimp only at h
  split at h
  · rw [List.mem_singleton.mp h]
  · split at h
    · rw [List.mem_singleton.mp h]
    · rcases List.mem_append.mp h with hmcp | hscan
      · split at hmcp
        · exact inspectMcpConfig_path hmcp
        · cases hmcp
      · obtain ⟨pattern, _, hfinding⟩ := List.mem_flatMap.mp hscan
        exact scanPattern_path hfinding

theorem mem_quarantined_iff {report : PackAdmissionReport} {path : String} :
    path ∈ report.quarantinedComponents ↔
      ∃ finding ∈ report.findings, finding.severity.severe = true ∧
        finding.path = path := by
  rw [PackAdmissionReport.quarantinedComponents, sorted,
    List.mem_insertionSort, List.mem_dedup, List.mem_map]
  constructor
  · rintro ⟨finding, hmem, hpath⟩
    obtain ⟨hfinding, hsevere⟩ := List.mem_filter.mp hmem
    exact ⟨finding, hfinding, hsevere, hpath⟩
  · rintro ⟨finding, hfinding, hsevere, hpath⟩
    exact ⟨finding, List.mem_filter.mpr ⟨hfinding, hsevere⟩, hpath⟩

theorem flatMap_split {A C : Type} {f : A → List C} {xs : List A}
    {before after : List C} {x : C} (h : xs.flatMap f = before ++ x :: after) :
    ∃ earlier y later early late, xs = earlier ++ y :: later ∧
      f y = early ++ x :: late ∧ before = earlier.flatMap f ++ early := by
  induction xs generalizing before with
  | nil => simp at h
  | cons y ys ih =>
      rw [List.flatMap_cons] at h
      rcases List.append_eq_append_iff.mp h with
        ⟨rest, hbefore, hys⟩ | ⟨rest, hy, hrest⟩
      · obtain ⟨earlier, z, later, early, late, hsplit, hz, heq⟩ := ih hys
        refine ⟨y :: earlier, z, later, early, late, ?_, hz, ?_⟩
        · rw [hsplit, List.cons_append]
        · rw [hbefore, heq, List.flatMap_cons, List.append_assoc]
      · cases rest with
        | nil =>
            obtain ⟨earlier, z, later, early, late, hsplit, hz, heq⟩ :=
              @ih [] hrest.symm
            refine ⟨y :: earlier, z, later, early, late, ?_, hz, ?_⟩
            · rw [hsplit, List.cons_append]
            · rw [List.flatMap_cons, List.append_assoc, ← heq, hy]
              simp
        | cons first rest =>
            obtain ⟨rfl, hafter⟩ := List.cons.inj hrest
            exact ⟨[], y, ys, before, rest, rfl, hy, rfl⟩

theorem quarantined_iff_caught :
    component.path ∈
        (admitExternalPack letters files components).quarantinedComponents ↔
      Caught letters files components component := by
  rw [mem_quarantined_iff, admitExternalPack]
  dsimp only
  rw [scanComponents_take, List.nil_append]
  constructor
  · rintro ⟨finding, hmem, hsevere, hpath⟩
    obtain ⟨before, after, hsplit, hlt⟩ := mem_take_iff.mp hmem
    obtain ⟨earlier, other, later, early, late, hcomponents, hscan, hbefore⟩ :=
      flatMap_split hsplit
    have hfinding : finding ∈ scanComponent letters files other := by
      rw [hscan]
      exact List.mem_append_right _ List.mem_cons_self
    rw [hbefore, List.length_append] at hlt
    exact ⟨earlier, other, later, hcomponents,
      (scanComponent_path hfinding).symm.trans hpath, early, finding, late,
      hscan, hsevere, hlt⟩
  · rintro ⟨before, other, after, rfl, hpath, early, finding, late, hscan,
      hsevere, hlt⟩
    have hfinding : finding ∈ scanComponent letters files other := by
      rw [hscan]
      exact List.mem_append_right _ List.mem_cons_self
    refine ⟨finding, ?_, hsevere, (scanComponent_path hfinding).trans hpath⟩
    apply mem_take_iff.mpr
    refine ⟨before.flatMap (scanComponent letters files) ++ early,
      late ++ after.flatMap (scanComponent letters files), ?_, ?_⟩
    · rw [List.flatMap_append, List.flatMap_cons, hscan]
      simp only [List.append_assoc, List.cons_append]
    · rw [List.length_append]
      exact hlt

theorem keptOut_iff (sha256 : B → String) :
    KeptOut letters files sha256 components component ↔
      component.path ∈
        (admitExternalPack letters files components).quarantinedComponents := by
  constructor
  · exact fun h => h.1
  · intro hquarantined
    have hstaged : ∀ entry ∈ stageComponents sha256 files components
        (admitExternalPack letters files components),
        entry.sourcePath = component.path →
        entry.stagedPath = none ∧ entry.status = "quarantined" := by
      intro entry hentry hpath
      obtain ⟨source, _, rfl⟩ := List.mem_map.mp hentry
      dsimp only at hpath ⊢
      rw [hpath, List.contains_iff_mem.mpr hquarantined]
      exact ⟨rfl, rfl⟩
    refine ⟨hquarantined, hstaged, ?_⟩
    intro copy hcopy hpath
    obtain ⟨entry, hentry, heq⟩ := List.mem_filterMap.mp hcopy
    obtain ⟨path, hsome, rfl⟩ := Option.map_eq_some_iff.mp heq
    rw [(hstaged entry hentry hpath).1] at hsome
    cases hsome

theorem exposes_iff :
    Exposes letters pattern text ↔
      ∃ start ∈ pattern.regex.starts letters.word false 0 text,
        isNegated letters text start = false := by
  constructor
  · rintro ⟨before, found, after, hsplit, hmatch, hopen⟩
    refine ⟨before.length, ?_, hopen⟩
    exact (Regex.mem_starts_iff _ _ _ _ _).mpr
      ⟨before, found, after, hsplit, (Nat.zero_add _).symm, hmatch⟩
  · rintro ⟨start, hstart, hopen⟩
    obtain ⟨before, found, after, hsplit, rfl, hmatch⟩ :=
      (Regex.mem_starts_iff _ _ _ _ _).mp hstart
    rw [Nat.zero_add] at hopen
    exact ⟨before, found, after, hsplit, hmatch, hopen⟩

end

end Law

namespace AdmissionWitness

def isWord (c : Char) : Bool := c.isAlphanum || c == '_'

def asciiLetters : Letters where
  word := isWord
  digit := Char.isDigit
  space c := c == ' ' || c == '\n' || c == '\t' || c == '\r'
  same a b := a.toLower == b.toLower

def hook : PackComponent :=
  { kind := "hook", componentId := "hooks", path := "hooks/hooks.json" }

def hookText : String := "never rm -rf. rm -rf x"

def hookFile (_ : String) : SourceFile String :=
  { content := hookText, size := 22, text := some hookText.toList }

end AdmissionWitness

end Voly
