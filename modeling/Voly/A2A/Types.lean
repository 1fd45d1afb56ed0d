/-
Local multi-agent runs: assignments, settings, the questions that a run asks,
and the plan that mirrors it.
-/
import Voly.Plan.Document
import Voly.Plan.Verify

namespace Voly.A2A

open Python Interaction

/-- A sub-agent with its lead-assigned model tier and skills; the later fields
are filled by its execution. -/
structure Assignment where
  idx : Int
  role : String
  description : String := ""
  dependsOn : List Int := []
  tier : String := ""
  model : String := ""
  provider : String := ""
  skills : List String := []
  execution : String := ""
  content : String := ""
  ok : Bool := false
  error : String := ""
  cacheHit : Bool := false
  memHits : Nat := 0
  mode : String := "chat"
  modeReason : String := ""
  executor : String := ""
  filesTouched : List String := []
  planStatus : String := ""
  planVerifyOk : Option Bool := none
deriving DecidableEq

/-- An entry of `ROLE_REGISTRY`. -/
structure RoleDefinition where
  id : String
  mode : String := "chat"
  systemPrompt : String := ""
  defaultExecutor : String := ""

/-- The plan settings that a multi-agent run reads. -/
structure PlanConfig where
  enabled : Bool := false
  mode : String := "shadow"
  a2aAttach : Bool := true
  chatRequireOutput : Bool := true
  executorRequireGitDiff : Bool := false
  executorFileLineLimit : Int := 300
  architectApprovedFileLineLimit : Int := 500
  fileLineLimitExcludePatterns : List String := []
  testerCommand : String := ""
  commandTimeoutSeconds : Rat := 120

/-- The arguments of `run_local` and its surroundings, as far as a run reads
them. -/
structure RunConfig where
  task : String := ""
  taskId : String := ""
  taskHash : Nat := 0
  cwd : String := ""
  maxTokens : Nat := 4096
  architectMaxTokens : Nat := 4096
  memory : Bool := false
  skillMatcher : Bool := false
  executorRunner : Bool := false
  hybridCodeGen : Bool := true
  hybridRequireCwd : Bool := true
  requiresCodeGen : Bool := true
  executorDefault : String := "claude-code"
  executorRoles : List String := []
  skipDependentsOnFailure : Bool := true
  parallelWaves : Bool := true
  maxParallelRoles : Int := 3
  registry : List RoleDefinition := []
  environ : String → String := fun _ => ""

/-- What `chat_call` is given and reads off the assignment. -/
structure ChatCall where
  idx : Int
  role : String
  tier : String
  model : String
  provider : String
  user : String
  system : String
  maxTokens : Nat
deriving DecidableEq

/-- The response dict; `fallback` answered in place of the assigned provider. -/
structure ChatResponse where
  error : String := ""
  content : String := ""
  cacheHit : Bool := false
  spendLimited : Bool := false
  fallback : Option (String × String) := none

/-- The arguments of `executor_runner`. -/
structure ExecutorCall where
  idx : Int
  role : String
  task : String
  cwd : String
  executor : String
  system : String
deriving DecidableEq

/-- A dict with its "ok" or else "success", or anything else as text. -/
inductive ExecutorResult where
  | dict (content : String) (ok : Option Bool) (error : String)
      (filesTouched : List String) (executor : String)
  | text (content : String)

/-- What the tracker's graph shows of a role. -/
inductive NodeStatus where
  | pending | running | completed | blocked | failed
deriving DecidableEq

abbrev ChatReply := Except String ChatResponse

abbrev ExecutorReply := Except String ExecutorResult

/-- The effects of a run.  Chat calls in flight together are one question. -/
inductive RoleOp where
  | plan (op : PlanOp)
  | applyExclusions
  | git (cwd : String)
  | fingerprints (cwd : String) (porcelain : Dict String)
  | wallTime
  | delta (cwd : String) (gitBefore : Dict String) (since : Rat)
      (fingerprints : Dict String)
  | gitEvidence (cwd : String) (files : List String)
  | memorySearch (query : String)
  | skills (ids : List String) (task role : String)
  | projectContext (cwd : String)
  | chat (calls : List ChatCall)
  | execute (call : ExecutorCall)
  | excludeProvider (provider error : String)
  | remember (title content role model provider : String)
  | graphUpdate (idx : Int) (status : NodeStatus)
  | heartbeat (role : String) (doneRoles : Nat)
  | roleEvidence (idx : Int)

@[reducible] def RoleReply : RoleOp → Type
  | .plan op => PlanReply op
  | .applyExclusions => Unit
  | .git _ => Except PyError (Dict String)
  | .fingerprints _ _ => Dict String
  | .wallTime => Rat
  | .delta _ _ _ _ => Except PyError (List String)
  | .gitEvidence _ _ => String
  | .memorySearch _ => String × Nat
  | .skills _ _ _ => String
  | .projectContext _ => String
  | .chat _ => Nat → ChatReply
  | .execute _ => ExecutorReply
  | .excludeProvider _ _ => Unit
  | .remember _ _ _ _ _ => Unit
  | .graphUpdate _ _ => Unit
  | .heartbeat _ _ => Unit
  | .roleEvidence _ => Unit

/-- The fields that change.  `done` is a dict's values in insertion order. -/
structure LocalRun where
  assignments : List Assignment
  planConfig : Option PlanConfig := none
  roleModes : Int → Option String := fun _ => none
  plan : Option Plan := none
  planMode : String := "off"
  gatesOn : Bool := false
  done : List Assignment := []
  degradedNotes : Int → Option (List String) := fun _ => none

/-- A method of `_LocalRun`. -/
abbrev RoleScript := Script RoleOp RoleReply LocalRun PyError

abbrev HelperScript := Script RoleOp RoleReply Unit PyError

/-- `self.done.get(idx)`. -/
def LocalRun.prior? (run : LocalRun) (idx : Int) : Option Assignment :=
  run.done.find? fun p => p.idx = idx

/-- The assignments that a role depends on, as far as they are done. -/
def LocalRun.priors (run : LocalRun) (a : Assignment) : List Assignment :=
  a.dependsOn.filterMap run.prior?

/-- `done[a.idx] = a`: an existing key keeps its place. -/
def setDone (a : Assignment) : List Assignment → List Assignment
  | [] => [a]
  | p :: rest => if p.idx = a.idx then a :: rest else p :: setDone a rest

def LocalRun.record (a : Assignment) (run : LocalRun) : LocalRun :=
  { run with done := setDone a run.done }

/-- A path that is neither empty nor under `.voly/`. -/
def isProjectFile (path : String) : Bool :=
  path ≠ "" && !startsWith path ".voly/"

/-- `(role or "").strip().lower()`. -/
def roleKey (role : String) : String := lower (strip role)

def executorCapableRoles (config : RunConfig) : List String :=
  (config.registry.filter fun r => r.mode = "executor").map RoleDefinition.id

def defaultExecutorRoles : List String :=
  ["developer", "bugfixer", "tester", "devops"]

def effectiveExecutorRoles (executorRoles : List String) : List String :=
  if executorRoles = [] then defaultExecutorRoles
  else (executorRoles.map strip).filter fun r => r ≠ ""

def RunConfig.hasCwd (config : RunConfig) : Bool := strip config.cwd ≠ ""

/-- Whether the hybrid executor path is eligible for this run. -/
def hybridActive (config : RunConfig) : Bool :=
  config.hybridCodeGen && !(config.hybridRequireCwd && !config.hasCwd)

/-- `(mode, reason)` for a role; `leadExecution` is the lead's override. -/
def resolveRoleMode (config : RunConfig) (role leadExecution : String) :
    String × String :=
  let key := roleKey role
  let lead := roleKey leadExecution
  let capable := executorCapableRoles config
  if !hybridActive config then ("chat", "hybrid_disabled")
  else if leadExecution ≠ "" ∧ lead ∈ ["chat", "executor"] then
    if lead = "executor" ∧ key ∉ capable then ("chat", "lead_executor_denied")
    else (lead, "lead_override")
  else if key = "tester" ∧ !config.requiresCodeGen then
    ("chat", "tester_text_only")
  else if key ∈ effectiveExecutorRoles config.executorRoles ∧ key ∈ capable then
    ("executor", "role_map")
  else ("chat", "role_map_chat")

def runMode (config : RunConfig) (a : Assignment) : String × String :=
  let resolved := resolveRoleMode config a.role a.execution
  if resolved.1 = "executor" ∧ !config.hasCwd then ("chat", "no_cwd")
  else resolved

/-- `str.upper()` on the letters that environment variables are spelled
with. -/
def upper (s : String) : String :=
  String.ofList (s.toList.map Char.toUpper)

/-- A hybrid role's executor: environment, config, registry, then the sentinel.
-/
def resolveRoleExecutor (config : RunConfig) (role fallback : String) :
    String :=
  let key := roleKey role
  let override := strip (config.environ ("VOLY_A2A_EXECUTOR_" ++ upper key))
  if override ≠ "" then override
  else if fallback ≠ "" ∧ fallback ≠ "claude-code" then fallback
  else
    match config.registry.find? fun r => r.id = key ∧ r.defaultExecutor ≠ ""
      with
    | some r => r.defaultExecutor
    | none => orElse fallback "claude-code"

def assignmentStepId (idx : Int) (role : String) : String :=
  toString idx ++ ":" ++ role

def defaultAcceptanceForRole (role mode : String) (cfg : PlanConfig) :
    List AcceptanceCheck :=
  let modeKey := roleKey (orElse mode "chat")
  (if modeKey = "chat" ∧ cfg.chatRequireOutput then
    [{ type := "output_nonempty" }] else []) ++
  (if modeKey = "executor" ∧ cfg.executorRequireGitDiff then
    [{ type := "git_diff_nonempty" }] else []) ++
  (if modeKey = "executor" ∧ 0 < cfg.executorFileLineLimit then
    [{ type := "file_line_limit"
       maxLines := cfg.executorFileLineLimit
       approvedMaxLines := max cfg.executorFileLineLimit
         cfg.architectApprovedFileLineLimit
       excludePatterns := cfg.fileLineLimitExcludePatterns }] else []) ++
  (if roleKey role = "tester" ∧ strip cfg.testerCommand ≠ "" then
    [{ type := "command", run := strip cfg.testerCommand }] else [])

/-- The ids of the steps that a role waits for; an unknown idx is dropped. -/
def dependencyIds (assignments : List Assignment) (a : Assignment) :
    List String :=
  a.dependsOn.filterMap fun d =>
    (assignments.reverse.find? fun p => p.idx = d).map fun p =>
      assignmentStepId d p.role

def mirroredMode (roleModes : Int → Option String) (a : Assignment) :
    String :=
  let mode := orElse (orElse ((roleModes a.idx).getD "") a.mode) "chat"
  if mode ∈ ["chat", "executor"] then mode else "chat"

def assignmentStep (task : String) (assignments : List Assignment)
    (cfg : PlanConfig) (roleModes : Int → Option String) (a : Assignment) :
    PlanStep :=
  let role := orElse a.role "developer"
  let mode := mirroredMode roleModes a
  { id := assignmentStepId a.idx role
    role
    mode := if mode = "executor" then .executor else .chat
    dependsOn := dependencyIds assignments a
    acceptance := defaultAcceptanceForRole role mode cfg
    task := orElse a.description task
    executor := a.executor
    model := a.model
    provider := a.provider
    tier := a.tier }

def assignmentsToPlan (task : String) (assignments : List Assignment)
    (planId taskId cwd : String) (cfg : PlanConfig)
    (roleModes : Int → Option String) : Plan :=
  { planId
    taskId
    cwd
    task := slice 2000 task
    steps := assignments.map (assignmentStep task assignments cfg roleModes) }

def planGatesEnabled (cfg : Option PlanConfig) : Bool :=
  match cfg with
  | none => false
  | some cfg =>
      cfg.enabled && cfg.a2aAttach &&
        lower (orElse cfg.mode "off") ∈ ["shadow", "active"]

/-- `bool(entry.get("ok"))`. -/
def entryOk (entry : Dict Json) : Bool := (Dict.truthy? entry "ok").isSome

def syncAssignmentPlanFields (a : Assignment) (step : PlanStep) :
    Assignment :=
  { a with
    planStatus := step.status.text
    planVerifyOk :=
      if step.verifyLog ≠ [] then some (step.verifyLog.all entryOk)
      else if step.acceptance = [] then none else some true
    error := orElse a.error step.error }

theorem colon_notMem_toString (i : Int) : ':' ∉ (toString i).toList := by
  have hdigits : ∀ n : Nat, ':' ∉ (Nat.repr n).toList := by
    intro n hin
    rw [Nat.toList_repr] at hin
    have hdigit := Nat.isDigit_of_mem_toDigits (by decide) (by decide) hin
    exact absurd hdigit (by decide)
  cases i with
  | ofNat n => exact hdigits n
  | negSucc n =>
      intro hin
      have hsign : (toString (Int.negSucc n)).toList =
          '-' :: (Nat.repr (n + 1)).toList := String.toList_append
      rw [hsign] at hin
      rcases List.mem_cons.mp hin with hcolon | hrest
      · exact absurd hcolon (by decide)
      · exact hdigits (n + 1) hrest

theorem repr_injective {m n : Nat} (h : Nat.repr m = Nat.repr n) : m = n := by
  have hdigits : Nat.toDigits 10 m = Nat.toDigits 10 n := by
    rw [← Nat.toList_repr, h, Nat.toList_repr]
  rw [← Nat.ofDigitChars_ten_toDigits (n := m), hdigits,
    Nat.ofDigitChars_ten_toDigits]

theorem toString_injective {i j : Int} (h : toString i = toString j) :
    i = j := by
  have hsign : ∀ m n : Nat, toString (Int.ofNat m) ≠
      toString (Int.negSucc n) := by
    intro m n heq
    have hin : '-' ∈ (Nat.repr m).toList := by
      rw [show Nat.repr m = "-" ++ Nat.repr (n + 1) from heq,
        String.toList_append]
      exact List.mem_cons_self
    rw [Nat.toList_repr] at hin
    have hdigit := Nat.isDigit_of_mem_toDigits (by decide) (by decide) hin
    exact absurd hdigit (by decide)
  cases i with
  | ofNat m =>
      cases j with
      | ofNat n => rw [repr_injective (h : Nat.repr m = Nat.repr n)]
      | negSucc n => exact absurd h (hsign m n)
  | negSucc m =>
      cases j with
      | ofNat n => exact absurd h.symm (hsign n m)
      | negSucc n =>
          have hrest := (String.append_right_inj "-").mp
            (h : "-" ++ Nat.repr (m + 1) = "-" ++ Nat.repr (n + 1))
          rw [Nat.succ.inj (repr_injective hrest)]

theorem before_separator {A : Type} {x : A} {l l' r r' : List A} (hl : x ∉ l)
    (hl' : x ∉ l') (h : l ++ x :: r = l' ++ x :: r') : l = l' := by
  induction l generalizing l' with
  | nil =>
      cases l' with
      | nil => rfl
      | cons b l' =>
          have hhead := (List.cons.inj h).1
          exact absurd (hhead ▸ List.mem_cons_self) hl'
  | cons a l ih =>
      cases l' with
      | nil =>
          have hhead := (List.cons.inj h).1
          exact absurd (hhead ▸ List.mem_cons_self) hl
      | cons b l' =>
          obtain ⟨rfl, hrest⟩ := List.cons.inj h
          rw [ih (fun hin => hl (List.mem_cons_of_mem _ hin))
            (fun hin => hl' (List.mem_cons_of_mem _ hin)) hrest]

theorem assignmentStepId_idx {i j : Int} {role role' : String}
    (h : assignmentStepId i role = assignmentStepId j role') : i = j := by
  apply toString_injective
  have hchars := congrArg String.toList h
  simp only [assignmentStepId, String.toList_append, List.append_assoc]
    at hchars
  exact String.toList_inj.mp (before_separator (colon_notMem_toString i)
    (colon_notMem_toString j) hchars)

end Voly.A2A
