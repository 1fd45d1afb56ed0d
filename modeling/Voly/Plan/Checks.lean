/-
Built-in acceptance checks.  What a check looks up outside the process is read
off one snapshot.
-/
import Voly.Plan.Types

namespace Voly

open Python

/-- Outcome of a single acceptance check. -/
structure VerifyResult where
  type : String
  ok : Bool
  message : String := ""
  detail : Dict Json := []

def VerifyResult.toDict (result : VerifyResult) : Dict Json :=
  [("type", .str result.type), ("ok", .bool result.ok),
    ("message", .str result.message), ("detail", .obj result.detail)]

/-- Evidence available when verifying a step. -/
structure VerifyContext where
  cwd : String := ""
  output : String := ""
  filesTouched : List String := []
  gitBefore : Dict String := []
  gitAfter : Dict String := []
  commandTimeout : Rat := 60

/-- A path lookup under `cwd` fails with `VerifyError`, or otherwise. -/
inductive PathFault where
  | escapes (message : String)
  | raised (error : PyError)

/-- What lies outside the process, with the outcomes of subprocesses. -/
structure Surroundings where
  gitStatus : String → Except PyError (Dict String)
  pathExists : String → String → Except PathFault Bool
  reCompile : String → Bool → Except String (String → Bool)
  checkCommand : AcceptanceCheck → VerifyContext → Except PyError VerifyResult
  checkFileLineLimit :
    AcceptanceCheck → VerifyContext → Except PyError VerifyResult

/-- `{path: status_code}` from `git status --porcelain`. -/
def gitPorcelain (world : Surroundings) (cwd : String) :
    Except PyError (Dict String) :=
  if cwd = "" then .ok [] else world.gitStatus cwd

def changedPaths (gitBefore gitAfter : Dict String) : List String :=
  (gitBefore.keys ++ gitAfter.keys).dedup.filter fun path =>
    gitBefore.get? path ≠ gitAfter.get? path

def resolveGitAfter (world : Surroundings) (ctx : VerifyContext) :
    Except PyError (Dict String) :=
  if ctx.gitAfter ≠ [] then .ok ctx.gitAfter else gitPorcelain world ctx.cwd

/-- What counts as changed: the delta, dirty paths without a snapshot, touched
files when git shows nothing. -/
def changedEvidence (ctx : VerifyContext) (gitAfter : Dict String) :
    List String :=
  let changed :=
    if ctx.gitBefore ≠ [] ∨ ctx.gitAfter ≠ [] then
      changedPaths ctx.gitBefore gitAfter
    else gitAfter.keys
  if changed = [] ∧ ctx.filesTouched ≠ [] then ctx.filesTouched.dedup
  else changed

/-- `safe_join(cwd, rel).exists()`. -/
def existsUnder (world : Surroundings) (cwd rel : String) :
    Except PathFault Bool :=
  if cwd = "" then .error (.escapes "cwd is required for path-based checks")
  else world.pathExists cwd rel

/-- The paths of `rels`, in order, whose existence is `found`. -/
def pathsWhere (world : Surroundings) (cwd : String) (found : Bool) :
    List String → Except PathFault (List String)
  | [] => .ok []
  | rel :: rest =>
      match existsUnder world cwd rel with
      | .error fault => .error fault
      | .ok present =>
          match pathsWhere world cwd found rest with
          | .error fault => .error fault
          | .ok hits => .ok (if present = found then rel :: hits else hits)

/-- The two file checks: no declared path may have existence `bad`. -/
def checkPaths (type need label key success : String) (bad : Bool)
    (world : Surroundings) (check : AcceptanceCheck) (ctx : VerifyContext) :
    Except PyError VerifyResult :=
  if check.paths = [] then .ok { type, ok := false, message := need }
  else
    match pathsWhere world ctx.cwd bad check.paths with
    | .error (.escapes message) => .ok { type, ok := false, message }
    | .error (.raised error) => .error error
    | .ok hits =>
        if hits ≠ [] then
          .ok { type, ok := false, message := label ++ quotedList hits,
                detail := [(key, Json.ofStrings hits)] }
        else
          .ok { type, ok := true, message := success,
                detail := [("paths", Json.ofStrings check.paths)] }

def checkFilesExist :=
  checkPaths "files_exist" "files_exist requires paths[]" "missing: "
    "missing" "all paths exist" false

def checkFilesMissing :=
  checkPaths "files_missing" "files_missing requires paths[]"
    "still present: " "present" "all paths absent" true

/-- A path is the wanted one or lies below it. -/
def underPath (path wanted : String) : Bool :=
  path = wanted || startsWith path (rstripSlash wanted ++ "/")

def checkGitDiffNonempty (world : Surroundings) (check : AcceptanceCheck)
    (ctx : VerifyContext) : Except PyError VerifyResult :=
  match resolveGitAfter world ctx with
  | .error e => .error e
  | .ok gitAfter =>
      let all := changedEvidence ctx gitAfter
      let changed :=
        if check.paths = [] then all
        else all.filter fun p => check.paths.any fun w => underPath p w
      if changed = [] then
        .ok { type := "git_diff_nonempty", ok := false,
              message := "no git changes detected",
              detail := [("changed", .arr [])] }
      else
        .ok { type := "git_diff_nonempty", ok := true,
              message := toString changed.length ++ " path(s) changed",
              detail := [("changed", Json.ofStrings (sorted changed))] }

def checkGitDiffContains (world : Surroundings) (check : AcceptanceCheck)
    (ctx : VerifyContext) : Except PyError VerifyResult :=
  let type := "git_diff_contains"
  match resolveGitAfter world ctx with
  | .error e => .error e
  | .ok gitAfter =>
      let changed := changedEvidence ctx gitAfter
      let changedJson := Json.ofStrings (sorted changed)
      if check.paths ≠ [] then
        let hits := sorted <| changed.filter fun p =>
          check.paths.any fun w => underPath p w || contains p w
        if hits = [] then
          .ok { type, ok := false,
                message := "none of paths " ++ quotedList check.paths ++
                  " in changed=" ++ quotedList (sorted changed),
                detail := [("changed", changedJson)] }
        else
          .ok { type, ok := true,
                message := "matched paths: " ++ quotedList hits,
                detail :=
                  [("hits", Json.ofStrings hits), ("changed", changedJson)] }
      else if check.pattern ≠ "" then
        match world.reCompile check.pattern false with
        | .error message =>
            .ok { type, ok := false,
                  message := "invalid pattern: " ++ message }
        | .ok search =>
            let hits := sorted (changed.filter fun p => search p)
            if hits = [] then
              .ok { type, ok := false,
                    message := "no changed path matches " ++
                      quoted check.pattern,
                    detail := [("changed", changedJson)] }
            else
              .ok { type, ok := true,
                    message := "pattern matched: " ++ quotedList hits,
                    detail := [("hits", Json.ofStrings hits)] }
      else
        .ok { type, ok := false,
              message := "git_diff_contains requires paths[] or pattern" }

def checkOutputNonempty (ctx : VerifyContext) : VerifyResult :=
  if strip ctx.output ≠ "" then
    { type := "output_nonempty", ok := true,
      message := "output length=" ++ toString ctx.output.length,
      detail := [("length", .num ctx.output.length)] }
  else
    { type := "output_nonempty", ok := false, message := "output is empty" }

def checkOutputRegex (world : Surroundings) (check : AcceptanceCheck)
    (ctx : VerifyContext) : VerifyResult :=
  let type := "output_regex"
  if check.pattern = "" then
    { type, ok := false, message := "output_regex requires pattern" }
  else
    match world.reCompile check.pattern true with
    | .error message =>
        { type, ok := false, message := "invalid pattern: " ++ message }
    | .ok search =>
        if search ctx.output then
          { type, ok := true, message := "matched " ++ quoted check.pattern }
        else
          { type, ok := false,
            message := "output does not match " ++ quoted check.pattern,
            detail := [("output_len", .num ctx.output.length)] }

def checkHumanReview : VerifyResult :=
  { type := "human_review", ok := false,
    message := "human_review is resolved by an explicit decision " ++
      "(voly.plan.approval.decide or voly.decisions.DecisionService), " ++
      "not generic verification" }

def checkActionSucceeded : VerifyResult :=
  { type := "action_succeeded", ok := false,
    message := "action_succeeded is resolved by DecisionService.execute(), " ++
      "not generic verification" }

def knownCheckTypes : List String :=
  ["action_succeeded", "command", "file_line_limit", "files_exist",
    "files_missing", "git_diff_contains", "git_diff_nonempty",
    "human_review", "output_nonempty", "output_regex"]

/-- Run one acceptance check.  Unknown types fail closed. -/
def runCheck (world : Surroundings) (check : AcceptanceCheck)
    (ctx : VerifyContext) : Except PyError VerifyResult :=
  match strip check.type with
  | "command" => world.checkCommand check ctx
  | "files_exist" => checkFilesExist world check ctx
  | "files_missing" => checkFilesMissing world check ctx
  | "git_diff_nonempty" => checkGitDiffNonempty world check ctx
  | "git_diff_contains" => checkGitDiffContains world check ctx
  | "output_nonempty" => .ok (checkOutputNonempty ctx)
  | "output_regex" => .ok (checkOutputRegex world check ctx)
  | "file_line_limit" => world.checkFileLineLimit check ctx
  | "human_review" => .ok checkHumanReview
  | "action_succeeded" => .ok checkActionSucceeded
  | other =>
      .ok { type := orElse other "unknown", ok := false,
            message := "unknown check type: " ++ quoted other ++
              " (fail closed)",
            detail := [("known", Json.ofStrings knownCheckTypes)] }

def allPassed (results : List VerifyResult) : Bool :=
  !results.isEmpty && results.all VerifyResult.ok

def externallyResolvedCheckTypes : List String :=
  ["human_review", "action_succeeded"]

/-- Some check of the step is resolved out-of-band. -/
def PlanStep.awaitsExternal (step : PlanStep) : Bool :=
  step.acceptance.any fun check => check.type ∈ externallyResolvedCheckTypes

def PlanStep.hasHumanReview (step : PlanStep) : Bool :=
  step.acceptance.any fun check => check.type = "human_review"

end Voly
