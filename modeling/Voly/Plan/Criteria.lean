/-
Draft acceptance checks from free-text success criteria.  What the regular
expressions find is taken as given.
-/
import Voly.Plan.Reload

namespace Voly

open Python

/-- Its criterion lines, each with its lower case and the five matches. -/
structure CriteriaText where
  splitLines : String → List String
  lower : String → String
  pathsIn : String → List String
  quotedIn : String → Option String
  outputContains : String → Option String
  regexNamed : String → Option String
  escape : String → String

/-- `any(k in low for k in keys)`. -/
def mentions (low : String) (keys : List String) : Bool :=
  keys.any fun key => contains low key

def rstripStop (s : String) : String :=
  String.ofList (s.toList.reverse.dropWhile (· == '.')).reverse

section Line

variable (text : CriteriaText) (line : String)

def draftCommand : String :=
  let low := text.lower line
  let cmd :=
    if mentions low ["npm", "jest", "vitest"] then
      "npm test -- --watchAll=false"
    else if contains low "cargo" then "cargo test"
    else if contains low "go test" then "go test ./..."
    else "pytest -q"
  match text.quotedIn line with
  | none => cmd
  | some found =>
      if mentions found ["pytest", "npm", "cargo", "go ", "make "] then
        strip found
      else cmd

def draftTests : List AcceptanceCheck :=
  if mentions (text.lower line)
      ["tests pass", "test pass", "pytest", "npm test", "unit test",
        "all tests", "тесты проходят", "прогон тест"] then
    [{ type := "command", run := draftCommand text line, expectExit := 0 }]
  else []

/-- `list(dict.fromkeys(paths))`. -/
def draftPaths : List String := (text.pathsIn line).eraseDups

def draftFilesExist : List AcceptanceCheck :=
  if text.pathsIn line ≠ [] ∧ mentions (text.lower line)
      ["exist", "create", "add file", "write", "implement", "добав", "созда",
        "файл", "present"] then
    [{ type := "files_exist", paths := draftPaths text line }]
  else []

def draftFilesMissing : List AcceptanceCheck :=
  if text.pathsIn line ≠ [] ∧ mentions (text.lower line)
      ["delete", "remove", "must not exist", "absent", "удал"] then
    [{ type := "files_missing", paths := draftPaths text line }]
  else []

def draftGitDiff : List AcceptanceCheck :=
  if mentions (text.lower line)
      ["git diff", "code change", "changed files", "diff non", "изменен",
        "изменения в", "touch"] ∨
      (text.pathsIn line ≠ [] ∧ mentions (text.lower line)
        ["modify", "update", "refactor", "измени"]) then
    if text.pathsIn line ≠ [] then
      [{ type := "git_diff_contains", paths := draftPaths text line }]
    else [{ type := "git_diff_nonempty" }]
  else []

def draftOutput : List AcceptanceCheck :=
  match text.outputContains line with
  | none => []
  | some phrase =>
      [{ type := "output_regex"
         pattern := text.escape (rstripStop (strip phrase)) }]

def draftRegex : List AcceptanceCheck :=
  match text.regexNamed line with
  | none => []
  | some pattern => [{ type := "output_regex", pattern := strip pattern }]

/-- `_compile_line`: bare paths and vague criteria count when nothing else does.
-/
def compileLine : List AcceptanceCheck :=
  let checks := draftTests text line ++ draftFilesExist text line ++
    draftFilesMissing text line ++ draftGitDiff text line ++
    draftOutput text line ++ draftRegex text line
  if checks ≠ [] then checks
  else if text.pathsIn line ≠ [] then
    [{ type := "files_exist", paths := draftPaths text line }]
  else if mentions (text.lower line)
      ["review", "document", "explain", "summary", "ревью", "опис", "done",
        "complete", "успешн"] then
    [{ type := "output_nonempty" }]
  else []

end Line

/-- `compile_success_criteria(criteria).checks`: of identical checks the first
is kept. -/
def compileSuccessCriteria (text : CriteriaText) (criteria : String) :
    List AcceptanceCheck :=
  ((text.splitLines criteria).flatMap (compileLine text)).eraseDups

/-- A drafted type, and else the defaults that `from_dict` restores. -/
structure AcceptanceCheck.Drafted (check : AcceptanceCheck) : Prop where
  type : check.type ∈ draftedCheckTypes
  expectExit : check.expectExit = 0
  maxLines : check.maxLines = 0
  approvedMaxLines : check.approvedMaxLines = 0

theorem AcceptanceCheck.Drafted.normal {check : AcceptanceCheck}
    (h : check.Drafted) : check.normal = check := by
  have hexit : (if check.run = "" then 0 else check.expectExit) =
      check.expectExit := by
    rw [h.expectExit, ite_self]
  have hmax : (if 0 < check.maxLines then check.maxLines else 0) =
      check.maxLines := by
    rw [h.maxLines, ite_self]
  have happroved :
      (if 0 < check.approvedMaxLines then check.approvedMaxLines else 0) =
        check.approvedMaxLines := by
    rw [h.approvedMaxLines, ite_self]
  rw [AcceptanceCheck.normal, hexit, hmax, happroved]

section

variable {type : String} (htype : type ∈ draftedCheckTypes)
include htype

theorem AcceptanceCheck.Drafted.of_paths (paths : List String) :
    AcceptanceCheck.Drafted { type, paths } :=
  ⟨htype, rfl, rfl, rfl⟩

theorem AcceptanceCheck.Drafted.of_pattern (pattern : String) :
    AcceptanceCheck.Drafted { type, pattern } :=
  ⟨htype, rfl, rfl, rfl⟩

theorem AcceptanceCheck.Drafted.of_run (run : String) :
    AcceptanceCheck.Drafted { type, run } :=
  ⟨htype, rfl, rfl, rfl⟩

end

section Drafted

variable {text : CriteriaText} {line : String} {check : AcceptanceCheck}

theorem drafted_of_mem_ite {c : Prop} [Decidable c]
    {drafted : AcceptanceCheck} (hdrafted : drafted.Drafted)
    (h : check ∈ if c then [drafted] else []) : check.Drafted := by
  split at h
  case isTrue => rwa [List.mem_singleton.mp h]
  case isFalse => simp at h

theorem draftGitDiff_drafted (h : check ∈ draftGitDiff text line) :
    check.Drafted := by
  unfold draftGitDiff at h
  split at h
  case isFalse => simp at h
  case isTrue =>
    split at h
    case isTrue =>
      rw [List.mem_singleton.mp h]
      exact .of_paths (by decide) _
    case isFalse =>
      rw [List.mem_singleton.mp h]
      exact .of_paths (by decide) []

theorem draftOutput_drafted (h : check ∈ draftOutput text line) :
    check.Drafted := by
  unfold draftOutput at h
  split at h
  case h_1 => simp at h
  case h_2 =>
    rw [List.mem_singleton.mp h]
    exact .of_pattern (by decide) _

theorem draftRegex_drafted (h : check ∈ draftRegex text line) :
    check.Drafted := by
  unfold draftRegex at h
  split at h
  case h_1 => simp at h
  case h_2 =>
    rw [List.mem_singleton.mp h]
    exact .of_pattern (by decide) _

theorem compileLine_drafted (h : check ∈ compileLine text line) :
    check.Drafted := by
  unfold compileLine at h
  simp only at h
  split at h
  case isTrue =>
    simp only [List.mem_append] at h
    rcases h with ((((h | h) | h) | h) | h) | h
    · exact drafted_of_mem_ite (.of_run (by decide) _) h
    · exact drafted_of_mem_ite (.of_paths (by decide) _) h
    · exact drafted_of_mem_ite (.of_paths (by decide) _) h
    · exact draftGitDiff_drafted h
    · exact draftOutput_drafted h
    · exact draftRegex_drafted h
  case isFalse =>
    split at h
    case isTrue =>
      rw [List.mem_singleton.mp h]
      exact .of_paths (by decide) _
    case isFalse => exact drafted_of_mem_ite (.of_paths (by decide) []) h

theorem compileSuccessCriteria_drafted {criteria : String}
    (h : check ∈ compileSuccessCriteria text criteria) : check.Drafted := by
  rw [compileSuccessCriteria, List.mem_eraseDups] at h
  obtain ⟨line, _, hline⟩ := List.mem_flatMap.mp h
  exact compileLine_drafted hline

end Drafted

/-- The compiler that `from_dict` calls. -/
def CriteriaText.compiler (text : CriteriaText) : CriteriaCompiler where
  compile := compileSuccessCriteria text
  drafted _ _ h := (compileSuccessCriteria_drafted h).type

end Voly
