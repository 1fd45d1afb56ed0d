/-
The safety policy of executor runs: what the run touched, which paths are
protected, and what is rolled back.
-/
import Voly.Git.Repository

namespace Voly.Safety

open Python Git

def defaultProtectedPaths : List String :=
  [".env", ".env.*", "*.pem", "*.key", "id_rsa*", "id_ed25519*", "*.p12",
    ".git/**"]

def envTemplateAllow : List String :=
  [".env.example", ".env.sample", ".env.template"]

def diffPreviewLimit : Nat := 20000

def inCharSet (c : Char) : List Char → Bool
  | lo :: '-' :: hi :: rest => (lo ≤ c && c ≤ hi) || inCharSet c rest
  | x :: rest => x == c || inCharSet c rest
  | [] => false

/-- The body of a bracket expression and the rest; a first bracket is of the
body. -/
def splitCharSet : List Char → Option (List Char × List Char)
  | [] => none
  | first :: rest =>
      let tail := rest.dropWhile (· ≠ ']')
      match tail with
      | [] => none
      | _ :: after => some (first :: rest.takeWhile (· ≠ ']'), after)

/-- Does the pattern match? The fuel is the length of the pattern. -/
def fnmatchChars : Nat → List Char → List Char → Bool
  | 0, _, text => text.isEmpty
  | _ + 1, [], text => text.isEmpty
  | n + 1, '*' :: pat, text =>
      text.tails.any fun rest => fnmatchChars n pat rest
  | n + 1, '?' :: pat, text =>
      match text with
      | [] => false
      | _ :: rest => fnmatchChars n pat rest
  | n + 1, '[' :: pat, text =>
      let negated := pat.head? == some '!'
      match splitCharSet (if negated then pat.tail else pat), text with
      | none, c :: rest => c == '[' && fnmatchChars n pat rest
      | none, [] => false
      | some (body, after), c :: rest =>
          (inCharSet c body != negated) && fnmatchChars n after rest
      | some _, [] => false
  | n + 1, p :: pat, text =>
      match text with
      | [] => false
      | c :: rest => p == c && fnmatchChars n pat rest

/-- `fnmatch(text, pattern)`. -/
def fnmatch (text pattern : String) : Bool :=
  fnmatchChars pattern.length pattern.toList text.toList

/-- `norm.rsplit("/", 1)[-1]`. -/
def basename (path : String) : String :=
  String.ofList (path.toList.reverse.takeWhile (· ≠ '/')).reverse

/-- `s.endswith(suffix)`. -/
def endsWith (s suffix : String) : Bool :=
  suffix.toList.isSuffixOf s.toList

/-- `s[:-n]`. -/
def dropLast (n : Nat) (s : String) : String :=
  String.ofList (s.toList.take (s.toList.length - n))

def isProtected (path : String) (patterns : List String) : Bool :=
  let base := basename path
  if base ∈ envTemplateAllow then false
  else
    patterns.any fun pat =>
      fnmatch path pat || fnmatch base pat ||
        (endsWith pat "/**" &&
          (path == dropLast 3 pat || startsWith path (dropLast 2 pat)))

/-- The last part of a text split at its arrows; `part` holds the part being
read, backwards. -/
def lastPart (part : List Char) : List Char → List Char
  | [] => part.reverse
  | ' ' :: '-' :: '>' :: ' ' :: rest => lastPart [] rest
  | c :: rest => lastPart (c :: part) rest

/-- One line of the status: `XY path` or `XY old -> new`. -/
def readStatusLine (result : Dict String) (line : String) : Dict String :=
  if line.length < 4 then result
  else
    let xy := slice 2 line
    let path := strip (String.ofList (line.toList.drop 3))
    result.set (String.ofList (lastPart [] path.toList)) (orElse (strip xy) "?")

def gitPorcelain (git : Rules) (repo : Repo) : Dict String :=
  (repo.status git).foldl readStatusLine []

/-- A path that was not reported before the run and is reported as new after
it. -/
def isCreated (before after : Dict String) (path : String) : Bool :=
  before.get? path = none ∧
    after.get? path ∈ [some "?", some "??", some "A"]

def runTouchedFiles (before after : Dict String) :
    List String × List String :=
  let paths := sorted ((before.keys ++ after.keys).eraseDups)
  let touched := paths.filter fun path => before.get? path ≠ after.get? path
  (touched, touched.filter fun path => isCreated before after path)

/-- The non-empty lines that `git diff --name-only` prints, stripped. -/
def diffTouched (git : Rules) (repo : Repo) (snapshot : Tree) : List String :=
  ((repo.diffNames git snapshot).map strip).filter fun line => line ≠ ""

def contentTouchedFiles (git : Rules) (repo : Repo) (snapshot : Option Tree)
    (before after : Dict String) : List String × List String :=
  let diff :=
    match snapshot with
    | none => []
    | some tree => diffTouched git repo tree
  let delta := runTouchedFiles before after
  (sorted ((diff ++ delta.1).eraseDups), delta.2)

/-- The pre-run worktree as a commit; on a clean tree that is HEAD. -/
def gitSnapshot (repo : Repo) : Option Tree :=
  match repo.stashCreate with
  | some tree => some tree
  | none => some repo.head

/-- Roll one path back: remove a created file, check any other path out. -/
def rollbackFile (snapshot : Option Tree) (created : List String)
    (repo : Repo) (path : String) : Option Repo :=
  if path ∈ created then
    some { repo with work := Tree.remove path repo.work }
  else
    match snapshot with
    | none => none
    | some tree => repo.checkout tree path

/-- The paths rolled back, and the repository after it. -/
def rollbackFiles (snapshot : Option Tree) (created : List String) :
    List String → Repo → List String × Repo
  | [], repo => ([], repo)
  | path :: rest, repo =>
      match rollbackFile snapshot created repo path with
      | none => rollbackFiles snapshot created rest repo
      | some repo' =>
          let out := rollbackFiles snapshot created rest repo'
          (path :: out.1, out.2)

/-- Textual preview of what the run changed. -/
def captureDiff (git : Rules) (repo : Repo) (snapshot : Tree)
    (created : List String) : String :=
  let text := git.diffText snapshot repo
  let parts := (if text = "" then [] else [text]) ++
    created.map fun path => "+++ created: " ++ path
  let diff := "\n".intercalate parts
  if diffPreviewLimit < diff.length then
    slice diffPreviewLimit diff ++ "\n…(truncated)"
  else diff

/-- `ExecutorSafetyConfig`. -/
structure SafetyConfig where
  enabled : Bool := true
  dryRun : Bool := false
  protectedPaths : List String := []
  maxFilesTouched : Int := 0

structure SafetyOutcome where
  violations : List String := []
  rolledBack : List String := []
  dryRun : Bool := false
  diffPreview : String := ""

namespace SafetyConfig

def patterns (policy : SafetyConfig) : List String :=
  if policy.protectedPaths = [] then defaultProtectedPaths
  else policy.protectedPaths

/-- More files touched than the policy allows. -/
def overLimit (policy : SafetyConfig) (touched : List String) : Bool :=
  0 < policy.maxFilesTouched ∧ policy.maxFilesTouched < touched.length

def protectedOf (policy : SafetyConfig) (touched : List String) :
    List String :=
  touched.filter fun path => isProtected path policy.patterns

end SafetyConfig

/-- Evaluate and enforce the policy for a run that touched something. -/
def enforce (git : Rules) (policy : SafetyConfig) (dry : Bool) (tree : Tree)
    (touched created : List String) (repo : Repo) : SafetyOutcome × Repo :=
  let guarded := policy.protectedOf touched
  let preview := if dry then captureDiff git repo tree created else ""
  if policy.overLimit touched then
    let out := rollbackFiles (some tree) created touched repo
    ({ violations := ["max_files_touched exceeded: " ++
          toString touched.length ++ " > " ++
          toString policy.maxFilesTouched]
       rolledBack := out.1
       dryRun := dry
       diffPreview := preview }, out.2)
  else
    let violations :=
      if guarded = [] then []
      else ["protected path(s) modified: " ++
        ", ".intercalate (guarded.take 10)]
    if dry then
      let out := rollbackFiles (some tree) created touched repo
      ({ violations, rolledBack := out.1, dryRun := true
         diffPreview := preview }, out.2)
    else
      let out := rollbackFiles (some tree)
        (created.filter fun path => path ∈ guarded) guarded repo
      ({ violations, rolledBack := out.1 }, out.2)

def applySafetyPolicy (git : Rules) (cwd : String)
    (policy : Option SafetyConfig) (snapshot : Option Tree)
    (before after : Dict String) (dryRun : Bool) (repo : Repo) :
    SafetyOutcome × Repo :=
  match policy with
  | none => ({}, repo)
  | some policy =>
      if policy.enabled = false ∨ cwd = "" then ({}, repo)
      else
        let dry := dryRun || policy.dryRun
        match snapshot with
        | none => ({ dryRun := dry }, repo)
        | some tree =>
            let files := contentTouchedFiles git repo snapshot before after
            if files.1 = [] then ({ dryRun := dry }, repo)
            else enforce git policy dry tree files.1 files.2 repo

/-- A run between the two readings of the repository, then the policy. -/
def guardedRun (git : Rules) (cwd : String) (policy : Option SafetyConfig)
    (dryRun : Bool) (actions : List Action) (repo : Repo) :
    SafetyOutcome × Repo :=
  let before := gitPorcelain git repo
  let snapshot := gitSnapshot repo
  let ran := repo.performAll actions
  applySafetyPolicy git cwd policy snapshot before (gitPorcelain git ran)
    dryRun ran

end Voly.Safety
