/-
What is in the worktree after the safety policy: which paths a rollback gives
back, and which it cannot.
-/
import Voly.Executor.Safety

namespace Voly.Safety

open Python Git

theorem Repo.get?_clean {repo : Repo} (h : repo.clean = true) (path : Path) :
    Dict.get? repo.head path = Dict.get? repo.index path ∧
      (repo.tracked path = true →
        Dict.get? repo.index path = Dict.get? repo.work path) := by
  unfold Git.Repo.clean at h
  rw [List.all_eq_true] at h
  by_cases hmem : path ∈ pathsOf repo.head repo.index
  · have := h path hmem
    simp only [decide_eq_true_eq] at this
    exact ⟨this.1, fun _ => this.2⟩
  · rw [mem_pathsOf, not_or, not_not, not_not] at hmem
    refine ⟨hmem.1.trans hmem.2.symm, fun htracked => ?_⟩
    simp [Git.Repo.tracked, hmem] at htracked

theorem gitSnapshot_eq (repo : Repo) :
    ∃ tree, gitSnapshot repo = some tree ∧ ∀ path,
      Dict.get? tree path =
        if repo.tracked path then Dict.get? repo.work path else none := by
  unfold gitSnapshot Git.Repo.stashCreate
  by_cases hclean : repo.clean = true
  · refine ⟨repo.head, by rw [if_pos hclean], fun path => ?_⟩
    obtain ⟨hindex, hwork⟩ := Repo.get?_clean hclean path
    split
    case isTrue htracked => rw [hindex, hwork htracked]
    case isFalse htracked =>
      simp only [Git.Repo.tracked, Bool.or_eq_true, not_or,
        Option.not_isSome_iff_eq_none] at htracked
      exact htracked.1
  · refine ⟨_, by rw [if_neg hclean], fun path => ?_⟩
    rw [get?_ofPaths]
    have hiff : path ∈ pathsOf repo.head repo.index ↔
        repo.tracked path = true := by
      rw [mem_pathsOf, Git.Repo.tracked, Bool.or_eq_true,
        Option.isSome_iff_ne_none, Option.isSome_iff_ne_none]
    simp only [hiff]

/-- What a rolled back path holds: nothing if it counts as created, else its
snapshot, else what the run left. -/
def rolledBack (tree : Tree) (created : List String) (left : Option Blob)
    (path : Path) : Option Blob :=
  if path ∈ created then none else (Dict.get? tree path).or left

theorem rollbackFile_work (tree : Tree) (created : List String) (repo : Repo)
    (path other : Path) :
    Dict.get? ((rollbackFile (some tree) created repo path).getD repo).work
        other =
      if path = other then
        rolledBack tree created (Dict.get? repo.work other) other
      else Dict.get? repo.work other := by
  unfold rollbackFile rolledBack
  by_cases hp : path = other
  · subst hp
    by_cases hcreated : path ∈ created
    · simp [hcreated, get?_remove]
    · cases htree : Dict.get? tree path with
      | none => simp [hcreated, Git.Repo.checkout, htree]
      | some blob => simp [hcreated, Git.Repo.checkout, htree, get?_put]
  · by_cases hcreated : path ∈ created
    · simp [hcreated, get?_remove, hp]
    · cases htree : Dict.get? tree path with
      | none => simp [hcreated, Git.Repo.checkout, htree, hp]
      | some blob => simp [hcreated, Git.Repo.checkout, htree, get?_put, hp]

theorem rolledBack_idem (tree : Tree) (created : List String)
    (left : Option Blob) (path : Path) :
    rolledBack tree created (rolledBack tree created left path) path =
      rolledBack tree created left path := by
  unfold rolledBack
  split
  case isTrue => rfl
  case isFalse => cases Dict.get? tree path <;> rfl

theorem rollbackFiles_cons (snapshot : Option Tree) (created : List String)
    (path : String) (rest : List String) (repo : Repo) :
    (rollbackFiles snapshot created (path :: rest) repo).2 =
      (rollbackFiles snapshot created rest
        ((rollbackFile snapshot created repo path).getD repo)).2 := by
  rw [rollbackFiles]
  cases rollbackFile snapshot created repo path <;> rfl

theorem rollbackFiles_work (tree : Tree) (created files : List String)
    (repo : Repo) (path : Path) :
    Dict.get? (rollbackFiles (some tree) created files repo).2.work path =
      if path ∈ files then
        rolledBack tree created (Dict.get? repo.work path) path
      else Dict.get? repo.work path := by
  induction files generalizing repo with
  | nil => rfl
  | cons head rest ih =>
      rw [rollbackFiles_cons, ih, rollbackFile_work]
      by_cases hhead : head = path
      · subst hhead
        simp only [if_true, rolledBack_idem, ite_self, List.mem_cons_self]
      · have hmem : path ∈ head :: rest ↔ path ∈ rest := by
          simp [Ne.symm hhead]
        simp only [if_neg hhead, hmem]

section

variable {before after : Dict String} {path : String}

theorem mem_runTouchedFiles :
    path ∈ (runTouchedFiles before after).1 ↔
      before.get? path ≠ after.get? path := by
  simp only [runTouchedFiles, List.mem_filter, mem_sorted,
    List.mem_eraseDups, List.mem_append, mem_keys_iff, decide_eq_true_eq]
  constructor
  · exact fun h => h.2
  · intro h
    refine ⟨?_, h⟩
    by_cases hbefore : before.get? path = none
    · right
      rw [← hbefore]
      exact Ne.symm h
    · exact Or.inl hbefore

theorem isCreated_ne (h : isCreated before after path = true) :
    before.get? path ≠ after.get? path := by
  simp only [isCreated, decide_eq_true_eq] at h
  intro heq
  rw [← heq, h.1] at h
  simp at h

theorem mem_created :
    path ∈ (runTouchedFiles before after).2 ↔
      isCreated before after path = true := by
  change path ∈ ((runTouchedFiles before after).1.filter _) ↔ _
  rw [List.mem_filter, mem_runTouchedFiles]
  exact ⟨fun h => h.2, fun h => ⟨isCreated_ne h, h⟩⟩

theorem mem_contentTouchedFiles {git : Rules} {repo : Repo} {tree : Tree} :
    path ∈ (contentTouchedFiles git repo (some tree) before after).1 ↔
      path ∈ diffTouched git repo tree ∨
        before.get? path ≠ after.get? path := by
  simp only [contentTouchedFiles, mem_sorted, List.mem_eraseDups,
    List.mem_append, mem_runTouchedFiles]

end

section Run

variable (git : Rules) (repo : Repo) (actions : List Action)

/-- The paths that the policy takes for touched by the run. -/
def touchedBy : List String :=
  (contentTouchedFiles git (repo.performAll actions) (gitSnapshot repo)
    (gitPorcelain git repo)
    (gitPorcelain git (repo.performAll actions))).1

/-- Git names the path in its diff, or its status line has changed. -/
def SeenByGit (path : Path) : Prop :=
  path ∈ diffTouched git (repo.performAll actions)
      ((gitSnapshot repo).getD []) ∨
    (gitPorcelain git repo).get? path ≠
      (gitPorcelain git (repo.performAll actions)).get? path

def ReportedNew (path : Path) : Prop :=
  isCreated (gitPorcelain git repo)
    (gitPorcelain git (repo.performAll actions)) path = true

def RollsBack (policy : SafetyConfig) (dryRun : Bool) (path : Path) : Prop :=
  (dryRun || policy.dryRun) = true ∨
    policy.overLimit (touchedBy git repo actions) = true ∨
    isProtected path policy.patterns = true

instance (path : Path) : Decidable (ReportedNew git repo actions path) :=
  inferInstanceAs (Decidable (_ = true))

instance (policy : SafetyConfig) (dryRun : Bool) (path : Path) :
    Decidable (RollsBack git repo actions policy dryRun path) :=
  inferInstanceAs (Decidable (_ ∨ _))

variable {git repo actions}

theorem mem_touchedBy {path : Path} :
    path ∈ touchedBy git repo actions ↔ SeenByGit git repo actions path := by
  obtain ⟨tree, htree, _⟩ := gitSnapshot_eq repo
  rw [touchedBy, SeenByGit, htree, mem_contentTouchedFiles]
  rfl

theorem ReportedNew.touched {path : Path}
    (h : ReportedNew git repo actions path) :
    path ∈ touchedBy git repo actions :=
  mem_touchedBy.mpr (Or.inr (isCreated_ne h))

theorem enforce_work (policy : SafetyConfig) (dry : Bool) (tree : Tree)
    (touched created : List String) (path : Path) :
    Dict.get? (enforce git policy dry tree touched created repo).2.work path =
      if path ∈ touched ∧ (dry = true ∨ policy.overLimit touched = true ∨
          isProtected path policy.patterns = true) then
        rolledBack tree created (Dict.get? repo.work path) path
      else Dict.get? repo.work path := by
  unfold enforce
  simp only
  by_cases hover : policy.overLimit touched = true
  · simp only [if_pos hover, rollbackFiles_work]
    simp [hover]
  rw [if_neg hover]
  by_cases hdry : dry = true
  · simp only [if_pos hdry, rollbackFiles_work]
    simp [hdry]
  simp only [if_neg hdry, rollbackFiles_work]
  have hguarded : path ∈ policy.protectedOf touched ↔
      path ∈ touched ∧ (dry = true ∨ policy.overLimit touched = true ∨
        isProtected path policy.patterns = true) := by
    simp [SafetyConfig.protectedOf, hover, hdry]
  by_cases hmem : path ∈ policy.protectedOf touched
  · rw [if_pos hmem, if_pos (hguarded.mp hmem)]
    simp [rolledBack, hmem]
  · rw [if_neg hmem, if_neg fun h => hmem (hguarded.mpr h)]

theorem guardedRun_eq (git : Rules) (repo : Repo) (actions : List Action)
    {policy : SafetyConfig} (henabled : policy.enabled = true)
    {cwd : String} (hcwd : cwd ≠ "") (dryRun : Bool) :
    ∃ tree, gitSnapshot repo = some tree ∧
      guardedRun git cwd (some policy) dryRun actions repo =
        if touchedBy git repo actions = [] then
          ({ dryRun := dryRun || policy.dryRun }, repo.performAll actions)
        else
          enforce git policy (dryRun || policy.dryRun) tree
            (touchedBy git repo actions)
            (runTouchedFiles (gitPorcelain git repo)
              (gitPorcelain git (repo.performAll actions))).2
            (repo.performAll actions) := by
  obtain ⟨tree, htree, _⟩ := gitSnapshot_eq repo
  refine ⟨tree, htree, ?_⟩
  unfold guardedRun applySafetyPolicy touchedBy
  simp only [htree, henabled, hcwd, Bool.true_eq_false, or_self, if_false]
  rfl

theorem guardedRun_work {policy : SafetyConfig}
    (henabled : policy.enabled = true) {cwd : String} (hcwd : cwd ≠ "")
    (dryRun : Bool) (path : Path) :
    Dict.get? (guardedRun git cwd (some policy) dryRun actions repo).2.work
        path =
      if path ∈ touchedBy git repo actions ∧
          RollsBack git repo actions policy dryRun path then
        if ReportedNew git repo actions path then none
        else
          (if repo.tracked path then Dict.get? repo.work path else none).or
            (Dict.get? (repo.performAll actions).work path)
      else Dict.get? (repo.performAll actions).work path := by
  obtain ⟨tree, htree, hrun⟩ :=
    guardedRun_eq git repo actions henabled hcwd dryRun
  obtain ⟨tree', htree', hsnapshot⟩ := gitSnapshot_eq repo
  rw [htree] at htree'
  obtain rfl := Option.some.inj htree'
  rw [hrun]
  by_cases hnone : touchedBy git repo actions = []
  · simp [hnone]
  · rw [if_neg hnone, enforce_work, rolledBack, hsnapshot]
    simp only [mem_created]
    rfl

/-- What it takes for a rolled back path to hold its pre-run content again. -/
structure Restorable (git : Rules) (repo : Repo) (actions : List Action)
    (path : Path) : Prop where
  /-- a file the run created is reported as new -/
  created : Dict.get? repo.work path = none →
    Dict.get? (repo.performAll actions).work path ≠ none →
    ReportedNew git repo actions path
  /-- a file that was there is not reported as new -/
  kept : Dict.get? repo.work path ≠ none →
    ¬ ReportedNew git repo actions path
  /-- a file the run changed was tracked, and git still names it -/
  changed : Dict.get? repo.work path ≠ none →
    Dict.get? (repo.performAll actions).work path ≠
      Dict.get? repo.work path →
    repo.tracked path = true ∧ SeenByGit git repo actions path

theorem restored_iff {policy : SafetyConfig}
    (henabled : policy.enabled = true) {cwd : String} (hcwd : cwd ≠ "")
    {dryRun : Bool} {path : Path}
    (hrolls : RollsBack git repo actions policy dryRun path) :
    Dict.get? (guardedRun git cwd (some policy) dryRun actions repo).2.work
        path = Dict.get? repo.work path ↔
      Restorable git repo actions path := by
  rw [guardedRun_work henabled hcwd dryRun path]
  by_cases hnew : ReportedNew git repo actions path
  · -- a path reported as new is removed, whatever it held before
    rw [if_pos ⟨hnew.touched, hrolls⟩, if_pos hnew]
    constructor
    · intro h
      exact ⟨fun _ _ => hnew, fun hsome => absurd h.symm hsome,
        fun hsome => absurd h.symm hsome⟩
    · intro h
      by_contra hne
      exact h.kept (Ne.symm hne) hnew
  rw [if_neg hnew]
  cases hbefore : Dict.get? repo.work path with
  | none =>
      have hresult : ((if repo.tracked path then none else none).or
          (Dict.get? (repo.performAll actions).work path)) =
          Dict.get? (repo.performAll actions).work path := by
        simp
      rw [hresult, ite_self]
      constructor
      · intro h
        exact ⟨fun _ hsome => absurd h hsome, fun hsome => absurd hbefore hsome,
          fun hsome => absurd hbefore hsome⟩
      · intro h
        by_contra hsome
        exact hnew (h.created hbefore hsome)
  | some blob =>
      constructor
      · intro h
        refine ⟨fun hnone => ?_, fun _ => hnew, fun _ hchanged => ?_⟩
        · rw [hbefore] at hnone
          cases hnone
        · rw [hbefore] at hchanged
          by_cases htouched : path ∈ touchedBy git repo actions
          · refine ⟨?_, mem_touchedBy.mp htouched⟩
            rw [if_pos ⟨htouched, hrolls⟩] at h
            by_contra htracked
            rw [if_neg htracked, Option.none_or] at h
            exact hchanged h
          · rw [if_neg fun hboth => htouched hboth.1] at h
            exact absurd h hchanged
      · intro h
        by_cases hchanged :
            Dict.get? (repo.performAll actions).work path = some blob
        · rw [hchanged]
          split
          case isTrue => cases repo.tracked path <;> rfl
          case isFalse => rfl
        · obtain ⟨htracked, hseen⟩ := h.changed (by rw [hbefore]; simp)
            (by rw [hbefore]; exact hchanged)
          rw [if_pos ⟨mem_touchedBy.mpr hseen, hrolls⟩, if_pos htracked]
          rfl

/-- A dry run gives the worktree back iff every path is restorable. -/
theorem dry_run_restores_iff (git : Rules) (repo : Repo)
    (actions : List Action) (policy : SafetyConfig)
    (henabled : policy.enabled = true) (cwd : String) (hcwd : cwd ≠ "") :
    (∀ path, Dict.get? (guardedRun git cwd (some policy) true actions
        repo).2.work path = Dict.get? repo.work path) ↔
      ∀ path, Restorable git repo actions path :=
  forall_congr' fun _ => restored_iff henabled hcwd (Or.inl rfl)

theorem violations_of_protected {policy : SafetyConfig}
    (henabled : policy.enabled = true) {cwd : String} (hcwd : cwd ≠ "")
    {dryRun : Bool} {path : Path} (hprotected : isProtected path
      policy.patterns = true) (htouched : path ∈ touchedBy git repo actions) :
    (guardedRun git cwd (some policy) dryRun actions repo).1.violations ≠
      [] := by
  obtain ⟨tree, _, hrun⟩ :=
    guardedRun_eq git repo actions henabled hcwd dryRun
  have hnone : touchedBy git repo actions ≠ [] :=
    List.ne_nil_of_mem htouched
  have hguarded : policy.protectedOf (touchedBy git repo actions) ≠ [] := by
    apply List.ne_nil_of_mem (a := path)
    rw [SafetyConfig.protectedOf, List.mem_filter]
    exact ⟨htouched, hprotected⟩
  rw [hrun, if_neg hnone]
  unfold enforce
  simp only [if_neg hguarded]
  split
  case isTrue => simp
  case isFalse => split <;> simp

/-- Protected paths stay and no change goes unreported iff all are restorable.
-/
theorem protected_kept_iff (git : Rules) (repo : Repo)
    (actions : List Action) (policy : SafetyConfig)
    (henabled : policy.enabled = true)
    (hpatterns : policy.patterns = defaultProtectedPaths)
    (cwd : String) (hcwd : cwd ≠ "") :
    ((∀ path, isProtected path defaultProtectedPaths = true →
        Dict.get? (guardedRun git cwd (some policy) false actions
          repo).2.work path = Dict.get? repo.work path) ∧
      ((∃ path, isProtected path defaultProtectedPaths = true ∧
          Dict.get? (repo.performAll actions).work path ≠
            Dict.get? repo.work path) →
        (guardedRun git cwd (some policy) false actions
          repo).1.violations ≠ [])) ↔
      ∀ path, isProtected path defaultProtectedPaths = true →
        Restorable git repo actions path := by
  rw [← hpatterns]
  have hrolls : ∀ path, isProtected path policy.patterns = true →
      RollsBack git repo actions policy false path :=
    fun path h => Or.inr (Or.inr h)
  constructor
  · rintro ⟨hkept, _⟩ path hpath
    exact (restored_iff henabled hcwd (hrolls path hpath)).mp
      (hkept path hpath)
  · intro h
    refine ⟨fun path hpath => (restored_iff henabled hcwd
      (hrolls path hpath)).mpr (h path hpath), ?_⟩
    rintro ⟨path, hpath, hchanged⟩
    apply violations_of_protected henabled hcwd hpath
    by_cases hbefore : Dict.get? repo.work path = none
    · rw [hbefore] at hchanged
      exact ((h path hpath).created hbefore hchanged).touched
    · exact mem_touchedBy.mpr ((h path hpath).changed hbefore hchanged).2

/-- A file that was there and was left stays iff none is rolled back as new. -/
theorem existing_kept_iff (git : Rules) (repo : Repo)
    (actions : List Action) (policy : SafetyConfig)
    (henabled : policy.enabled = true) (cwd : String) (hcwd : cwd ≠ "")
    (dryRun : Bool) :
    (∀ path, Dict.get? repo.work path ≠ none →
        Dict.get? (repo.performAll actions).work path ≠ none →
        Dict.get? (guardedRun git cwd (some policy) dryRun actions
            repo).2.work path = Dict.get? repo.work path ∨
          Dict.get? (guardedRun git cwd (some policy) dryRun actions
            repo).2.work path =
            Dict.get? (repo.performAll actions).work path) ↔
      ∀ path, Dict.get? repo.work path ≠ none →
        Dict.get? (repo.performAll actions).work path ≠ none →
        RollsBack git repo actions policy dryRun path →
        ¬ ReportedNew git repo actions path := by
  refine forall_congr' fun path => forall_congr' fun hbefore =>
    forall_congr' fun hleft => ?_
  rw [guardedRun_work henabled hcwd dryRun path]
  constructor
  · intro h hrolls hnew
    rw [if_pos ⟨hnew.touched, hrolls⟩, if_pos hnew] at h
    rcases h with h | h
    · exact hbefore h.symm
    · exact hleft h.symm
  · intro h
    split
    case isFalse => exact Or.inr rfl
    case isTrue hrolled =>
      rw [if_neg (h hrolled.2)]
      by_cases htracked : repo.tracked path = true
      · rw [if_pos htracked]
        obtain ⟨blob, hblob⟩ := Option.ne_none_iff_exists'.mp hbefore
        rw [hblob]
        exact Or.inl rfl
      · rw [if_neg htracked]
        exact Or.inr rfl

end Run

namespace RestoreWitness

def git : Rules where
  ignored work path :=
    match Dict.get? work ".gitignore" with
    | none => false
    | some name => basename path == name
  renames _ _ := []
  diffText _ _ := ""

def policy : SafetyConfig := {}

def notes : Repo where
  head := [("a.py", "1")]
  index := [("a.py", "1")]
  work := [("a.py", "1"), ("notes.txt", "mine")]

theorem edit_and_create_restored_iff :
    (∀ path, Dict.get? (guardedRun git "/repo" (some policy) true
        [.write "a.py" "2", .write "b.py" "new"] notes).2.work path =
          Dict.get? notes.work path) ↔
      ∀ path, Restorable git notes
        [.write "a.py" "2", .write "b.py" "new"] path :=
  dry_run_restores_iff git notes _ policy rfl "/repo" (by decide)

/-- The overwritten note stays overwritten. -/
theorem untracked_edit_not_restored :
    ¬ ∀ (git : Rules) (repo : Repo) (actions : List Action)
      (policy : SafetyConfig) (cwd : String),
      policy.enabled = true → cwd ≠ "" →
        ∀ path, Dict.get? (guardedRun git cwd (some policy) true actions
          repo).2.work path = Dict.get? repo.work path := by
  intro h
  have hkept := h git notes [.write "notes.txt" "gone"] policy "/repo" rfl
    (by decide) "notes.txt"
  revert hkept
  decide +kernel

def secret : Repo where
  head := [(".gitignore", ".env")]
  index := [(".gitignore", ".env")]
  work := [(".gitignore", ".env"), (".env", "SECRET=original")]

theorem tracked_secret_kept_iff :
    ((∀ path, isProtected path defaultProtectedPaths = true →
        Dict.get? (guardedRun git "/repo" (some policy) false
          [.write "key.pem" "FAKE"] notes).2.work path =
            Dict.get? notes.work path) ∧
      ((∃ path, isProtected path defaultProtectedPaths = true ∧
          Dict.get? (notes.performAll [.write "key.pem" "FAKE"]).work path ≠
            Dict.get? notes.work path) →
        (guardedRun git "/repo" (some policy) false
          [.write "key.pem" "FAKE"] notes).1.violations ≠ [])) ↔
      ∀ path, isProtected path defaultProtectedPaths = true →
        Restorable git notes [.write "key.pem" "FAKE"] path :=
  protected_kept_iff git notes _ policy rfl rfl "/repo" (by decide)

/-- An ignored secret is overwritten and nothing is reported. -/
theorem ignored_secret_overwritten :
    isProtected ".env" defaultProtectedPaths = true ∧
      Dict.get? (guardedRun git "/repo" (some policy) false
        [.write ".env" "SECRET=stolen"] secret).2.work ".env" ≠
        Dict.get? secret.work ".env" ∧
      (guardedRun git "/repo" (some policy) false
        [.write ".env" "SECRET=stolen"] secret).1.violations = [] := by
  decide +kernel

def committed : Repo where
  head := [(".env", "SECRET=original")]
  index := [(".env", "SECRET=original")]
  work := [(".env", "SECRET=original")]

theorem edited_secret_exists_iff :
    (∀ path, Dict.get? committed.work path ≠ none →
        Dict.get? (committed.performAll
          [.write ".env" "SECRET=agent"]).work path ≠ none →
        Dict.get? (guardedRun git "/repo" (some policy) false
            [.write ".env" "SECRET=agent"] committed).2.work path =
            Dict.get? committed.work path ∨
          Dict.get? (guardedRun git "/repo" (some policy) false
            [.write ".env" "SECRET=agent"] committed).2.work path =
            Dict.get? (committed.performAll
              [.write ".env" "SECRET=agent"]).work path) ↔
      ∀ path, Dict.get? committed.work path ≠ none →
        Dict.get? (committed.performAll
          [.write ".env" "SECRET=agent"]).work path ≠ none →
        RollsBack git committed [.write ".env" "SECRET=agent"] policy false
          path →
        ¬ ReportedNew git committed [.write ".env" "SECRET=agent"] path :=
  existing_kept_iff git committed _ policy rfl "/repo" (by decide) false

/-- `git rm --cached .env` leaves the file alone; the rollback deletes it. -/
theorem untracked_secret_deleted :
    Dict.get? committed.work ".env" ≠ none ∧
      Dict.get? (committed.performAll [.rmCached ".env"]).work ".env" =
        Dict.get? committed.work ".env" ∧
      Dict.get? (guardedRun git "/repo" (some policy) false
        [.rmCached ".env"] committed).2.work ".env" = none := by
  decide +kernel

end RestoreWitness

end Voly.Safety
