/-
The work report of an executor run, from two listings of git, and when it is
exact.
-/
import Voly.A2A.LocalRun
import Voly.Executor.Safety
import Voly.Python.Bytes

namespace Voly.Report

open Python Git Voly.Safety Voly.A2A

/-- A repository at one moment, with write times of its files in nanoseconds. -/
structure Snapshot where
  repo : Repo
  mtime : Path → Nat := fun _ => 0

/-- The hash, and how a time in nanoseconds is rounded to a float in
seconds. -/
structure Machine where
  sha256 : List UInt8 → String
  seconds : Nat → Rat

namespace Snapshot

variable (git : Rules) (machine : Machine) (s : Snapshot)

def file (path : Path) : Option Blob := Dict.get? s.repo.work path

/-- `path_fingerprint`: over 2000000 bytes, up to the chunk that gets there. -/
def pathFingerprint (rel : String) : String :=
  if rel = "" then ""
  else
    match s.file rel with
    | none => ""
    | some blob =>
        let content := utf8 blob.toList
        let stamp := toString content.length ++ ":" ++ toString (s.mtime rel)
        machine.sha256 <| utf8 stamp.toList ++
          if 2000000 < content.length then
            content.take 2031616 ++ utf8 "#truncated".toList
          else content

/-- Untracked or added. -/
def isFresh (status : String) : Bool :=
  contains status "?" || contains status "A"

/-- One path and its code. -/
def notePrint (out : Dict String) (entry : String × String) : Dict String :=
  if !isFresh entry.2 then out
  else
    let print := s.pathFingerprint machine entry.1
    if print ≠ "" then out.set entry.1 print else out

def fingerprintUntracked (porcelain : Dict String) : Dict String :=
  porcelain.foldl (s.notePrint machine) []

/-- A file that lies in the directory itself. -/
def isImmediate (path : Path) : Bool := !path.toList.contains '/'

/-- `_dir_snapshot_shallow`: the size and the time of each immediate file. -/
def dirSnapshotShallow : Dict (Nat × Rat) :=
  (s.repo.work.keys.eraseDups.filter isImmediate).filterMap fun path =>
    (s.file path).map fun blob =>
      (path, (utf8 blob.toList).length, machine.seconds (s.mtime path))

def porcelain : Dict String := Safety.gitPorcelain git s.repo

end Snapshot

/-- What becomes of a path between two snapshots. -/
inductive Fate where
  | created
  | changed
  | deleted
deriving DecidableEq

/-- The lists of files of a `WorkReport`. -/
structure WorkReport where
  filesChanged : List String := []
  filesCreated : List String := []
  filesDeleted : List String := []

def WorkReport.files (report : WorkReport) : Fate → List String
  | .created => report.filesCreated
  | .changed => report.filesChanged
  | .deleted => report.filesDeleted

/-- A code of a path that was not listed before. -/
def newlyListed (code : String) : Fate :=
  if contains code "D" then .deleted
  else if startsWith code "?" || contains code "A" then .created
  else .changed

/-- One path of the two listings of git. -/
def classify (before after fingerprintsBefore fingerprintsAfter : Dict String)
    (path : String) : Option Fate :=
  match before.get? path, after.get? path with
  | none, none => none
  | none, some a => some (newlyListed a)
  | some _, none => some .deleted
  | some b, some a =>
      if a ≠ b then some .changed
      else if a ≠ "" ∧ Snapshot.isFresh a ∧
          fingerprintsBefore.get? path ≠ fingerprintsAfter.get? path then
        some .changed
      else none

/-- One name of the two listings of the directory. -/
def classifyEntry (before after : Dict (Nat × Rat)) (name : String) :
    Option Fate :=
  match before.get? name, after.get? name with
  | none, some _ => some .created
  | some _, none => some .deleted
  | b, a => if a ≠ b then some .changed else none

/-- The names of several listings, in order. -/
def namesOf (listings : List (List String)) : List String :=
  sorted listings.flatten.eraseDups

/-- The names that a classification finds, as lists. -/
def reportOf (names : List String) (found : String → Option Fate) :
    WorkReport where
  filesChanged := names.filter fun name => found name = some .changed
  filesCreated := names.filter fun name => found name = some .created
  filesDeleted := names.filter fun name => found name = some .deleted

def buildWorkReport
    (before after fingerprintsBefore fingerprintsAfter : Dict String)
    (dirBefore dirAfter : Dict (Nat × Rat)) : WorkReport :=
  if before = [] ∧ after = [] then
    reportOf (namesOf [dirBefore.keys, dirAfter.keys])
      (classifyEntry dirBefore dirAfter)
  else
    reportOf
      (namesOf [before.keys, after.keys, fingerprintsBefore.keys,
        fingerprintsAfter.keys])
      (classify before after fingerprintsBefore fingerprintsAfter)

section Run

variable (git : Rules) (machine : Machine) (before after : Snapshot)

def runReport : WorkReport :=
  buildWorkReport (before.porcelain git) (after.porcelain git)
    (before.fingerprintUntracked machine (before.porcelain git))
    (after.fingerprintUntracked machine (after.porcelain git))
    (before.dirSnapshotShallow machine) (after.dirSnapshotShallow machine)

/-- The files that the executor runner hands on. -/
def reportedFiles (report : WorkReport) : List String :=
  ((report.filesChanged ++ report.filesCreated).filter
    isProjectFile).eraseDups

def changedPaths
    (gitBefore gitAfter fingerprintsBefore fingerprintsAfter : Dict String) :
    List String :=
  let prints := fingerprintsBefore.keys ++ fingerprintsAfter.keys
  (namesOf [gitBefore.keys, gitAfter.keys, prints]).filter fun path =>
    let b := (gitBefore.get? path).getD ""
    let a := (gitAfter.get? path).getD ""
    gitBefore.get? path ≠ gitAfter.get? path ∨
      (path ∈ prints ∧ Snapshot.isFresh a ∧
        if b ≠ "" ∧ a ≠ "" ∧ b = a then
          fingerprintsBefore.get? path ≠ fingerprintsAfter.get? path
        else
          path ∈ fingerprintsAfter.keys ∧ path ∉ fingerprintsBefore.keys)

/-- `delta_for_role`: files that were written before the role are left out. -/
def deltaForRole (since : Rat) : List String :=
  (changedPaths (before.porcelain git) (after.porcelain git)
    (before.fingerprintUntracked machine (before.porcelain git))
    (after.fingerprintUntracked machine (after.porcelain git))).filter
    fun rel => isProjectFile rel ∧
      ¬ ((after.file rel).isSome ∧
        machine.seconds (after.mtime rel) < since - 3 / 2)

/-- A role whose executor has run: what is handed on, or the delta of git. -/
def finishedRole (config : RunConfig) (a : Assignment) (content : String)
    (ok : Option Bool) (error executor : String) (since : Rat) :
    Assignment :=
  let files := reportedFiles (runReport git machine before after)
  let reply : ExecutorReply := .ok (.dict content ok error files executor)
  let delta :=
    if (a.recordExecutor reply).filesTouched.isEmpty then
      deltaForRole git machine before after since
    else []
  a.afterExecutor config reply delta

/-- What became of a path. -/
def fate (path : Path) : Option Fate :=
  match before.file path, after.file path with
  | none, none => none
  | none, some _ => some .created
  | some _, none => some .deleted
  | some old, some new => if old = new then none else some .changed

/-- The path is ignored in each snapshot that has it. -/
def Hidden (path : Path) : Prop :=
  ∀ s ∈ [before, after], s.file path ≠ none →
    Dict.get? s.repo.index path = none ∧
      git.ignored s.repo.work path = true

/-- What is listed happened, and what happened is listed unless it is
ignored. -/
def Exact : Prop :=
  ∀ path kind,
    (path ∈ (runReport git machine before after).files kind →
      fate before after path = some kind) ∧
    (fate before after path = some kind → ¬ Hidden git before after path →
      path ∈ (runReport git machine before after).files kind)

/-- A role whose executor changed a file that is not ignored has touched
files. -/
def Honest (config : RunConfig) (a : Assignment) (content : String)
    (ok : Option Bool) (error executor : String) (since : Rat) : Prop :=
  (∃ path, isProjectFile path = true ∧ fate before after path ≠ none ∧
    ¬ Hidden git before after path) →
  (finishedRole git machine before after config a content ok error executor
    since).filesTouched ≠ []

/-- The path and the code of a line of the status. -/
def lineName (line : String) : String :=
  String.ofList (lastPart [] (strip (String.ofList (line.toList.drop 3))).toList)

def lineCode (line : String) : String := orElse (strip (slice 2 line)) "?"

/-- The code of the last line of the status that shows a name. -/
def Snapshot.listed (s : Snapshot) (name : String) : Option String :=
  (((s.repo.status git).filter fun line =>
    4 ≤ line.length ∧ lineName line = name).getLast?).map lineCode

/-- The same code, and for an untracked or added file the same fingerprint. -/
def Silent (path : Path) : Prop :=
  before.listed git path = after.listed git path ∧
    ∀ code, after.listed git path = some code →
      Snapshot.isFresh code = true →
      before.pathFingerprint machine path = after.pathFingerprint machine path

/-- The codes tell what became of a path. -/
def Told (path : Path) (kind : Fate) : Prop :=
  (before.listed git path = none ∧
    (after.listed git path).map newlyListed = some kind) ∨
  (before.listed git path ≠ none ∧
    match kind with
    | .created => False
    | .changed => after.listed git path ≠ none ∧
        ¬ Silent git machine before after path
    | .deleted => after.listed git path = none)

def Shown (path : Path) : Prop :=
  match fate before after path with
  | none => Silent git machine before after path
  | some kind =>
      Told git machine before after path kind ∨
        (Hidden git before after path ∧ Silent git machine before after path)

/-- Git lists nothing, before and after. -/
def Unlisted : Prop :=
  ∀ path, before.listed git path = none ∧ after.listed git path = none

/-- The size and the time of a file. -/
def Snapshot.stamp (s : Snapshot) (path : Path) : Option (Nat × Rat) :=
  (s.file path).map fun blob =>
    ((utf8 blob.toList).length, machine.seconds (s.mtime path))

/-- The directory shows the path's change by another size or time. -/
def ShownAlone (path : Path) : Prop :=
  if Snapshot.isImmediate path then
    ∀ old new, before.file path = some old → after.file path = some new →
      (old = new → before.stamp machine path = after.stamp machine path) ∧
      (old ≠ new → Hidden git before after path ∨
        before.stamp machine path ≠ after.stamp machine path)
  else fate before after path = none ∨ Hidden git before after path

end Run

theorem eq_nil_iff {A : Type} {d : Dict A} :
    d = [] ↔ ∀ key, d.get? key = none := by
  cases d with
  | nil => simp [Dict.get?]
  | cons item rest =>
      refine iff_of_false (by simp) fun h => ?_
      have hfirst := h item.1
      simp [Dict.get?] at hfirst

theorem get?_filterMap {A : Type} (value : String → Option A)
    (names : List String) (name : String) :
    Dict.get? (names.filterMap fun key => (value key).map (key, ·)) name =
      if name ∈ names then value name else none := by
  induction names with
  | nil => rfl
  | cons key rest ih =>
      cases hvalue : value key with
      | none =>
          rw [List.filterMap_cons_none (by rw [hvalue]; rfl), ih]
          by_cases hname : name = key
          · simp [hname, hvalue]
          · simp [hname]
      | some found =>
          rw [List.filterMap_cons_some (by rw [hvalue]; rfl), Dict.get?, ih]
          by_cases hname : key = name
          · simp [← hname, hvalue]
          · simp [hname, Ne.symm hname]

section Listings

variable {git : Rules} {machine : Machine} {s : Snapshot}

theorem get?_readStatusLines (lines : List String) (name : String) :
    Dict.get? (lines.foldl readStatusLine []) name =
      ((lines.filter fun line =>
        4 ≤ line.length ∧ lineName line = name).getLast?).map lineCode := by
  induction lines using List.reverseRecOn with
  | nil => rfl
  | append_singleton lines line ih =>
      rw [List.foldl_append, List.foldl_cons, List.foldl_nil,
        List.filter_append, readStatusLine]
      by_cases hshort : line.length < 4
      · have hlong : ¬ 4 ≤ line.length := by omega
        rw [if_pos hshort, ih]
        simp [hlong]
      · have hlong : 4 ≤ line.length := by omega
        rw [if_neg hshort, Dict.get?_set, ih]
        by_cases hname : lineName line = name
        · have hread : String.ofList (lastPart []
              (strip (String.ofList (line.toList.drop 3))).toList) = name :=
            hname
          simp [hread, hlong, hname, lineCode]
        · have hread : String.ofList (lastPart []
              (strip (String.ofList (line.toList.drop 3))).toList) ≠ name :=
            hname
          simp [hread, hname]

theorem get?_porcelain (name : String) :
    Dict.get? (s.porcelain git) name = s.listed git name :=
  get?_readStatusLines _ _

theorem porcelain_eq_nil_iff :
    s.porcelain git = [] ↔ ∀ name, s.listed git name = none := by
  rw [eq_nil_iff]
  exact forall_congr' fun name => by rw [get?_porcelain]

theorem nodup_porcelain : (s.porcelain git).keys.Nodup := by
  have hlines (lines : List String) :
      (lines.foldl readStatusLine []).keys.Nodup := by
    induction lines using List.reverseRecOn with
    | nil => exact List.nodup_nil
    | append_singleton lines line ih =>
        rw [List.foldl_append, List.foldl_cons, List.foldl_nil,
          readStatusLine]
        split
        · exact ih
        · exact Dict.nodup_set ih _ _
  exact hlines _

theorem get?_notePrint (out : Dict String) (key code name : String) :
    Dict.get? (s.notePrint machine out (key, code)) name =
      if key = name ∧ Snapshot.isFresh code = true ∧
          s.pathFingerprint machine key ≠ "" then
        some (s.pathFingerprint machine key)
      else out.get? name := by
  unfold Snapshot.notePrint
  cases hfresh : Snapshot.isFresh code with
  | false => simp
  | true =>
      by_cases hprint : s.pathFingerprint machine key = ""
      · simp [hprint]
      · simp [hprint]

theorem get?_fingerprintUntracked {listing : Dict String}
    (h : listing.keys.Nodup) (name : String) :
    Dict.get? (s.fingerprintUntracked machine listing) name =
      match listing.get? name with
      | some code =>
          if Snapshot.isFresh code = true ∧
              s.pathFingerprint machine name ≠ "" then
            some (s.pathFingerprint machine name)
          else none
      | none => none := by
  unfold Snapshot.fingerprintUntracked
  induction listing using List.reverseRecOn with
  | nil => rfl
  | append_singleton rest item ih =>
      obtain ⟨key, code⟩ := item
      have hkeys : Dict.keys (rest ++ [(key, code)]) =
          Dict.keys rest ++ [key] := by simp [Dict.keys]
      rw [hkeys] at h
      have hnew : key ∉ Dict.keys rest := fun hmem =>
        (List.nodup_append.mp h).2.2 key hmem key (by simp) rfl
      rw [mem_keys_iff, not_not] at hnew
      have hget : Dict.get? (rest ++ [(key, code)]) name =
          (Dict.get? rest name).or (if key = name then some code else none) := by
        rw [Dict.get?_append]
        rfl
      rw [List.foldl_append, List.foldl_cons, List.foldl_nil, get?_notePrint,
        hget, ih (List.nodup_append.mp h).1]
      by_cases hname : key = name
      · subst hname
        simp [hnew]
      · simp [hname]

theorem get?_dirSnapshotShallow (name : String) :
    Dict.get? (s.dirSnapshotShallow machine) name =
      if Snapshot.isImmediate name then s.stamp machine name else none := by
  have hvalue : s.dirSnapshotShallow machine =
      (s.repo.work.keys.eraseDups.filter Snapshot.isImmediate).filterMap
        fun path => (s.stamp machine path).map (path, ·) := by
    simp only [Snapshot.dirSnapshotShallow, Snapshot.stamp, Option.map_map]
    rfl
  rw [hvalue, get?_filterMap]
  by_cases himmediate : Snapshot.isImmediate name = true
  · by_cases hfile : s.file name = none
    · simp [himmediate, Snapshot.stamp, hfile]
    · have hmem : name ∈ s.repo.work.keys := mem_keys_iff.mpr hfile
      simp [himmediate, hmem]
  · simp [himmediate]

end Listings

section Law

variable {git : Rules} {machine : Machine} {before after : Snapshot}

theorem mem_namesOf {listings : List (List String)} {name : String} :
    name ∈ namesOf listings ↔ ∃ listing ∈ listings, name ∈ listing := by
  rw [namesOf, mem_sorted, List.mem_eraseDups, List.mem_flatten]

theorem mem_reportOf {names : List String} {found : String → Option Fate}
    (hnames : ∀ name, found name ≠ none → name ∈ names) {name : String}
    {kind : Fate} :
    name ∈ (reportOf names found).files kind ↔ found name = some kind := by
  have hmem : found name = some kind → name ∈ names := fun h =>
    hnames name (by simp [h])
  cases kind <;>
    simpa only [reportOf, WorkReport.files, List.mem_filter,
      decide_eq_true_eq, and_iff_right_iff_imp] using hmem

variable (git machine before after) in
/-- What the report says of a path. -/
def verdict (path : Path) : Option Fate :=
  if before.porcelain git = [] ∧ after.porcelain git = [] then
    classifyEntry (before.dirSnapshotShallow machine)
      (after.dirSnapshotShallow machine) path
  else
    classify (before.porcelain git) (after.porcelain git)
      (before.fingerprintUntracked machine (before.porcelain git))
      (after.fingerprintUntracked machine (after.porcelain git)) path

theorem mem_runReport {path : Path} {kind : Fate} :
    path ∈ (runReport git machine before after).files kind ↔
      verdict git machine before after path = some kind := by
  unfold runReport buildWorkReport verdict
  split
  · apply mem_reportOf
    intro name hfound
    rw [mem_namesOf]
    by_cases hbefore : name ∈ (before.dirSnapshotShallow machine).keys
    · exact ⟨_, by simp, hbefore⟩
    · by_cases hafter : name ∈ (after.dirSnapshotShallow machine).keys
      · exact ⟨_, by simp, hafter⟩
      · rw [mem_keys_iff, not_not] at hbefore hafter
        simp [classifyEntry, hbefore, hafter] at hfound
  · apply mem_reportOf
    intro name hfound
    rw [mem_namesOf]
    by_cases hbefore : name ∈ (before.porcelain git).keys
    · exact ⟨_, by simp, hbefore⟩
    · by_cases hafter : name ∈ (after.porcelain git).keys
      · exact ⟨_, by simp, hafter⟩
      · rw [mem_keys_iff, not_not] at hbefore hafter
        simp [classify, hbefore, hafter] at hfound

theorem exact_iff_verdict :
    Exact git machine before after ↔ ∀ path,
      verdict git machine before after path = fate before after path ∨
        (Hidden git before after path ∧
          verdict git machine before after path = none) := by
  unfold Exact
  simp only [mem_runReport]
  refine forall_congr' fun path => ?_
  cases hverdict : verdict git machine before after path with
  | none =>
      cases hfate : fate before after path with
      | none => simp
      | some kind =>
          constructor
          · intro h
            by_cases hhidden : Hidden git before after path
            · exact Or.inr ⟨hhidden, rfl⟩
            · cases (h kind).2 rfl hhidden
          · rintro (h | ⟨hhidden, _⟩)
            · cases h
            · exact fun other => ⟨(fun h => nomatch h),
                fun _ hshown => absurd hhidden hshown⟩
  | some kind =>
      constructor
      · exact fun h => Or.inl ((h kind).1 rfl).symm
      · rintro (h | ⟨_, h⟩)
        · exact fun other => ⟨fun hsame => h.symm.trans hsame,
            fun hsame _ => h.trans hsame⟩
        · cases h

theorem silent_iff {path : Path} :
    Silent git machine before after path ↔
      classify (before.porcelain git) (after.porcelain git)
        (before.fingerprintUntracked machine (before.porcelain git))
        (after.fingerprintUntracked machine (after.porcelain git))
        path = none := by
  unfold Silent classify
  rw [get?_fingerprintUntracked nodup_porcelain,
    get?_fingerprintUntracked nodup_porcelain, get?_porcelain, get?_porcelain]
  cases hbefore : before.listed git path with
  | none =>
      cases hafter : after.listed git path with
      | none => simp
      | some a => simp
  | some b =>
      cases hafter : after.listed git path with
      | none => simp
      | some a =>
          by_cases hsame : a = b
          · subst hsame
            cases hfresh : Snapshot.isFresh a with
            | false => simp [hfresh]
            | true =>
                have hne : a ≠ "" := by
                  rintro rfl
                  revert hfresh
                  decide
                simp only [hfresh]
                grind
          · simp [hsame, Ne.symm hsame]

theorem told_iff {path : Path} {kind : Fate} :
    Told git machine before after path kind ↔
      classify (before.porcelain git) (after.porcelain git)
        (before.fingerprintUntracked machine (before.porcelain git))
        (after.fingerprintUntracked machine (after.porcelain git))
        path = some kind := by
  have hsilent := @silent_iff git machine before after path
  revert hsilent
  generalize hfound : classify (before.porcelain git) (after.porcelain git)
    (before.fingerprintUntracked machine (before.porcelain git))
    (after.fingerprintUntracked machine (after.porcelain git)) path = found
  intro hsilent
  unfold classify at hfound
  rw [get?_porcelain, get?_porcelain] at hfound
  unfold Told
  cases hbefore : before.listed git path with
  | none =>
      cases hafter : after.listed git path with
      | none =>
          rw [hbefore, hafter] at hfound
          simp [← hfound]
      | some a =>
          rw [hbefore, hafter] at hfound
          simp [← hfound]
  | some b =>
      cases hafter : after.listed git path with
      | none =>
          rw [hbefore, hafter] at hfound
          cases kind <;> simp [← hfound]
      | some a =>
          rw [hbefore, hafter] at hfound
          have hchanged : found = none ∨ found = some .changed := by
            rw [← hfound]
            dsimp only
            split
            · exact Or.inr rfl
            · split
              · exact Or.inr rfl
              · exact Or.inl rfl
          rcases hchanged with rfl | rfl
          · cases kind <;> simp [hsilent]
          · cases kind <;> simp [hsilent]

theorem shown_iff {path : Path} :
    Shown git machine before after path ↔
      classify (before.porcelain git) (after.porcelain git)
          (before.fingerprintUntracked machine (before.porcelain git))
          (after.fingerprintUntracked machine (after.porcelain git)) path =
        fate before after path ∨
      (Hidden git before after path ∧
        classify (before.porcelain git) (after.porcelain git)
          (before.fingerprintUntracked machine (before.porcelain git))
          (after.fingerprintUntracked machine (after.porcelain git)) path =
        none) := by
  unfold Shown
  rw [← silent_iff]
  cases hfate : fate before after path with
  | none =>
      rw [← silent_iff]
      exact ⟨Or.inl, fun h => h.elim id And.right⟩
  | some kind => rw [← told_iff]

theorem shownAlone_iff {path : Path} :
    ShownAlone git machine before after path ↔
      classifyEntry (before.dirSnapshotShallow machine)
          (after.dirSnapshotShallow machine) path =
        fate before after path ∨
      (Hidden git before after path ∧
        classifyEntry (before.dirSnapshotShallow machine)
          (after.dirSnapshotShallow machine) path = none) := by
  unfold ShownAlone classifyEntry
  rw [get?_dirSnapshotShallow, get?_dirSnapshotShallow]
  by_cases himmediate : Snapshot.isImmediate path = true
  · rw [if_pos himmediate, if_pos himmediate, if_pos himmediate]
    unfold fate Snapshot.stamp
    cases hbefore : before.file path with
    | none => cases hafter : after.file path <;> simp
    | some old =>
        cases hafter : after.file path with
        | none => simp
        | some new =>
            by_cases hsame : old = new
            · subst hsame
              simp only [Option.map_some]
              grind
            · simp only [Option.map_some]
              grind
  · rw [if_neg himmediate, if_neg himmediate, if_neg himmediate]
    simp [eq_comm]

theorem unlisted_iff :
    Unlisted git before after ↔
      before.porcelain git = [] ∧ after.porcelain git = [] := by
  rw [porcelain_eq_nil_iff, porcelain_eq_nil_iff]
  exact forall_and

variable (git machine before after) in
/-- Each path is shown as what became of it: by its codes, or by the directory
where git lists nothing. -/
def AllShown : Prop :=
  (Unlisted git before after →
    ∀ path, ShownAlone git machine before after path) ∧
  (¬ Unlisted git before after → ∀ path, Shown git machine before after path)

theorem exact_iff :
    Exact git machine before after ↔ AllShown git machine before after := by
  rw [exact_iff_verdict, AllShown]
  unfold verdict
  by_cases hunlisted : Unlisted git before after
  · simp only [if_pos (unlisted_iff.mp hunlisted)]
    exact ⟨fun h => ⟨fun _ path => shownAlone_iff.mpr (h path),
        fun hlisted => absurd hunlisted hlisted⟩,
      fun h path => shownAlone_iff.mp (h.1 hunlisted path)⟩
  · simp only [if_neg fun h => hunlisted (unlisted_iff.mpr h)]
    exact ⟨fun h => ⟨fun h' => absurd h' hunlisted,
        fun _ path => shown_iff.mpr (h path)⟩,
      fun h path => shown_iff.mp (h.2 hunlisted path)⟩

section Role

variable {config : RunConfig} {a : Assignment} {content : String}
  {ok : Option Bool} {error executor : String} {since : Rat}

theorem mem_reportedFiles {path : Path} :
    path ∈ reportedFiles (runReport git machine before after) ↔
      isProjectFile path = true ∧
        (verdict git machine before after path = some .changed ∨
          verdict git machine before after path = some .created) := by
  rw [← mem_runReport, ← mem_runReport]
  simp [reportedFiles, WorkReport.files, and_comm, and_or_left]

theorem touched_eq_nil_iff :
    (finishedRole git machine before after config a content ok error executor
      since).filesTouched = [] ↔
      reportedFiles (runReport git machine before after) = [] ∧
        deltaForRole git machine before after since = [] := by
  have hproject : (reportedFiles (runReport git machine before after)).filter
      isProjectFile = reportedFiles (runReport git machine before after) := by
    rw [List.filter_eq_self]
    exact fun path hmem => (mem_reportedFiles.mp hmem).1
  have hkept (b : Assignment) :
      (b.requireFiles config).filesTouched = b.filesTouched := by
    unfold Assignment.requireFiles
    split <;> rfl
  simp only [finishedRole, Assignment.afterExecutor, executorRaised,
    Assignment.recordExecutor, hproject]
  rw [if_neg (by simp), hkept]
  by_cases hfiles : reportedFiles (runReport git machine before after) = []
  · by_cases hdelta : deltaForRole git machine before after since = []
    · simp [hfiles, hdelta, Assignment.keepDelta]
    · simp [hfiles, hdelta, Assignment.keepDelta]
  · simp [hfiles, Assignment.keepDelta]

theorem mem_deltaForRole {path : Path}
    (hlisted : before.listed git path ≠ after.listed git path)
    (hproject : isProjectFile path = true) (hgone : after.file path = none) :
    path ∈ deltaForRole git machine before after since := by
  have hget : (before.porcelain git).get? path ≠
      (after.porcelain git).get? path := by
    rw [get?_porcelain, get?_porcelain]
    exact hlisted
  have hname : path ∈ (before.porcelain git).keys ∨
      path ∈ (after.porcelain git).keys := by
    rw [mem_keys_iff, mem_keys_iff]
    by_cases hbefore : (before.porcelain git).get? path = none
    · exact Or.inr fun hafter => hget (hbefore.trans hafter.symm)
    · exact Or.inl hbefore
  unfold deltaForRole changedPaths
  simp only [List.mem_filter, mem_namesOf, decide_eq_true_eq]
  refine ⟨⟨?_, Or.inl hget⟩, hproject, by simp [hgone]⟩
  rcases hname with h | h
  · exact ⟨_, by simp, h⟩
  · exact ⟨_, by simp, h⟩

theorem delta_unlisted (h : Unlisted git before after) :
    deltaForRole git machine before after since = [] := by
  obtain ⟨hbefore, hafter⟩ := unlisted_iff.mp h
  simp [deltaForRole, changedPaths, hbefore, hafter, namesOf,
    Snapshot.fingerprintUntracked, Dict.keys, sorted]

theorem listed_ne_of_deleted (hlisted : ¬ Unlisted git before after)
    {path : Path}
    (h : verdict git machine before after path = some .deleted) :
    before.listed git path ≠ after.listed git path := by
  rw [verdict, if_neg fun hnone => hlisted (unlisted_iff.mpr hnone),
    ← told_iff] at h
  rcases h with ⟨hbefore, hafter⟩ | ⟨hbefore, hafter⟩
  · intro hsame
    rw [← hsame, hbefore] at hafter
    cases hafter
  · intro hsame
    exact hbefore (hsame.trans hafter)

variable (git machine before after) in
/-- Where git lists nothing, a file was deleted and nothing else is seen. -/
def DeletedUnseen : Prop :=
  Unlisted git before after ∧
  (∃ path, isProjectFile path = true ∧ fate before after path = some .deleted ∧
    ¬ Hidden git before after path) ∧
  ¬ ∃ path, isProjectFile path = true ∧ Snapshot.isImmediate path = true ∧
    (fate before after path = some .created ∨
      (fate before after path = some .changed ∧
        before.stamp machine path ≠ after.stamp machine path))

theorem verdict_unlisted (h : Unlisted git before after) (path : Path) :
    verdict git machine before after path =
      classifyEntry (before.dirSnapshotShallow machine)
        (after.dirSnapshotShallow machine) path :=
  if_pos (unlisted_iff.mp h)

theorem mem_reportedFiles_unlisted (h : Unlisted git before after)
    (hexact : Exact git machine before after) {path : Path} :
    path ∈ reportedFiles (runReport git machine before after) ↔
      isProjectFile path = true ∧ Snapshot.isImmediate path = true ∧
        (fate before after path = some .created ∨
          (fate before after path = some .changed ∧
            before.stamp machine path ≠ after.stamp machine path)) := by
  rw [mem_reportedFiles]
  apply and_congr_right
  intro _
  have hsound := exact_iff_verdict.mp hexact path
  rw [verdict_unlisted h] at hsound ⊢
  revert hsound
  unfold classifyEntry
  rw [get?_dirSnapshotShallow, get?_dirSnapshotShallow]
  by_cases himmediate : Snapshot.isImmediate path = true
  · rw [if_pos himmediate, if_pos himmediate]
    unfold fate Snapshot.stamp
    cases before.file path <;> cases after.file path <;> grind
  · simp [himmediate]

theorem honest_iff (hexact : Exact git machine before after) :
    Honest git machine before after config a content ok error executor since ↔
      ¬ DeletedUnseen git machine before after := by
  unfold Honest
  rw [ne_eq, touched_eq_nil_iff]
  constructor
  · rintro hhonest ⟨hunlisted, ⟨path, hproject, hfate, hhidden⟩, hnone⟩
    refine hhonest ⟨path, hproject, by simp [hfate], hhidden⟩
      ⟨?_, delta_unlisted hunlisted⟩
    rw [List.eq_nil_iff_forall_not_mem]
    exact fun other hmem =>
      hnone ⟨other, (mem_reportedFiles_unlisted hunlisted hexact).mp hmem⟩
  · rintro hseen ⟨path, hproject, hfate, hhidden⟩ ⟨hfiles, hdelta⟩
    obtain ⟨kind, hkind⟩ := Option.ne_none_iff_exists'.mp hfate
    have hverdict := mem_runReport.mp ((hexact path kind).2 hkind hhidden)
    have hunreported (other : Path) :
        other ∉ reportedFiles (runReport git machine before after) := by
      rw [hfiles]
      exact List.not_mem_nil
    cases kind with
    | created =>
        exact hunreported path
          (mem_reportedFiles.mpr ⟨hproject, Or.inr hverdict⟩)
    | changed =>
        exact hunreported path
          (mem_reportedFiles.mpr ⟨hproject, Or.inl hverdict⟩)
    | deleted =>
        by_cases hunlisted : Unlisted git before after
        · refine hseen ⟨hunlisted, ⟨path, hproject, hkind, hhidden⟩, ?_⟩
          rintro ⟨other, hother⟩
          exact hunreported other
            ((mem_reportedFiles_unlisted hunlisted hexact).mpr hother)
        · have hgone : after.file path = none := by
            unfold fate at hkind
            cases hafter : after.file path with
            | none => rfl
            | some new =>
                rw [hafter] at hkind
                cases hbefore : before.file path <;> simp [hbefore] at hkind
          have hmem : path ∈ deltaForRole git machine before after since :=
            mem_deltaForRole (listed_ne_of_deleted hunlisted hverdict)
              hproject hgone
          rw [hdelta] at hmem
          cases hmem

end Role

/-- A report is exact iff each path is shown right and no deletion is unseen. -/
theorem report_exact_iff (config : RunConfig) (a : Assignment)
    (content : String) (ok : Option Bool) (error executor : String)
    (since : Rat) :
    (Exact git machine before after ∧
      Honest git machine before after config a content ok error executor
        since) ↔
    AllShown git machine before after ∧
      ¬ DeletedUnseen git machine before after := by
  rw [← exact_iff]
  exact and_congr_right honest_iff

end Law

namespace ReportWitness

def rules : Rules where
  ignored _ _ := false
  renames _ _ := []
  diffText _ _ := ""

def machine : Machine where
  sha256 bytes := toString bytes.length
  seconds n := n

def dirty : Snapshot where
  repo :=
    { head := [("src/a", "1")]
      index := [("src/a", "1")]
      work := [("src/a", "2")] }

def ran (actions : List Action) : Snapshot where
  repo := dirty.repo.performAll actions
  mtime _ := 1

def role : Assignment := { idx := 0, role := "developer" }

/-- The file is edited again. -/
theorem dirty_edit_missed :
    ¬ Exact rules machine dirty (ran [.write "src/a" "3"]) ∧
      ¬ Honest rules machine dirty (ran [.write "src/a" "3"]) {} role "done"
        (some true) "" "cursor" 0 := by
  have hfate : fate dirty (ran [.write "src/a" "3"]) "src/a" =
      some .changed := by decide +kernel
  have hhidden : ¬ Hidden rules dirty (ran [.write "src/a" "3"]) "src/a" :=
    fun h => by
      have hignored := (h dirty (by simp) (by decide +kernel)).2
      cases hignored
  constructor
  · intro hexact
    have hmem := (hexact "src/a" .changed).2 hfate hhidden
    have hnone : (runReport rules machine dirty
        (ran [.write "src/a" "3"])).files .changed = [] := by decide +kernel
    rw [hnone] at hmem
    cases hmem
  · intro hhonest
    refine hhonest ⟨"src/a", by decide +kernel, by simp [hfate], hhidden⟩ ?_
    decide +kernel

/-- What is committed has no line any more and counts as deleted. -/
example : (runReport rules machine dirty
    (ran [.add "src/a", .commit])).filesDeleted = ["src/a"] := by
  decide +kernel

end ReportWitness

end Voly.Report
