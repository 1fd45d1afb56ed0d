/-
Saved DSPy programs: one file for each version, and the index of records and
tags beside them.
-/
import Voly.Python.Json
import Voly.Records.Keyed

namespace Voly.Dspy

open Python

variable {A : Type}

/-- The state that `program.save` wrote, or the fallback text of one that
raised. -/
inductive FileContent (A : Type) where
  | saved (program : A)
  | fallback (programId error : String)
deriving DecidableEq

/-- `program.load(path)`: it raises on the fallback text. -/
def FileContent.load? : FileContent A → Option A
  | .saved program => some program
  | .fallback _ _ => none

/-- The file `v<version>.json` of a directory. -/
structure ProgramFile (A : Type) where
  dir : String
  version : Int
  content : FileContent A

def ProgramFile.path (file : ProgramFile A) : String × Int :=
  (file.dir, file.version)

def slug (identifier : String) : String :=
  String.ofList (identifier.toList.flatMap fun c =>
    if c = '/' then ['_', '_'] else [c])

/-- `_dir_for`: joining `.` to a path leaves the path. -/
def dirFor (identifier : String) : String :=
  if slug identifier = "." then "" else slug identifier

namespace ProgramStore

variable (files : List (ProgramFile A))

/-- The content of a version's file, when the file exists. -/
def read? (dir : String) (version : Int) : Option (FileContent A) :=
  (Keyed.lookup ProgramFile.path (dir, version) files).map (·.content)

/-- The versions that `_latest_version` finds in one directory. -/
def versionsIn (dir : String) : List Int :=
  (files.filter fun file => file.dir = dir).map (·.version)

/-- `_latest_version`; a directory that is read twice adds no version. -/
def latestVersion (programId : String) (aliases : List String) : Int :=
  ((programId :: aliases).flatMap fun identifier =>
    versionsIn files (dirFor identifier)).max?.getD 0

/-- The version that `save` writes. -/
def versionFor (programId : String) (version : Option Int) : Int :=
  version.getD (latestVersion files programId [] + 1)

/-- What `save` leaves in the file. -/
def contentOf (programId : String) : Except String A → FileContent A
  | .ok program => .saved program
  | .error error => .fallback programId error

/-- `DSPyProgramStore.save`; the outcome of `program.save` is given. -/
def save (programId : String) (version : Option Int)
    (outcome : Except String A) : Int × List (ProgramFile A) :=
  let chosen := versionFor files programId version
  (chosen, Keyed.put ProgramFile.path
    { dir := dirFor programId
      version := chosen
      content := contentOf programId outcome } files)

/-- `DSPyProgramStore.load`: the loaded program with its version. -/
def load (programId : String) (version : Option Int)
    (aliases : List String) : Option (A × Int) :=
  let latest := latestVersion files programId aliases
  let target := match version with
    | some version => if version = 0 then latest else version
    | none => latest
  if target = 0 then none
  else
    (programId :: aliases).findSome? fun identifier => do
      let content ← read? files (dirFor identifier) target
      let program ← content.load?
      pure (program, target)

def delete (programId : String) (version : Int) :
    Bool × List (ProgramFile A) :=
  if (read? files (dirFor programId) version).isSome then
    (true, Keyed.drop ProgramFile.path (dirFor programId, version) files)
  else (false, files)

end ProgramStore

structure ProgramVersionRecord where
  version : Int
  score : Option Rat := none
  optimizer : Option String := none
  dataset : Option String := none
  compileId : Option String := none
  shadowScoreDelta : Option Rat := none
  createdAt : Rat := 0

structure ProgramEntry where
  versions : Dict ProgramVersionRecord := []
  tags : Dict Int := []

/-- The data of `ProgramVersionManager`. -/
abbrev ProgramIndex := Dict ProgramEntry

namespace ProgramIndex

variable (index : ProgramIndex)

/-- `setdefault(program_id, {"versions": {}, "tags": {}})`. -/
def entry (programId : String) : ProgramEntry :=
  (index.get? programId).getD {}

def setTag (version : Int) (tags : Dict Int) (tag : String) : Dict Int :=
  tags.set tag version

def recordVersion (programId : String) (record : ProgramVersionRecord)
    (tags : List String) : ProgramIndex :=
  let entry := index.entry programId
  index.set programId
    { versions := entry.versions.set (toString record.version) record
      tags := tags.foldl (setTag record.version) entry.tags }

def assignTag (programId tag : String) (version : Int) : ProgramIndex :=
  let entry := index.entry programId
  index.set programId { entry with tags := entry.tags.set tag version }

/-- `resolve_tag`: version 0 reads as no version. -/
def resolveTag (programId tag : String) : Option Int := do
  let entry ← index.get? programId
  let version ← entry.tags.get? tag
  if version = 0 then none else some version

def metadata (programId : String) (version : Int) :
    Option ProgramVersionRecord := do
  let entry ← index.get? programId
  entry.versions.get? (toString version)

end ProgramIndex

section Files

variable {files : List (ProgramFile A)} {programId : String}
variable {dir : String} {version : Int} {content : FileContent A}

namespace ProgramStore

theorem mem_versionsIn : version ∈ versionsIn files dir ↔
    ∃ file ∈ files, file.dir = dir ∧ file.version = version := by
  simp [versionsIn, and_assoc]

theorem mem_of_read? (h : read? files dir version = some content) :
    (⟨dir, version, content⟩ : ProgramFile A) ∈ files := by
  obtain ⟨file, hfile, hcontent⟩ := Option.map_eq_some_iff.mp h
  have hpath := Keyed.key_of_lookup hfile
  obtain ⟨fileDir, fileVersion, fileContent⟩ := file
  cases hpath
  cases hcontent
  exact Keyed.mem_of_lookup hfile

theorem read?_of_mem (hnodup : (files.map ProgramFile.path).Nodup)
    {file : ProgramFile A} (h : file ∈ files) :
    read? files file.dir file.version = some file.content := by
  have hfound := Keyed.lookup_key hnodup h
  exact Option.map_eq_some_iff.mpr ⟨file, hfound, rfl⟩

/-- A save is read back under its directory and version; other files stay. -/
theorem read?_save (version : Option Int) (outcome : Except String A)
    (dir : String) (other : Int) :
    read? (save files programId version outcome).2 dir other =
      if dirFor programId = dir ∧ versionFor files programId version = other
      then some (contentOf programId outcome)
      else read? files dir other := by
  rw [read?, save, Keyed.lookup_put]
  by_cases hpath : dirFor programId = dir ∧
      versionFor files programId version = other
  · simp [ProgramFile.path, hpath]
  · simp [ProgramFile.path, hpath, read?]

theorem read?_delete (version : Int) (dir : String) (other : Int) :
    read? (delete files programId version).2 dir other =
      if dir = dirFor programId ∧ other = version then none
      else read? files dir other := by
  unfold delete
  split
  · rw [read?, Keyed.lookup_drop]
    by_cases hpath : dir = dirFor programId ∧ other = version
    · simp [hpath]
    · simp [hpath, read?]
  · next hnone =>
      split
      · next hpath =>
          rw [hpath.1, hpath.2]
          exact Option.not_isSome_iff_eq_none.mp hnone
      · rfl

theorem latestVersion_nil : latestVersion files programId [] =
    (versionsIn files (dirFor programId)).max?.getD 0 := by
  simp [latestVersion]

theorem exists_latest (h : version ∈ versionsIn files (dirFor programId)) :
    latestVersion files programId [] ∈ versionsIn files (dirFor programId) ∧
      ∀ other ∈ versionsIn files (dirFor programId),
        other ≤ latestVersion files programId [] := by
  rw [latestVersion_nil]
  cases hmax : (versionsIn files (dirFor programId)).max? with
  | none =>
      rw [List.max?_eq_none_iff.mp hmax] at h
      cases h
  | some latest => exact List.max?_eq_some_iff.mp hmax

theorem load_version (hzero : version ≠ 0) :
    load files programId (some version) [] =
      (read? files (dirFor programId) version).bind fun content =>
        content.load?.map fun program => (program, version) := by
  unfold load
  simp only [hzero, if_false, List.findSome?_cons, List.findSome?_nil]
  cases hread : read? files (dirFor programId) version with
  | none => rfl
  | some content => cases content <;> rfl

theorem load_latest :
    load files programId none [] =
      if latestVersion files programId [] = 0 then none
      else load files programId (some (latestVersion files programId [])) [] := by
  by_cases hzero : latestVersion files programId [] = 0
  · simp [load, hzero]
  · rw [if_neg hzero]
    simp [load, hzero]

end ProgramStore

end Files

namespace ProgramIndex

variable {index : ProgramIndex} {programId tag : String}

theorem resolveTag_eq_some {version : Int}
    (h : index.resolveTag programId tag = some version) :
    version ≠ 0 ∧ (index.entry programId).tags.get? tag = some version := by
  rw [resolveTag] at h
  cases hentry : Dict.get? index programId with
  | none => simp [hentry] at h
  | some entry =>
      cases htag : entry.tags.get? tag with
      | none => simp [hentry, htag] at h
      | some found =>
          by_cases hzero : found = 0
          · simp [hentry, htag, hzero] at h
          · have hfound : found = version := by
              simpa [hentry, htag, hzero] using h
            subst hfound
            exact ⟨hzero, by simp [ProgramIndex.entry, hentry, htag]⟩

theorem get?_foldl_setTag (version : Int) (names : List String)
    (tags : Dict Int) (tag : String) :
    (names.foldl (setTag version) tags).get? tag =
      if tag ∈ names then some version else tags.get? tag := by
  induction names generalizing tags with
  | nil => simp
  | cons name names ih =>
      rw [List.foldl_cons, ih, setTag, Dict.get?_set]
      by_cases hrest : tag ∈ names
      · simp [hrest]
      · by_cases hname : name = tag
        · simp [hname]
        · simp [hrest, hname, Ne.symm hname]

theorem tags_recordVersion (record : ProgramVersionRecord)
    (names : List String) (other : String) :
    ((index.recordVersion programId record names).entry other).tags.get? tag =
      if other = programId ∧ tag ∈ names then some record.version
      else (index.entry other).tags.get? tag := by
  by_cases hother : programId = other
  · subst hother
    simp [recordVersion, entry, Dict.get?_set, get?_foldl_setTag]
  · simp [recordVersion, entry, Dict.get?_set, hother, Ne.symm hother]

theorem tags_assignTag (name : String) (version : Int) (other : String) :
    ((index.assignTag programId name version).entry other).tags.get? tag =
      if other = programId ∧ tag = name then some version
      else (index.entry other).tags.get? tag := by
  by_cases hother : programId = other
  · subst hother
    simp [assignTag, entry, Dict.get?_set, eq_comm]
  · simp [assignTag, entry, Dict.get?_set, hother, Ne.symm hother]

end ProgramIndex

end Voly.Dspy
