/-
Runs of saves, deletes and tag assignments: versions that mean one program, and
tags that keep it.
-/
import Voly.Dspy.Store
import Voly.Interaction.Steps

namespace Voly.Dspy

open Python Interaction

variable {A : Type}

/-- A save that returned: the program, its version and what the file got. -/
structure Handed (A : Type) where
  programId : String
  version : Int
  content : FileContent A
deriving DecidableEq

/-- The files, the index, the saves so far, and what each tag was put on. -/
structure ProgramWorld (A : Type) where
  files : List (ProgramFile A) := []
  index : ProgramIndex := []
  handed : List (Handed A) := []
  tagged : String → String → Option (FileContent A) := fun _ _ => none

inductive ProgramEvent (A : Type) where
  | save (programId : String) (version : Option Int)
      (outcome : Except String A)
  | delete (programId : String) (version : Int)
  | recordVersion (programId : String) (record : ProgramVersionRecord)
      (tags : List String)
  | assignTag (programId tag : String) (version : Int)

namespace ProgramWorld

variable (world : ProgramWorld A)

def save (programId : String) (version : Option Int)
    (outcome : Except String A) : ProgramWorld A :=
  let saved := ProgramStore.save world.files programId version outcome
  { world with
    files := saved.2
    handed := world.handed ++
      [⟨programId, saved.1, ProgramStore.contentOf programId outcome⟩] }

def delete (programId : String) (version : Int) : ProgramWorld A :=
  { world with
    files := (ProgramStore.delete world.files programId version).2 }

/-- The tags are put on the version as it is stored now. -/
def retag (programId : String) (version : Int) (names : List String) :
    String → String → Option (FileContent A) := fun other tag =>
  if other = programId ∧ tag ∈ names then
    ProgramStore.read? world.files (dirFor programId) version
  else world.tagged other tag

def recordVersion (programId : String) (record : ProgramVersionRecord)
    (names : List String) : ProgramWorld A :=
  { world with
    index := world.index.recordVersion programId record names
    tagged := world.retag programId record.version names }

def assignTag (programId tag : String) (version : Int) : ProgramWorld A :=
  { world with
    index := world.index.assignTag programId tag version
    tagged := world.retag programId version [tag] }

/-- The save is of the program, it succeeded, and its file is still there. -/
def Stored (programId : String) (version : Int) (program : A) : Prop :=
  ⟨programId, version, .saved program⟩ ∈ world.handed ∧
    ProgramStore.read? world.files (dirFor programId) version =
      some (.saved program)

/-- Version numbers mean one content, tags load what they were put on, and the
latest is the highest success. -/
structure Stable : Prop where
  once : ∀ first ∈ world.handed, ∀ second ∈ world.handed,
    first.programId = second.programId → first.version = second.version →
      first.content = second.content
  tags : ∀ programId tag version, world.index.resolveTag programId tag =
    some version → ∀ loaded,
      ProgramStore.load world.files programId (some version) [] =
        some loaded →
      world.tagged programId tag = some (.saved loaded.1)
  latest : ∀ programId version program,
    world.Stored programId version program →
      ∃ best program, world.Stored programId best program ∧
        (∀ other program, world.Stored programId other program →
          other ≤ best) ∧
        ProgramStore.load world.files programId none [] =
          some (program, best)

end ProgramWorld

def programStep (world : ProgramWorld A) :
    ProgramEvent A → Option (ProgramWorld A)
  | .save programId version outcome =>
      some (world.save programId version outcome)
  | .delete programId version => some (world.delete programId version)
  | .recordVersion programId record names =>
      some (world.recordVersion programId record names)
  | .assignTag programId tag version =>
      some (world.assignTag programId tag version)

/-- A save that keeps the versions apart: its number is new and untagged, and
failures stay below successes. -/
@[mk_iff] structure Orderly (world : ProgramWorld A) (programId : String)
    (version : Int) (content : FileContent A) : Prop where
  own : ∀ held ∈ world.handed, dirFor held.programId = dirFor programId →
    held.programId = programId ∧
      (held.version = version → held.content = content)
  nonzero : version ≠ 0
  untagged : ∀ item ∈ world.index, dirFor item.1 = dirFor programId →
    ∀ tag ∈ item.2.tags, tag.2 = version → content.load?.isSome →
      world.tagged item.1 tag.1 = some content
  layered : ∀ file ∈ world.files, file.dir = dirFor programId →
    file.content.load?.isSome ≠ content.load?.isSome →
      if content.load?.isSome then file.version < version
      else version < file.version

instance [DecidableEq A] (world : ProgramWorld A) (programId : String)
    (version : Int) (content : FileContent A) :
    Decidable (Orderly world programId version content) :=
  decidable_of_iff' _ (orderly_iff world programId version content)

/-- Every save of the run is orderly; deletes and tags are free. -/
def SavesApart (world : ProgramWorld A) : ProgramEvent A → Prop
  | .save programId version outcome =>
      Orderly world programId
        (ProgramStore.versionFor world.files programId version)
        (ProgramStore.contentOf programId outcome)
  | _ => True

instance [DecidableEq A] (world : ProgramWorld A) :
    ∀ event, Decidable (SavesApart world event)
  | .save .. => inferInstanceAs (Decidable (Orderly ..))
  | .delete .. | .recordVersion .. | .assignTag .. => isTrue trivial

/-- The files, the saves and the tags fit together. -/
structure ProgramWorld.Sound (world : ProgramWorld A) : Prop where
  nodup : (world.files.map ProgramFile.path).Nodup
  own : ∀ file ∈ world.files, ∃ held ∈ world.handed,
    dirFor held.programId = file.dir ∧ held.version = file.version ∧
      held.content = file.content
  apart : ∀ first ∈ world.handed, ∀ second ∈ world.handed,
    dirFor first.programId = dirFor second.programId →
      first.programId = second.programId ∧
        (first.version = second.version → first.content = second.content)
  nonzero : ∀ file ∈ world.files, file.version ≠ 0
  layered : ∀ file ∈ world.files, ∀ failed ∈ world.files,
    failed.dir = file.dir → file.content.load?.isSome →
      ¬failed.content.load?.isSome → failed.version < file.version
  tags : ∀ programId tag version content,
    (world.index.entry programId).tags.get? tag = some version →
      ProgramStore.read? world.files (dirFor programId) version =
        some content → content.load?.isSome →
      world.tagged programId tag = some content

namespace ProgramWorld

variable {world : ProgramWorld A}

theorem Sound.start : ({} : ProgramWorld A).Sound where
  nodup := List.nodup_nil
  own := List.forall_mem_nil _
  apart := List.forall_mem_nil _
  nonzero := List.forall_mem_nil _
  layered := List.forall_mem_nil _
  tags _ _ _ _ h := by cases h

theorem exists_item {programId tag : String} {version : Int}
    (h : (world.index.entry programId).tags.get? tag = some version) :
    ∃ entry, (programId, entry) ∈ world.index ∧
      (tag, version) ∈ entry.tags := by
  rw [ProgramIndex.entry] at h
  cases hentry : Dict.get? world.index programId with
  | none =>
      rw [hentry] at h
      cases h
  | some entry =>
      rw [hentry] at h
      exact ⟨entry, Dict.mem_of_get? hentry, Dict.mem_of_get? h⟩

theorem Sound.save {programId : String} {version : Option Int}
    {outcome : Except String A} (h : world.Sound)
    (horderly : Orderly world programId
      (ProgramStore.versionFor world.files programId version)
      (ProgramStore.contentOf programId outcome)) :
    (world.save programId version outcome).Sound := by
  have hfiles : ∀ file ∈ (world.save programId version outcome).files,
      file = ⟨dirFor programId,
        ProgramStore.versionFor world.files programId version,
        ProgramStore.contentOf programId outcome⟩ ∨ file ∈ world.files :=
    fun file hfile => ((Keyed.mem_put h.nodup).mp hfile).imp_right (·.1)
  have hhanded : ∀ held ∈ (world.save programId version outcome).handed,
      held ∈ world.handed ∨ held = ⟨programId,
        ProgramStore.versionFor world.files programId version,
        ProgramStore.contentOf programId outcome⟩ := fun held hheld =>
    (List.mem_append.mp hheld).imp_right List.mem_singleton.mp
  refine ⟨Keyed.nodup_put h.nodup, ?_, ?_, ?_, ?_, ?_⟩
  · intro file hfile
    rcases hfiles file hfile with rfl | hold
    · exact ⟨_, List.mem_append_right _ List.mem_cons_self, rfl, rfl, rfl⟩
    · obtain ⟨held, hheld, hown⟩ := h.own file hold
      exact ⟨held, List.mem_append_left _ hheld, hown⟩
  · intro first hfirst second hsecond hdir
    rcases hhanded first hfirst with hfirst | rfl
    · rcases hhanded second hsecond with hsecond | rfl
      · exact h.apart first hfirst second hsecond hdir
      · exact horderly.own first hfirst hdir
    · rcases hhanded second hsecond with hsecond | rfl
      · obtain ⟨hsame, hcontent⟩ := horderly.own second hsecond hdir.symm
        exact ⟨hsame.symm, fun hversion => (hcontent hversion.symm).symm⟩
      · exact ⟨rfl, fun _ => rfl⟩
  · intro file hfile
    rcases hfiles file hfile with rfl | hold
    · exact horderly.nonzero
    · exact h.nonzero file hold
  · intro file hfile failed hfailed hdir hsuccess hfailure
    rcases hfiles file hfile with rfl | hold
    · rcases hfiles failed hfailed with rfl | hother
      · exact absurd hsuccess hfailure
      · have hbelow := horderly.layered failed hother hdir
          (fun hsame => hfailure (hsame ▸ hsuccess))
        rwa [if_pos hsuccess] at hbelow
    · rcases hfiles failed hfailed with rfl | hother
      · have habove := horderly.layered file hold hdir.symm
          (fun hsame => hfailure (hsame ▸ hsuccess))
        rwa [if_neg hfailure] at habove
      · exact h.layered file hold failed hother hdir hsuccess hfailure
  · intro other tag named content htag hread hsuccess
    rw [ProgramWorld.save, ProgramStore.read?_save] at hread
    split at hread
    · next hpath =>
        cases hread
        obtain ⟨entry, hentry, hitem⟩ := exists_item htag
        exact horderly.untagged (other, entry) hentry hpath.1.symm
          (tag, named) hitem hpath.2.symm hsuccess
    · exact h.tags other tag named content htag hread hsuccess

theorem Sound.delete (h : world.Sound) (programId : String) (version : Int) :
    (world.delete programId version).Sound := by
  have hfiles : ∀ file ∈ (world.delete programId version).files,
      file ∈ world.files := by
    intro file hfile
    simp only [ProgramWorld.delete, ProgramStore.delete] at hfile
    split at hfile
    · exact (Keyed.mem_drop.mp hfile).1
    · exact hfile
  refine ⟨?_, fun file hfile => h.own file (hfiles file hfile), h.apart,
    fun file hfile => h.nonzero file (hfiles file hfile),
    fun file hfile failed hfailed =>
      h.layered file (hfiles file hfile) failed (hfiles failed hfailed), ?_⟩
  · simp only [ProgramWorld.delete, ProgramStore.delete]
    split
    · exact Keyed.nodup_drop h.nodup
    · exact h.nodup
  · intro other tag named content htag hread
    rw [ProgramWorld.delete, ProgramStore.read?_delete] at hread
    split at hread
    · cases hread
    · exact h.tags other tag named content htag hread

theorem Sound.retag {index : ProgramIndex} {programId : String}
    {version : Int} {names : List String} (h : world.Sound)
    (hindex : ∀ other tag, (index.entry other).tags.get? tag =
      if other = programId ∧ tag ∈ names then some version
      else (world.index.entry other).tags.get? tag) :
    { world with
      index
      tagged := world.retag programId version names }.Sound := by
  refine ⟨h.nodup, h.own, h.apart, h.nonzero, h.layered, ?_⟩
  intro other tag named content htag hread hsuccess
  rw [hindex] at htag
  change world.retag programId version names other tag = some content
  by_cases hput : other = programId ∧ tag ∈ names
  · rw [if_pos hput] at htag
    cases htag
    rw [ProgramWorld.retag, if_pos hput, ← hput.1]
    exact hread
  · rw [if_neg hput] at htag
    rw [ProgramWorld.retag, if_neg hput]
    exact h.tags other tag named content htag hread hsuccess

theorem Sound.step {event : ProgramEvent A} {next : ProgramWorld A}
    (h : world.Sound) (hapart : SavesApart world event)
    (hstep : programStep world event = some next) : next.Sound := by
  cases event <;> cases hstep
  case save => exact h.save hapart
  case delete => exact h.delete _ _
  case recordVersion =>
      exact h.retag fun _ _ => ProgramIndex.tags_recordVersion _ _ _
  case assignTag =>
      apply h.retag
      intro other tag
      simp [ProgramIndex.tags_assignTag]

theorem load?_eq_some {content : FileContent A} {program : A} :
    content.load? = some program ↔ content = .saved program := by
  cases content <;> simp [FileContent.load?]

theorem Sound.latest {programId : String} {version : Int} {program : A}
    (h : world.Sound) (hstored : world.Stored programId version program) :
    ∃ best program, world.Stored programId best program ∧
      (∀ other program, world.Stored programId other program →
        other ≤ best) ∧
      ProgramStore.load world.files programId none [] =
        some (program, best) := by
  obtain ⟨hheld, hread⟩ := hstored
  have hversions : ∀ {other} {content : FileContent A},
      ProgramStore.read? world.files (dirFor programId) other =
        some content →
      other ∈ ProgramStore.versionsIn world.files (dirFor programId) :=
    fun hread => ProgramStore.mem_versionsIn.mpr
      ⟨_, ProgramStore.mem_of_read? hread, rfl, rfl⟩
  obtain ⟨hlatest, hmax⟩ := ProgramStore.exists_latest (hversions hread)
  obtain ⟨file, hfile, hdir, hversion⟩ :=
    ProgramStore.mem_versionsIn.mp hlatest
  have hfound := ProgramStore.read?_of_mem h.nodup hfile
  rw [hdir, hversion] at hfound
  -- the highest file is no failure, which would stand below the success
  have hsuccess : file.content.load?.isSome := by
    by_contra hfailure
    have hbelow := h.layered _ (ProgramStore.mem_of_read? hread) file hfile
      hdir rfl hfailure
    exact absurd (hmax version (hversions hread))
      (not_le.mpr (hversion ▸ hbelow))
  obtain ⟨last, hlast⟩ := Option.isSome_iff_exists.mp hsuccess
  obtain ⟨held, hmem, hsame, hnumber, hcontent⟩ := h.own file hfile
  have hown := (h.apart held hmem _ hheld (hsame.trans hdir)).1
  refine ⟨_, last, ⟨?_, ?_⟩, fun other program hother =>
    hmax other (hversions hother.2), ?_⟩
  · obtain ⟨heldId, heldVersion, heldContent⟩ := held
    cases hown
    cases hnumber.trans hversion
    cases hcontent.trans (load?_eq_some.mp hlast)
    exact hmem
  · rw [hfound, load?_eq_some.mp hlast]
  · have hzero := h.nonzero file hfile
    rw [hversion] at hzero
    rw [ProgramStore.load_latest, if_neg hzero,
      ProgramStore.load_version hzero, hfound]
    simp [hlast]

theorem Sound.stable (h : world.Sound) : world.Stable := by
  refine ⟨?_, ?_, fun _ _ _ hstored => h.latest hstored⟩
  · intro first hfirst second hsecond hsame hversion
    have hdir : dirFor first.programId = dirFor second.programId := by
      rw [hsame]
    exact (h.apart first hfirst second hsecond hdir).2 hversion
  · intro programId tag version hresolve loaded hload
    obtain ⟨hzero, htag⟩ := ProgramIndex.resolveTag_eq_some hresolve
    rw [ProgramStore.load_version hzero] at hload
    obtain ⟨content, hread, hcontent⟩ := Option.bind_eq_some_iff.mp hload
    obtain ⟨program, hprogram, hloaded⟩ := Option.map_eq_some_iff.mp hcontent
    have hput := h.tags programId tag version content htag hread
      (by rw [hprogram]; rfl)
    rw [hput, load?_eq_some.mp hprogram, ← hloaded]

end ProgramWorld

/-- While every save is orderly, version numbers, tags and the latest are
stable. -/
theorem versions_stable (events : List (ProgramEvent A))
    (world : ProgramWorld A)
    (h : Throughout programStep SavesApart ({} : ProgramWorld A) events)
    (hrun : follow programStep ({} : ProgramWorld A) events = some world) :
    world.Stable :=
  (follow_invariant (fun _ _ _ => ProgramWorld.Sound.step)
    ProgramWorld.Sound.start h hrun).stable

namespace VersionsWitness

def worldAfter (events : List (ProgramEvent Nat)) : ProgramWorld Nat :=
  (follow programStep {} events).getD {}

theorem follow_worldAfter (events : List (ProgramEvent Nat)) :
    follow programStep {} events = some (worldAfter events) := by
  have hstep : ∀ (world : ProgramWorld Nat) event,
      ∃ next, programStep world event = some next := by
    intro world event
    cases event <;> exact ⟨_, rfl⟩
  obtain ⟨next, hnext⟩ := exists_follow hstep {} events
  rw [worldAfter, hnext]
  rfl

def reused : List (ProgramEvent Nat) :=
  [.save "router" none (.ok 10),
    .recordVersion "router" { version := 1 } ["production"],
    .delete "router" 1,
    .save "router" none (.ok 20)]

def failedLast : List (ProgramEvent Nat) :=
  [.save "router" none (.ok 10), .save "router" none (.error "disk full")]

/-- A deleted number comes back, and a failed save hides the success below
it. -/
theorem reused_and_hidden :
    ¬(worldAfter reused).Stable ∧ ¬(worldAfter failedLast).Stable := by
  constructor
  · intro h
    have hload : ProgramStore.load (worldAfter reused).files "router"
        (some 1) [] = some (20, 1) := by
      decide +kernel
    have htag := h.tags "router" "production" 1 (by decide +kernel) _ hload
    revert htag
    decide +kernel
  · intro h
    obtain ⟨best, program, _, _, hload⟩ := h.latest "router" 1 10
      (by unfold ProgramWorld.Stored; decide +kernel)
    have hnone : ProgramStore.load (worldAfter failedLast).files "router"
        none [] = none := by
      decide +kernel
    rw [hnone] at hload
    cases hload

def orderly : List (ProgramEvent Nat) :=
  [.save "docs/summary" none (.error "no model"),
    .save "docs/summary" none (.ok 10),
    .recordVersion "docs/summary" { version := 2 } ["candidate"],
    .save "docs/summary" none (.ok 20),
    .save "router" (some 7) (.ok 30),
    .assignTag "docs/summary" "production" 3,
    .delete "docs/summary" 2]

theorem orderly_stable : (worldAfter orderly).Stable :=
  versions_stable orderly _ (by decide +kernel) (follow_worldAfter orderly)

end VersionsWitness

end Voly.Dspy
