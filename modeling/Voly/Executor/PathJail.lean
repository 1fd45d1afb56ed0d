/-
The patch applier on a file tree with symbolic links: when all it touches is
below the working directory.
-/
import Voly.Executor.Patch
import Voly.Files.Access

namespace Voly.Patch

open Python Scan Files

/-- A file tree, the files written and the directories made. -/
structure World where
  files : FileSystem
  touched : List Path

inductive Access where
  | read
  | make
  | write
deriving DecidableEq

/-- The resolved working directory, and how the operating system refuses paths.
-/
structure Host where
  cwd : Path
  refuses : Access → FileSystem → List Char → Bool := fun _ _ _ => false
  missing : FileSystem → List Char → Bool := fun _ _ => true
  message : List Char → List Char := id

namespace Host

variable (host : Host)

def fileRead (files : FileSystem) (full : List Char) :
    Option (Path × Option String) :=
  if host.refuses .read files full then none
  else
    match files.stat (components full) with
    | some place =>
        match files.node? place with
        | some (.file content) => some (place, content)
        | _ => none
    | none => none

def directoriesMade (files : FileSystem) (dir : List Char) :
    FileSystem × List Path × Bool :=
  if host.refuses .make files dir then (files, [], false)
  else files.makedirs (components dir)

def fileWritten (files : FileSystem) (full content : List Char) :
    Option (FileSystem × Path) :=
  if host.refuses .write files full then none
  else files.writeText (components full) (String.ofList content)

def disk : Disk World where
  cwd := pathText host.cwd
  realpath w text := w.files.realpathText text
  read w full :=
    match host.fileRead w.files full with
    | some (_, some content) => .text content.toList
    | some (_, none) => .raises (host.message full)
    | none =>
        if host.missing w.files full then .missing
        else .raises (host.message full)
  isPresent w full := (w.files.stat (components full)).isSome
  makedirs w dir :=
    let made := host.directoriesMade w.files dir
    (⟨made.1, w.touched ++ made.2.1⟩,
      if made.2.2 then none else some (host.message dir))
  write w full content :=
    match host.fileWritten w.files full content with
    | some (files, place) => (⟨files, w.touched ++ [place]⟩, none)
    | none => (w, some (host.message full))

end Host

def sectionPath (diffText : List Char) : Option (List Char) :=
  match searchLines diffHeader true diffText,
      searchLines diffPlus true diffText with
  | some _, some plus => some (stripped plus)
  | _, _ => none

def pathsRead {S : Type} (disk : Disk S) (s : S) :
    List (List Char) → List (List Char)
  | [] => []
  | text :: rest =>
      (sectionPath text).toList ++
        match sectionBlock disk s text with
        | .ok _ => pathsRead disk s rest
        | .error _ => []

namespace Host

variable (host : Host)

def placeRead (files : FileSystem) (path : List Char) : Option Path :=
  match resolveSafePath host.disk ⟨files, []⟩ path with
  | .ok full => (host.fileRead files full).map Prod.fst
  | .error _ => none

def asksToRead (files : FileSystem) (response : List Char) :
    List (List Char) :=
  if extractFileBlocks response = [] then
    pathsRead host.disk ⟨files, []⟩ (piecesAfter "diff --git" response)
  else []

def reads (files : FileSystem) (response : List Char) : List Path :=
  (host.asksToRead files response).filterMap (host.placeRead files)

/-- The files that are written and the directories that are made for an
answer. -/
def writes (files : FileSystem) (response : List Char) : List Path :=
  match apply host.disk ⟨files, []⟩ response with
  | .ok (after, _) => after.touched
  | .error _ => []

/-- The working directory is a directory without links on the way to it. -/
structure Rooted (files : FileSystem) : Prop where
  clean : files.Clean host.cwd
  dir : files.node? host.cwd = some .dir

def Inside (places : List Path) : Prop := ∀ place ∈ places, host.cwd <+: place

/-- The text that is resolved for a path. -/
def asked (path : List Char) : List Char :=
  joinPath (pathText host.cwd) (relative path)

/-- A link is met within itself on the way of a path. -/
def Loops (files : FileSystem) (path : List Char) : Prop :=
  ∃ text, files.resolveText (host.asked path) = .stuck text

variable {host} {files : FileSystem}

theorem Rooted.grows {after : FileSystem} (h : host.Rooted files)
    (hgrows : files.Grows after) : host.Rooted after where
  clean := ⟨hgrows.resolved h.clean.1, h.clean.2⟩
  dir := hgrows.dirs _ h.dir

theorem accepted_inside {w : World} {path full : List Char} {p : Path}
    (hroot : host.Rooted w.files)
    (hdone : w.files.resolveText (host.asked path) = .done p)
    (hfull : resolveSafePath host.disk w path = .ok full) :
    full = pathText p ∧ host.cwd <+: p := by
  have hreal : w.files.realpathText (host.asked path) = pathText p := by
    rw [FileSystem.realpathText, hdone]
  have hdisk : host.disk.realpath w
      (joinPath host.disk.cwd (relative path)) = pathText p := hreal
  have hp := (FileSystem.resolveText_clean hdone).2
  rw [resolveSafePath, hdisk] at hfull
  split at hfull
  · cases hfull
  · next hcheck =>
      cases hfull
      refine ⟨rfl, ?_⟩
      rcases not_and_or.mp hcheck with hbelow | hsame
      · obtain ⟨rest, hrest⟩ := not_not.mp hbelow
        have hrest : pathText host.cwd ++ '/' :: rest = pathText p := by
          rw [← hrest, List.append_assoc]
          rfl
        have hparts := congrArg components hrest
        rw [components_slash, components_pathText hroot.clean.2,
          components_pathText hp] at hparts
        rw [← hparts]
        exact List.prefix_append _ _
      · have hparts := congrArg components (not_not.mp hsame)
        rw [components_pathText hp] at hparts
        rw [hparts]
        exact (components_pathText hroot.clean.2).symm ▸ List.prefix_refl _

theorem placeRead_inside {path : List Char} {p place : Path}
    (hroot : host.Rooted files)
    (hdone : files.resolveText (host.asked path) = .done p)
    (hplace : host.placeRead files path = some place) :
    host.cwd <+: place := by
  have hclean := FileSystem.resolveText_clean hdone
  unfold placeRead at hplace
  split at hplace
  · next full hfull =>
      obtain ⟨rfl, hinside⟩ := accepted_inside hroot hdone hfull
      unfold fileRead at hplace
      rw [components_pathText hclean.2] at hplace
      split at hplace
      · cases hplace
      · split at hplace
        · next found hfound =>
            rw [FileSystem.stat_resolved hclean.1 hfound] at hplace
            split at hplace
            · cases hplace
              exact hinside
            · cases hplace
        · cases hplace
  · cases hplace

theorem components_dirname {p : Path} (hp : Named p) :
    components (dirname (pathText p)) = p.dropLast := by
  have hhead : components (dirname (pathText p)) =
      components ((pathText p).rdropWhile (· ≠ '/')) := by
    unfold dirname
    dsimp only
    split
    · rfl
    · exact components_rdropWhile _
  rw [hhead]
  cases p using List.reverseRecOn with
  | nil => rfl
  | append_singleton front name =>
      obtain ⟨text, htext, hparts⟩ := pathText_snoc front name
      have hfront : Named front := fun other hmem =>
        hp other (List.mem_append_left _ hmem)
      have hslash : '/' ∉ name.toList := (hp name (by simp)).2.2.2
      have hname : ∀ c ∈ name.toList.reverse, decide (c ≠ '/') = true := by
        intro c hmem
        rw [List.mem_reverse] at hmem
        exact decide_eq_true fun heq => hslash (heq ▸ hmem)
      rw [htext, List.rdropWhile, List.reverse_append, List.reverse_cons,
        List.append_assoc, List.dropWhile_append_of_pos hname]
      have hstop : ['/'] ++ text.reverse = '/' :: text.reverse := rfl
      rw [hstop, List.dropWhile_cons_of_neg (by simp), List.reverse_cons,
        List.reverse_reverse, components_slash, components_nil,
        List.append_nil, hparts, components_pathText hfront,
        List.dropLast_concat]

theorem directoriesMade_inside {p : Path} {dir : List Char}
    (hroot : host.Rooted files) (hclean : files.Clean p)
    (hinside : host.cwd <+: p) (hdir : components dir = p.dropLast) :
    host.Inside (host.directoriesMade files dir).2.1 := by
  intro place hmem
  unfold directoriesMade at hmem
  split at hmem
  · cases hmem
  · rw [hdir, FileSystem.makedirs] at hmem
    have hresolved : files.Resolved p.dropLast.reverse.reverse := by
      rw [List.reverse_reverse]
      exact hclean.1.above (List.dropLast_prefix p)
    obtain ⟨hplace, hfree⟩ :=
      FileSystem.makedirsUp_resolved hresolved place hmem
    rw [List.reverse_reverse] at hplace
    have hplace := hplace.trans (List.dropLast_prefix p)
    rcases List.prefix_or_prefix_of_prefix hinside hplace with hbelow | habove
    · exact hbelow
    · exact absurd (FileSystem.node?_dir_above hroot.dir habove) hfree

theorem fileWritten_inside {p place : Path} {after : FileSystem}
    {content : List Char} (hclean : files.Clean p) (hinside : host.cwd <+: p)
    (hmade : host.fileWritten files (pathText p) content =
      some (after, place)) : host.cwd <+: place := by
  unfold fileWritten at hmade
  split at hmade
  · cases hmade
  · rw [components_pathText hclean.2] at hmade
    rw [FileSystem.writeText_resolved hclean.1 hmade]
    exact hinside

variable (host) in
/-- The directories and the file that a block is written to. -/
def placesMade (files : FileSystem) (block : List Char × List Char) :
    List Path :=
  match resolveSafePath host.disk ⟨files, []⟩ block.1 with
  | .ok full =>
      let made := host.directoriesMade files (dirname full)
      if made.2.2 then
        made.2.1 ++
          ((host.fileWritten made.1 full (written block.2)).map
            Prod.snd).toList
      else made.2.1
  | .error _ => []

theorem directoriesMade_grows (files : FileSystem) (dir : List Char) :
    files.Grows (host.directoriesMade files dir).1 := by
  unfold directoriesMade
  split
  · exact FileSystem.Grows.refl files
  · exact FileSystem.makedirsUp_grows files _

theorem fileWritten_grows {full content : List Char} {after : FileSystem}
    {place : Path}
    (hmade : host.fileWritten files full content = some (after, place)) :
    files.Grows after := by
  unfold fileWritten at hmade
  split at hmade
  · cases hmade
  · exact FileSystem.writeText_grows hmade

theorem applyBlock_state {S : Type} (disk : Disk S) (s : S)
    (result : PatchResult) (block : List Char × List Char) :
    (applyBlock disk (s, result) block).1 =
      (writeBlock disk s block.1 block.2).1 := by
  unfold applyBlock
  dsimp only
  split <;> rfl

theorem applyBlock_touches (w : World) (result : PatchResult)
    (block : List Char × List Char) :
    w.files.Grows (applyBlock host.disk (w, result) block).1.files ∧
      (applyBlock host.disk (w, result) block).1.touched =
        w.touched ++ host.placesMade w.files block := by
  have haccept : resolveSafePath host.disk ⟨w.files, []⟩ block.1 =
      resolveSafePath host.disk w block.1 := rfl
  rw [applyBlock_state, writeBlock, resolveSafePath_relative, placesMade,
    haccept]
  cases resolveSafePath host.disk w block.1 with
  | error message => exact ⟨FileSystem.Grows.refl _, by simp⟩
  | ok full =>
      have hgrows := @directoriesMade_grows host w.files (dirname full)
      cases hmade : host.directoriesMade w.files (dirname full) with
      | mk made rest =>
      cases rest with
      | mk places returned =>
      rw [hmade] at hgrows
      cases returned with
      | false => simpa [disk, hmade] using hgrows
      | true =>
          cases hwritten : host.fileWritten made full (written block.2) with
          | none => simpa [disk, hmade, hwritten] using hgrows
          | some saved =>
              have hafter := hgrows.trans (fileWritten_grows hwritten)
              simpa [disk, hmade, hwritten] using hafter

theorem placesMade_inside {block : List Char × List Char} {p : Path}
    (hroot : host.Rooted files)
    (hdone : files.resolveText (host.asked block.1) = .done p) :
    host.Inside (host.placesMade files block) := by
  have hclean := FileSystem.resolveText_clean hdone
  unfold placesMade
  split
  · next full hfull =>
      obtain ⟨rfl, hinside⟩ := accepted_inside hroot hdone hfull
      have hdirs := directoriesMade_inside hroot hclean hinside
        (components_dirname hclean.2)
      dsimp only
      split
      · intro place hmem
        rcases List.mem_append.mp hmem with hmem | hmem
        · exact hdirs place hmem
        · rw [Option.mem_toList] at hmem
          obtain ⟨saved, hsaved, rfl⟩ := Option.map_eq_some_iff.mp hmem
          have hgrows := @directoriesMade_grows host files
            (dirname (pathText p))
          exact fileWritten_inside ⟨hgrows.resolved hclean.1, hclean.2⟩
            hinside hsaved
      · exact hdirs
  · exact fun _ hmem => nomatch hmem

variable (host) in
/-- A path that meets a loop of links is refused, or leads inside. -/
def ReadsConfined (files : FileSystem) (response : List Char) : Prop :=
  ∀ path ∈ host.asksToRead files response, host.Loops files path →
    host.Inside (host.placeRead files path).toList

variable (host) in
/-- The same of each block, when it is reached. -/
def WritesConfined : World → List (List Char × List Char) → Prop
  | _, [] => True
  | w, block :: rest =>
      (host.Loops w.files block.1 →
        host.Inside (host.placesMade w.files block)) ∧
      WritesConfined (writeBlock host.disk w block.1 block.2).1 rest

theorem inside_append {first second : List Path} :
    host.Inside (first ++ second) ↔
      host.Inside first ∧ host.Inside second := by
  simp only [Inside, List.mem_append]
  exact ⟨fun h => ⟨fun place hmem => h place (.inl hmem),
    fun place hmem => h place (.inr hmem)⟩,
    fun h place hmem => hmem.elim (h.1 place) (h.2 place)⟩

theorem reads_inside_iff (hroot : host.Rooted files) (response : List Char) :
    host.Inside (host.reads files response) ↔
      host.ReadsConfined files response := by
  constructor
  · intro h path hpath _ place hplace
    exact h place (List.mem_filterMap.mpr
      ⟨path, hpath, Option.mem_toList.mp hplace⟩)
  · intro h place hmem
    obtain ⟨path, hpath, hplace⟩ := List.mem_filterMap.mp hmem
    cases hreal : files.resolveText (host.asked path) with
    | done p => exact placeRead_inside hroot hreal hplace
    | stuck text =>
        exact h path hpath ⟨text, hreal⟩ place (Option.mem_toList.mpr hplace)

theorem placesMade_inside_iff (hroot : host.Rooted files)
    (block : List Char × List Char) :
    host.Inside (host.placesMade files block) ↔
      (host.Loops files block.1 →
        host.Inside (host.placesMade files block)) := by
  constructor
  · exact fun h _ => h
  · intro h
    cases hreal : files.resolveText (host.asked block.1) with
    | done p => exact placesMade_inside hroot hreal
    | stuck text => exact h ⟨text, hreal⟩

theorem blocks_inside_iff (blocks : List (List Char × List Char)) (w : World)
    (result : PatchResult) (hroot : host.Rooted w.files) :
    host.Inside (blocks.foldl (applyBlock host.disk) (w, result)).1.touched ↔
      host.Inside w.touched ∧ host.WritesConfined w blocks := by
  induction blocks generalizing w result with
  | nil => simp [WritesConfined]
  | cons block rest ih =>
      obtain ⟨hgrows, htouched⟩ := applyBlock_touches w result block
      have hrest := ih _ (applyBlock host.disk (w, result) block).2
        (hroot.grows hgrows)
      rw [List.foldl_cons, WritesConfined, ← placesMade_inside_iff hroot,
        ← and_assoc, ← inside_append, ← htouched,
        ← applyBlock_state host.disk w result]
      exact hrest

/-- An answer stays below the working directory unless a path meets a loop of
links and leads elsewhere. -/
theorem jailed_iff (hroot : host.Rooted files) (response : List Char) :
    host.Inside (host.reads files response ++ host.writes files response) ↔
      host.ReadsConfined files response ∧
      ∀ blocks, extractBlocks host.disk ⟨files, []⟩ response = .ok blocks →
        host.WritesConfined ⟨files, []⟩ blocks := by
  have hnone : host.Inside [] := fun _ hmem => nomatch hmem
  rw [inside_append, reads_inside_iff hroot]
  apply and_congr_right
  intro _
  unfold writes apply
  cases hblocks : extractBlocks host.disk ⟨files, []⟩ response with
  | error message =>
      exact iff_of_true hnone fun _ heq => nomatch heq
  | ok blocks =>
      have hrun := blocks_inside_iff blocks ⟨files, []⟩ {} hroot
      rw [and_iff_right hnone] at hrun
      have hunique : (∀ others, Except.ok (ε := List Char) blocks = .ok others →
          host.WritesConfined ⟨files, []⟩ others) ↔
          host.WritesConfined ⟨files, []⟩ blocks :=
        ⟨fun h => h blocks rfl, fun h _ heq => Except.ok.inj heq ▸ h⟩
      rw [hunique]
      by_cases hempty : blocks = []
      · rw [hempty]
        exact iff_of_true hnone trivial
      · simpa [hempty, bind, Except.bind, pure, Except.pure] using hrun

end Host

namespace JailWitness

def tree : FileSystem where
  entries :=
    [(["out"], .dir), (["w"], .dir), (["w", "evil"], .link "/out"),
      (["w", "loop"], .link "loop")]
  nodup := by decide
  ordinary := by decide
  below := by decide

def host : Host := { cwd := ["w"] }

def answer (path : String) : List Char :=
  "### FILE: ".toList ++ path.toList ++ "\n```\nhi\n```\n".toList

theorem rooted : host.Rooted tree where
  clean := by
    have hentry : (["w"], Node.dir) ∈ tree.entries := by decide
    refine ⟨FileSystem.resolved_of_mem hentry nofun, ?_⟩
    intro name hmem
    rw [List.mem_singleton.mp hmem]
    decide +kernel
  dir := by decide

theorem not_loops {files : FileSystem} {path : List Char} {p : Path}
    (h : files.resolveText (host.asked path) = .done p) :
    ¬ host.Loops files path := by
  rintro ⟨text, hstuck⟩
  rw [h] at hstuck
  cases hstuck

/-- The link is refused, and new directories are made. -/
theorem ordinary_inside :
    host.Inside (host.reads tree (answer "evil/x" ++ answer "new/x") ++
      host.writes tree (answer "evil/x" ++ answer "new/x")) := by
  apply (Host.jailed_iff rooted _).mpr
  constructor
  · have hnone : host.asksToRead tree (answer "evil/x" ++ answer "new/x") =
        [] := by decide +kernel
    intro path hmem
    rw [hnone] at hmem
    cases hmem
  · have hextract : extractBlocks host.disk ⟨tree, []⟩
        (answer "evil/x" ++ answer "new/x") =
        .ok [("evil/x".toList, "hi\n".toList),
          ("new/x".toList, "hi\n".toList)] := by rfl
    intro blocks hblocks
    rw [hextract] at hblocks
    cases hblocks
    have hevil : tree.resolveText (host.asked "evil/x".toList) =
        .done ["out", "x"] := by decide +kernel
    have hnew : (writeBlock host.disk ⟨tree, []⟩ "evil/x".toList
        "hi\n".toList).1.files.resolveText (host.asked "new/x".toList) =
        .done ["w", "new", "x"] := by decide +kernel
    exact ⟨fun h => absurd h (not_loops hevil),
      fun h => absurd h (not_loops hnew), trivial⟩

/-- After the loop the rest of the path is taken as it is, with its link. -/
theorem loop_escapes :
    host.Rooted tree ∧
      host.writes tree (answer "loop/../evil/x") = [["out", "x"]] ∧
      ¬ host.Inside (host.reads tree (answer "loop/../evil/x") ++
        host.writes tree (answer "loop/../evil/x")) := by
  have hwrites : host.writes tree (answer "loop/../evil/x") =
      [["out", "x"]] := by decide +kernel
  refine ⟨rooted, hwrites, fun h => ?_⟩
  rw [hwrites] at h
  have hbelow := h ["out", "x"] (by simp)
  revert hbelow
  decide

end JailWitness

end Voly.Patch
