/-
File blocks: how an answer writes files, and what the files hold when it was
applied.
-/
import Mathlib.Data.List.Infix
import Voly.Executor.Patch

namespace Voly.Patch

open Python Scan

structure FileBlock where
  path : List Char
  lang : List Char
  content : List Char
deriving DecidableEq

/-- The closing fence stands on a line of its own. -/
def ended (content : List Char) : List Char :=
  if content = [] ∨ content.getLast? = some '\n' then content
  else content ++ ['\n']

def headerMark : List Char :=
  ['#', '#', '#', ' ', 'F', 'I', 'L', 'E', ':', ' ']

namespace FileBlock

/-- What follows the path of a block. -/
def body (block : FileBlock) : List Char :=
  '\n' :: (backticks ++ (block.lang ++ '\n' ::
    (ended block.content ++ (backticks ++ ['\n']))))

def render (block : FileBlock) : List Char :=
  headerMark ++ (block.path ++ block.body)

end FileBlock

def renderBlocks (blocks : List FileBlock) : List Char :=
  blocks.flatMap FileBlock.render

/-- The beginning of a file header, up to the name. -/
def fileMark : Pattern Unit := fun s =>
  lit ['#'] (fun s => upTo (· == '#') (some1 isSpace <|
    litBy sameLetter "FILE:".toList fun _ => some ()) 3 s) s <|>
  opt stars (litBy sameLetter "File:".toList fun _ => some ()) s

/-- No blanks in the path, a one-line language, no fence, no file header. -/
structure FileBlock.Proper (block : FileBlock) : Prop where
  path_ne : block.path ≠ []
  path : ∀ c ∈ block.path, isSpace c = false
  lang : '\n' ∉ block.lang
  fence : ¬backticks <:+: block.content
  mark : searchLines fileMark true (ended block.content) = none

theorem fileHeader_within (tail : List Char) :
    Within ('`' :: tail) fileHeader fileMark := by
  have hend {k : Pattern (List Char × List Char)} :
      Within ('`' :: tail) k (fun _ => some ()) := fun _ _ => rfl
  have hword {w : List Char} (hw : ∀ a ∈ w, sameLetter a '`' = false)
      {k : Pattern (List Char × List Char)} :
      Within ('`' :: tail) (litBy sameLetter w k)
        (litBy sameLetter w fun _ => some ()) := hend.litBy hw
  apply Within.orElse
  · apply Within.litBy (by decide)
    exact ((hword (by decide)).some1 rfl).upTo rfl 3
  · apply Within.orElse
    · apply Within.litBy (by decide)
      exact (hword (by decide)).upTo rfl 1
    · exact hword (by decide)

theorem ended_cases (content : List Char) :
    ended content = [] ∨ ∃ text, ended content = text ++ ['\n'] := by
  unfold ended
  split
  · next h =>
      rcases h with h | h
      · exact Or.inl h
      · right
        exact ⟨content.dropLast, (List.dropLast_append_getLast? _ h).symm⟩
  · exact Or.inr ⟨content, rfl⟩

theorem foldl_ended (content : List Char) :
    (ended content).foldl (fun _ c => c == '\n') true = true := by
  rcases ended_cases content with h | ⟨text, h⟩
  · rw [h]
    rfl
  · rw [h, List.foldl_append]
    rfl

theorem fileHeader_path {path : List Char} (hne : path ≠ [])
    (hpath : ∀ c ∈ path, isSpace c = false) (tail : List Char) :
    fileHeader (headerMark ++ (path ++ '\n' :: '`' :: tail)) =
      some (path, '\n' :: '`' :: tail) := by
  obtain ⟨c, rest, rfl⟩ := List.exists_cons_of_ne_nil hne
  have hc : isSpace c = false := hpath c List.mem_cons_self
  have hfeed (d : Char) (hd : d ∈ c :: rest) : d ≠ '\n' := by
    rintro rfl
    exact absurd (hpath _ hd) (by decide)
  have hname : headerName (c :: (rest ++ '\n' :: '`' :: tail)) =
      some (c :: rest, '\n' :: '`' :: tail) := by
    apply many_of_some
    rw [List.dropWhile_cons_of_neg (by simp [hc]), lazy1,
      if_pos (by simpa [notFeed] using hfeed c List.mem_cons_self)]
    apply lazyFrom_of_some
    · intro d hd
      simpa [notFeed] using hfeed d (List.mem_cons_of_mem c hd)
    · intro got v hv hvne
      obtain ⟨d, v, rfl⟩ := List.exists_cons_of_ne_nil hvne
      have hd : d ∈ c :: rest :=
        List.mem_cons_of_mem c (hv.subset List.mem_cons_self)
      rw [List.cons_append, many, if_neg (by simp [hpath d hd]), lineEnd,
        if_neg (hfeed d hd)]
    · rfl
  have hsame : ∀ c, sameLetter c c = true := fun c => by simp [sameLetter]
  have hword := litBy_self hsame "FILE:".toList
    (' ' :: c :: (rest ++ '\n' :: '`' :: tail)) (many isSpace headerName)
  have hshape : headerMark ++ (c :: rest ++ '\n' :: '`' :: tail) =
      '#' :: '#' :: '#' :: ' ' :: ("FILE:".toList ++
        ' ' :: c :: (rest ++ '\n' :: '`' :: tail)) := rfl
  have hhash : hashHeader (headerMark ++ (c :: rest ++ '\n' :: '`' :: tail)) =
      some (c :: rest, '\n' :: '`' :: tail) := by
    rw [hshape, hashHeader, lit_cons]
    apply upTo_cons_of_some rfl
    apply upTo_cons_of_some rfl
    rw [upTo_cons_of_false rfl]
    apply some1_of_some rfl
    refine hword.trans (many_of_some ?_)
    rw [List.dropWhile_cons_of_pos rfl,
      List.dropWhile_cons_of_neg (by simp [hc]), hname]
  rw [fileHeader, hhash]
  rfl

theorem no_fence_within {content v tail : List Char}
    (h : ¬backticks <:+: content) (hv : v <:+ ended content) (hne : v ≠ []) :
    ¬backticks <+: v ++ tail := by
  intro hprefix
  have hfeed : '\n' ∉ backticks := by decide
  rcases ended_cases content with hnil | ⟨text, htext⟩
  · rw [hnil, List.suffix_nil] at hv
    exact hne hv
  · rw [htext, List.suffix_concat_iff] at hv
    rcases hv with hnil | ⟨u, rfl, hu⟩
    · exact hne hnil
    · rw [List.append_assoc] at hprefix
      by_cases hle : backticks.length ≤ u.length
      · have hmarks : backticks <+: u :=
          List.prefix_of_prefix_length_le hprefix (List.prefix_append u _) hle
        have hinfix : backticks <:+: text := hmarks.isInfix.trans hu.isInfix
        apply h
        unfold ended at htext
        split at htext
        · rw [htext]
          exact hinfix.trans (List.prefix_append _ _).isInfix
        · rwa [(List.append_inj' htext rfl).1]
      · have hmarks : u ++ ['\n'] <+: backticks := by
          apply List.prefix_of_prefix_length_le _ hprefix
          · rw [List.length_append, List.length_singleton]
            omega
          · rw [← List.append_assoc]
            exact List.prefix_append _ _
        exact hfeed (hmarks.subset (by simp))

namespace FileBlock.Proper

variable {block : FileBlock} (h : block.Proper)

include h

theorem codeFence_body :
    search codeFence block.body = some (ended block.content) := by
  have hlang : ∀ c ∈ block.lang, notFeed c = true := by
    intro c hc
    have hne : c ≠ '\n' := fun heq => h.lang (heq ▸ hc)
    simpa [notFeed] using hne
  have hfence : codeFence (backticks ++ (block.lang ++ '\n' ::
      (ended block.content ++ (backticks ++ ['\n'])))) =
        some (ended block.content) := by
    rw [codeFence, lit_append]
    apply many_of_some
    rw [List.dropWhile_append_of_pos hlang,
      List.dropWhile_cons_of_neg (by decide), lit_cons]
    apply lazyFrom_of_some
    · exact fun _ _ => rfl
    · intro got v hv hne
      exact lit_of_not_prefix (no_fence_within h.fence hv hne) _
    · rw [lit_append]
      rfl
  have hsearch := search_of_some hfence
  rw [body, search, hsearch]
  rfl

theorem split_block {rest : List Char} {parts : List (List Char × List Char)}
    (hrest : splitFrom fileHeader 0 true rest = ([], parts)) :
    splitFrom fileHeader 0 true (block.render ++ rest) =
      ([], (block.path, block.body) :: parts) := by
  have hlang : '\n' ∉ backticks ++ block.lang := by
    intro hmem
    rcases List.mem_append.mp hmem with hmem | hmem
    · exact absurd hmem (by decide)
    · exact h.lang hmem
  have hpath : '\n' ∉ headerMark ++ block.path := by
    intro hmem
    rcases List.mem_append.mp hmem with hmem | hmem
    · exact absurd hmem (by decide)
    · exact absurd (h.path _ hmem) (by decide)
  have hclose : splitFrom fileHeader 0 true (backticks ++ '\n' :: rest) =
      onto (backticks ++ ['\n']) ([], parts) := by
    rw [splitFrom_line (by decide) rfl, hrest]
  have hcontent : splitFrom fileHeader 0 true
      (ended block.content ++ (backticks ++ '\n' :: rest)) =
        onto (ended block.content)
          (onto (backticks ++ ['\n']) ([], parts)) := by
    rw [← hclose]
    have hwithin := splitFrom_within
      (fileHeader_within ('`' :: '`' :: '\n' :: rest)) h.mark
    rw [foldl_ended] at hwithin
    exact hwithin
  have hbody : block.body ++ rest = [] ++ '\n' :: (backticks ++ block.lang ++
      '\n' :: (ended block.content ++ (backticks ++ '\n' :: rest))) := by
    simp [body]
  have hinner : splitFrom fileHeader 0 false (block.body ++ rest) =
      onto block.body ([], parts) := by
    rw [hbody, splitFrom_inner List.not_mem_nil, splitFrom_line hlang rfl,
      hcontent]
    simp [onto, body]
  have hheader : fileHeader
      (headerMark ++ block.path ++ (block.body ++ rest)) =
        some (block.path, block.body ++ rest) := by
    rw [hbody, List.append_assoc]
    exact fileHeader_path h.path_ne h.path _
  rw [render, ← List.append_assoc, List.append_assoc,
    splitFrom_match (by simp [headerMark]) hpath hheader, hinner]
  simp

end FileBlock.Proper

theorem split_renderBlocks {blocks : List FileBlock}
    (h : ∀ block ∈ blocks, block.Proper) :
    splitFrom fileHeader 0 true (renderBlocks blocks) =
      ([], blocks.map fun block => (block.path, block.body)) := by
  induction blocks with
  | nil => rfl
  | cons block blocks ih =>
      have hrest := ih fun other hmem => h other (List.mem_cons_of_mem _ hmem)
      exact (h block List.mem_cons_self).split_block hrest

theorem stripped_path {path : List Char} (h : ∀ c ∈ path, isSpace c = false) :
    stripped path = path := by
  have hdrop : path.dropWhile isSpace = path := by
    cases path with
    | nil => rfl
    | cons c path =>
        have hc := h c List.mem_cons_self
        rw [List.dropWhile_cons_of_neg (by simp [hc])]
  rw [stripped, hdrop]
  apply List.rdropWhile_eq_self_iff.mpr
  intro hne hspace
  rw [h _ (List.getLast_mem hne)] at hspace
  cases hspace

theorem extract_renderBlocks {blocks : List FileBlock}
    (h : ∀ block ∈ blocks, block.Proper) :
    extractFileBlocks (renderBlocks blocks) =
      blocks.map fun block => (block.path, ended block.content) := by
  rw [extractFileBlocks, split, split_renderBlocks h, List.filterMap_map]
  induction blocks with
  | nil => rfl
  | cons block blocks ih =>
      have hblock := h block List.mem_cons_self
      have hpath := stripped_path hblock.path
      have hrest := ih fun other hmem => h other (List.mem_cons_of_mem _ hmem)
      rw [List.map_cons, ← hrest]
      simp [hblock.codeFence_body, hpath]

/-- A written file holds its text, others keep theirs, and paths lead as before.
-/
structure Disk.Stores {S : Type} (disk : Disk S) : Prop where
  read_write : ∀ {s full content after},
    disk.write s full content = (after, none) →
      disk.read after full = .text content
  read_other : ∀ {s full content after other text},
    disk.write s full content = (after, none) → other ≠ full →
      disk.read s other = .text text → disk.read after other = .text text
  read_makedirs : ∀ {s dir after other text},
    disk.makedirs s dir = (after, none) →
      disk.read s other = .text text → disk.read after other = .text text
  realpath_write : ∀ {s full content after} (path : List Char),
    disk.write s full content = (after, none) →
      disk.realpath after path = disk.realpath s path
  realpath_makedirs : ∀ {s dir after} (path : List Char),
    disk.makedirs s dir = (after, none) →
      disk.realpath after path = disk.realpath s path

section Applied

variable {S : Type} {disk : Disk S} (hstores : disk.Stores) {s after : S}

theorem resolveSafePath_congr
    (h : ∀ path, disk.realpath after path = disk.realpath s path)
    (path : List Char) :
    resolveSafePath disk after path = resolveSafePath disk s path := by
  simp only [resolveSafePath, h]

include hstores

theorem writeBlock_ok {path content : List Char} {file : AppliedFile}
    (h : writeBlock disk s path content = (after, .ok file)) :
    ∃ full, resolveSafePath disk s path = .ok full ∧
      disk.read after full = .text (written content) ∧
      (∀ other text, other ≠ full → disk.read s other = .text text →
        disk.read after other = .text text) ∧
      ∀ path, disk.realpath after path = disk.realpath s path := by
  unfold writeBlock at h
  simp only [resolveSafePath_relative] at h
  cases hfull : resolveSafePath disk s path with
  | error _ =>
      rw [hfull] at h
      cases h
  | ok full =>
      rw [hfull] at h
      simp only at h
      split at h
      · cases h
      · next made hmade =>
          split at h
          · cases h
          · next saved hsaved =>
              cases h
              refine ⟨full, rfl, hstores.read_write hsaved, ?_, ?_⟩
              · intro other text hne hread
                exact hstores.read_other hsaved hne
                  (hstores.read_makedirs hmade hread)
              · intro path
                rw [hstores.realpath_write path hsaved,
                  hstores.realpath_makedirs path hmade]

omit hstores in
theorem errors_foldl (blocks : List (List Char × List Char))
    (state : S × PatchResult) :
    state.2.errors <+: (blocks.foldl (applyBlock disk) state).2.errors := by
  induction blocks generalizing state with
  | nil => exact List.prefix_refl _
  | cons block blocks ih =>
      refine List.IsPrefix.trans ?_ (ih (applyBlock disk state block))
      unfold applyBlock
      split
      split
      · exact List.prefix_append _ _
      · exact List.prefix_refl _

theorem foldl_applyBlock {blocks : List (List Char × List Char)}
    {result : PatchResult}
    (hnone : (blocks.foldl (applyBlock disk) (s, result)).2.errors = [])
    (hplaces : (blocks.map fun block =>
      resolveSafePath disk s block.1).Nodup) :
    (∀ block ∈ blocks, ∃ full, resolveSafePath disk s block.1 = .ok full ∧
      disk.read (blocks.foldl (applyBlock disk) (s, result)).1 full =
        .text (written block.2)) ∧
      ∀ other text, (∀ block ∈ blocks,
          resolveSafePath disk s block.1 ≠ .ok other) →
        disk.read s other = .text text →
          disk.read (blocks.foldl (applyBlock disk) (s, result)).1 other =
            .text text := by
  induction blocks generalizing s result with
  | nil => exact ⟨fun _ hmem => (nomatch hmem), fun _ _ _ hread => hread⟩
  | cons block blocks ih =>
      rw [List.foldl_cons] at hnone ⊢
      rw [List.map_cons, List.nodup_cons] at hplaces
      have hgrow := @errors_foldl S disk blocks
        (applyBlock disk (s, result) block)
      rw [hnone, List.prefix_nil] at hgrow
      cases hwrite : writeBlock disk s block.1 block.2 with
      | mk mid outcome =>
      cases outcome with
      | error error =>
          simp only [applyBlock, hwrite] at hgrow
          exact absurd hgrow (by simp)
      | ok file =>
          have hstep : applyBlock disk (s, result) block =
              (mid, { result with applied := result.applied ++ [file] }) := by
            simp only [applyBlock, hwrite]
          obtain ⟨full, hfull, hread, hkeep, hpath⟩ :=
            writeBlock_ok hstores hwrite
          have hresolve := resolveSafePath_congr hpath
          rw [hstep] at hnone ⊢
          have hothers := hplaces.2
          simp only [← hresolve] at hothers
          obtain ⟨hwritten, hframe⟩ := ih hnone hothers
          simp only [hresolve] at hwritten hframe
          constructor
          · intro other hmem
            rcases List.mem_cons.mp hmem with rfl | hmem
            · refine ⟨full, hfull, hframe full _ ?_ hread⟩
              intro b hb hsame
              apply hplaces.1
              rw [hfull, ← hsame]
              exact List.mem_map_of_mem hb
            · exact hwritten other hmem
          · intro other text hne hbefore
            apply hframe other text
            · exact fun b hb => hne b (List.mem_cons_of_mem _ hb)
            · apply hkeep other text _ hbefore
              rintro rfl
              exact hne block List.mem_cons_self hfull

theorem foldl_applyBlock_works {blocks : List (List Char × List Char)}
    (hworks : disk.Works) {result : PatchResult}
    (hinside : ∀ block ∈ blocks, ∃ full,
      resolveSafePath disk s block.1 = .ok full) :
    (blocks.foldl (applyBlock disk) (s, result)).2.errors = result.errors := by
  induction blocks generalizing s result with
  | nil => rfl
  | cons block blocks ih =>
      obtain ⟨full, hfull⟩ := hinside block List.mem_cons_self
      obtain ⟨made, saved, hmade, hsaved, hblock⟩ :=
        applyBlock_works hworks hfull block.2 result
      have hpath (path : List Char) :
          disk.realpath saved path = disk.realpath s path := by
        rw [hstores.realpath_write path hsaved,
          hstores.realpath_makedirs path hmade]
      rw [List.foldl_cons, hblock, ih]
      intro other hmem
      rw [resolveSafePath_congr hpath]
      exact hinside other (List.mem_cons_of_mem _ hmem)

theorem apply_renderBlocks {blocks : List FileBlock}
    (h : ∀ block ∈ blocks, block.Proper) :
    ∃ after result,
      apply disk s (renderBlocks blocks) = .ok (after, result) ∧
        (disk.Works → (∀ block ∈ blocks, ∃ full,
          resolveSafePath disk s block.path = .ok full) →
          result.errors = []) ∧
        (result.errors = [] →
          (blocks.map fun block =>
            resolveSafePath disk s block.path).Nodup →
          ∀ block ∈ blocks, ∃ full,
            resolveSafePath disk s block.path = .ok full ∧
              disk.read after full =
                .text (written (ended block.content))) := by
  have hextract := extract_renderBlocks h
  by_cases hnil : blocks = []
  · rw [hnil]
    exact ⟨s, _, rfl, fun _ _ => rfl, fun _ _ _ hmem => (nomatch hmem)⟩
  · have hne : (blocks.map fun block =>
        (block.path, ended block.content)) ≠ [] := by
      simpa using hnil
    have happly : apply disk s (renderBlocks blocks) =
        .ok ((blocks.map fun block => (block.path, ended block.content)).foldl
          (applyBlock disk) (s, {})) := by
      rw [apply, extractBlocks, hextract, if_neg hne]
      simp only [bind, Except.bind, if_neg hne]
      rfl
    refine ⟨_, _, happly, ?_, ?_⟩
    · intro hworks hinside
      apply foldl_applyBlock_works hstores hworks
      intro pair hmem
      obtain ⟨block, hblock, rfl⟩ := List.mem_map.mp hmem
      exact hinside block hblock
    · intro hnone hplaces block hmem
      have hmap : ((blocks.map fun block =>
          (block.path, ended block.content)).map fun pair =>
            resolveSafePath disk s pair.1).Nodup := by
        rw [List.map_map]
        exact hplaces
      exact (foldl_applyBlock hstores hnone hmap).1
        (block.path, ended block.content)
        (List.mem_map.mpr ⟨block, hmem, rfl⟩)

end Applied

/-- No line of spaces and tabs, and no indentation that all lines share. -/
def Flush (text : List Char) : Prop :=
  (∀ line ∈ text.splitOn '\n', indentOf line = line → line = []) ∧
    ((∃ line ∈ text.splitOn '\n', line ≠ [] ∧ indentOf line = []) ∨
      ∀ line ∈ text.splitOn '\n', line = [])

theorem commonStart_nil (text : List Char) : commonStart text [] = [] := by
  cases text <;> rfl

theorem foldl_commonStart_nil {first : List Char} {others : List (List Char)}
    (h : [] ∈ first :: others) : others.foldl commonStart first = [] := by
  induction others generalizing first with
  | nil => exact (List.mem_singleton.mp h).symm
  | cons other others ih =>
      rw [List.foldl_cons]
      apply ih
      rcases List.mem_cons.mp h with hfirst | h
      · rw [← hfirst]
        exact List.mem_cons_self
      · rcases List.mem_cons.mp h with hother | h
        · rw [← hother, commonStart_nil]
          exact List.mem_cons_self
        · exact List.mem_cons_of_mem _ h

theorem dedent_of_flush {text : List Char} (h : Flush text) :
    dedent text = text := by
  obtain ⟨hblank, hmargin⟩ := h
  have hlines : (text.splitOn '\n').map (fun line =>
      if indentOf line = line then [] else line) = text.splitOn '\n' := by
    refine (List.map_congr_left fun line hline => ?_).trans (List.map_id _)
    split
    · next hindent => exact (hblank line hline hindent).symm
    · rfl
  unfold dedent
  rw [hlines]
  dsimp only
  split
  · simp [List.intercalate_splitOn]
  · next first others hindents =>
      have hnil : [] ∈ first :: others := by
        rw [← hindents]
        rcases hmargin with ⟨line, hmem, hne, hindent⟩ | hall
        · exact List.mem_map.mpr
            ⟨line, List.mem_filter.mpr ⟨hmem, by simpa using hne⟩, hindent⟩
        · have hempty : (text.splitOn '\n').filter (· ≠ []) = [] := by
            rw [List.filter_eq_nil_iff]
            intro line hmem
            simpa using hall line hmem
          rw [hempty] at hindents
          cases hindents
      rw [foldl_commonStart_nil hnil]
      simp [List.intercalate_splitOn]

theorem flush_feed {text : List Char} (h : Flush text) :
    Flush (text ++ ['\n']) := by
  have hlines : (text ++ ['\n']).splitOn '\n' = text.splitOn '\n' ++ [[]] := by
    rw [List.splitOn_append_cons_of_beq _ _ (beq_self_eq_true _)]
    rfl
  unfold Flush
  rw [hlines]
  constructor
  · intro line hmem hindent
    rcases List.mem_append.mp hmem with hmem | hmem
    · exact h.1 line hmem hindent
    · exact List.mem_singleton.mp hmem
  · refine h.2.imp ?_ ?_
    · rintro ⟨line, hmem, hline⟩
      exact ⟨line, List.mem_append_left _ hmem, hline⟩
    · intro hall line hmem
      rcases List.mem_append.mp hmem with hmem | hmem
      · exact hall line hmem
      · exact List.mem_singleton.mp hmem

theorem written_of_flush {content : List Char} (h : Flush content) :
    written (ended content) = content ∨
      written (ended content) = content ++ ['\n'] := by
  unfold ended
  split
  · unfold written
    rw [dedent_of_flush h]
    dsimp only
    split
    · exact Or.inl rfl
    · exact Or.inr rfl
  · right
    unfold written
    rw [dedent_of_flush (flush_feed h), if_pos (List.getLast?_concat ..)]

/-- Written blocks are read back; files hold the contents without shared
indentation. -/
theorem file_blocks_round_trip {blocks : List FileBlock}
    (h : ∀ block ∈ blocks, block.Proper) {S : Type} {disk : Disk S}
    (hstores : disk.Stores) (s : S) :
    extractFileBlocks (renderBlocks blocks) =
        blocks.map (fun block => (block.path, ended block.content)) ∧
      ∃ after result,
        apply disk s (renderBlocks blocks) = .ok (after, result) ∧
          (disk.Works → (∀ block ∈ blocks, ∃ full,
            resolveSafePath disk s block.path = .ok full) →
            result.errors = []) ∧
          (result.errors = [] →
            (blocks.map fun block =>
              resolveSafePath disk s block.path).Nodup →
            ∀ block ∈ blocks, ∃ full text,
              resolveSafePath disk s block.path = .ok full ∧
                disk.read after full = .text text ∧
                text = written (ended block.content) ∧
                (Flush block.content → text = block.content ∨
                  text = block.content ++ ['\n'])) := by
  obtain ⟨after, result, happly, hinside, hfiles⟩ :=
    apply_renderBlocks (s := s) hstores h
  refine ⟨extract_renderBlocks h, after, result, happly, hinside, ?_⟩
  intro hnone hplaces block hmem
  obtain ⟨full, hfull, hread⟩ := hfiles hnone hplaces block hmem
  exact ⟨full, _, hfull, hread, rfl, written_of_flush⟩

namespace FileBlocksWitness

theorem memory_stores : memory.Stores where
  read_write h := by
    cases h
    simp [memory]
  read_other {s full content after other text} h hne hread := by
    cases h
    have hlookup : ((full, content) :: s).lookup other = s.lookup other := by
      rw [List.lookup_cons, beq_false_of_ne hne]
    unfold memory at hread ⊢
    simp only [hlookup]
    exact hread
  read_makedirs h hread := by
    cases h
    exact hread
  realpath_write _ _ := rfl
  realpath_makedirs _ _ := rfl

def plain : List FileBlock :=
  [⟨"a".toList, [], "x\n y\n".toList⟩, ⟨"b/c".toList, "py".toList, "z".toList⟩]

theorem plain_proper : ∀ block ∈ plain, block.Proper := by
  intro block hmem
  simp only [plain, List.mem_cons, List.not_mem_nil, or_false] at hmem
  rcases hmem with rfl | rfl
  · exact ⟨by decide, by decide, by decide, by decide, by decide⟩
  · exact ⟨by decide, by decide, by decide, by decide, by decide⟩

theorem plain_round_trip :
    extractFileBlocks (renderBlocks plain) =
        plain.map (fun block => (block.path, ended block.content)) ∧
      ∃ after result,
        apply memory [] (renderBlocks plain) = .ok (after, result) ∧
          memory.read after "/w/b/c".toList = .text "z\n".toList := by
  obtain ⟨hread, after, result, happly, hinside, hfiles⟩ :=
    file_blocks_round_trip plain_proper memory_stores []
  refine ⟨hread, after, result, happly, ?_⟩
  have hnone := hinside (fun _ _ _ => ⟨rfl, rfl⟩) fun block hmem => by
    simp only [plain, List.mem_cons, List.not_mem_nil, or_false] at hmem
    rcases hmem with rfl | rfl
    · exact ⟨"/w/a".toList, by rfl⟩
    · exact ⟨"/w/b/c".toList, by rfl⟩
  obtain ⟨full, text, hfull, hcontent, htext, _⟩ := hfiles hnone (by decide)
    ⟨"b/c".toList, "py".toList, "z".toList⟩ (by decide)
  have hplace : full = "/w/b/c".toList := by
    cases hfull
    decide
  have hwritten : text = "z\n".toList := by
    rw [htext]
    decide
  rw [← hplace, hcontent, hwritten]

def indented : FileBlock := ⟨"a".toList, [], "  x\n".toList⟩

/-- The indentation is not written. -/
theorem indentation_lost :
    indented.Proper ∧ memory.Stores ∧ memory.Works ∧
      ∃ after result text,
        apply memory [] (renderBlocks [indented]) = .ok (after, result) ∧
          result.errors = [] ∧
          memory.read after "/w/a".toList = .text text ∧
          text ≠ indented.content ∧ text ≠ indented.content ++ ['\n'] ∧
          text ++ ['\n'] ≠ indented.content := by
  have hproper : indented.Proper :=
    ⟨by decide, by decide, by decide, by decide, by decide⟩
  refine ⟨hproper, memory_stores, fun _ _ _ => ⟨rfl, rfl⟩, ?_⟩
  exact ⟨[("/w/a".toList, "x\n".toList)], ⟨[⟨['a'], true⟩], [], []⟩,
    "x\n".toList, by rfl, rfl, by rfl, by decide, by decide, by decide⟩

end FileBlocksWitness

end Voly.Patch
