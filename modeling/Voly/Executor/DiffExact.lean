/-
Which diffs the patch applier applies as they are meant, and that it reports no
hunk that does not stand in the file.
-/
import Voly.Executor.DiffLaw

namespace Voly.Patch

open Python Scan

def readLines (old : List Char) : Lines := keepLines (universalNewlines old)

def Diff.named (diff : Diff) : Option (List Char) :=
  diff.git.bind fun git =>
    (searchLines diffHeader true (diff.body git)).bind fun _ =>
      (searchLines diffPlus true (diff.body git)).map stripped

/-- Only the last line of what the diff makes of a text may lack its end. -/
def Diff.Closed (diff : Diff) (old : List Char) : Prop :=
  ∀ lines, diff.patch old = some lines → feedLines lines.flatten = lines

/-- The file is there, or it is missing and its text is empty. -/
def OnDisk {S : Type} (disk : Disk S) (s : S) (path old : List Char) : Prop :=
  ∃ full, resolveSafePath disk s path = .ok full ∧
    (disk.read s full = .text old ∨ disk.read s full = .missing ∧ old = [])

def textAfter {S : Type} (disk : Disk S) (s : S)
    (response path old : List Char) : List Char :=
  match extractDiffBlocks disk s response with
  | .ok blocks => (blocks.reverse.lookup path).getD old
  | .error _ => old

/-- The new text where the diff stands in the file, else a report. -/
structure AppliedExactly {S : Type} (disk : Disk S) (s : S) (diff : Diff)
    (path old : List Char) : Prop where
  yields : ∀ new, diff.patch old = some (feedLines new) →
    textAfter disk s diff.render path old = new
  reports : diff.patch old = none →
    textAfter disk s diff.render path old = old ∧
      ∃ after result, apply disk s diff.render = .ok (after, result) ∧
        result.errors ≠ []

/-- The headers name the file and the hunks fit it, or nothing is to be done. -/
def Diff.Suits (diff : Diff) (path old : List Char) : Prop :=
  ∃ new, diff.patch old = some (feedLines new) ∧
    if diff.named = some path then
      Fits 0 (readLines old) (feedLines old) diff.hunks ∧
        (new = [] → old = [])
    else new = old

/-- The applier reads all lines, and only the last may lack its end. -/
def EvenlyRead (old : List Char) : Prop :=
  (readLines old).length = (feedLines old).length ∧ Lined (readLines old)

section Applied

variable {S : Type} {disk : Disk S} {s : S} {diff : Diff}
  {path old : List Char}

theorem extract_none (h : diff.WellFormed) (hnamed : diff.named = none) :
    extractDiffBlocks disk s diff.render = .ok [] := by
  rw [extractDiffBlocks, h.piecesAfter_render]
  cases hgit : diff.git with
  | none => rfl
  | some git =>
      have hblock : sectionBlock disk s (diff.body git) = .ok [] := by
        rw [Diff.named, hgit, Option.bind_some] at hnamed
        unfold sectionBlock
        split
        · next hminus hplus =>
            rw [hminus, hplus] at hnamed
            cases hnamed
        · rfl
      simp [hblock]

theorem extract_some {git p : List Char} (h : diff.WellFormed)
    (hgit : diff.git = some git) (hnamed : diff.named = some p) :
    extractDiffBlocks disk s diff.render =
      (applyDiffSection disk s p (diff.body git)).map fun patched =>
        patched.toList.map fun content => (p, content) := by
  have hblock : sectionBlock disk s (diff.body git) =
      (applyDiffSection disk s p (diff.body git)).map fun patched =>
        patched.toList.map fun content => (p, content) := by
    rw [Diff.named, hgit, Option.bind_some] at hnamed
    unfold sectionBlock
    split
    · next plus hminus hplus =>
        rw [hminus, hplus] at hnamed
        cases hnamed
        cases happly : applyDiffSection disk s (stripped plus) (diff.body git)
          with
        | error _ => simp only [happly]; rfl
        | ok _ => simp only [happly]; rfl
    · next hnone =>
        obtain ⟨minus, hminus, hmap⟩ := Option.bind_eq_some_iff.mp hnamed
        obtain ⟨plus, hplus, _⟩ := Option.map_eq_some_iff.mp hmap
        exact absurd hplus (hnone minus plus hminus)
  rw [extractDiffBlocks, h.piecesAfter_render, hgit]
  simp only [Option.toList_some, List.map_cons, List.map_nil, List.mapM_cons,
    List.mapM_nil, hblock]
  cases applyDiffSection disk s p (diff.body git) with
  | error e => rfl
  | ok patched => simp

theorem resolved_of_applied {p text : List Char} {content : List Char}
    (h : applyDiffSection disk s p text = .ok (some content)) :
    ∃ full, resolveSafePath disk s p = .ok full := by
  unfold applyDiffSection at h
  cases hfull : resolveSafePath disk s p with
  | error _ =>
      rw [hfull] at h
      cases h
  | ok full => exact ⟨full, rfl⟩

theorem no_errors (h : diff.WellFormed) (hworks : disk.Works) {after : S}
    {result : PatchResult}
    (happly : apply disk s diff.render = .ok (after, result)) :
    result.errors = [] := by
  have hextract : extractBlocks disk s diff.render =
      extractDiffBlocks disk s diff.render := by
    rw [extractBlocks, if_pos h.no_file_blocks]
  rw [apply, hextract] at happly
  cases hname : diff.named with
  | none =>
      rw [extract_none h hname] at happly
      cases happly
      rfl
  | some p =>
      obtain ⟨git, hgit, _⟩ := Option.bind_eq_some_iff.mp hname
      rw [extract_some h hgit hname] at happly
      cases hpatched : applyDiffSection disk s p (diff.body git) with
      | error _ =>
          rw [hpatched] at happly
          cases happly
      | ok patched =>
          rw [hpatched] at happly
          cases patched with
          | none =>
              cases happly
              rfl
          | some content =>
              obtain ⟨full, hfull⟩ := resolved_of_applied hpatched
              have hresult : applyBlock disk (s, {}) (p, content) =
                  (after, result) := Except.ok.inj happly
              obtain ⟨_, saved, _, _, hsaved⟩ :=
                applyBlock_works hworks hfull content {}
              rw [hresult] at hsaved
              cases hsaved
              rfl

theorem patchLines_body {git : List Char} {code : Lines} (h : diff.WellFormed)
    (hgit : diff.git = some git) (hreach : Reach 0 code.length diff.hunks) :
    patchLines code (diff.body git) =
      if spliced 0 code diff.hunks = [] then none
      else some (spliced 0 code diff.hunks).flatten := by
  unfold patchLines
  rw [h.piecesAfter_body hgit]
  simp only [foldl_applyHunk h hreach]

theorem applyDiffSection_onDisk {text : List Char}
    (h : OnDisk disk s path old) :
    applyDiffSection disk s path text =
      .ok (patchLines (readLines old) text) := by
  obtain ⟨full, hfull, hread | ⟨hread, rfl⟩⟩ := h
  · simp only [applyDiffSection, hfull, hread, readLines]
  · simp only [applyDiffSection, hfull, hread]
    rfl

theorem textAfter_named (h : diff.WellFormed) (hdisk : OnDisk disk s path old)
    (hnamed : diff.named = some path)
    (hreach : Reach 0 (readLines old).length diff.hunks) :
    textAfter disk s diff.render path old =
      if spliced 0 (readLines old) diff.hunks = [] then old
      else (spliced 0 (readLines old) diff.hunks).flatten := by
  obtain ⟨git, hgit, _⟩ := Option.bind_eq_some_iff.mp hnamed
  rw [textAfter, extract_some h hgit hnamed, applyDiffSection_onDisk hdisk,
    patchLines_body h hgit hreach]
  by_cases hempty : spliced 0 (readLines old) diff.hunks = []
  · simp [hempty, Except.map]
  · simp [hempty, Except.map]

theorem textAfter_other (h : diff.WellFormed)
    (hnamed : diff.named ≠ some path) :
    textAfter disk s diff.render path old = old := by
  cases hname : diff.named with
  | none =>
      rw [textAfter, extract_none h hname]
      rfl
  | some p =>
      obtain ⟨git, hgit, _⟩ := Option.bind_eq_some_iff.mp hname
      have hne : path ≠ p := by
        rintro rfl
        exact hnamed hname
      rw [textAfter, extract_some h hgit hname]
      cases applyDiffSection disk s p (diff.body git) with
      | error _ => rfl
      | ok patched => cases patched <;> simp [Except.map, hne]

theorem feedLines_injective : Function.Injective feedLines := by
  intro text other h
  have hflatten := congrArg List.flatten h
  rw [flatten_feedLines, flatten_feedLines] at hflatten
  exact hflatten

theorem exact_of_suits (h : diff.WellFormed) (hdisk : OnDisk disk s path old)
    (hsuits : diff.Suits path old) :
    AppliedExactly disk s diff path old := by
  obtain ⟨new, hpatch, hcases⟩ := hsuits
  constructor
  · intro other hother
    rw [hpatch] at hother
    have hsame : new = other := feedLines_injective (Option.some.inj hother)
    rw [← hsame]
    by_cases hnamed : diff.named = some path
    · rw [if_pos hnamed] at hcases
      obtain ⟨hfits, hempty⟩ := hcases
      have htext := spliced_of_fits hfits hpatch
      rw [flatten_feedLines] at htext
      rw [textAfter_named h hdisk hnamed (reach_of_fits hfits)]
      split
      · next hnil =>
          rw [hnil] at htext
          have hnew : new = [] := htext.symm
          rw [hnew, hempty hnew]
      · exact htext
    · rw [if_neg hnamed] at hcases
      rw [textAfter_other h hnamed, hcases]
  · intro hnone
    rw [hpatch] at hnone
    cases hnone

theorem suits_of_exact (h : diff.WellFormed) (hclosed : diff.Closed old)
    (hdisk : OnDisk disk s path old) (hworks : disk.Works)
    (heven : EvenlyRead old) (hexact : AppliedExactly disk s diff path old) :
    diff.Suits path old := by
  cases hpatch : diff.patch old with
  | none =>
      obtain ⟨_, after, result, happly, hne⟩ := hexact.reports hpatch
      exact absurd (no_errors h hworks happly) hne
  | some lines =>
      have hlines := hclosed lines hpatch
      have hnew : diff.patch old = some (feedLines lines.flatten) := by
        rw [hpatch, hlines]
      have htext := hexact.yields lines.flatten hnew
      refine ⟨lines.flatten, hpatch ▸ hnew, ?_⟩
      split
      · next hnamed =>
          have hreach := reach_of_patchFrom hpatch
          rw [← heven.1] at hreach
          have hlength := length_spliced heven.1 hpatch
          have hlined := @lined_spliced _ _ [] _ _ h.ordered (fun _ => rfl)
            h.rows hreach heven.2
          rw [List.nil_append] at hlined
          rw [textAfter_named h hdisk hnamed hreach] at htext
          split at htext
          · next hnil =>
              have hnone : lines = [] := by
                rw [hnil] at hlength
                exact List.length_eq_zero_iff.mp hlength.symm
              have hsame : spliced 0 (readLines old) diff.hunks = lines := by
                rw [hnil, hnone]
              exact ⟨fits_of_spliced heven.1 hpatch hsame,
                fun hempty => htext.trans hempty⟩
          · next hne =>
              have hsame : spliced 0 (readLines old) diff.hunks = lines := by
                rw [← feedLines_flatten hlined, htext, hlines]
              refine ⟨fits_of_spliced heven.1 hpatch hsame, fun hempty => ?_⟩
              rw [hempty] at hlines
              exact absurd (hsame.trans hlines.symm) hne
      · next hnamed =>
          rw [textAfter_other h hnamed] at htext
          exact htext.symm

/-- Diffs that suit the file and the applier are applied exactly; no others are
where the file is read line by line. -/
theorem applied_exactly_iff (h : diff.WellFormed) (hclosed : diff.Closed old)
    (hdisk : OnDisk disk s path old) (hworks : disk.Works) :
    (diff.Suits path old → AppliedExactly disk s diff path old) ∧
      (EvenlyRead old →
        (AppliedExactly disk s diff path old ↔ diff.Suits path old)) :=
  ⟨exact_of_suits h hdisk, fun heven =>
    ⟨suits_of_exact h hclosed hdisk hworks heven, exact_of_suits h hdisk⟩⟩

end Applied

namespace DiffWitness

def path : List Char := ['f']

def old : List Char := "a\nb\nc\n".toList

def new : List Char := "a\nB\nc\n".toList

def files : List (List Char × List Char) := [("/w/f".toList, old)]

def diffOf (hunk : Hunk) : Diff where
  git := some "a/f b/f".toList
  extras := []
  minus := "a/f".toList
  plus := "b/f".toList
  hunks := [hunk]

def change : List Row :=
  [⟨.drop, ['b'], true⟩, ⟨.add, ['B'], true⟩]

def bare : Diff := diffOf ⟨2, 2, false, [], change⟩

def inContext : Diff :=
  diffOf ⟨1, 1, false, [],
    ⟨.keep, ['a'], true⟩ :: change ++ [⟨.keep, ['c'], true⟩]⟩

theorem diffOf_wellFormed {hunk : Hunk} (hheading : '\n' ∉ hunk.heading)
    (hrows : ∀ row ∈ hunk.rows, '\n' ∉ row.text) (hstart : 1 ≤ hunk.start)
    (hold : hunk.oldSide ≠ []) : (diffOf hunk).WellFormed where
  git rest hrest := by
    rw [← Option.some.inj hrest]
    decide
  extras line hline := nomatch hline
  minus := by
    change '\n' ∉ "a/f".toList
    decide
  plus := by
    change '\n' ∉ "b/f".toList
    decide
  headings other hother := by
    rw [List.mem_singleton.mp hother]
    exact hheading
  rows other hother := by
    rw [List.mem_singleton.mp hother]
    exact hrows
  ordered :=
    ⟨Nat.zero_le _, fun _ => hstart, fun hnil => absurd hnil hold, trivial⟩

theorem onDisk : OnDisk memory files path old :=
  ⟨"/w/f".toList, by rfl, Or.inl (by rfl)⟩

theorem works : memory.Works := fun _ _ _ => ⟨rfl, rfl⟩

theorem closed {diff : Diff} (h : diff.patch old = some (feedLines new)) :
    diff.Closed old := by
  intro lines hlines
  rw [h] at hlines
  rw [← Option.some.inj hlines, flatten_feedLines]

theorem bare_suits : bare.Suits path old := by
  have hnamed : bare.named = some path := by decide
  have hfits : Hunk.Fits 0 (readLines old) (feedLines old)
      ⟨2, 2, false, [], change⟩ := by
    unfold Hunk.Fits
    decide
  refine ⟨new, by decide, ?_⟩
  rw [if_pos hnamed]
  exact ⟨⟨by decide, hfits, by rfl⟩, by decide⟩

theorem bare_applied : AppliedExactly memory files bare path old :=
  (applied_exactly_iff
    (diffOf_wellFormed (by decide) (by decide) (by decide) (by decide))
    (closed (by decide)) onDisk works).1 bare_suits

/-- The line of context is replaced, and the line to be replaced is kept. -/
theorem inContext_misapplied :
    inContext.WellFormed ∧ inContext.Closed old ∧
      OnDisk memory files path old ∧ memory.Works ∧
      inContext.patch old = some (feedLines new) ∧
      textAfter memory files inContext.render path old =
        "B\nb\nc\n".toList ∧
      ¬AppliedExactly memory files inContext path old := by
  have hpatch : inContext.patch old = some (feedLines new) := by decide
  have htext : textAfter memory files inContext.render path old =
      "B\nb\nc\n".toList := by
    decide
  refine ⟨diffOf_wellFormed (by decide) (by decide) (by decide) (by decide),
    closed hpatch, onDisk, works, hpatch, htext, fun hexact => ?_⟩
  have hnew := hexact.yields new hpatch
  rw [htext] at hnew
  exact absurd hnew (by decide)

end DiffWitness

end Voly.Patch
