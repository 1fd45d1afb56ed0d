/-
Unified diffs: how they are written, what they make of a file, and that the
patch applier finds their hunks.
-/
import Voly.Executor.Patch
import Voly.Python.Number

namespace Voly.Patch

open Python Scan

inductive Mark where
  | keep
  | drop
  | add
deriving DecidableEq

def Mark.letter : Mark → Char
  | keep => ' '
  | drop => '-'
  | add => '+'

/-- A line of a hunk; the last line of a file may lack its end. -/
structure Row where
  mark : Mark
  text : List Char
  ended : Bool
deriving DecidableEq

def Row.line (row : Row) : List Char :=
  if row.ended then row.text ++ ['\n'] else row.text

def noNewline : List Char := "\\ No newline at end of file".toList

def Row.lines (row : Row) : List (List Char) :=
  (row.mark.letter :: row.text) :: if row.ended then [] else [noNewline]

/-- The lines from `start` and from `newStart`; a count of one may be left out.
-/
structure Hunk where
  start : Nat
  newStart : Nat
  short : Bool
  heading : List Char
  rows : List Row
deriving DecidableEq

namespace Hunk

def sideWithout (mark : Mark) (hunk : Hunk) : List (List Char) :=
  (hunk.rows.filter (·.mark ≠ mark)).map Row.line

def oldSide : Hunk → List (List Char) := sideWithout .add

def newSide : Hunk → List (List Char) := sideWithout .drop

def dropped (hunk : Hunk) : Nat :=
  hunk.rows.countP (·.mark = .drop)

def added (hunk : Hunk) : List (List Char) :=
  (hunk.rows.filter (·.mark = .add)).map fun row => row.text ++ ['\n']

/-- The lines in front of the hunk: where nothing is old, `start` is one of
them. -/
def place (hunk : Hunk) : Nat :=
  if hunk.oldSide = [] then hunk.start else hunk.start - 1

def range (start count : Nat) (short : Bool) : List Char :=
  Nat.toDigits 10 start ++
    if short ∧ count = 1 then [] else ',' :: Nat.toDigits 10 count

/-- What follows the mark of a hunk in its first line. -/
def header (hunk : Hunk) : List Char :=
  [' ', '-'] ++ range hunk.start hunk.oldSide.length hunk.short ++
    [' ', '+'] ++ range hunk.newStart hunk.newSide.length hunk.short ++
    " @@".toList ++ hunk.heading

def body (hunk : Hunk) : List (List Char) := hunk.rows.flatMap Row.lines

def lines (hunk : Hunk) : List (List Char) :=
  ("@@".toList ++ hunk.header) :: hunk.body

/-- What follows the mark of a hunk. -/
def text (hunk : Hunk) : List Char := hunk.header ++ '\n' :: unlines hunk.body

end Hunk

/-- A diff of one file: git's line, the lines below, both names, and the hunks.
-/
structure Diff where
  git : Option (List Char)
  extras : List (List Char)
  minus : List Char
  plus : List Char
  hunks : List Hunk
deriving DecidableEq

namespace Diff

def headLines (diff : Diff) : List (List Char) :=
  diff.extras ++ ["--- ".toList ++ diff.minus, "+++ ".toList ++ diff.plus]

def gitLine (rest : List Char) : List Char :=
  "diff --git".toList ++ ' ' :: rest

def render (diff : Diff) : List Char :=
  unlines (diff.git.toList.map gitLine) ++
    (unlines diff.headLines ++ unlines (diff.hunks.flatMap Hunk.lines))

/-- What follows the mark of a section in it. -/
def body (diff : Diff) (git : List Char) : List Char :=
  ' ' :: git ++ '\n' ::
    (unlines diff.headLines ++ unlines (diff.hunks.flatMap Hunk.lines))

/-- The lines that `git` may put in front of the names. -/
def extraWords : List String :=
  ["old mode ", "new mode ", "deleted file mode ", "new file mode ",
    "copy from ", "copy to ", "rename from ", "rename to ",
    "similarity index ", "dissimilarity index ", "index "]

/-- Hunks follow one another, none without old lines right behind another. -/
def Ordered (place : Nat) (behind : Bool) : List Hunk → Prop
  | [] => True
  | hunk :: hunks =>
      place ≤ hunk.place ∧ (hunk.oldSide ≠ [] → 1 ≤ hunk.start) ∧
        (hunk.oldSide = [] → behind → place < hunk.place) ∧
        Ordered (hunk.place + hunk.oldSide.length) true hunks

structure WellFormed (diff : Diff) : Prop where
  git : ∀ rest ∈ diff.git, '\n' ∉ rest
  extras : ∀ line ∈ diff.extras, '\n' ∉ line ∧
    ∃ word ∈ extraWords, word.toList <+: line
  minus : '\n' ∉ diff.minus
  plus : '\n' ∉ diff.plus
  headings : ∀ hunk ∈ diff.hunks, '\n' ∉ hunk.heading
  rows : ∀ hunk ∈ diff.hunks, ∀ row ∈ hunk.rows, '\n' ∉ row.text
  ordered : Ordered 0 false diff.hunks

/-- The lines of the hunks' result from `place` on, none where one does not
stand. -/
def patchFrom (place : Nat) (rest : List (List Char)) :
    List Hunk → Option (List (List Char))
  | [] => some rest
  | hunk :: hunks =>
      let gap := hunk.place - place
      if gap ≤ rest.length ∧ hunk.oldSide <+: rest.drop gap then
        (patchFrom (hunk.place + hunk.oldSide.length)
          (rest.drop (gap + hunk.oldSide.length)) hunks).map
            (rest.take gap ++ hunk.newSide ++ ·)
      else none

/-- What the diff makes of the lines of a file. -/
def patch (diff : Diff) (old : List Char) : Option (List (List Char)) :=
  patchFrom 0 (feedLines old) diff.hunks

end Diff

namespace Hunk

variable (hunk : Hunk)

theorem dropped_le : hunk.dropped ≤ hunk.oldSide.length := by
  rw [oldSide, sideWithout, List.length_map, ← List.countP_eq_length_filter,
    dropped]
  apply List.countP_mono_left
  intro row _ hrow
  have hdrop : row.mark = .drop := of_decide_eq_true hrow
  simp [hdrop]

theorem length_sides : hunk.added.length + hunk.oldSide.length =
    hunk.dropped + hunk.newSide.length := by
  simp only [added, oldSide, newSide, sideWithout, dropped, List.length_map,
    ← List.countP_eq_length_filter, ne_eq, decide_not]
  induction hunk.rows with
  | nil => rfl
  | cons row rows ih =>
      simp only [List.countP_cons]
      cases row.mark <;> simp <;> omega

theorem dropped_of_empty (h : hunk.oldSide = []) : hunk.dropped = 0 := by
  have hle := hunk.dropped_le
  rw [h] at hle
  exact Nat.le_zero.mp hle

theorem length_added_of_empty (h : hunk.oldSide = []) :
    hunk.added.length = hunk.newSide.length := by
  have hlength := hunk.length_sides
  rw [h, hunk.dropped_of_empty h] at hlength
  simpa using hlength

theorem marked_cons (mark c : Char) (line : List Char)
    (lines : List (List Char)) :
    marked mark ((c :: line) :: lines) =
      (if c = mark then [line ++ ['\n']] else []) ++ marked mark lines := by
  unfold marked
  rw [List.filterMap_cons]
  by_cases h : c = mark <;> simp [h]

theorem marked_lines {mark : Mark} (hmark : mark ≠ .keep) (row : Row)
    (lines : List (List Char)) :
    marked mark.letter (row.lines ++ lines) =
      (if row.mark = mark then [row.text ++ ['\n']] else []) ++
        marked mark.letter lines := by
  obtain ⟨note, hnote⟩ : ∃ note, noNewline = Char.ofNat 92 :: note := ⟨_, rfl⟩
  have hletter : (row.mark.letter = mark.letter) = (row.mark = mark) := by
    cases mark <;> cases row.mark <;> simp [Mark.letter] at hmark ⊢
  have hother : Char.ofNat 92 ≠ mark.letter := by
    cases mark <;> decide
  have hnoted : marked mark.letter
      ((if row.ended then [] else [noNewline]) ++ lines) =
        marked mark.letter lines := by
    split
    · rfl
    · rw [hnote, List.singleton_append, marked_cons, if_neg hother]
      rfl
  rw [Row.lines, List.cons_append, marked_cons, hnoted]
  simp only [hletter]

theorem marked_body {mark : Mark} (hmark : mark ≠ .keep) :
    marked mark.letter (hunk.body ++ [[]]) =
      (hunk.rows.filter (·.mark = mark)).map fun row =>
        row.text ++ ['\n'] := by
  unfold body
  induction hunk.rows with
  | nil => rfl
  | cons row rows ih =>
      rw [List.flatMap_cons, List.append_assoc, marked_lines hmark, ih]
      by_cases hsame : row.mark = mark <;> simp [hsame]

theorem length_marked_body :
    (marked '-' (hunk.body ++ [[]])).length = hunk.dropped := by
  rw [dropped, List.countP_eq_length_filter]
  have hdrop : Mark.drop ≠ .keep := by decide
  have hmarked := congrArg List.length (hunk.marked_body hdrop)
  rw [List.length_map] at hmarked
  exact hmarked

theorem isDigit_digits {n : Nat} {c : Char} (h : c ∈ Nat.toDigits 10 n) :
    c.isDigit = true :=
  List.all_eq_true.mp (digits_toDigits n) c h

theorem takeWhile_digits (n : Nat) {c : Char} (hc : c.isDigit = false)
    (rest : List Char) :
    (Nat.toDigits 10 n ++ c :: rest).takeWhile Char.isDigit =
      Nat.toDigits 10 n := by
  rw [List.takeWhile_append_of_pos fun d hd => isDigit_digits hd,
    List.takeWhile_cons_of_neg (by simp [hc]), List.append_nil]

theorem dropWhile_digits (n : Nat) {c : Char} (hc : c.isDigit = false)
    (rest : List Char) :
    (Nat.toDigits 10 n ++ c :: rest).dropWhile Char.isDigit = c :: rest := by
  rw [List.dropWhile_append_of_pos fun d hd => isDigit_digits hd,
    List.dropWhile_cons_of_neg (by simp [hc])]

theorem sizePart_range {R : Type} {k : Pattern R} {count : Nat}
    {short : Bool} {c : Char} {rest : List Char} {r : R}
    (hc : c.isDigit = false) (hcomma : c ≠ ',') (h : k (c :: rest) = some r) :
    sizePart k ((if short ∧ count = 1 then [] else
      ',' :: Nat.toDigits 10 count) ++ c :: rest) = some r := by
  split
  · rw [List.nil_append, sizePart, opt_of_none, h]
    exact lit_of_ne (Ne.symm hcomma) _ _ _
  · obtain ⟨d, digits, hdigits⟩ :=
      List.exists_cons_of_ne_nil (Nat.toDigits_ne_nil (n := count) (b := 10))
    have hd : d.isDigit = true := isDigit_digits (hdigits ▸ List.mem_cons_self)
    have hdrop := dropWhile_digits count hc rest
    rw [hdigits, List.cons_append, List.dropWhile_cons_of_pos hd] at hdrop
    apply opt_of_some
    rw [List.cons_append, lit_cons, hdigits, List.cons_append]
    apply some1_of_some hd
    rw [hdrop, h]

theorem group1_range {R : Type} {k : List Char → Pattern R}
    {start count : Nat} {short : Bool} {c : Char} {rest : List Char} {r : R}
    (hc : c.isDigit = false) (hcomma : c ≠ ',')
    (h : k (Nat.toDigits 10 start) (c :: rest) = some r) :
    group1 Char.isDigit (fun digits => sizePart (k digits))
      (range start count short ++ c :: rest) = some r := by
  have hsize := @sizePart_range _ _ count short _ _ _ hc hcomma h
  obtain ⟨e, others, he, hothers⟩ : ∃ e others, e.isDigit = false ∧
      (if short ∧ count = 1 then [] else ',' :: Nat.toDigits 10 count) ++
        c :: rest = e :: others := by
    split
    · exact ⟨c, rest, hc, rfl⟩
    · exact ⟨',', _, rfl, rfl⟩
  rw [hothers] at hsize
  rw [range, List.append_assoc, hothers]
  apply group1_of_some
  · rw [takeWhile_digits start he]
    exact Nat.toDigits_ne_nil
  · rw [takeWhile_digits start he, dropWhile_digits start he, hsize]

theorem hunkHeader_header (rest : List Char) :
    hunkHeader (hunk.header ++ rest) = some hunk.start := by
  have hshape : hunk.header ++ rest = ' ' :: '-' ::
      (range hunk.start hunk.oldSide.length hunk.short ++ ' ' :: '+' ::
        (range hunk.newStart hunk.newSide.length hunk.short ++ ' ' ::
          ("@@".toList ++ (hunk.heading ++ rest)))) := by
    simp [header]
  rw [hshape]
  apply many_of_some
  rw [List.dropWhile_cons_of_pos (by decide),
    List.dropWhile_cons_of_neg (by decide), lit_cons]
  apply group1_range (by decide) (by decide)
  apply some1_of_some (by decide)
  rw [List.dropWhile_cons_of_neg (by decide), lit_cons]
  apply group1_range (by decide) (by decide)
  apply many_of_some
  rw [List.dropWhile_cons_of_pos (by decide)]
  change lit "@@".toList _ ("@@".toList ++ (hunk.heading ++ rest)) = _
  rw [lit_append, Nat.ofDigitChars_ten_toDigits]

theorem feed_not_mem_header (h : '\n' ∉ hunk.heading) :
    '\n' ∉ hunk.header := by
  have hdigits (n : Nat) : '\n' ∉ Nat.toDigits 10 n := by
    intro hmem
    have hdigit := isDigit_digits hmem
    exact absurd hdigit (by decide)
  have hrange (start count : Nat) (short : Bool) :
      '\n' ∉ range start count short := by
    unfold range
    split <;> simp [hdigits]
  simp [header, hrange, h]

theorem feed_not_mem_body (h : ∀ row ∈ hunk.rows, '\n' ∉ row.text) :
    ∀ line ∈ hunk.body, '\n' ∉ line := by
  intro line hline
  obtain ⟨row, hrow, hline⟩ := List.mem_flatMap.mp hline
  have hletter : row.mark.letter ≠ '\n' := by
    cases row.mark <;> decide
  rcases List.mem_cons.mp hline with rfl | hnote
  · exact List.not_mem_cons_of_ne_of_not_mem hletter.symm (h row hrow)
  · split at hnote
    · cases hnote
    · rw [List.mem_singleton.mp hnote]
      decide

theorem applyHunk_text (hheading : '\n' ∉ hunk.heading)
    (hrows : ∀ row ∈ hunk.rows, '\n' ∉ row.text)
    (state : List (List Char) × Int) :
    applyHunk state hunk.text =
      (assignSlice state.1 (hunk.start - 1 + state.2)
          (hunk.start - 1 + state.2 + hunk.dropped) hunk.added,
        state.2 + hunk.added.length - hunk.dropped) := by
  have hadd : Mark.add ≠ .keep := by decide
  have hadds : marked '+' (hunk.body ++ [[]]) = hunk.added :=
    hunk.marked_body hadd
  have hlines : (hunk.text.splitOn '\n').tail = hunk.body ++ [[]] := by
    rw [text, splitOn_line (hunk.feed_not_mem_header hheading),
      splitOn_unlines (hunk.feed_not_mem_body hrows), List.tail_cons]
  have hstart : hunkHeader hunk.text = some hunk.start :=
    hunk.hunkHeader_header _
  unfold applyHunk
  simp only [hstart, hlines, hadds, hunk.length_marked_body]

end Hunk

/-- Lines in front of the hunks and inside them. -/
def Inner (line : List Char) : Prop :=
  (∃ c ∈ [' ', '-', '+', Char.ofNat 92], ∃ rest, line = c :: rest) ∨
    ∃ word ∈ Diff.extraWords, word.toList <+: line

section

variable {line : List Char}

theorem Inner.fails {R : Type} {m : Pattern R} (h : Inner line)
    (hletter : ∀ c ∈ [' ', '-', '+', Char.ofNat 92], ∀ rest,
      m (c :: rest) = none)
    (hword : ∀ word ∈ Diff.extraWords, ∀ rest, m (word.toList ++ rest) = none)
    (rest : List Char) : m (line ++ rest) = none := by
  rcases h with ⟨c, hc, tail, rfl⟩ | ⟨word, hmem, tail, rfl⟩
  · exact hletter c hc (tail ++ rest)
  · rw [List.append_assoc]
    exact hword word hmem (tail ++ rest)

theorem splitFrom_marker {mark : String} (hne : mark.toList ≠ [])
    (hfeed : '\n' ∉ mark.toList) (rest : List Char) :
    splitFrom (marker mark) 0 true (mark.toList ++ rest) =
      ([], ((), (splitFrom (marker mark) 0 false rest).1) ::
        (splitFrom (marker mark) 0 false rest).2) :=
  splitFrom_match hne hfeed (lit_append mark.toList rest _)

theorem Inner.noMark (h : Inner line) (rest : List Char) :
    marker "@@" (line ++ rest) = none ∧
      marker "diff --git" (line ++ rest) = none := by
  constructor
  all_goals
    apply h.fails
    · simp only [List.forall_mem_cons, List.not_mem_nil, false_implies,
        implies_true, and_true]
      and_intros <;> exact fun _ => rfl
    · simp only [Diff.extraWords, List.forall_mem_cons, List.not_mem_nil,
        false_implies, implies_true, and_true]
      and_intros <;> exact fun _ => rfl

theorem Inner.noHeader (h : Inner line) (rest : List Char) :
    fileHeader (line ++ rest) = none := by
  apply h.fails
  · simp only [List.forall_mem_cons, List.not_mem_nil, false_implies,
      implies_true, and_true]
    and_intros <;> exact fun _ => rfl
  · simp only [Diff.extraWords, List.forall_mem_cons, List.not_mem_nil,
      false_implies, implies_true, and_true]
    and_intros <;> exact fun _ => rfl

theorem Row.inner {row : Row} (h : line ∈ row.lines) :
    Inner line := by
  rcases List.mem_cons.mp h with rfl | hnote
  · refine Or.inl ⟨row.mark.letter, ?_, row.text, rfl⟩
    cases row.mark <;> decide
  · split at hnote
    · cases hnote
    · rw [List.mem_singleton.mp hnote]
      exact Or.inl ⟨Char.ofNat 92, by decide, _, rfl⟩

theorem Hunk.inner {hunk : Hunk} (h : line ∈ hunk.body) :
    Inner line := by
  obtain ⟨row, _, hline⟩ := List.mem_flatMap.mp h
  exact Row.inner hline

end

namespace Diff.WellFormed

variable {R : Type} {diff : Diff} (h : diff.WellFormed)

include h

theorem inner_head {line : List Char} (hline : line ∈ diff.headLines) :
    '\n' ∉ line ∧ Inner line := by
  rcases List.mem_append.mp hline with hline | hline
  · exact ⟨(h.extras line hline).1, Or.inr (h.extras line hline).2⟩
  · simp only [List.mem_cons, List.not_mem_nil, or_false] at hline
    rcases hline with rfl | rfl
    · exact ⟨by simp [h.minus], Or.inl ⟨'-', by decide, _, rfl⟩⟩
    · exact ⟨by simp [h.plus], Or.inl ⟨'+', by decide, _, rfl⟩⟩

theorem feed_not_mem_hunk {hunk : Hunk} (hhunk : hunk ∈ diff.hunks) :
    ∀ line ∈ hunk.lines, '\n' ∉ line := by
  intro line hline
  rcases List.mem_cons.mp hline with rfl | hline
  · have hheader := hunk.feed_not_mem_header (h.headings hunk hhunk)
    simp [hheader]
  · exact hunk.feed_not_mem_body (h.rows hunk hhunk) line hline

theorem split_head {m : Pattern (R × List Char)}
    (hm : ∀ line, Inner line → ∀ rest, m (line ++ rest) = none)
    (rest : List Char) :
    splitFrom m 0 true (unlines diff.headLines ++ rest) =
      onto (unlines diff.headLines) (splitFrom m 0 true rest) :=
  splitFrom_lines (fun _ hline => (h.inner_head hline).1)
    (fun line hline _ => hm line (h.inner_head hline).2 _) rest

theorem split_body {hunk : Hunk} (hhunk : hunk ∈ diff.hunks)
    {m : Pattern (R × List Char)}
    (hm : ∀ line, Inner line → ∀ rest, m (line ++ rest) = none)
    (rest : List Char) :
    splitFrom m 0 true (unlines hunk.body ++ rest) =
      onto (unlines hunk.body) (splitFrom m 0 true rest) :=
  splitFrom_lines (hunk.feed_not_mem_body (h.rows hunk hhunk))
    (fun line hline _ => hm line (Hunk.inner hline) _) rest

theorem split_hunks {m : Pattern (R × List Char)}
    (hm : ∀ line, Inner line → ∀ rest, m (line ++ rest) = none)
    (hmark : ∀ rest, m ("@@".toList ++ rest) = none) {hunks : List Hunk}
    (hsub : hunks ⊆ diff.hunks) :
    splitFrom m 0 true (unlines (hunks.flatMap Hunk.lines)) =
      (unlines (hunks.flatMap Hunk.lines), []) := by
  induction hunks with
  | nil => rfl
  | cons hunk hunks ih =>
      have hhunk : hunk ∈ diff.hunks := hsub List.mem_cons_self
      have hfirst : '\n' ∉ "@@".toList ++ hunk.header :=
        h.feed_not_mem_hunk hhunk _ List.mem_cons_self
      rw [List.flatMap_cons, unlines_append, Hunk.lines, unlines_cons,
        List.append_assoc, List.cons_append,
        splitFrom_line hfirst (by rw [List.append_assoc]; exact hmark _),
        h.split_body hhunk hm, ih (List.subset_of_cons_subset hsub)]
      simp [onto]

theorem pieces_hunks {hunks : List Hunk} (hsub : hunks ⊆ diff.hunks) :
    splitFrom (marker "@@") 0 true (unlines (hunks.flatMap Hunk.lines)) =
      ([], hunks.map fun hunk => ((), hunk.text)) := by
  induction hunks with
  | nil => rfl
  | cons hunk hunks ih =>
      have hhunk : hunk ∈ diff.hunks := hsub List.mem_cons_self
      have hheader := hunk.feed_not_mem_header (h.headings hunk hhunk)
      have hlines : unlines ((hunk :: hunks).flatMap Hunk.lines) =
          "@@".toList ++ (hunk.header ++ '\n' ::
            (unlines hunk.body ++ unlines (hunks.flatMap Hunk.lines))) := by
        simp [Hunk.lines]
      rw [hlines, splitFrom_marker (by decide) (by decide),
        splitFrom_inner hheader,
        h.split_body hhunk fun _ hline rest => (hline.noMark rest).1,
        ih (List.subset_of_cons_subset hsub)]
      simp [Hunk.text]

theorem piecesAfter_body {git : List Char} (hgit : diff.git = some git) :
    piecesAfter "@@" (diff.body git) = diff.hunks.map Hunk.text := by
  have hfirst : '\n' ∉ ' ' :: git := by
    have hfeed := h.git git hgit
    simp [hfeed]
  rw [piecesAfter, split, Diff.body, splitFrom_line hfirst rfl,
    h.split_head fun _ hline rest => (hline.noMark rest).1,
    h.pieces_hunks (List.Subset.refl diff.hunks)]
  simp

theorem piecesAfter_render :
    piecesAfter "diff --git" diff.render =
      diff.git.toList.map diff.body := by
  have hrest : splitFrom (marker "diff --git") 0 true (unlines diff.headLines ++
      unlines (diff.hunks.flatMap Hunk.lines)) =
        (unlines diff.headLines ++ unlines (diff.hunks.flatMap Hunk.lines),
          []) := by
    rw [h.split_head fun _ hline rest => (hline.noMark rest).2,
      h.split_hunks (fun _ hline rest => (hline.noMark rest).2)
        (fun _ => rfl) (List.Subset.refl diff.hunks)]
    rfl
  cases hgit : diff.git with
  | none =>
      rw [piecesAfter, split, render, hgit]
      simp [hrest]
  | some git =>
      have hfeed : '\n' ∉ ' ' :: git := by
        have hnone := h.git git hgit
        simp [hnone]
      have hrender : diff.render = "diff --git".toList ++ diff.body git := by
        unfold render gitLine Diff.body
        rw [hgit, Option.toList_some, List.map_singleton, unlines_cons,
          unlines_nil, List.append_assoc, List.append_assoc,
          List.singleton_append]
      rw [piecesAfter, split, hrender, splitFrom_marker (by decide) (by decide),
        Diff.body, splitFrom_inner hfeed, hrest]
      simp [Diff.body]

theorem no_file_blocks : extractFileBlocks diff.render = [] := by
  have hrest : splitFrom fileHeader 0 true (unlines diff.headLines ++
      unlines (diff.hunks.flatMap Hunk.lines)) =
        (unlines diff.headLines ++ unlines (diff.hunks.flatMap Hunk.lines),
          []) := by
    rw [h.split_head fun _ hline => hline.noHeader,
      h.split_hunks (fun _ hline => hline.noHeader) (fun _ => rfl)
        (List.Subset.refl diff.hunks)]
    rfl
  rw [extractFileBlocks, split, render]
  cases hgit : diff.git with
  | none => simp [hrest]
  | some git =>
      have hword : '\n' ∉ "diff --git".toList := by decide
      have hnone : '\n' ∉ ' ' :: git :=
        List.not_mem_cons_of_ne_of_not_mem (by decide) (h.git git hgit)
      have hfeed : '\n' ∉ gitLine git := fun hmem =>
        (List.mem_append.mp hmem).elim hword hnone
      rw [Option.toList_some, List.map_singleton, unlines_cons, unlines_nil,
        List.append_assoc, List.cons_append, List.nil_append,
        splitFrom_line hfeed rfl, hrest]
      rfl

end Diff.WellFormed

end Voly.Patch
