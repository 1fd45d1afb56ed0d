/-
When the patch applier makes of a file what a unified diff says.
-/
import Voly.Executor.Diff

namespace Voly.Patch

open Python

abbrev Lines := List (List Char)

namespace Hunk

/-- The unchanged lines from `place` on in front of the hunk. -/
def gap (place : Nat) (hunk : Hunk) : Nat := hunk.place - place

/-- The lines with the added ones in front of the last. -/
def beforeLast (lines added : Lines) : Lines :=
  lines.take (lines.length - 1) ++ added ++ lines.drop (lines.length - 1)

/-- The lines from `place` on after a hunk.  One without old lines goes in front
of its line. -/
def applied (place : Nat) (code : Lines) (hunk : Hunk) : Lines × Lines :=
  let gap := hunk.gap place
  let size := hunk.oldSide.length
  if hunk.oldSide ≠ [] then
    (code.take gap ++ (hunk.added ++
        ((code.drop gap).take size).drop hunk.dropped),
      code.drop (gap + size))
  else if gap ≠ 0 then
    (code.take (gap - 1) ++ (hunk.added ++ (code.take gap).drop (gap - 1)),
      code.drop (gap + size))
  else
    ((beforeLast code hunk.added).take hunk.added.length,
      (beforeLast code hunk.added).drop hunk.added.length)

/-- The same lines as they stand in the file that the diff describes. -/
def Fits (place : Nat) (code rest : Lines) (hunk : Hunk) : Prop :=
  let gap := hunk.gap place
  if hunk.oldSide ≠ [] then
    code.take gap = rest.take gap ∧
      hunk.added ++ ((code.drop gap).take hunk.oldSide.length).drop
        hunk.dropped = hunk.newSide
  else if gap ≠ 0 then
    code.take (gap - 1) = rest.take (gap - 1) ∧
      hunk.added ++ (code.take gap).drop (gap - 1) =
        (rest.take gap).drop (gap - 1) ++ hunk.newSide
  else (beforeLast code hunk.added).take hunk.added.length = hunk.newSide

variable {place : Nat} {code rest : Lines} {hunk : Hunk}

theorem drop_eq_inner {α : Type} {n m : Nat} (h : n ≤ m) (xs : List α) :
    xs.drop n = (xs.take m).drop n ++ xs.drop m := by
  rw [List.drop_take]
  have hsplit := (List.take_append_drop (m - n) (xs.drop n)).symm
  rw [List.drop_drop, Nat.add_sub_cancel' h] at hsplit
  exact hsplit

theorem length_beforeLast (lines added : Lines) :
    (beforeLast lines added).length = added.length + lines.length := by
  simp only [beforeLast, List.length_append, List.length_take,
    List.length_drop]
  omega

theorem length_applied
    (h : hunk.gap place + hunk.oldSide.length ≤ code.length) :
    (hunk.applied place code).1.length =
        hunk.gap place + hunk.newSide.length ∧
      (hunk.applied place code).2.length =
        code.length - (hunk.gap place + hunk.oldSide.length) := by
  have hle := hunk.dropped_le
  have hsides := hunk.length_sides
  unfold applied
  by_cases hold : hunk.oldSide = []
  · have hadded := hunk.length_added_of_empty hold
    by_cases hgap : hunk.gap place = 0
    · simp [hold, hgap, length_beforeLast, hadded]
    · simp [hold, hgap, hadded]
      rw [hold] at h
      simp at h
      omega
  · simp [hold]
    omega

theorem append_eq_iff {α : Type} {a b c d : List α}
    (h : a.length = c.length) : a ++ b = c ++ d ↔ a = c ∧ b = d := by
  constructor
  · exact fun heq => List.append_inj heq h
  · rintro ⟨rfl, rfl⟩
    rfl

theorem take_eq_inner {α : Type} (n : Nat) (xs : List α) :
    xs.take n = xs.take (n - 1) ++ (xs.take n).drop (n - 1) := by
  have hsplit := (List.take_append_drop (n - 1) (xs.take n)).symm
  rw [List.take_take, Nat.min_eq_left (Nat.sub_le n 1)] at hsplit
  exact hsplit

theorem applied_eq_iff (hrest : hunk.gap place ≤ rest.length)
    (h : hunk.gap place + hunk.oldSide.length ≤ code.length) :
    (hunk.applied place code).1 =
        rest.take (hunk.gap place) ++ hunk.newSide ↔
      hunk.Fits place code rest := by
  have hcode : hunk.gap place ≤ code.length :=
    (Nat.le_add_right _ _).trans h
  unfold applied Fits
  by_cases hold : hunk.oldSide = []
  · by_cases hgap : hunk.gap place = 0
    · simp [hold, hgap]
    · have hlength : (code.take (hunk.gap place - 1)).length =
          (rest.take (hunk.gap place - 1)).length := by
        simp only [List.length_take]
        omega
      simp only [hold, hgap, ne_eq, not_true_eq_false, not_false_eq_true,
        ↓reduceIte]
      rw [take_eq_inner (hunk.gap place) rest, List.append_assoc,
        append_eq_iff hlength, ← take_eq_inner]
  · have hlength : (code.take (hunk.gap place)).length =
        (rest.take (hunk.gap place)).length := by
      simp only [List.length_take]
      omega
    simp only [hold, ne_eq, not_false_eq_true, ↓reduceIte]
    rw [append_eq_iff hlength]

theorem clip_nat (size i : Nat) : clip size i = min i size := by
  rw [clip, if_neg (by omega), Int.toNat_natCast]

theorem assignSlice_nat {α : Type} {xs new : List α} {start stop : Nat}
    (hstart : start ≤ xs.length) (hstop : start ≤ stop) :
    assignSlice xs start stop new =
      xs.take start ++ (new ++ xs.drop stop) := by
  have hhigh : max start (min stop xs.length) = min stop xs.length := by
    omega
  rw [assignSlice, clip_nat, clip_nat, Nat.min_eq_left hstart, hhigh,
    List.append_assoc]
  by_cases hle : stop ≤ xs.length
  · rw [Nat.min_eq_left hle]
  · have hge : xs.length ≤ stop := Nat.le_of_not_le hle
    rw [Nat.min_eq_right hge, List.drop_length, List.drop_eq_nil_of_le hge]

theorem assignSlice_front {front added : Lines} {at_ size : Nat} {i : Int}
    (hat : at_ ≤ code.length) (hi : i = front.length + at_) :
    assignSlice (front ++ code) i (i + size) added =
      front ++ (code.take at_ ++ (added ++ code.drop (at_ + size))) := by
  have hstart : i = ((front.length + at_ : Nat) : Int) := by
    rw [hi, Int.natCast_add]
  have hstop : i + size = ((front.length + (at_ + size) : Nat) : Int) := by
    rw [hi]
    omega
  have hle : front.length + at_ ≤ (front ++ code).length := by
    rw [List.length_append]
    omega
  rw [hstop, hstart, assignSlice_nat hle (by omega),
    List.take_length_add_append, List.drop_length_add_append,
    List.append_assoc]

theorem assignSlice_neg_one (lines added : Lines) :
    assignSlice lines (-1) (-1) added = beforeLast lines added := by
  have hlow : clip lines.length (-1) = lines.length - 1 := by
    simp [clip]
    omega
  rw [assignSlice, hlow, max_self, beforeLast]

def step (state : Lines × Int) (hunk : Hunk) : Lines × Int :=
  (assignSlice state.1 (hunk.start - 1 + state.2)
      (hunk.start - 1 + state.2 + hunk.dropped) hunk.added,
    state.2 + hunk.added.length - hunk.dropped)

/-- How many of the lines the applier leaves in front of the added ones. -/
def cut (place : Nat) (code : Lines) (hunk : Hunk) : Nat :=
  if hunk.oldSide ≠ [] then hunk.gap place
  else if hunk.gap place ≠ 0 then hunk.gap place - 1
  else code.length - 1

section

variable {behind : Bool} {hunks : List Hunk} {front : Lines} {offset : Int}

theorem applied_append :
    (hunk.applied place code).1 ++ (hunk.applied place code).2 =
      code.take (hunk.cut place code) ++
        (hunk.added ++ code.drop (hunk.cut place code + hunk.dropped)) := by
  unfold applied cut
  by_cases hold : hunk.oldSide = []
  · have hdropped := hunk.dropped_of_empty hold
    by_cases hzero : hunk.gap place = 0
    · simp [hold, hzero, hdropped, beforeLast]
    · have hcut := drop_eq_inner (Nat.sub_le (hunk.gap place) 1) code
      simp only [hold, hzero, hdropped, ne_eq, not_true_eq_false,
        not_false_eq_true, ↓reduceIte, Nat.add_zero, List.length_nil,
        List.append_assoc, hcut]
  · have hcut := drop_eq_inner hunk.dropped_le (code.drop (hunk.gap place))
    rw [List.drop_drop, List.drop_drop] at hcut
    simp only [hold, ne_eq, not_false_eq_true, ↓reduceIte, List.append_assoc,
      hcut]

theorem cut_lt (h : hunk.gap place + hunk.oldSide.length ≤ code.length)
    (hne : code ≠ []) : hunk.cut place code < code.length := by
  have hpos := List.length_pos_of_ne_nil hne
  unfold cut
  by_cases hold : hunk.oldSide = []
  · rw [if_neg (not_not.mpr hold)]
    split <;> omega
  · have hsize := List.length_pos_of_ne_nil hold
    rw [if_pos hold]
    omega

theorem step_eq (hord : Diff.Ordered place behind (hunk :: hunks))
    (hfront : (front.length : Int) = place + offset)
    (hfirst : behind = false → place = 0 ∧ front = [])
    (h : hunk.gap place + hunk.oldSide.length ≤ code.length) :
    step (front ++ code, offset) hunk =
      (front ++ ((hunk.applied place code).1 ++ (hunk.applied place code).2),
        offset + hunk.added.length - hunk.dropped) := by
  obtain ⟨hplace, hstart, hbehind, _⟩ := hord
  have hgap : hunk.gap place = hunk.place - place := rfl
  rw [applied_append]
  unfold step cut
  by_cases hold : hunk.oldSide = []
  · have hdropped := hunk.dropped_of_empty hold
    have hline : hunk.place = hunk.start := if_pos hold
    by_cases hzero : hunk.gap place = 0
    · -- nothing is in front: the index is negative
      cases hb : behind with
      | true =>
          have hlt := hbehind hold hb
          omega
      | false =>
          obtain ⟨hplace0, hnil⟩ := hfirst hb
          rw [hnil, hplace0] at hfront
          have hindex : (hunk.start : Int) - 1 + offset = -1 := by
            simp at hfront
            omega
          simp [hold, hzero, hnil, hindex, hdropped, assignSlice_neg_one,
            beforeLast]
    · have hindex : (hunk.start : Int) - 1 + offset =
          front.length + ((hunk.gap place - 1 : Nat) : Int) := by
        omega
      have hle : hunk.gap place - 1 ≤ code.length := by omega
      simp only [assignSlice_front hle hindex, hold, hzero, ne_eq,
        not_true_eq_false, not_false_eq_true, ↓reduceIte]
  · have hline : hunk.place = hunk.start - 1 := if_neg hold
    have hone := hstart hold
    have hindex : (hunk.start : Int) - 1 + offset =
        front.length + (hunk.gap place : Int) := by
      omega
    have hle : hunk.gap place ≤ code.length := by omega
    simp only [assignSlice_front hle hindex, hold, ne_eq, not_false_eq_true,
      ↓reduceIte]

theorem length_behind (h : hunk.gap place + hunk.oldSide.length ≤ code.length)
    (hord : Diff.Ordered place behind (hunk :: hunks))
    (hfront : (front.length : Int) = place + offset) :
    ((front ++ (hunk.applied place code).1).length : Int) =
      (hunk.place + hunk.oldSide.length : Nat) +
        (offset + hunk.added.length - hunk.dropped) := by
  have hgap : hunk.gap place = hunk.place - place := rfl
  have hplace := hord.1
  have hsides := hunk.length_sides
  rw [List.length_append, (length_applied h).1]
  omega

theorem ended_added (hrows : ∀ row ∈ hunk.rows, '\n' ∉ row.text) :
    ∀ line ∈ hunk.added, Ended line := by
  intro line hline
  obtain ⟨row, hrow, rfl⟩ := List.mem_map.mp hline
  exact ⟨row.text, hrows row (List.mem_filter.mp hrow).1, rfl⟩

theorem lined_applied (hord : Diff.Ordered place behind (hunk :: hunks))
    (hfirst : behind = false → front = [])
    (hrows : ∀ row ∈ hunk.rows, '\n' ∉ row.text)
    (h : hunk.gap place + hunk.oldSide.length ≤ code.length)
    (hlined : Lined (front ++ code)) :
    Lined (front ++
      ((hunk.applied place code).1 ++ (hunk.applied place code).2)) := by
  have hadded := ended_added hrows
  rw [applied_append]
  by_cases hne : code = []
  · have hlengths : hunk.gap place = 0 ∧ hunk.oldSide.length = 0 := by
      simpa [hne] using h
    have hold := List.length_eq_zero_iff.mp hlengths.2
    have hb : behind = false := by
      cases hb : behind with
      | false => rfl
      | true =>
          have hlt := hord.2.2.1 hold hb
          have hgap : hunk.gap place = hunk.place - place := rfl
          omega
    have hended := @lined_append _ [] hadded trivial
    simpa [hne, hfirst hb] using hended
  · have hlt := cut_lt h hne
    have hdrop : code.drop (hunk.cut place code) ≠ [] := by
      intro hnil
      exact absurd (List.drop_eq_nil_iff.mp hnil) (Nat.not_le.mpr hlt)
    rw [← List.take_append_drop (hunk.cut place code) code,
      ← List.append_assoc] at hlined
    obtain ⟨hfront, hlast⟩ := ended_of_lined hlined hdrop
    rw [← List.take_append_drop hunk.dropped (code.drop _),
      List.drop_drop] at hlast
    have hkept : Lined (code.drop (hunk.cut place code + hunk.dropped)) := by
      by_cases hnil : code.drop (hunk.cut place code + hunk.dropped) = []
      · rw [hnil]
        trivial
      · exact (ended_of_lined hlast hnil).2
    rw [← List.append_assoc]
    exact lined_append hfront (lined_append hadded hkept)

end

end Hunk

/-- What the applier makes of the lines from `place` on. -/
def spliced (place : Nat) (code : Lines) : List Hunk → Lines
  | [] => code
  | hunk :: hunks =>
      (hunk.applied place code).1 ++
        spliced (hunk.place + hunk.oldSide.length) (hunk.applied place code).2
          hunks

/-- The hunks lie within this number of lines. -/
def Reach (place size : Nat) : List Hunk → Prop
  | [] => True
  | hunk :: hunks =>
      hunk.gap place + hunk.oldSide.length ≤ size ∧
        Reach (hunk.place + hunk.oldSide.length)
          (size - (hunk.gap place + hunk.oldSide.length)) hunks

theorem foldl_step {place : Nat} {behind : Bool} {front code : Lines}
    {offset : Int} {hunks : List Hunk}
    (hord : Diff.Ordered place behind hunks)
    (hreach : Reach place code.length hunks)
    (hfront : (front.length : Int) = place + offset)
    (hfirst : behind = false → place = 0 ∧ front = []) :
    (hunks.foldl Hunk.step (front ++ code, offset)).1 =
      front ++ spliced place code hunks := by
  induction hunks generalizing place behind front code offset with
  | nil => rfl
  | cons hunk hunks ih =>
      have hbehind := Hunk.length_behind hreach.1 hord hfront
      have hrest := hreach.2
      rw [← (Hunk.length_applied hreach.1).2] at hrest
      rw [List.foldl_cons, Hunk.step_eq hord hfront hfirst hreach.1,
        ← List.append_assoc, ih hord.2.2.2 hrest hbehind (fun h => nomatch h),
        spliced, List.append_assoc]

theorem foldl_applyHunk {diff : Diff} (h : diff.WellFormed) {code : Lines}
    (hreach : Reach 0 code.length diff.hunks) :
    ((diff.hunks.map Hunk.text).foldl applyHunk (code, 0)).1 =
      spliced 0 code diff.hunks := by
  have hstep (hunks : List Hunk) (hsub : hunks ⊆ diff.hunks)
      (state : Lines × Int) :
      (hunks.map Hunk.text).foldl applyHunk state =
        hunks.foldl Hunk.step state := by
    induction hunks generalizing state with
    | nil => rfl
    | cons hunk hunks ih =>
        have hmem : hunk ∈ diff.hunks := hsub List.mem_cons_self
        rw [List.map_cons, List.foldl_cons, List.foldl_cons,
          hunk.applyHunk_text (h.headings hunk hmem) (h.rows hunk hmem),
          ih (List.subset_of_cons_subset hsub), Hunk.step]
  have hfold := @foldl_step 0 false [] code 0 _ h.ordered hreach rfl
    fun _ => ⟨rfl, rfl⟩
  rw [hstep diff.hunks (List.Subset.refl _)]
  exact hfold

theorem lined_spliced {place : Nat} {behind : Bool} {front code : Lines}
    {hunks : List Hunk} (hord : Diff.Ordered place behind hunks)
    (hfirst : behind = false → front = [])
    (hrows : ∀ hunk ∈ hunks, ∀ row ∈ hunk.rows, '\n' ∉ row.text)
    (hreach : Reach place code.length hunks) (h : Lined (front ++ code)) :
    Lined (front ++ spliced place code hunks) := by
  induction hunks generalizing place behind front code with
  | nil => exact h
  | cons hunk hunks ih =>
      have happlied := Hunk.lined_applied hord hfirst
        (hrows hunk List.mem_cons_self) hreach.1 h
      have hrest := hreach.2
      rw [← (Hunk.length_applied hreach.1).2] at hrest
      rw [← List.append_assoc] at happlied
      rw [spliced, ← List.append_assoc]
      exact ih hord.2.2.2 (fun h => nomatch h)
        (fun other hmem => hrows other (List.mem_cons_of_mem _ hmem)) hrest
        happlied

/-- The hunks leave the applier no mistake: `code` are the lines as it reads
them. -/
def Fits (place : Nat) (code rest : Lines) : List Hunk → Prop
  | [] => code.flatten = rest.flatten
  | hunk :: hunks =>
      hunk.gap place + hunk.oldSide.length ≤ code.length ∧
        hunk.Fits place code rest ∧
          Fits (hunk.place + hunk.oldSide.length) (hunk.applied place code).2
            (rest.drop (hunk.gap place + hunk.oldSide.length)) hunks

section

variable {place : Nat} {hunks : List Hunk}

theorem reach_of_fits {code rest : Lines} (h : Fits place code rest hunks) :
    Reach place code.length hunks := by
  induction hunks generalizing place code rest with
  | nil => trivial
  | cons hunk hunks ih =>
      refine ⟨h.1, ?_⟩
      rw [← (Hunk.length_applied h.1).2]
      exact ih h.2.2

theorem patchFrom_cons {rest : Lines} {hunk : Hunk} {lines : Lines}
    (h : Diff.patchFrom place rest (hunk :: hunks) = some lines) :
    hunk.gap place + hunk.oldSide.length ≤ rest.length ∧
      ∃ others, Diff.patchFrom (hunk.place + hunk.oldSide.length)
          (rest.drop (hunk.gap place + hunk.oldSide.length)) hunks =
            some others ∧
        lines = rest.take (hunk.gap place) ++ hunk.newSide ++ others := by
  rw [Diff.patchFrom] at h
  split at h
  · next hstands =>
      obtain ⟨others, hothers, hlines⟩ := Option.map_eq_some_iff.mp h
      have hle := hstands.2.length_le
      rw [List.length_drop] at hle
      have hgap : hunk.gap place = hunk.place - place := rfl
      exact ⟨by omega, others, hothers, hlines.symm⟩
  · cases h

theorem reach_of_patchFrom {rest lines : Lines}
    (h : Diff.patchFrom place rest hunks = some lines) :
    Reach place rest.length hunks := by
  induction hunks generalizing place rest lines with
  | nil => trivial
  | cons hunk hunks ih =>
      obtain ⟨hle, others, hothers, _⟩ := patchFrom_cons h
      refine ⟨hle, ?_⟩
      rw [← List.length_drop]
      exact ih hothers

theorem spliced_of_fits {code rest lines : Lines}
    (hfits : Fits place code rest hunks)
    (hpatch : Diff.patchFrom place rest hunks = some lines) :
    (spliced place code hunks).flatten = lines.flatten := by
  induction hunks generalizing place code rest lines with
  | nil =>
      cases hpatch
      exact hfits
  | cons hunk hunks ih =>
      obtain ⟨hle, others, hothers, rfl⟩ := patchFrom_cons hpatch
      have hgap : hunk.gap place ≤ rest.length := by omega
      have happlied := (Hunk.applied_eq_iff hgap hfits.1).mpr hfits.2.1
      simp only [spliced, happlied, List.flatten_append,
        ih hfits.2.2 hothers]

end

section

variable {place : Nat} {code rest lines : Lines} {hunks : List Hunk}
  (hlength : code.length = rest.length)
  (hpatch : Diff.patchFrom place rest hunks = some lines)
include hlength hpatch

theorem length_spliced :
    (spliced place code hunks).length = lines.length := by
  induction hunks generalizing place code rest lines with
  | nil =>
      cases hpatch
      exact hlength
  | cons hunk hunks ih =>
      obtain ⟨hle, others, hothers, rfl⟩ := patchFrom_cons hpatch
      have hgap : hunk.gap place ≤ rest.length := by omega
      rw [← hlength] at hle
      obtain ⟨hfront, hleft⟩ := Hunk.length_applied hle
      have hrest : (hunk.applied place code).2.length =
          (rest.drop (hunk.gap place + hunk.oldSide.length)).length := by
        rw [hleft, hlength, List.length_drop]
      rw [spliced, List.length_append, hfront, ih hrest hothers,
        List.length_append, List.length_append, List.length_take,
        Nat.min_eq_left hgap]

/-- With as many lines read as there are, no other hunks give the diff's lines.
-/
theorem fits_of_spliced (h : spliced place code hunks = lines) :
    Fits place code rest hunks := by
  induction hunks generalizing place code rest lines with
  | nil =>
      cases hpatch
      exact congrArg List.flatten h
  | cons hunk hunks ih =>
      obtain ⟨hle, others, hothers, hlines⟩ := patchFrom_cons hpatch
      have hgap : hunk.gap place ≤ rest.length := by omega
      rw [← hlength] at hle
      obtain ⟨hfront, hleft⟩ := Hunk.length_applied hle
      have hsame : (hunk.applied place code).1.length =
          (rest.take (hunk.gap place) ++ hunk.newSide).length := by
        rw [hfront, List.length_append, List.length_take,
          Nat.min_eq_left hgap]
      rw [spliced, hlines, Hunk.append_eq_iff hsame] at h
      refine ⟨hle, (Hunk.applied_eq_iff hgap hle).mp h.1, ?_⟩
      apply ih _ hothers h.2
      rw [hleft, hlength, List.length_drop]

end

end Voly.Patch
