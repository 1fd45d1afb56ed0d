/-
Reading a text file line by line, and assigning to a slice of a list.
-/
import Voly.Python.Text

namespace Python

/-- The line ends of `read_text`. -/
def universalNewlines : List Char → List Char
  | '\r' :: '\n' :: rest => '\n' :: universalNewlines rest
  | '\r' :: rest => '\n' :: universalNewlines rest
  | c :: rest => c :: universalNewlines rest
  | [] => []

/-- The lines of a text with their ends, `line` having begun, reversed. -/
def keepLinesFrom (line : List Char) : List Char → List (List Char)
  | [] => if line = [] then [] else [line.reverse]
  | '\r' :: '\n' :: rest =>
      ('\n' :: '\r' :: line).reverse :: keepLinesFrom [] rest
  | c :: rest =>
      if isLineBreak c then (c :: line).reverse :: keepLinesFrom [] rest
      else keepLinesFrom (c :: line) rest

/-- `text.splitlines(keepends=True)`. -/
def keepLines (text : List Char) : List (List Char) := keepLinesFrom [] text

/-- Where an index of a slice stands in a list of this length. -/
def clip (size : Nat) (i : Int) : Nat :=
  if i < 0 then (size + i).toNat else min i.toNat size

/-- `xs[start:stop] = new`. -/
def assignSlice {α : Type} (xs : List α) (start stop : Int) (new : List α) :
    List α :=
  let low := clip xs.length start
  xs.take low ++ new ++ xs.drop (max low (clip xs.length stop))

/-- Lines, each ended with a line feed. -/
def unlines (lines : List (List Char)) : List Char :=
  lines.flatMap (· ++ ['\n'])

@[simp] theorem unlines_nil : unlines [] = [] := rfl

@[simp] theorem unlines_cons (line : List Char) (lines : List (List Char)) :
    unlines (line :: lines) = line ++ '\n' :: unlines lines := by
  simp [unlines]

@[simp] theorem unlines_append (lines others : List (List Char)) :
    unlines (lines ++ others) = unlines lines ++ unlines others :=
  List.flatMap_append

theorem splitOn_line {line : List Char} (h : '\n' ∉ line)
    (text : List Char) :
    (line ++ '\n' :: text).splitOn '\n' = line :: text.splitOn '\n' := by
  rw [List.splitOn_append_cons_of_beq _ _ (beq_self_eq_true _),
    List.splitOn_eq_singleton h, List.singleton_append]

theorem splitOn_unlines {lines : List (List Char)}
    (h : ∀ line ∈ lines, '\n' ∉ line) :
    (unlines lines).splitOn '\n' = lines ++ [[]] := by
  induction lines with
  | nil => rfl
  | cons line lines ih =>
      rw [unlines_cons, splitOn_line (h line List.mem_cons_self),
        ih fun other hmem => h other (List.mem_cons_of_mem _ hmem)]
      rfl

def feedLines : List Char → List (List Char)
  | [] => []
  | c :: text =>
      if c = '\n' then [c] :: feedLines text
      else
        match feedLines text with
        | [] => [[c]]
        | line :: lines => (c :: line) :: lines

/-- A line ends with its only line feed. -/
def Ended (line : List Char) : Prop :=
  ∃ body, '\n' ∉ body ∧ line = body ++ ['\n']

/-- Every line is ended, but the last one may lack the line feed. -/
def Lined : List (List Char) → Prop
  | [] => True
  | [line] => line ≠ [] ∧ '\n' ∉ line.dropLast
  | line :: lines => Ended line ∧ Lined lines

@[simp] theorem flatten_feedLines (text : List Char) :
    (feedLines text).flatten = text := by
  induction text with
  | nil => rfl
  | cons c text ih =>
      rw [feedLines]
      split
      · rw [List.flatten_cons, ih, List.singleton_append]
      · cases hlines : feedLines text with
        | nil =>
            rw [hlines] at ih
            rw [← ih]
            rfl
        | cons line lines =>
            rw [hlines, List.flatten_cons] at ih
            rw [List.flatten_cons, List.cons_append, ih]

theorem feedLines_line {body : List Char} (h : '\n' ∉ body)
    (text : List Char) :
    feedLines (body ++ '\n' :: text) = (body ++ ['\n']) :: feedLines text := by
  induction body with
  | nil => rw [List.nil_append, feedLines, if_pos rfl, List.nil_append]
  | cons c body ih =>
      obtain ⟨hc, hbody⟩ := List.ne_and_not_mem_of_not_mem_cons h
      rw [List.cons_append, feedLines, if_neg (Ne.symm hc), ih hbody]
      rfl

theorem feedLines_last {line : List Char} (hne : line ≠ [])
    (h : '\n' ∉ line.dropLast) : feedLines line = [line] := by
  induction line with
  | nil => exact absurd rfl hne
  | cons c line ih =>
      cases line with
      | nil =>
          rw [feedLines]
          split <;> rfl
      | cons d line =>
          rw [List.dropLast_cons_of_ne_nil (List.cons_ne_nil d line)] at h
          obtain ⟨hc, hline⟩ := List.ne_and_not_mem_of_not_mem_cons h
          rw [feedLines, if_neg (Ne.symm hc),
            ih (List.cons_ne_nil d line) hline]

theorem feedLines_flatten {lines : List (List Char)} (h : Lined lines) :
    feedLines lines.flatten = lines := by
  induction lines with
  | nil => rfl
  | cons line lines ih =>
      cases lines with
      | nil => simpa using feedLines_last h.1 h.2
      | cons next lines =>
          obtain ⟨⟨body, hbody, hline⟩, hrest⟩ := h
          rw [List.flatten_cons, hline, List.append_assoc,
            List.singleton_append, feedLines_line hbody, ih hrest]

theorem lined_append {first second : List (List Char)}
    (hfirst : ∀ line ∈ first, Ended line) (hsecond : Lined second) :
    Lined (first ++ second) := by
  induction first with
  | nil => exact hsecond
  | cons line first ih =>
      have hline := hfirst line List.mem_cons_self
      have hrest := ih fun other hmem =>
        hfirst other (List.mem_cons_of_mem _ hmem)
      rw [List.cons_append]
      cases hlines : first ++ second with
      | nil =>
          obtain ⟨body, hbody, rfl⟩ := hline
          exact ⟨by simp, by simpa using hbody⟩
      | cons next others => exact ⟨hline, hlines ▸ hrest⟩

theorem ended_of_lined {first second : List (List Char)}
    (h : Lined (first ++ second)) (hne : second ≠ []) :
    (∀ line ∈ first, Ended line) ∧ Lined second := by
  induction first with
  | nil => exact ⟨fun _ hmem => (nomatch hmem), h⟩
  | cons line first ih =>
      rw [List.cons_append] at h
      cases hlines : first ++ second with
      | nil => exact absurd (List.append_eq_nil_iff.mp hlines).2 hne
      | cons next others =>
          rw [hlines] at h
          obtain ⟨hfirst, hsecond⟩ := ih (hlines ▸ h.2)
          exact ⟨List.forall_mem_cons.mpr ⟨h.1, hfirst⟩, hsecond⟩

end Python
