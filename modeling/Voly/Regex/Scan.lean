/-
Anchored regular expressions with groups, as a backtracking matcher reads them:
every scanner is given what follows it.
-/
import Mathlib.Data.List.Basic

namespace Scan

/-- A pattern, read at the beginning of a text. -/
abbrev Pattern (R : Type) := List Char → Option R

variable {R : Type}

/-- Letters that are alike to those of `w`. -/
def litBy (same : Char → Char → Bool) : List Char → Pattern R → Pattern R
  | [], k, s => k s
  | _ :: _, _, [] => none
  | a :: w, k, c :: s => if same a c then litBy same w k s else none

/-- The letters of `w`. -/
def lit : List Char → Pattern R → Pattern R := litBy (· == ·)

/-- `f*`. -/
def many (f : Char → Bool) (k : Pattern R) : Pattern R
  | [] => k []
  | c :: s => if f c then many f k s <|> k (c :: s) else k (c :: s)

/-- `f+`. -/
def some1 (f : Char → Bool) (k : Pattern R) : Pattern R
  | [] => none
  | c :: s => if f c then many f k s else none

/-- `f{0,n}`. -/
def upTo (f : Char → Bool) (k : Pattern R) : Nat → Pattern R
  | 0, s => k s
  | _ + 1, [] => k []
  | n + 1, c :: s => if f c then upTo f k n s <|> k (c :: s) else k (c :: s)

/-- `(?:p)?`. -/
def opt (p : Pattern R → Pattern R) (k : Pattern R) : Pattern R :=
  fun s => p k s <|> k s

/-- `(f*)`, with the letters of the group read so far, last one first. -/
def groupFrom (f : Char → Bool) (k : List Char → Pattern R)
    (got : List Char) : Pattern R
  | [] => k got.reverse []
  | c :: s =>
      if f c then groupFrom f k (c :: got) s <|> k got.reverse (c :: s)
      else k got.reverse (c :: s)

/-- `(f+)`. -/
def group1 (f : Char → Bool) (k : List Char → Pattern R) : Pattern R
  | [] => none
  | c :: s => if f c then groupFrom f k [c] s else none

/-- `(f*?)`, with the letters of the group read so far, last one first. -/
def lazyFrom (f : Char → Bool) (k : List Char → Pattern R)
    (got : List Char) : Pattern R
  | [] => k got.reverse []
  | c :: s =>
      k got.reverse (c :: s) <|>
        if f c then lazyFrom f k (c :: got) s else none

/-- `(f+?)`. -/
def lazy1 (f : Char → Bool) (k : List Char → Pattern R) : Pattern R
  | [] => none
  | c :: s => if f c then lazyFrom f k [c] s else none

/-- `$`: at the end of the text or before a line feed. -/
def lineEnd (k : Pattern R) : Pattern R
  | [] => k []
  | c :: s => if c = '\n' then k (c :: s) else none

/-- The first match that begins a line, `start` telling whether the text
does. -/
def searchLines (m : Pattern R) (start : Bool) : Pattern R
  | [] => if start then m [] else none
  | c :: s =>
      (if start then m (c :: s) else none) <|> searchLines m (c == '\n') s

/-- The first match anywhere. -/
def search (m : Pattern R) : Pattern R
  | [] => m []
  | c :: s => m (c :: s) <|> search m s

/-- The text before the first match at a line's start, and for each match what
it gives. -/
def splitFrom (m : Pattern (R × List Char)) (skip : Nat) (start : Bool) :
    List Char → List Char × List (R × List Char)
  | [] => ([], [])
  | c :: s =>
      match skip with
      | skip + 1 => splitFrom m skip (c == '\n') s
      | 0 =>
          match (if start then m (c :: s) else none) with
          | some (found, rest) =>
              let after := splitFrom m (s.length - rest.length) (c == '\n') s
              ([], (found, after.1) :: after.2)
          | none =>
              let after := splitFrom m 0 (c == '\n') s
              (c :: after.1, after.2)

/-- `re.split` of a pattern that is anchored at line beginnings. -/
def split (m : Pattern (R × List Char)) (s : List Char) :
    List Char × List (R × List Char) :=
  splitFrom m 0 true s

theorem litBy_self {same : Char → Char → Bool} (hsame : ∀ c, same c c = true)
    (w s : List Char) (k : Pattern R) : litBy same w k (w ++ s) = k s := by
  induction w with
  | nil => rfl
  | cons a w ih => rw [List.cons_append, litBy, if_pos (hsame a), ih]

@[simp] theorem lit_append (w s : List Char) (k : Pattern R) :
    lit w k (w ++ s) = k s :=
  litBy_self (by simp) w s k

@[simp] theorem lit_cons (a : Char) (s : List Char) (k : Pattern R) :
    lit [a] k (a :: s) = k s :=
  lit_append [a] s k

theorem litBy_of_ne {same : Char → Char → Bool} {a c : Char}
    (h : same a c = false) (w s : List Char) (k : Pattern R) :
    litBy same (a :: w) k (c :: s) = none := by
  rw [litBy, if_neg (by simp [h])]

theorem lit_of_ne {a c : Char} (h : a ≠ c) (w s : List Char) (k : Pattern R) :
    lit (a :: w) k (c :: s) = none :=
  litBy_of_ne (by simpa using h) w s k

theorem lit_of_not_prefix {w s : List Char} (h : ¬w <+: s) (k : Pattern R) :
    lit w k s = none := by
  induction w generalizing s with
  | nil => exact absurd List.nil_prefix h
  | cons a w ih =>
      cases s with
      | nil => rfl
      | cons c s =>
          by_cases hc : a = c
          · rw [hc, List.cons_prefix_cons] at h
            have hrest := ih fun hw => h ⟨rfl, hw⟩
            rw [lit, litBy, if_pos (by simp [hc])]
            exact hrest
          · exact lit_of_ne hc w s k

section

variable {f : Char → Bool} {k : Pattern R} {s : List Char} {r : R} {c : Char}
  {n : Nat}

theorem many_of_some (h : k (s.dropWhile f) = some r) :
    many f k s = some r := by
  induction s with
  | nil => exact h
  | cons c s ih =>
      rw [many]
      by_cases hc : f c
      · rw [List.dropWhile_cons_of_pos hc] at h
        rw [if_pos hc, ih h]
        rfl
      · rw [List.dropWhile_cons_of_neg hc] at h
        rw [if_neg hc, h]

theorem some1_of_some (hc : f c = true) (h : k (s.dropWhile f) = some r) :
    some1 f k (c :: s) = some r := by
  rw [some1, if_pos hc]
  exact many_of_some h

theorem upTo_cons_of_some (hc : f c = true) (h : upTo f k n s = some r) :
    upTo f k (n + 1) (c :: s) = some r := by
  rw [upTo, if_pos hc, h]
  rfl

theorem upTo_cons_of_false (hc : f c = false) :
    upTo f k (n + 1) (c :: s) = k (c :: s) := by
  rw [upTo, if_neg (by simp [hc])]

end

theorem groupFrom_of_some {f : Char → Bool} {k : List Char → Pattern R}
    {got s : List Char} {r : R}
    (h : k (got.reverse ++ s.takeWhile f) (s.dropWhile f) = some r) :
    groupFrom f k got s = some r := by
  induction s generalizing got with
  | nil => simpa [groupFrom] using h
  | cons c s ih =>
      rw [groupFrom]
      by_cases hc : f c
      · rw [List.takeWhile_cons_of_pos hc, List.dropWhile_cons_of_pos hc] at h
        rw [if_pos hc, ih (by simpa using h)]
        rfl
      · rw [List.takeWhile_cons_of_neg hc, List.dropWhile_cons_of_neg hc,
          List.append_nil] at h
        rw [if_neg hc, h]

section

variable {s : List Char} {r : R} {p : Pattern R → Pattern R}

theorem group1_of_some {f : Char → Bool} {k : List Char → Pattern R}
    (hne : s.takeWhile f ≠ []) (h : k (s.takeWhile f) (s.dropWhile f) = some r) :
    group1 f k s = some r := by
  cases s with
  | nil => exact absurd rfl hne
  | cons c s =>
      by_cases hc : f c
      · rw [List.takeWhile_cons_of_pos hc, List.dropWhile_cons_of_pos hc] at h
        rw [group1, if_pos hc]
        exact groupFrom_of_some (by simpa using h)
      · exact absurd (List.takeWhile_cons_of_neg hc) hne

theorem opt_of_some {k : Pattern R} (h : p k s = some r) :
    opt p k s = some r := by
  rw [opt, h]
  rfl

theorem opt_of_none {k : Pattern R} (h : p k s = none) : opt p k s = k s := by
  rw [opt, h]
  rfl

theorem search_of_some {m : Pattern R} (h : m s = some r) :
    search m s = some r := by
  cases s with
  | nil => exact h
  | cons c s =>
      rw [search, h]
      rfl

end

/-- More text in front of the first piece. -/
def onto (u : List Char) (pieces : List Char × List (R × List Char)) :
    List Char × List (R × List Char) :=
  (u ++ pieces.1, pieces.2)

@[simp] theorem onto_fst (u : List Char)
    (pieces : List Char × List (R × List Char)) :
    (onto u pieces).1 = u ++ pieces.1 := rfl

@[simp] theorem onto_snd (u : List Char)
    (pieces : List Char × List (R × List Char)) :
    (onto u pieces).2 = pieces.2 := rfl

theorem onto_onto (u v : List Char)
    (pieces : List Char × List (R × List Char)) :
    onto u (onto v pieces) = onto (u ++ v) pieces := by
  simp [onto]

theorem splitFrom_skip (m : Pattern (R × List Char)) (start : Bool)
    (u rest : List Char) :
    splitFrom m u.length start (u ++ rest) =
      splitFrom m 0 (u.foldl (fun _ c => c == '\n') start) rest := by
  induction u generalizing start with
  | nil => rfl
  | cons c u ih =>
      rw [List.cons_append, List.length_cons, splitFrom]
      exact ih (c == '\n')

section

variable {m : Pattern (R × List Char)}

theorem foldl_inner {u : List Char} (h : '\n' ∉ u) :
    u.foldl (fun _ c => c == '\n') false = false := by
  induction u with
  | nil => rfl
  | cons c u ih =>
      obtain ⟨hc, hu⟩ := List.ne_and_not_mem_of_not_mem_cons h
      rw [List.foldl_cons, beq_false_of_ne (Ne.symm hc), ih hu]

theorem splitFrom_inner {u : List Char} (hu : '\n' ∉ u) (rest : List Char) :
    splitFrom m 0 false (u ++ '\n' :: rest) =
      onto (u ++ ['\n']) (splitFrom m 0 true rest) := by
  induction u with
  | nil => rfl
  | cons c u ih =>
      obtain ⟨hc, hu⟩ := List.ne_and_not_mem_of_not_mem_cons hu
      rw [List.cons_append, splitFrom, beq_false_of_ne (Ne.symm hc), ih hu]
      rfl

theorem splitFrom_line {line rest : List Char} (hline : '\n' ∉ line)
    (hm : m (line ++ '\n' :: rest) = none) :
    splitFrom m 0 true (line ++ '\n' :: rest) =
      onto (line ++ ['\n']) (splitFrom m 0 true rest) := by
  cases line with
  | nil =>
      rw [List.nil_append] at hm ⊢
      rw [splitFrom, if_pos rfl, hm]
      rfl
  | cons c u =>
      obtain ⟨hc, hu⟩ := List.ne_and_not_mem_of_not_mem_cons hline
      rw [List.cons_append] at hm ⊢
      rw [splitFrom, if_pos rfl, hm, beq_false_of_ne (Ne.symm hc),
        splitFrom_inner hu]
      rfl

theorem splitFrom_lines {lines : List (List Char)}
    (hlines : ∀ line ∈ lines, '\n' ∉ line)
    (hm : ∀ line ∈ lines, ∀ rest, m (line ++ '\n' :: rest) = none)
    (rest : List Char) :
    splitFrom m 0 true (lines.flatMap (· ++ ['\n']) ++ rest) =
      onto (lines.flatMap (· ++ ['\n'])) (splitFrom m 0 true rest) := by
  induction lines with
  | nil => rfl
  | cons line lines ih =>
      have hrest := ih (fun l hl => hlines l (List.mem_cons_of_mem _ hl))
        fun l hl => hm l (List.mem_cons_of_mem _ hl)
      rw [List.flatMap_cons, List.append_assoc, List.append_assoc,
        List.singleton_append,
        splitFrom_line (hlines line List.mem_cons_self)
          (hm line List.mem_cons_self _), hrest, onto_onto, List.append_assoc]

theorem splitFrom_match {u rest : List Char} {found : R} (hne : u ≠ [])
    (hu : '\n' ∉ u) (hm : m (u ++ rest) = some (found, rest)) :
    splitFrom m 0 true (u ++ rest) =
      ([], (found, (splitFrom m 0 false rest).1) ::
        (splitFrom m 0 false rest).2) := by
  cases u with
  | nil => exact absurd rfl hne
  | cons c u =>
      have hlength : (u ++ rest).length - rest.length = u.length := by simp
      obtain ⟨hc, hu⟩ := List.ne_and_not_mem_of_not_mem_cons hu
      rw [List.cons_append] at hm ⊢
      rw [splitFrom, if_pos rfl, hm]
      simp only [hlength, splitFrom_skip, beq_false_of_ne (Ne.symm hc),
        foldl_inner hu]

end

/-- What `k` reads in front of `tail`, `k'` reads without it. -/
def Within {R' : Type} (tail : List Char) (k : Pattern R) (k' : Pattern R') :
    Prop :=
  ∀ s, (k (s ++ tail)).isSome → (k' s).isSome

section Within

variable {R' : Type} {f : Char → Bool} {k : Pattern R} {k' : Pattern R'}
  {c : Char} {tail : List Char}

theorem isSome_orElse (a b : Option R) :
    (a <|> b).isSome ↔ a.isSome ∨ b.isSome := by
  cases a <;> simp

theorem orElse_none {a b : Option R} (h : (a <|> b) = none) :
    a = none ∧ b = none := by
  cases a with
  | none => exact ⟨rfl, h⟩
  | some _ => cases h

theorem Within.many (hc : f c = false) (h : Within (c :: tail) k k') :
    Within (c :: tail) (many f k) (many f k') := by
  intro s hs
  induction s with
  | nil =>
      apply h []
      rwa [List.nil_append, Scan.many, if_neg (by simp [hc])] at hs
  | cons d s ih =>
      rw [List.cons_append, Scan.many] at hs
      rw [Scan.many]
      split at hs
      · next hd =>
          rw [if_pos hd]
          rw [isSome_orElse] at hs ⊢
          exact hs.imp ih (h (d :: s))
      · next hd =>
          rw [if_neg hd]
          exact h (d :: s) hs

theorem Within.some1 (hc : f c = false) (h : Within (c :: tail) k k') :
    Within (c :: tail) (some1 f k) (some1 f k') := by
  intro s hs
  cases s with
  | nil =>
      rw [List.nil_append, Scan.some1, if_neg (by simp [hc])] at hs
      cases hs
  | cons d s =>
      rw [List.cons_append, Scan.some1] at hs
      rw [Scan.some1]
      split at hs
      · next hd =>
          rw [if_pos hd]
          exact h.many hc s hs
      · cases hs

theorem Within.upTo (hc : f c = false) (h : Within (c :: tail) k k')
    (n : Nat) : Within (c :: tail) (upTo f k n) (upTo f k' n) := by
  induction n with
  | zero => exact h
  | succ n ih =>
      intro s hs
      cases s with
      | nil =>
          apply h []
          rwa [List.nil_append, Scan.upTo, if_neg (by simp [hc])] at hs
      | cons d s =>
          rw [List.cons_append, Scan.upTo] at hs
          rw [Scan.upTo]
          split at hs
          · next hd =>
              rw [if_pos hd]
              rw [isSome_orElse] at hs ⊢
              exact hs.imp (ih s) (h (d :: s))
          · next hd =>
              rw [if_neg hd]
              exact h (d :: s) hs

theorem Within.litBy {same : Char → Char → Bool} {w : List Char}
    (hc : ∀ a ∈ w, same a c = false) (h : Within (c :: tail) k k') :
    Within (c :: tail) (litBy same w k) (litBy same w k') := by
  induction w with
  | nil => exact h
  | cons a w ih =>
      intro s hs
      have hw := ih fun b hb => hc b (List.mem_cons_of_mem a hb)
      cases s with
      | nil =>
          have ha := hc a List.mem_cons_self
          rw [List.nil_append, Scan.litBy, if_neg (by simp [ha])] at hs
          cases hs
      | cons d s =>
          rw [List.cons_append, Scan.litBy] at hs
          rw [Scan.litBy]
          split at hs
          · next hd =>
              rw [if_pos hd]
              exact hw s hs
          · cases hs

theorem Within.orElse {p : Pattern R} {p' : Pattern R'}
    (hp : Within tail p p') (h : Within tail k k') :
    Within tail (fun s => p s <|> k s) (fun s => p' s <|> k' s) := by
  intro s hs
  rw [isSome_orElse] at hs ⊢
  exact hs.imp (hp s) (h s)

/-- Lines in front of `tail` that no match begins, as `m'` finds none in
them. -/
theorem splitFrom_within {m : Pattern (R × List Char)} {m' : Pattern R'}
    (h : Within tail m m') {start : Bool} {text : List Char}
    (hnone : searchLines m' start text = none) :
    splitFrom m 0 start (text ++ tail) =
      onto text
        (splitFrom m 0 (text.foldl (fun _ c => c == '\n') start) tail) := by
  induction text generalizing start with
  | nil => rfl
  | cons d text ih =>
      rw [searchLines] at hnone
      obtain ⟨hfirst, hrest⟩ := orElse_none hnone
      have hm : (if start then m (d :: (text ++ tail)) else none) = none := by
        cases start with
        | false => rfl
        | true =>
            have hsome := mt (h (d :: text)) (by simpa using hfirst)
            simpa using hsome
      rw [List.cons_append, splitFrom, hm, ih hrest]
      rfl

end Within

theorem lazyFrom_of_some {f : Char → Bool} {k : List Char → Pattern R}
    {got u rest : List Char} {r : R} (hf : ∀ c ∈ u, f c = true)
    (hearlier : ∀ got v, v <:+ u → v ≠ [] → k got (v ++ rest) = none)
    (h : k (got.reverse ++ u) rest = some r) :
    lazyFrom f k got (u ++ rest) = some r := by
  induction u generalizing got with
  | nil =>
      rw [List.append_nil] at h
      cases rest with
      | nil => exact h
      | cons c rest =>
          rw [List.nil_append, lazyFrom, h]
          rfl
  | cons c u ih =>
      have hfirst := hearlier got.reverse (c :: u) (List.suffix_refl _)
        (List.cons_ne_nil c u)
      rw [List.cons_append] at hfirst
      rw [List.cons_append, lazyFrom, hfirst, if_pos (hf c List.mem_cons_self)]
      apply ih (fun d hd => hf d (List.mem_cons_of_mem c hd))
      · intro got v hv hne
        exact hearlier got v (hv.trans (List.suffix_cons c u)) hne
      · simpa using h

end Scan
