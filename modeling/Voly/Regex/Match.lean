/-
Regular expressions with word boundaries: matches in a context, a matcher by
derivatives, and search.
-/
import Mathlib.Data.List.Basic

/-- Patterns over letters.  `boundary` is between a word letter and anything
else. -/
inductive Regex where
  | never
  | eps
  | boundary
  | letter (accepts : Char → Bool)
  | seq (first second : Regex)
  | alt (left right : Regex)
  | star (body : Regex)

namespace Regex

variable (word : Char → Bool)

/-- Whether a word letter comes next, in front of `s` or else after it. -/
def ahead (next : Bool) : List Char → Bool
  | [] => next
  | c :: _ => word c

/-- Whether a word letter came last, at the end of `s` or else before it. -/
def behind (prev : Bool) : List Char → Bool
  | [] => prev
  | c :: s => behind (word c) s

/-- Any number of matches in a row. -/
inductive Iterates (match_ : Bool → List Char → Bool → Prop) :
    Bool → List Char → Bool → Prop where
  | done (prev next : Bool) : Iterates match_ prev [] next
  | more (prev next : Bool) (u v : List Char)
      (first : match_ prev u (ahead word next v))
      (rest : Iterates match_ (behind word prev u) v next) :
      Iterates match_ prev (u ++ v) next

/-- The pattern matches `s` between letters of kinds `prev` and `next`. -/
def Matches : Regex → Bool → List Char → Bool → Prop
  | never, _, _, _ => False
  | eps, _, s, _ => s = []
  | boundary, prev, s, next => s = [] ∧ prev ≠ next
  | letter accepts, _, s, _ => ∃ c, s = [c] ∧ accepts c = true
  | seq a b, prev, s, next =>
      ∃ u v, s = u ++ v ∧ a.Matches prev u (ahead word next v) ∧
        b.Matches (behind word prev u) v next
  | alt a b, prev, s, next => a.Matches prev s next ∨ b.Matches prev s next
  | star a, prev, s, next => Iterates word a.Matches prev s next

/-- The pattern matches the empty text between these letters. -/
def nullable (prev next : Bool) : Regex → Bool
  | never => false
  | eps => true
  | boundary => prev != next
  | letter _ => false
  | seq a b => a.nullable prev next && b.nullable prev next
  | alt a b => a.nullable prev next || b.nullable prev next
  | star _ => true

/-- `seq`, with the trivial cases computed. -/
def andThen : Regex → Regex → Regex
  | never, _ => never
  | eps, b => b
  | a, b => seq a b

/-- `alt`, with the trivial cases computed. -/
def orElse : Regex → Regex → Regex
  | never, b => b
  | a, never => a
  | a, b => alt a b

/-- What is left to match after the letter `c`. -/
def deriv (prev : Bool) (c : Char) : Regex → Regex
  | never => never
  | eps => never
  | boundary => never
  | letter accepts => if accepts c then eps else never
  | seq a b =>
      orElse (andThen (a.deriv prev c) b)
        (if a.nullable prev (word c) then b.deriv prev c else never)
  | alt a b => orElse (a.deriv prev c) (b.deriv prev c)
  | star a => andThen (a.deriv prev c) (star a)

/-- The pattern matches some beginning of the text. -/
def matchesPrefix (r : Regex) (prev : Bool) : List Char → Bool
  | [] => r.nullable prev false
  | c :: s =>
      r.nullable prev (word c) ||
        (r.deriv word prev c).matchesPrefix (word c) s

/-- The pattern matches somewhere in the text. -/
def search (r : Regex) (prev : Bool) : List Char → Bool
  | [] => r.matchesPrefix word prev []
  | c :: s => r.matchesPrefix word prev (c :: s) || r.search (word c) s

variable {word}

@[simp] theorem ahead_nil (next : Bool) : ahead word next [] = next := rfl

@[simp] theorem ahead_cons (next : Bool) (c : Char) (s : List Char) :
    ahead word next (c :: s) = word c := rfl

@[simp] theorem behind_nil (prev : Bool) : behind word prev [] = prev := rfl

@[simp] theorem behind_cons (prev : Bool) (c : Char) (s : List Char) :
    behind word prev (c :: s) = behind word (word c) s := rfl

theorem behind_const (b : Bool) (s : List Char) :
    behind (fun _ => b) b s = b := by
  induction s with
  | nil => rfl
  | cons c s ih => exact ih

theorem nullable_iff (r : Regex) (prev next : Bool) :
    r.nullable prev next = true ↔ r.Matches word prev [] next := by
  induction r with
  | seq a b iha ihb =>
      simp only [nullable, Matches, Bool.and_eq_true, iha, ihb]
      constructor
      · rintro ⟨ha, hb⟩
        exact ⟨[], [], rfl, ha, hb⟩
      · rintro ⟨u, v, huv, ha, hb⟩
        obtain ⟨rfl, rfl⟩ := List.append_eq_nil_iff.mp huv.symm
        exact ⟨ha, hb⟩
  | alt a b iha ihb => simp [nullable, Matches, iha, ihb]
  | star a _ => simpa [nullable, Matches] using Iterates.done prev next
  | _ => simp [nullable, Matches]

theorem matches_andThen (a b : Regex) (prev next : Bool) (s : List Char) :
    (andThen a b).Matches word prev s next ↔
      (seq a b).Matches word prev s next := by
  cases a with
  | never => simp [andThen, Matches]
  | eps =>
      simp only [andThen, Matches]
      constructor
      · intro h
        exact ⟨[], s, rfl, rfl, h⟩
      · rintro ⟨u, v, rfl, rfl, h⟩
        exact h
  | _ => rfl

theorem matches_orElse (a b : Regex) (prev next : Bool) (s : List Char) :
    (orElse a b).Matches word prev s next ↔
      a.Matches word prev s next ∨ b.Matches word prev s next := by
  cases a <;> cases b <;> simp [orElse, Matches]

theorem iterates_cons {body : Bool → List Char → Bool → Prop}
    {prev next : Bool} {c : Char} {s : List Char}
    (h : Iterates word body prev (c :: s) next) :
    ∃ u v, s = u ++ v ∧ body prev (c :: u) (ahead word next v) ∧
      Iterates word body (behind word prev (c :: u)) v next := by
  generalize htext : c :: s = text at h
  induction h with
  | done => cases htext
  | more prev next u v first rest ih =>
      cases u with
      | nil => exact ih htext
      | cons d u =>
          obtain ⟨rfl, rfl⟩ := List.cons.inj htext
          exact ⟨u, v, rfl, first, rest⟩

theorem deriv_iff (r : Regex) (prev next : Bool) (c : Char)
    (s : List Char) :
    (r.deriv word prev c).Matches word (word c) s next ↔
      r.Matches word prev (c :: s) next := by
  induction r generalizing s next with
  | never => rfl
  | eps => simp [deriv, Matches]
  | boundary => simp [deriv, Matches]
  | letter accepts =>
      by_cases h : accepts c = true <;> simp [deriv, Matches, h]
  | seq a b iha ihb =>
      rw [deriv, matches_orElse, matches_andThen]
      simp only [Matches]
      constructor
      · rintro (⟨u, v, rfl, ha, hb⟩ | h)
        · exact ⟨c :: u, v, rfl, (iha _ u).mp ha, hb⟩
        · by_cases hnull : a.nullable prev (word c) = true
          · rw [if_pos hnull] at h
            exact ⟨[], c :: s, rfl, (nullable_iff a prev _).mp hnull,
              (ihb next s).mp h⟩
          · rw [if_neg hnull] at h
            exact h.elim
      · rintro ⟨u, v, huv, ha, hb⟩
        cases u with
        | nil =>
            cases huv
            have hnull : a.nullable prev (word c) = true :=
              (nullable_iff a prev _).mpr ha
            right
            rw [if_pos hnull]
            exact (ihb next s).mpr hb
        | cons d u =>
            obtain ⟨rfl, rfl⟩ := List.cons.inj huv
            exact Or.inl ⟨u, v, rfl, (iha _ u).mpr ha, hb⟩
  | alt a b iha ihb =>
      rw [deriv, matches_orElse, iha, ihb]
      rfl
  | star a iha =>
      rw [deriv, matches_andThen]
      simp only [Matches]
      constructor
      · rintro ⟨u, v, rfl, ha, hrest⟩
        exact Iterates.more prev next (c :: u) v ((iha _ u).mp ha) hrest
      · intro h
        obtain ⟨u, v, rfl, hfirst, hrest⟩ := iterates_cons h
        exact ⟨u, v, rfl, (iha _ u).mpr hfirst, hrest⟩

theorem matchesPrefix_iff (r : Regex) (prev : Bool) (s : List Char) :
    r.matchesPrefix word prev s = true ↔
      ∃ u v, s = u ++ v ∧ r.Matches word prev u (ahead word false v) := by
  induction s generalizing r prev with
  | nil =>
      rw [matchesPrefix, nullable_iff]
      constructor
      · intro h
        exact ⟨[], [], rfl, h⟩
      · rintro ⟨u, v, huv, h⟩
        obtain ⟨rfl, rfl⟩ := List.append_eq_nil_iff.mp huv.symm
        exact h
  | cons c s ih =>
      rw [matchesPrefix, Bool.or_eq_true, nullable_iff, ih]
      constructor
      · rintro (h | ⟨u, v, rfl, h⟩)
        · exact ⟨[], c :: s, rfl, h⟩
        · exact ⟨c :: u, v, rfl, (deriv_iff r prev _ c u).mp h⟩
      · rintro ⟨u, v, huv, h⟩
        cases u with
        | nil =>
            cases huv
            exact Or.inl h
        | cons d u =>
            obtain ⟨rfl, rfl⟩ := List.cons.inj huv
            exact Or.inr ⟨u, v, rfl, (deriv_iff r prev _ c u).mpr h⟩

variable (word) in
/-- The places of the text, counted from `i`, at which a match begins. -/
def starts (r : Regex) (prev : Bool) (i : Nat) : List Char → List Nat
  | [] => if r.matchesPrefix word prev [] then [i] else []
  | c :: s =>
      if r.matchesPrefix word prev (c :: s) then
        i :: r.starts (word c) (i + 1) s
      else r.starts (word c) (i + 1) s

theorem mem_starts_iff (r : Regex) (prev : Bool) (i : Nat) (s : List Char)
    (j : Nat) :
    j ∈ r.starts word prev i s ↔
      ∃ before u after, s = before ++ u ++ after ∧ j = i + before.length ∧
        r.Matches word (behind word prev before) u
          (ahead word false after) := by
  induction s generalizing prev i with
  | nil =>
      rw [starts]
      constructor
      · intro h
        split at h
        case isTrue hmatch =>
          obtain ⟨u, after, hsplit, hu⟩ := (matchesPrefix_iff r prev []).mp hmatch
          exact ⟨[], u, after, hsplit, List.mem_singleton.mp h, hu⟩
        case isFalse => cases h
      · rintro ⟨before, u, after, hs, rfl, h⟩
        obtain ⟨hbu, rfl⟩ := List.append_eq_nil_iff.mp hs.symm
        obtain ⟨rfl, rfl⟩ := List.append_eq_nil_iff.mp hbu
        rw [if_pos ((matchesPrefix_iff r prev []).mpr ⟨[], [], rfl, h⟩)]
        exact List.mem_singleton.mpr rfl
  | cons c s ih =>
      have hcons : j ∈ r.starts word prev i (c :: s) ↔
          (r.matchesPrefix word prev (c :: s) = true ∧ j = i) ∨
            j ∈ r.starts word (word c) (i + 1) s := by
        rw [starts]
        split
        case isTrue hmatch => simp [hmatch]
        case isFalse hmatch => simp [hmatch]
      rw [hcons, ih, matchesPrefix_iff]
      constructor
      · rintro (⟨⟨u, v, huv, h⟩, rfl⟩ | ⟨before, u, after, rfl, rfl, h⟩)
        · exact ⟨[], u, v, huv, rfl, h⟩
        · refine ⟨c :: before, u, after, rfl, ?_, h⟩
          rw [List.length_cons]
          omega
      · rintro ⟨before, u, after, hs, rfl, h⟩
        cases before with
        | nil => exact Or.inl ⟨⟨u, after, hs, h⟩, rfl⟩
        | cons d before =>
            obtain ⟨rfl, rfl⟩ := List.cons.inj hs
            refine Or.inr ⟨before, u, after, rfl, ?_, h⟩
            rw [List.length_cons]
            omega

variable (word) in
def matchesWhole (r : Regex) (prev : Bool) : List Char → Bool
  | [] => r.nullable prev false
  | c :: s => (r.deriv word prev c).matchesWhole (word c) s

variable (word) in
/-- Reading `s`, the pattern neither matches nor can go on. -/
def stuck (r : Regex) (prev : Bool) : List Char → Bool
  | [] =>
      match r with
      | never => true
      | _ => false
  | c :: s =>
      !r.nullable prev (word c) && (r.deriv word prev c).stuck (word c) s

variable (word) in
/-- No match starts within `s`, whatever follows it. -/
def skips (r : Regex) (prev : Bool) : List Char → Bool
  | [] => true
  | c :: s => r.stuck word prev (c :: s) && r.skips (word c) s

theorem never_matchesPrefix (prev : Bool) (s : List Char) :
    never.matchesPrefix word prev s = false := by
  induction s generalizing prev with
  | nil => rfl
  | cons c s ih => exact ih (word c)

theorem matchesPrefix_of_stuck {r : Regex} {prev : Bool} {s : List Char}
    (h : r.stuck word prev s = true) (rest : List Char) :
    r.matchesPrefix word prev (s ++ rest) = false := by
  induction s generalizing r prev with
  | nil =>
      cases r with
      | never => exact never_matchesPrefix prev rest
      | _ => cases h
  | cons c s ih =>
      simp only [stuck, Bool.and_eq_true, Bool.not_eq_true'] at h
      rw [List.cons_append, matchesPrefix, h.1, Bool.false_or]
      exact ih h.2

theorem search_of_skips {r : Regex} {prev : Bool} {s : List Char}
    (h : r.skips word prev s = true) (rest : List Char) :
    r.search word prev (s ++ rest) =
      r.search word (behind word prev s) rest := by
  induction s generalizing prev with
  | nil => rfl
  | cons c s ih =>
      simp only [skips, Bool.and_eq_true] at h
      have hstuck : r.matchesPrefix word prev (c :: (s ++ rest)) = false :=
        matchesPrefix_of_stuck h.1 rest
      rw [List.cons_append, search, hstuck, Bool.false_or]
      exact ih h.2

/-- `r?`. -/
def opt (r : Regex) : Regex := alt r eps

/-- `r+`. -/
def plus (r : Regex) : Regex := seq r (star r)

/-- `r{n}` followed by `rest`. -/
def times : Nat → Regex → Regex → Regex
  | 0, _, rest => rest
  | n + 1, r, rest => seq r (times n r rest)

/-- `r{n,}`. -/
def atLeast (n : Nat) (r : Regex) : Regex := times n r (star r)

/-- `r{0,n}`. -/
def upTo : Nat → Regex → Regex
  | 0, _ => eps
  | n + 1, r => opt (seq r (upTo n r))

/-- One after the other. -/
def concat : List Regex → Regex
  | [] => eps
  | [r] => r
  | r :: rest => seq r (concat rest)

def oneOf : List Regex → Regex
  | [] => never
  | [r] => r
  | r :: rest => alt r (oneOf rest)

/-- A fixed text, letter by letter. -/
def text (same : Char → Char → Bool) (s : String) : Regex :=
  concat (s.toList.map fun c => letter (same c))

end Regex
