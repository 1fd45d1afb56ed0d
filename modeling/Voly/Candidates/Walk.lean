/-
Walking a list of candidates: the unusable ones are passed over, the others
called in turn until one succeeds.
-/
import Mathlib.Data.List.Basic

namespace Candidates

/-- How candidates `C` are judged under the exclusions `X`. -/
structure Rules (C X : Type) where
  usable : X → C → Bool
  succeeds : C → Bool
  exclude : X → C → X

namespace Rules

variable {C X : Type} (rules : Rules C X)

/-- The candidates that are called. -/
def walk : X → List C → List C
  | _, [] => []
  | x, c :: rest =>
      if rules.usable x c then
        c :: if rules.succeeds c then [] else walk (rules.exclude x c) rest
      else walk x rest

/-- The walk that also ends with the first call at position `n` or later,
read from position `i` on. -/
def walkUntil (n : Int) : Nat → X → List C → List C
  | _, _, [] => []
  | i, x, c :: rest =>
      if rules.usable x c then
        c :: if rules.succeeds c ∨ n ≤ i then []
          else walkUntil n (i + 1) (rules.exclude x c) rest
      else walkUntil n (i + 1) x rest

/-- The exclusions after the calls of a walk that goes on to the end. -/
def after : X → List C → X
  | x, [] => x
  | x, c :: rest =>
      if rules.usable x c then after (rules.exclude x c) rest
      else after x rest

/-- Some call of the walk succeeds. -/
def answered : X → List C → Bool
  | _, [] => false
  | x, c :: rest =>
      if rules.usable x c then
        rules.succeeds c || answered (rules.exclude x c) rest
      else answered x rest

def firstUsable (x : X) (l : List C) : List C :=
  (l.find? (rules.usable x)).toList

variable {rules} {x : X} {c : C} {rest : List C}

theorem walk_skip (h : rules.usable x c = false) :
    rules.walk x (c :: rest) = rules.walk x rest := by
  simp [walk, h]

theorem walk_call (h : rules.usable x c = true)
    (hfails : rules.succeeds c = false) :
    rules.walk x (c :: rest) = c :: rules.walk (rules.exclude x c) rest := by
  simp [walk, h, hfails]

theorem walk_done (h : rules.usable x c = true)
    (hsucceeds : rules.succeeds c = true) :
    rules.walk x (c :: rest) = [c] := by
  simp [walk, h, hsucceeds]

theorem walkUntil_skip {n : Int} {i : Nat} (h : rules.usable x c = false) :
    rules.walkUntil n i x (c :: rest) = rules.walkUntil n (i + 1) x rest := by
  simp [walkUntil, h]

theorem walkUntil_last {n : Int} {i : Nat} (h : rules.usable x c = true)
    (hlast : rules.succeeds c = true ∨ n ≤ i) :
    rules.walkUntil n i x (c :: rest) = [c] := by
  simp [walkUntil, h, hlast]

theorem walkUntil_call {n : Int} {i : Nat} (h : rules.usable x c = true)
    (hfails : rules.succeeds c = false) (hn : ¬n ≤ i) :
    rules.walkUntil n i x (c :: rest) =
      c :: rules.walkUntil n (i + 1) (rules.exclude x c) rest := by
  have hgoes : ¬(rules.succeeds c = true ∨ n ≤ i) := by
    simp [hfails, hn]
  rw [walkUntil, if_pos h, if_neg hgoes]

theorem walk_append (x : X) (l l' : List C) :
    rules.walk x (l ++ l') =
      rules.walk x l ++
        if rules.answered x l then [] else rules.walk (rules.after x l) l' := by
  induction l generalizing x with
  | nil => simp [walk, answered, after]
  | cons c l ih =>
      by_cases husable : rules.usable x c = true
      · by_cases hsucceeds : rules.succeeds c = true
        · simp [walk, answered, husable, hsucceeds]
        · simp [walk, answered, after, husable, hsucceeds, ih]
      · simp [walk, answered, after, husable, ih]

theorem mem_walk_iff (x : X) (l : List C) (c : C) :
    c ∈ rules.walk x l ↔
      ∃ before rest, l = before ++ c :: rest ∧
        rules.answered x before = false ∧
        rules.usable (rules.after x before) c = true := by
  induction l generalizing x with
  | nil => simp [walk]
  | cons d l ih =>
      by_cases husable : rules.usable x d = true
      · by_cases hsucceeds : rules.succeeds d = true
        · rw [walk_done husable hsucceeds, List.mem_singleton]
          constructor
          · rintro rfl
            exact ⟨[], l, rfl, rfl, husable⟩
          · rintro ⟨before, rest, hl, hanswered, _⟩
            cases before with
            | nil => exact (List.cons.inj hl).1.symm
            | cons e before =>
                obtain ⟨rfl, _⟩ := List.cons.inj hl
                simp [answered, husable, hsucceeds] at hanswered
        · rw [walk_call husable (by simpa using hsucceeds), List.mem_cons, ih]
          constructor
          · rintro (rfl | ⟨before, rest, rfl, hanswered, hc⟩)
            · exact ⟨[], l, rfl, rfl, husable⟩
            · refine ⟨d :: before, rest, rfl, ?_, ?_⟩
              · simpa [answered, husable, hsucceeds] using hanswered
              · simpa [after, husable] using hc
          · rintro ⟨before, rest, hl, hanswered, hc⟩
            cases before with
            | nil => exact Or.inl (List.cons.inj hl).1.symm
            | cons e before =>
                obtain ⟨rfl, rfl⟩ := List.cons.inj hl
                refine Or.inr ⟨before, rest, rfl, ?_, ?_⟩
                · simpa [answered, husable, hsucceeds] using hanswered
                · simpa [after, husable] using hc
      · rw [walk_skip (by simpa using husable), ih]
        constructor
        · rintro ⟨before, rest, rfl, hanswered, hc⟩
          refine ⟨d :: before, rest, rfl, ?_, ?_⟩
          · simpa [answered, husable] using hanswered
          · simpa [after, husable] using hc
        · rintro ⟨before, rest, hl, hanswered, hc⟩
          cases before with
          | nil =>
              obtain ⟨rfl, _⟩ := List.cons.inj hl
              exact (husable hc).elim
          | cons e before =>
              obtain ⟨rfl, rfl⟩ := List.cons.inj hl
              refine ⟨before, rest, rfl, ?_, ?_⟩
              · simpa [answered, husable] using hanswered
              · simpa [after, husable] using hc

theorem walk_eq_nil_iff (x : X) (l : List C) :
    rules.walk x l = [] ↔ ∀ c ∈ l, rules.usable x c = false := by
  induction l with
  | nil => simp [walk]
  | cons c l ih =>
      by_cases husable : rules.usable x c = true
      · simp [walk, husable]
      · simp [walk, husable, ih]

theorem walkUntil_eq_nil_iff (n : Int) (i : Nat) (x : X) (l : List C) :
    rules.walkUntil n i x l = [] ↔ ∀ c ∈ l, rules.usable x c = false := by
  induction l generalizing i with
  | nil => simp [walkUntil]
  | cons c l ih =>
      by_cases husable : rules.usable x c = true
      · simp [walkUntil, husable]
      · simp [walkUntil, husable, ih]

/-- From position `n` on the first usable candidate is the last call. -/
theorem walkUntil_late {n : Int} {i : Nat} (h : n ≤ i) (x : X) (l : List C) :
    rules.walkUntil n i x l = rules.firstUsable x l := by
  induction l generalizing i with
  | nil => rfl
  | cons c l ih =>
      by_cases husable : rules.usable x c = true
      · rw [walkUntil_last husable (Or.inr h)]
        simp [firstUsable, husable]
      · have hskip : rules.usable x c = false := by
          simpa using husable
        have hlater : n ≤ (i + 1 : Nat) := by
          omega
        rw [walkUntil_skip hskip, ih hlater]
        simp [firstUsable, hskip]

/-- Up to position `n` the two walks call the same candidates. -/
theorem walkUntil_early (i k : Nat) (x : X) (l : List C) :
    rules.walkUntil (i + k : Nat) i x l =
      rules.walk x (l.take k) ++
        if rules.answered x (l.take k) then []
        else rules.firstUsable (rules.after x (l.take k)) (l.drop k) := by
  induction k generalizing i x l with
  | zero =>
      rw [walkUntil_late (by omega)]
      simp [walk, answered, after]
  | succ k ih =>
      cases l with
      | nil => simp [walkUntil, walk, answered, after, firstUsable]
      | cons c l =>
          have hshift : i + (k + 1) = i + 1 + k := by
            omega
          by_cases husable : rules.usable x c = true
          · by_cases hsucceeds : rules.succeeds c = true
            · rw [walkUntil_last husable (Or.inl hsucceeds)]
              simp [walk, answered, husable, hsucceeds]
            · have hfails : rules.succeeds c = false := by
                simpa using hsucceeds
              rw [walkUntil_call husable hfails (by omega), hshift, ih]
              simp [walk, answered, after, husable, hfails]
          · have hskip : rules.usable x c = false := by
              simpa using husable
            rw [walkUntil_skip hskip, hshift, ih]
            simp [walk, answered, after, hskip]

theorem firstUsable_eq_iff (x : X) (l : List C) :
    rules.firstUsable x l = rules.walk x (l.take 1) ↔
      ∀ c ∈ l.drop 1, rules.usable x c = true →
        ∃ head, l.head? = some head ∧ rules.usable x head = true := by
  cases l with
  | nil => simp [firstUsable, walk]
  | cons head l =>
      by_cases husable : rules.usable x head = true
      · simp [firstUsable, walk, husable]
      · have hskip : rules.usable x head = false := by
          simpa using husable
        have hwalk : rules.walk x ((head :: l).take 1) = [] := by
          simp [walk, hskip]
        rw [hwalk]
        simp [firstUsable, hskip]

/-- Breaking after position `i + k` calls the candidates up to there unless that
one is passed over. -/
theorem walkUntil_eq_walk_iff (i k : Nat) (x : X) (l : List C) :
    rules.walkUntil (i + k : Nat) i x l = rules.walk x (l.take (k + 1)) ↔
      (rules.answered x (l.take k) = false →
        ∀ c ∈ l.drop (k + 1),
          rules.usable (rules.after x (l.take k)) c = true →
          ∃ next, l[k]? = some next ∧
            rules.usable (rules.after x (l.take k)) next = true) := by
  have hwindow : l.take (k + 1) = l.take k ++ (l.drop k).take 1 :=
    List.take_add
  have htail : l.drop (k + 1) = (l.drop k).drop 1 := by
    rw [List.drop_drop]
  have hnext : l[k]? = (l.drop k).head? := by
    rw [List.head?_drop]
  rw [walkUntil_early, hwindow, walk_append, htail, hnext,
    List.append_cancel_left_eq]
  by_cases hanswered : rules.answered x (l.take k) = true
  · simp [hanswered]
  · have hnone : rules.answered x (l.take k) = false := by
      simpa using hanswered
    rw [if_neg hanswered, if_neg hanswered, firstUsable_eq_iff]
    simp [hnone]

theorem walkUntil_forall {P : C → Prop} {I : X → Prop}
    (husable : ∀ x c, I x → rules.usable x c = true → P c)
    (hexclude : ∀ x c, I x → I (rules.exclude x c)) {n : Int} {i : Nat}
    {x : X} (hx : I x) (l : List C) : ∀ c ∈ rules.walkUntil n i x l, P c := by
  induction l generalizing i x with
  | nil =>
      intro c hc
      cases hc
  | cons d l ih =>
      by_cases hd : rules.usable x d = true
      · by_cases hlast : rules.succeeds d = true ∨ n ≤ i
        · rw [walkUntil_last hd hlast]
          intro c hc
          rw [List.mem_singleton.mp hc]
          exact husable x d hx hd
        · obtain ⟨hfails, hn⟩ := not_or.mp hlast
          rw [walkUntil_call hd (by simpa using hfails) hn]
          intro c hc
          rcases List.mem_cons.mp hc with rfl | hc
          · exact husable x c hx hd
          · exact ih (hexclude x d hx) c hc
      · rw [walkUntil_skip (by simpa using hd)]
        exact ih hx

/-- Stricter rules change nothing for a walk that calls only what they allow. -/
theorem walk_restrict {P : C → Bool} {R : X → X → Prop}
    (husable : ∀ x x' c, R x x' →
      rules.usable x' c = (rules.usable x c && P c))
    (hexclude : ∀ x x' c, R x x' →
      R (rules.exclude x c) (rules.exclude x' c))
    {x x' : X} (hR : R x x') (l : List C)
    (hcalled : ∀ c ∈ rules.walk x l, P c = true) :
    rules.walk x' l = rules.walk x l ∧
      rules.answered x' l = rules.answered x l ∧
      (rules.answered x l = false →
        R (rules.after x l) (rules.after x' l)) := by
  induction l generalizing x x' with
  | nil => exact ⟨rfl, rfl, fun _ => hR⟩
  | cons c l ih =>
      have hc := husable x x' c hR
      by_cases hcall : rules.usable x c = true
      · have hallowed : P c = true := by
          apply hcalled
          simp [walk, hcall]
        rw [hcall, hallowed, Bool.and_true] at hc
        by_cases hsucceeds : rules.succeeds c = true
        · refine ⟨?_, ?_, ?_⟩
          · rw [walk_done hc hsucceeds, walk_done hcall hsucceeds]
          · simp [answered, hc, hcall, hsucceeds]
          · intro hnone
            simp [answered, hcall, hsucceeds] at hnone
        · have hfails : rules.succeeds c = false := by
            simpa using hsucceeds
          rw [walk_call hcall hfails] at hcalled
          obtain ⟨hwalk, hanswered, hafter⟩ := ih (hexclude x x' c hR)
            fun d hd => hcalled d (List.mem_cons_of_mem c hd)
          refine ⟨?_, ?_, ?_⟩
          · rw [walk_call hc hfails, walk_call hcall hfails, hwalk]
          · simpa [answered, hc, hcall, hfails] using hanswered
          · simpa [answered, after, hc, hcall, hfails] using hafter
      · have hskip : rules.usable x c = false := by
          simpa using hcall
        rw [hskip, Bool.false_and] at hc
        rw [walk_skip hskip] at hcalled
        obtain ⟨hwalk, hanswered, hafter⟩ := ih hR hcalled
        refine ⟨?_, ?_, ?_⟩
        · rw [walk_skip hc, walk_skip hskip, hwalk]
        · simpa [answered, hc, hskip] using hanswered
        · simpa [answered, after, hc, hskip] using hafter

end Rules

end Candidates
