/-
The first rows of a table in an order, kept while rows are added and all others
are dropped.
-/
import Mathlib.Data.List.Sort

namespace Ranking

universe u

variable {α : Type u} {r : α → α → Prop} [DecidableRel r]

/-- The first `k` rows in the order. -/
def leading (r : α → α → Prop) [DecidableRel r] (k : Nat) (rows : List α) :
    List α :=
  (rows.insertionSort r).take k

/-- Each of the first `k` rows of the list comes, in the order, before all
rows behind it in the list. -/
def Leads (r : α → α → Prop) : Nat → List α → Prop
  | 0, _ => True
  | _, [] => True
  | k + 1, row :: rest => (∀ other ∈ rest, r row other) ∧ Leads r k rest

instance decidableLeads (r : α → α → Prop) [DecidableRel r] :
    (k : Nat) → (rows : List α) → Decidable (Leads r k rows)
  | 0, _ => isTrue trivial
  | _ + 1, [] => isTrue trivial
  | k + 1, row :: rest =>
      have := decidableLeads r k rest
      inferInstanceAs (Decidable ((∀ other ∈ rest, r row other) ∧ _))

theorem mem_of_mem_leading {k : Nat} {rows : List α} {row : α}
    (h : row ∈ leading r k rows) : row ∈ rows := by
  have hmem := List.mem_of_mem_take h
  simpa using hmem

theorem nodup_leading {k : Nat} {rows : List α} (h : rows.Nodup) :
    (leading r k rows).Nodup := by
  have hsorted : (rows.insertionSort r).Nodup := by
    rwa [(List.perm_insertionSort r rows).nodup_iff]
  exact hsorted.sublist (List.take_sublist k _)

theorem leading_leading_take {j k : Nat} (h : j ≤ k) (rows : List α) :
    (leading r k rows).take j = leading r j rows := by
  simp [leading, List.take_take, h]

theorem take_orderedInsert_take (row : α) (k : Nat) (rows : List α) :
    ((rows.take k).orderedInsert r row).take k =
      (rows.orderedInsert r row).take k := by
  induction rows generalizing k with
  | nil => simp
  | cons first rest ih =>
      cases k with
      | zero => simp
      | succ k =>
          by_cases hrow : r row first
          · cases k with
            | zero => simp [hrow]
            | succ k => simp [hrow, List.take_take]
          · simp [hrow, ih]

section Sorted

variable [Std.Total r] [IsTrans α r]

theorem leading_cons_leading (row : α) (k : Nat) (rows : List α) :
    leading r k (row :: leading r k rows) = leading r k (row :: rows) := by
  have hsorted : (leading r k rows).insertionSort r = leading r k rows :=
    ((List.pairwise_insertionSort r rows).sublist
      (List.take_sublist k _)).insertionSort_eq
  rw [leading, List.insertionSort_cons, hsorted, leading,
    take_orderedInsert_take]
  rfl

theorem leading_of_perm {rows other : List α} (k : Nat)
    (hanti : ∀ a ∈ rows, ∀ b ∈ rows, r a b → r b a → a = b)
    (h : rows.Perm other) : leading r k rows = leading r k other := by
  have hperm : (rows.insertionSort r).Perm (other.insertionSort r) :=
    (List.perm_insertionSort r rows).trans
      (h.trans (List.perm_insertionSort r other).symm)
  have hsame : rows.insertionSort r = other.insertionSort r := by
    refine List.Perm.eq_of_pairwise ?_ (List.pairwise_insertionSort r rows)
      (List.pairwise_insertionSort r other) hperm
    intro a b ha hb
    rw [List.mem_insertionSort] at ha
    have hb' := hperm.symm.subset hb
    rw [List.mem_insertionSort] at hb'
    exact hanti a ha b hb'
  rw [leading, leading, hsame]

theorem leading_filter [DecidableEq α] {k : Nat} {rows : List α}
    (hnodup : rows.Nodup)
    (hanti : ∀ a ∈ rows, ∀ b ∈ rows, r a b → r b a → a = b) :
    leading r k (rows.filter (· ∈ leading r k rows)) = leading r k rows := by
  have hperm : (rows.filter (· ∈ leading r k rows)).Perm
      (leading r k rows) := by
    refine (List.perm_ext_iff_of_nodup (hnodup.filter _)
      (nodup_leading hnodup)).mpr ?_
    intro row
    simp only [List.mem_filter, decide_eq_true_eq]
    exact ⟨And.right, fun h => ⟨mem_of_mem_leading h, h⟩⟩
  have hsorted : (leading r k rows).insertionSort r = leading r k rows :=
    ((List.pairwise_insertionSort r rows).sublist
      (List.take_sublist k _)).insertionSort_eq
  rw [leading_of_perm k _ hperm, leading, hsorted, leading, List.take_take,
    Nat.min_self]
  intro a ha b hb
  exact hanti a (List.mem_of_mem_filter ha) b (List.mem_of_mem_filter hb)

/-- The first rows in the order are the list's first rows iff these lead. -/
theorem leading_eq_take_iff (k : Nat) (rows : List α) :
    leading r k rows = rows.take k ↔ Leads r k rows := by
  induction rows generalizing k with
  | nil => cases k <;> simp [leading, Leads]
  | cons row rest ih =>
      cases k with
      | zero => simp [leading, Leads]
      | succ k =>
          constructor
          · intro h
            have hsorted := List.pairwise_insertionSort r (row :: rest)
            obtain ⟨others, hothers⟩ : ∃ others,
                (row :: rest).insertionSort r = row :: others := by
              cases hsort : (row :: rest).insertionSort r with
              | nil => simp [leading, hsort] at h
              | cons first others =>
                  simp only [leading, hsort, List.take_succ_cons,
                    List.cons.injEq] at h
                  exact ⟨others, by rw [h.1]⟩
            have hperm : others.Perm rest := by
              have hall := List.perm_insertionSort r (row :: rest)
              rw [hothers] at hall
              exact hall.cons_inv
            rw [hothers, List.pairwise_cons] at hsorted
            have hfirst : ∀ other ∈ rest, r row other := fun other hother =>
              hsorted.1 other (hperm.symm.subset hother)
            refine ⟨hfirst, (ih k).mp ?_⟩
            rw [leading, List.insertionSort_cons_of_forall_rel r hfirst] at h
            simpa [leading] using h
          · rintro ⟨hfirst, hrest⟩
            rw [leading, List.insertionSort_cons_of_forall_rel r hfirst]
            simpa [leading] using (ih k).mpr hrest

end Sorted

omit [DecidableRel r] in
theorem Leads.mono {j k : Nat} (h : j ≤ k) {rows : List α}
    (hleads : Leads r k rows) : Leads r j rows := by
  induction rows generalizing j k with
  | nil => cases j <;> simp [Leads]
  | cons row rest ih =>
      cases j with
      | zero => trivial
      | succ j =>
          cases k with
          | zero => simp at h
          | succ k => exact ⟨hleads.1, ih (Nat.le_of_succ_le_succ h) hleads.2⟩

end Ranking
