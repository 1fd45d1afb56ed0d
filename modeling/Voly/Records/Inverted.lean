/-
Inverted indexes: the ids that are listed under each key.
-/
import Voly.Python.Text

namespace Inverted

open Python

variable {I : Type} [DecidableEq I]

/-- The ids under a key, an empty set for a key that is not there. -/
def ids (index : Dict (List I)) (key : String) : List I :=
  (index.get? key).getD []

/-- `index.setdefault(key, set()).add(id)`. -/
def insert (id : I) (index : Dict (List I)) (key : String) : Dict (List I) :=
  let held := ids index key
  index.set key (if id ∈ held then held else held ++ [id])

/-- `index.get(key, set()).discard(id)`. -/
def discard (id : I) (index : Dict (List I)) (key : String) :
    Dict (List I) :=
  match index.get? key with
  | none => index
  | some held => index.set key (held.filter (· ≠ id))

def insertAll (index : Dict (List I)) (id : I) (keys : List String) :
    Dict (List I) :=
  keys.foldl (insert id) index

def discardAll (index : Dict (List I)) (id : I) (keys : List String) :
    Dict (List I) :=
  keys.foldl (discard id) index

variable {index : Dict (List I)} {id x : I} {key other : String}

theorem mem_insert : x ∈ ids (insert id index key) other ↔
    x ∈ ids index other ∨ x = id ∧ key = other := by
  by_cases hother : key = other
  · subst hother
    by_cases hheld : id ∈ ids index key
    · have hsame : ids (insert id index key) key = ids index key := by
        rw [insert, if_pos hheld]
        simp [ids]
      rw [hsame]
      refine ⟨Or.inl, fun h => h.elim (fun h => h) fun h => ?_⟩
      rw [h.1]
      exact hheld
    · have hadded : ids (insert id index key) key = ids index key ++ [id] := by
        rw [insert, if_neg hheld]
        simp [ids]
      simp [hadded]
  · simp [ids, insert, hother]

theorem mem_discard : x ∈ ids (discard id index key) other ↔
    x ∈ ids index other ∧ ¬(x = id ∧ key = other) := by
  rw [discard]
  cases hkey : index.get? key with
  | none =>
      have hnone : key = other → x ∉ ids index other := by
        rintro rfl
        simp [ids, hkey]
      exact ⟨fun h => ⟨h, fun hsame => hnone hsame.2 h⟩, And.left⟩
  | some held =>
      by_cases hother : key = other
      · subst hother
        simp [ids, hkey]
      · simp [ids, hother]

theorem mem_insertAll {keys : List String} :
    x ∈ ids (insertAll index id keys) other ↔
      x ∈ ids index other ∨ x = id ∧ other ∈ keys := by
  induction keys generalizing index with
  | nil => simp [insertAll]
  | cons key keys ih =>
      have hrest : x ∈ ids (insertAll (insert id index key) id keys) other ↔
          _ := ih
      rw [insertAll] at hrest ⊢
      rw [List.foldl_cons, hrest, mem_insert, List.mem_cons, or_assoc,
        ← and_or_left, @eq_comm _ key other]

theorem mem_discardAll {keys : List String} :
    x ∈ ids (discardAll index id keys) other ↔
      x ∈ ids index other ∧ ¬(x = id ∧ other ∈ keys) := by
  induction keys generalizing index with
  | nil => simp [discardAll]
  | cons key keys ih =>
      have hrest : x ∈ ids (discardAll (discard id index key) id keys) other ↔
          _ := ih
      rw [discardAll] at hrest ⊢
      rw [List.foldl_cons, hrest, mem_discard, List.mem_cons, and_assoc,
        ← not_or, ← and_or_left, @eq_comm _ key other]

end Inverted
