/-
Sliding windows over the times of events that were let through only while few
were counted.
-/
import Mathlib.Data.List.Basic
import Mathlib.Tactic.Linarith

namespace Timing

universe u

variable {T : Type u} [LinearOrder T]

/-- The events from a moment on. -/
def since (a : T) (times : List T) : Nat :=
  times.countP fun t => decide (a ≤ t)

theorem since_append (a : T) (xs ys : List T) :
    since a (xs ++ ys) = since a xs + since a ys :=
  List.countP_append

theorem since_eq_zero {a : T} {times : List T} (h : ∀ t ∈ times, t < a) :
    since a times = 0 := by
  rw [since, List.countP_eq_zero]
  intro t ht hle
  exact absurd (of_decide_eq_true hle) (not_le_of_gt (h t ht))

variable [AddCommGroup T]

/-- The events in the half-open window of width `w` from a moment on. -/
def within (w a : T) (times : List T) : Nat :=
  times.countP fun t => decide (a ≤ t ∧ t < a + w)

/-- The events that are younger than `w`. -/
def recent (w now : T) (times : List T) : List T :=
  times.filter fun t => decide (now - t < w)

/-- At most `r` events a window, and all young ones but `debt` are counted. -/
structure Limited (w : T) (r debt : Nat) (now : T) (counted events : List T) :
    Prop where
  past : ∀ t ∈ events, t ≤ now
  known : ∀ a, now < a + w → since a events ≤ since a counted + debt
  window : ∀ a, within w a events ≤ r

variable {w now now' a : T} {r debt : Nat} {counted events : List T}

theorem within_append (w a : T) (xs ys : List T) :
    within w a (xs ++ ys) = within w a xs + within w a ys :=
  List.countP_append

theorem within_le_since (w a : T) (times : List T) :
    within w a times ≤ since a times := by
  apply List.countP_mono_left
  intro t _ ht
  exact decide_eq_true (of_decide_eq_true ht).1

theorem limited_nil (w : T) (r : Nat) (now : T) (counted : List T) :
    Limited w r 0 now counted [] where
  past := nofun
  known _ _ := Nat.zero_le _
  window _ := Nat.zero_le _

theorem Limited.later (h : Limited w r debt now counted events)
    (hnow : now ≤ now') : Limited w r debt now' counted events where
  past t ht := (h.past t ht).trans hnow
  known a ha := h.known a (lt_of_le_of_lt hnow ha)
  window := h.window

/-- An event happens while fewer than `r` are counted. -/
theorem Limited.happen (h : Limited w r 0 now counted events)
    (hroom : ∀ a, now < a + w → since a counted < r) :
    Limited w r 1 now counted (events ++ [now]) where
  past := by
    intro t ht
    rcases List.mem_append.mp ht with ht | ht
    · exact h.past t ht
    · rw [List.mem_singleton.mp ht]
  known := by
    intro a ha
    rw [since_append]
    exact Nat.add_le_add (h.known a ha) List.countP_le_length
  window := by
    intro a
    rw [within_append]
    by_cases hin : a ≤ now ∧ now < a + w
    · -- every event of the window is still counted
      have hbefore : within w a events ≤ since a counted :=
        (within_le_since w a events).trans (h.known a hin.2)
      have hone : within w a [now] ≤ 1 := List.countP_le_length
      have hlt := hroom a hin.2
      omega
    · have hnone : within w a [now] = 0 := by
        rw [within, List.countP_eq_zero]
        intro t ht hwithin
        rw [List.mem_singleton.mp ht] at hwithin
        exact hin (of_decide_eq_true hwithin)
      rw [hnone]
      exact h.window a

variable [IsOrderedAddMonoid T]

/-- What is younger than `w` now is in every window that is still open. -/
theorem since_le_recent (hnow : now ≤ now') (ha : now' < a + w) :
    since a counted ≤ (recent w now counted).length := by
  rw [recent, ← List.countP_eq_length_filter]
  apply List.countP_mono_left
  intro t _ ht
  apply decide_eq_true
  have hle : a ≤ t := of_decide_eq_true ht
  calc now - t ≤ now' - a := sub_le_sub hnow hle
    _ < w := sub_left_lt_of_lt_add ha

theorem Limited.count (h : Limited w r 1 now counted events) :
    Limited w r 0 now (recent w now (counted ++ [now])) events where
  past := h.past
  known := by
    intro a ha
    have hkept : since a (recent w now (counted ++ [now])) =
        since a (counted ++ [now]) := by
      rw [since, recent, List.countP_filter]
      apply List.countP_congr
      intro t _
      have hyoung : a ≤ t → now - t < w := by
        intro hle
        calc now - t ≤ now - a := sub_le_sub_left hle now
          _ < w := sub_left_lt_of_lt_add ha
      simpa using hyoung
    rw [hkept, since_append]
    by_cases hle : a ≤ now
    · have hone : since a [now] = 1 := by simp [since, hle]
      rw [hone]
      exact h.known a ha
    · have hzero : since a events = 0 :=
        since_eq_zero fun t ht => lt_of_le_of_lt (h.past t ht) (not_le.mp hle)
      rw [hzero]
      exact Nat.zero_le _
  window := h.window

end Timing
