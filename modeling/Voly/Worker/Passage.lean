/-
Numbers on their way through a worker: nearest double, shortest digits, and what
Python reads.
-/
import Voly.Python.JsonFields

namespace Binary64

variable (x : Finite)

def Finite.value : Rat :=
  if x.negative then -(x.units / unit : Rat) else x.units / unit

/-- `float(q)`, for a number in range. -/
def toFloat (q : Rat) : Rat := (Finite.ofRat q).value

theorem units_div_nonneg (units : Nat) : (0 : Rat) ≤ units / unit :=
  div_nonneg (Nat.cast_nonneg _) (Nat.cast_nonneg _)

theorem Finite.abs_value : |x.value| = x.units / unit := by
  rw [value]
  split
  · rw [abs_neg, abs_of_nonneg (units_div_nonneg _)]
  · rw [abs_of_nonneg (units_div_nonneg _)]

theorem Finite.value_eq :
    x.value = if x.value < 0 then -(x.units / unit : Rat)
      else x.units / unit := by
  by_cases hsign : x.value < 0
  · rw [if_pos hsign, ← x.abs_value, abs_of_neg hsign, neg_neg]
  · rw [if_neg hsign, ← x.abs_value, abs_of_nonneg (not_lt.mp hsign)]

theorem toFloat_eq {q : Rat} (hunits : nearest |q| = x.units)
    (hsign : q < 0 ↔ x.value < 0) : toFloat q = x.value := by
  have hread : Fits (nearest |q|) ∧ nearest |q| < limit := by
    rw [hunits]
    exact ⟨x.fits, x.below⟩
  rw [x.value_eq, toFloat, Finite.ofRat, dif_pos hread, Finite.value]
  simp only [hunits, decide_eq_true_eq, hsign]

theorem toFloat_value : toFloat x.value = x.value := by
  apply toFloat_eq x _ Iff.rfl
  rw [x.abs_value, nearest_of_fits x.fits]

@[simp] theorem toFloat_toFloat (q : Rat) : toFloat (toFloat q) = toFloat q :=
  toFloat_value (Finite.ofRat q)

end Binary64

namespace Worker

open Python Binary64

/-- The number that Python reads in what `JSON.stringify` writes; infinity is
`null`. -/
def written (units : Nat) : Option Rat :=
  if limit ≤ units then none
  else if unit ∣ units ∧ units < 10 ^ 21 * unit then
    some (shortest units).value
  else some (units / unit)

/-- What Python reads for a number that it sent. -/
def passed (q : Rat) : Option Rat :=
  (written (nearest |q|)).map fun size => if q < 0 then -size else size

/-- The number comes back as it was. -/
def Kept (q : Rat) : Prop := passed q = some q

instance (q : Rat) : Decidable (Kept q) := inferInstanceAs (Decidable (_ = _))

theorem decimal_nonneg (d : Decimal) : 0 ≤ d.value :=
  mul_nonneg (Nat.cast_nonneg _) (zpow_nonneg (by norm_num) _)

theorem nearest_written {units : Nat} {size : Rat} (hfits : Fits units)
    (h : written units = some size) : 0 ≤ size ∧ nearest size = units := by
  rw [written] at h
  split at h
  · cases h
  split at h
  · cases h
    exact ⟨decimal_nonneg _, nearest_shortest hfits⟩
  · cases h
    exact ⟨units_div_nonneg units, nearest_of_fits hfits⟩

theorem toFloat_passed (x : Finite) :
    ∃ q, passed x.value = some q ∧ toFloat q = x.value := by
  have hunits : nearest |x.value| = x.units := by
    rw [x.abs_value, nearest_of_fits x.fits]
  obtain ⟨size, hsize⟩ : ∃ size, written x.units = some size := by
    rw [written, if_neg (not_le.mpr x.below)]
    split <;> exact ⟨_, rfl⟩
  obtain ⟨hnonneg, hread⟩ := nearest_written x.fits hsize
  refine ⟨if x.value < 0 then -size else size, ?_, ?_⟩
  · rw [passed, hunits, hsize]
    rfl
  · apply toFloat_eq
    · split
      · rw [abs_neg, abs_of_nonneg hnonneg, hread]
      · rw [abs_of_nonneg hnonneg, hread]
    · by_cases hsign : x.value < 0
      · -- a size of zero would be read as zero
        have hpos : size ≠ 0 := by
          rintro rfl
          rw [nearest_zero] at hread
          rw [x.value_eq, ← hread] at hsign
          rw [Nat.cast_zero, zero_div, neg_zero, ite_self] at hsign
          exact lt_irrefl 0 hsign
        simp [hsign, lt_of_le_of_ne hnonneg (Ne.symm hpos)]
      · simp [hsign, not_lt.mpr hnonneg]

def passNumber (q : Rat) : Json := ((passed q).map Json.num).getD .null

mutual

/-- A value as the worker sends it on. -/
def handOn : Json → Json
  | .null => .null
  | .bool value => .bool value
  | .num q => passNumber q
  | .str s => .str s
  | .arr items => .arr (passItems items)
  | .obj fields => .obj (passFields fields)

def passItems : List Json → List Json
  | [] => []
  | item :: rest => handOn item :: passItems rest

def passFields : List (String × Json) → List (String × Json)
  | [] => []
  | (key, item) :: rest => (key, handOn item) :: passFields rest

end

mutual

def numbers : Json → List Rat
  | .null => []
  | .bool _ => []
  | .num q => [q]
  | .str _ => []
  | .arr items => numbersOfItems items
  | .obj fields => numbersOfFields fields

def numbersOfItems : List Json → List Rat
  | [] => []
  | item :: rest => numbers item ++ numbersOfItems rest

def numbersOfFields : List (String × Json) → List Rat
  | [] => []
  | (_, item) :: rest => numbers item ++ numbersOfFields rest

end

theorem passNumber_of_kept {q : Rat} (h : Kept q) : passNumber q = .num q := by
  rw [Kept] at h
  rw [passNumber, h, Option.map_some, Option.getD_some]

mutual

theorem pass_of_kept : (value : Json) → (∀ q ∈ numbers value, Kept q) →
    handOn value = value
  | .null, _ => by rw [handOn]
  | .bool _, _ => by rw [handOn]
  | .num q, h => by
      have hmem : q ∈ numbers (.num q) := by
        rw [numbers]
        exact List.mem_singleton_self q
      rw [handOn]
      exact passNumber_of_kept (h q hmem)
  | .str _, _ => by rw [handOn]
  | .arr items, h => by
      rw [numbers] at h
      rw [handOn, passItems_of_kept items h]
  | .obj fields, h => by
      rw [numbers] at h
      rw [handOn, passFields_of_kept fields h]

theorem passItems_of_kept : (items : List Json) →
    (∀ q ∈ numbersOfItems items, Kept q) → passItems items = items
  | [], _ => rfl
  | item :: rest, h => by
      rw [numbersOfItems] at h
      rw [passItems, pass_of_kept item fun q hq =>
          h q (List.mem_append_left _ hq),
        passItems_of_kept rest fun q hq => h q (List.mem_append_right _ hq)]

theorem passFields_of_kept : (fields : List (String × Json)) →
    (∀ q ∈ numbersOfFields fields, Kept q) → passFields fields = fields
  | [], _ => rfl
  | (key, item) :: rest, h => by
      rw [numbersOfFields] at h
      rw [passFields, pass_of_kept item fun q hq =>
          h q (List.mem_append_left _ hq),
        passFields_of_kept rest fun q hq => h q (List.mem_append_right _ hq)]

end

theorem get?_passFields (fields : Dict Json) (key : String) :
    Dict.get? (passFields fields) key = (fields.get? key).map handOn := by
  induction fields with
  | nil => rfl
  | cons field rest ih =>
      obtain ⟨k, item⟩ := field
      rw [passFields, Dict.get?, Dict.get?, ih]
      split <;> rfl

end Worker
