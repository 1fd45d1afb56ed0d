/-
Binary64 numbers without their sign: rounding, and the shortest decimal that is
read as a number.
-/
import Mathlib.Data.List.DropRight
import Mathlib.Data.Rat.Floor
import Mathlib.Tactic.Positivity

namespace Binary64

/-- How often the least positive number goes into one. -/
def unit : Nat := 2 ^ 1074

/-- From here on there are only infinities. -/
def limit : Nat := 2 ^ 2098

/-- The weight of the last of 53 bits. -/
def ulp (n : Nat) : Nat := 2 ^ (Nat.log2 n - 52)

/-- The number has at most 53 significant bits. -/
def Fits (units : Nat) : Prop := ulp units ∣ units

instance (units : Nat) : Decidable (Fits units) :=
  inferInstanceAs (Decidable (_ ∣ _))

def nearestEven (q : Rat) : Nat :=
  let low := q.floor.toNat
  let rest := q - low
  if rest < 1 / 2 then low
  else if 1 / 2 < rest then low + 1
  else if low % 2 = 0 then low
  else low + 1

/-- The number that a nonnegative rational is read as. -/
def nearest (q : Rat) : Nat :=
  let scaled := q * unit
  let step := ulp scaled.floor.toNat
  nearestEven (scaled / step) * step

structure Finite where
  negative : Bool
  units : Nat
  fits : Fits units
  below : units < limit
deriving DecidableEq

namespace Finite

variable (x : Finite)

def isInteger : Bool := x.units % unit == 0

/-- The integer that is left without the fraction. -/
def truncate : Int :=
  if x.negative then -(x.units / unit : Nat) else (x.units / unit : Nat)

end Finite

/-- The float that a rational is read as; zero where it is too large. -/
def Finite.ofRat (q : Rat) : Finite :=
  if h : Fits (nearest |q|) ∧ nearest |q| < limit then
    ⟨decide (q < 0), nearest |q|, h.1, h.2⟩
  else ⟨false, 0, by decide, by decide +kernel⟩

/-- `digits * 10 ^ exponent`. -/
structure Decimal where
  digits : Nat
  exponent : Int
deriving DecidableEq

def Decimal.value (d : Decimal) : Rat := d.digits * (10 : Rat) ^ d.exponent

/-- The decimals with this exponent next to a number, the closer one first. -/
def neighbours (q : Rat) (exponent : Int) : List Decimal :=
  let scaled := q / (10 : Rat) ^ exponent
  let low := scaled.floor.toNat
  let rest := scaled - low
  if rest < 1 / 2 ∨ rest = 1 / 2 ∧ low % 2 = 0 then
    [⟨low, exponent⟩, ⟨low + 1, exponent⟩]
  else [⟨low + 1, exponent⟩, ⟨low, exponent⟩]

/-- The point of a positive number `0.d₁d₂… * 10 ^ point` with `d₁` not
zero. -/
def pointOf (q : Rat) : Int :=
  if 1 ≤ q then (Nat.toDigits 10 q.floor.toNat).length
  else 1 - (Nat.toDigits 10 (q⁻¹.ceil.toNat - 1)).length

/-- The decimals of up to 17 digits next to a number, shorter ones first. -/
def nearby (q : Rat) : List Decimal :=
  (List.range 17).flatMap fun k => neighbours q (pointOf q - 1 - k)

/-- The shortest decimal that is read as the number, the closest one of
these.  The number in full is read as itself. -/
def shortest (units : Nat) : Decimal :=
  ((nearby (units / unit)).find? fun d => nearest d.value = units).getD
    ⟨units * 5 ^ 1074, -1074⟩

theorem floor_natCast (n : Nat) : (n : Rat).floor.toNat = n := by
  change ((n : Int) : Rat).floor.toNat = n
  rw [Rat.floor_intCast, Int.toNat_natCast]

theorem nearestEven_natCast (n : Nat) : nearestEven n = n := by
  simp [nearestEven, floor_natCast]

theorem ulp_pos (n : Nat) : 0 < ulp n := Nat.two_pow_pos _

theorem unit_pos : 0 < unit := by
  rw [unit]
  positivity

theorem unit_ne_zero : (unit : Rat) ≠ 0 :=
  Nat.cast_ne_zero.mpr (Nat.ne_of_gt unit_pos)

theorem nearest_of_fits {units : Nat} (h : Fits units) :
    nearest (units / unit) = units := by
  obtain ⟨m, hm⟩ := h
  have hstep : ((ulp units : Nat) : Rat) ≠ 0 :=
    Nat.cast_ne_zero.mpr (Nat.ne_of_gt (ulp_pos units))
  have hquotient : (units : Rat) / (ulp units : Nat) = (m : Nat) := by
    rw [div_eq_iff hstep, mul_comm]
    exact_mod_cast hm
  unfold nearest
  dsimp only
  rw [div_mul_cancel₀ _ unit_ne_zero]
  rw [floor_natCast, hquotient, nearestEven_natCast, mul_comm]
  exact hm.symm

/-- A multiple of `2 ^ -places` as a decimal with that many places. -/
theorem value_full (units places : Nat) :
    Decimal.value ⟨units * 5 ^ places, -places⟩ =
      units / ((2 ^ places : Nat) : Rat) := by
  have hten : (10 : Rat) ^ places = 5 ^ places * 2 ^ places := by
    rw [← mul_pow]
    norm_num
  unfold Decimal.value
  dsimp only
  rw [zpow_neg, zpow_natCast, hten, Nat.cast_mul, Nat.cast_pow, Nat.cast_pow]
  push_cast
  field_simp

theorem nearest_shortest {units : Nat} (h : Fits units) :
    nearest (shortest units).value = units := by
  unfold shortest
  cases hfind : (nearby (units / unit)).find? fun d =>
      nearest d.value = units with
  | none =>
      have hvalue := value_full units 1074
      rw [Option.getD_none]
      rw [Nat.cast_ofNat] at hvalue
      rw [hvalue]
      exact nearest_of_fits h
  | some d =>
      rw [Option.getD_some]
      have hfound := List.find?_some hfind
      exact of_decide_eq_true hfound

theorem nearest_zero : nearest 0 = 0 := by
  unfold nearest
  dsimp only
  rw [zero_mul, zero_div]
  have hzero := nearestEven_natCast 0
  rw [Nat.cast_zero] at hzero
  rw [hzero, Nat.zero_mul]

theorem shortest_pos {units : Nat} (h : 0 < units) :
    0 < (shortest units).digits := by
  unfold shortest
  cases hfind : (nearby (units / unit)).find? fun d =>
      nearest d.value = units with
  | none =>
      have hfive (k : Nat) : 0 < units * 5 ^ k := by positivity
      exact hfive 1074
  | some d =>
      have hfound := List.find?_some hfind
      have hread : nearest d.value = units := of_decide_eq_true hfound
      apply Nat.pos_of_ne_zero
      intro hzero
      rw [Option.getD_some] at hzero
      rw [Decimal.value, hzero, Nat.cast_zero, zero_mul, nearest_zero] at hread
      exact absurd hread (Nat.ne_of_lt h)

theorem nearestEven_bounds (q : Rat) :
    q.floor.toNat ≤ nearestEven q ∧ nearestEven q ≤ q.floor.toNat + 1 := by
  unfold nearestEven
  dsimp only
  split
  · omega
  split
  · omega
  split
  · omega
  · omega

theorem floor_div (m n : Nat) : ((m : Rat) / n).floor.toNat = m / n := by
  have hfloor := Rat.floor_intCast_div_natCast m n
  rw [Int.cast_natCast] at hfloor
  change ⌊(m : Rat) / n⌋.toNat = m / n
  rw [hfloor]
  rfl

theorem nearest_natCast (m : Nat) :
    ∃ k, nearest m = k * ulp (m * unit) ∧ m * unit / ulp (m * unit) ≤ k ∧
      k ≤ m * unit / ulp (m * unit) + 1 := by
  have hscaled : (m : Rat) * unit = ((m * unit : Nat) : Rat) := by
    rw [Nat.cast_mul]
  have hbounds := nearestEven_bounds
    (((m * unit : Nat) : Rat) / (ulp (m * unit) : Nat))
  rw [floor_div] at hbounds
  refine ⟨_, ?_, hbounds⟩
  unfold nearest
  dsimp only
  rw [hscaled, floor_natCast]

theorem ulp_le {n : Nat} (h : 0 < n) : ulp n ≤ n := by
  calc
    ulp n ≤ 2 ^ Nat.log2 n :=
      Nat.pow_le_pow_right (by decide) (Nat.sub_le _ _)
    _ ≤ n := Nat.log2_self_le (Nat.ne_of_gt h)

theorem nearest_natCast_bounds {m : Nat} (h : 0 < m) :
    0 < nearest m ∧ nearest m ≤ 2 * (m * unit) := by
  obtain ⟨k, hk, hlow, hhigh⟩ := nearest_natCast m
  have hscaled : 0 < m * unit := Nat.mul_pos h unit_pos
  have hstep := ulp_le hscaled
  have hone := Nat.div_pos hstep (ulp_pos _)
  rw [hk]
  constructor
  · exact Nat.mul_pos (Nat.lt_of_lt_of_le hone hlow) (ulp_pos _)
  · calc
      k * ulp (m * unit) ≤
          (m * unit / ulp (m * unit) + 1) * ulp (m * unit) :=
        Nat.mul_le_mul_right _ hhigh
      _ = m * unit / ulp (m * unit) * ulp (m * unit) + ulp (m * unit) :=
        Nat.succ_mul _ _
      _ ≤ m * unit + m * unit :=
        Nat.add_le_add (Nat.div_mul_le_self _ _) hstep
      _ = 2 * (m * unit) := (Nat.two_mul _).symm

theorem unit_dvd_nearest (m : Nat) : unit ∣ nearest m := by
  obtain ⟨k, hk, hlow, hhigh⟩ := nearest_natCast m
  obtain ⟨places, hplaces⟩ : ∃ places, unit = 2 ^ places := ⟨1074, rfl⟩
  rcases Nat.le_total places (Nat.log2 (m * unit) - 52) with hbig | hsmall
  · have hstep : 2 ^ places ∣ ulp (m * unit) := Nat.pow_dvd_pow 2 hbig
    rw [← hplaces] at hstep
    rw [hk]
    exact Dvd.dvd.mul_left hstep k
  · have hstep : ulp (m * unit) ∣ 2 ^ places := Nat.pow_dvd_pow 2 hsmall
    rw [← hplaces] at hstep
    have hdvd : ulp (m * unit) ∣ m * unit := Dvd.dvd.mul_left hstep m
    have hexact : nearest m = m * unit := by
      have hread := nearest_of_fits hdvd
      rw [Nat.cast_mul, mul_div_cancel_right₀ _ unit_ne_zero] at hread
      exact hread
    rw [hexact]
    exact Dvd.intro_left m rfl

end Binary64
