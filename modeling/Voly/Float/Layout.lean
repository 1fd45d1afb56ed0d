/-
The text of a decimal: its digits, laid out with a point or with an exponent.
-/
import Voly.Float.Binary64

namespace Binary64

/-- When a language writes an exponent, and how. -/
structure Style where
  least : Int
  greatest : Int
  exponentDigits : Nat
  wholeSuffix : List Char

namespace Style

variable (style : Style)

/-- All the digits, around the point. -/
def inFull (digits : List Char) (point : Int) : List Char :=
  if point ≤ 0 then
    '0' :: '.' :: (List.replicate (-point).toNat '0' ++ digits)
  else if digits.length ≤ point then
    digits ++ List.replicate (point.toNat - digits.length) '0' ++
      style.wholeSuffix
  else digits.take point.toNat ++ '.' :: digits.drop point.toNat

/-- One digit, the other digits and the power of ten. -/
def scientific (digits : List Char) (point : Int) : List Char :=
  let rest := digits.drop 1
  digits.take 1 ++ (if rest = [] then [] else '.' :: rest) ++
    'e' :: (if point < 1 then '-' else '+') ::
      (Nat.toDigits 10 (point - 1).natAbs).leftpad style.exponentDigits '0'

def layout (digits : List Char) (point : Int) : List Char :=
  if style.least < point ∧ point ≤ style.greatest then
    style.inFull digits point
  else style.scientific digits point

end Style

namespace Decimal

variable (d : Decimal)

/-- The digits up to the last that is not zero. -/
def text : List Char := (Nat.toDigits 10 d.digits).rdropWhile (· == '0')

def point : Int := (Nat.toDigits 10 d.digits).length + d.exponent

end Decimal

theorem isDigit_of_mem_toDigits {n : Nat} {c : Char}
    (h : c ∈ Nat.toDigits 10 n) : c.isDigit = true :=
  Nat.isDigit_of_mem_toDigits (by decide) (by decide) h

theorem toDigits_mul_pow {n : Nat} (hpos : 0 < n) (k : Nat) :
    Nat.toDigits 10 (n * 10 ^ k) =
      Nat.toDigits 10 n ++ List.replicate k '0' := by
  induction k with
  | zero => rw [pow_zero, Nat.mul_one, List.replicate_zero, List.append_nil]
  | succ k ih =>
      have hlast : Nat.toDigits 10 0 = ['0'] := Nat.toDigits_zero 10
      have happend := Nat.toDigits_append_toDigits (b := 10)
        (n := n * 10 ^ k) (d := 0) (by decide) (by positivity) (by decide)
      rw [hlast, ih, Nat.add_zero] at happend
      rw [pow_succ, ← Nat.mul_assoc, Nat.mul_comm _ 10, ← happend,
        List.append_assoc, List.replicate_succ']

theorem rdropWhile_append_zeros (digits : List Char) (k : Nat) :
    (digits ++ List.replicate k '0').rdropWhile (· == '0') =
      digits.rdropWhile (· == '0') := by
  induction k with
  | zero => rw [List.replicate_zero, List.append_nil]
  | succ k ih =>
      rw [List.replicate_succ', ← List.append_assoc,
        List.rdropWhile_concat_pos _ _ _ rfl, ih]

namespace Decimal

variable (d : Decimal)

theorem exists_zeros :
    ∃ k, Nat.toDigits 10 d.digits = d.text ++ List.replicate k '0' := by
  have happend := List.rdropWhile_append_rtakeWhile (p := (· == '0'))
    (l := Nat.toDigits 10 d.digits)
  have hzeros : ∀ c ∈ (Nat.toDigits 10 d.digits).rtakeWhile (· == '0'),
      c = '0' := by
    intro c hc
    have hzero := List.mem_rtakeWhile_imp hc
    exact beq_iff_eq.mp hzero
  rw [List.eq_replicate_of_mem hzeros] at happend
  exact ⟨_, happend.symm⟩

theorem text_digits : ∀ c ∈ d.text, c.isDigit = true := by
  intro c hc
  obtain ⟨k, hk⟩ := d.exists_zeros
  apply isDigit_of_mem_toDigits (n := d.digits)
  rw [hk]
  exact List.mem_append_left _ hc

variable {d}

theorem text_ne_nil (hpos : 0 < d.digits) : d.text ≠ [] := by
  intro hnil
  obtain ⟨k, hk⟩ := d.exists_zeros
  have hread := @Nat.ofDigitChars_ten_toDigits d.digits
  rw [hk, hnil, List.nil_append, Nat.ofDigitChars_replicate_zero,
    Nat.mul_zero] at hread
  exact absurd hread (Nat.ne_of_lt hpos)

variable (d)

theorem value_eq_text :
    d.value = (Nat.ofDigitChars 10 d.text 0 : Nat) *
      (10 : Rat) ^ (d.point - d.text.length) := by
  obtain ⟨k, hk⟩ := d.exists_zeros
  have hread := @Nat.ofDigitChars_ten_toDigits d.digits
  have hlength := congrArg List.length hk
  rw [List.length_append, List.length_replicate] at hlength
  rw [hk, Nat.ofDigitChars_append, Nat.ofDigitChars_replicate_zero] at hread
  have hpower : d.point - d.text.length = k + d.exponent := by
    unfold point
    omega
  rw [hpower, zpow_add₀ (by norm_num), zpow_natCast, ← mul_assoc, value]
  congr 1
  rw [← hread]
  push_cast
  ring

variable {d}

theorem text_of_value {n : Nat} (hpos : 0 < n) (h : d.value = n) :
    d.text = (Nat.toDigits 10 n).rdropWhile (· == '0') ∧
      d.point = (Nat.toDigits 10 n).length := by
  unfold value at h
  obtain ⟨k, hk | hk⟩ := Int.eq_nat_or_neg d.exponent
  · rw [hk, zpow_natCast] at h
    have hn : d.digits * 10 ^ k = n := by exact_mod_cast h
    have hdigits : 0 < d.digits := by
      apply Nat.pos_of_ne_zero
      intro hzero
      rw [hzero, Nat.zero_mul] at hn
      exact absurd hn (Nat.ne_of_lt hpos)
    rw [text, point, ← hn, toDigits_mul_pow hdigits, rdropWhile_append_zeros,
      List.length_append, List.length_replicate, hk, Nat.cast_add]
    exact ⟨rfl, rfl⟩
  · have hne : (10 : Rat) ^ k ≠ 0 := by positivity
    rw [hk, zpow_neg, zpow_natCast, ← div_eq_mul_inv, div_eq_iff hne] at h
    have hn : d.digits = n * 10 ^ k := by exact_mod_cast h
    rw [text, point, hn, toDigits_mul_pow hpos, rdropWhile_append_zeros,
      List.length_append, List.length_replicate, hk, Nat.cast_add]
    refine ⟨rfl, ?_⟩
    omega

end Decimal

/-- A letter of a number. -/
def numeral (c : Char) : Bool := c.isDigit || ".e+-".toList.contains c

theorem numeral_of_isDigit {c : Char} (h : c.isDigit = true) :
    numeral c = true := by
  rw [numeral, h, Bool.true_or]

namespace Style

variable (style : Style) {digits : List Char} {point : Int}

section

variable (hdigits : ∀ c ∈ digits, c.isDigit = true)
include hdigits

theorem inFull_letters (hsuffix : ∀ c ∈ style.wholeSuffix, numeral c = true) :
    ∀ c ∈ style.inFull digits point, numeral c = true := by
  have hall : ∀ c ∈ digits, numeral c = true :=
    fun c hc => numeral_of_isDigit (hdigits c hc)
  have hzeros (k : Nat) : ∀ c ∈ List.replicate k '0', numeral c = true := by
    intro c hc
    rw [List.eq_of_mem_replicate hc]
    decide
  unfold inFull
  split
  · rw [List.forall_mem_cons, List.forall_mem_cons, List.forall_mem_append]
    exact ⟨by decide, by decide, hzeros _, hall⟩
  split
  · rw [List.forall_mem_append, List.forall_mem_append]
    exact ⟨⟨hall, hzeros _⟩, hsuffix⟩
  · rw [List.forall_mem_append, List.forall_mem_cons]
    refine ⟨fun c hc => hall c (List.mem_of_mem_take hc), by decide, ?_⟩
    exact fun c hc => hall c (List.mem_of_mem_drop hc)

theorem scientific_letters :
    ∀ c ∈ style.scientific digits point, numeral c = true := by
  have hall : ∀ c ∈ digits, numeral c = true :=
    fun c hc => numeral_of_isDigit (hdigits c hc)
  have hrest : ∀ c ∈ digits.drop 1, numeral c = true :=
    fun c hc => hall c (List.mem_of_mem_drop hc)
  unfold scientific List.leftpad
  dsimp only
  rw [List.append_assoc, List.forall_mem_append, List.forall_mem_append,
    List.forall_mem_cons, List.forall_mem_cons, List.forall_mem_append]
  refine ⟨fun c hc => hall c (List.mem_of_mem_take hc), ?_, by decide, ?_,
    ?_, ?_⟩
  · split
    · exact List.forall_mem_nil _
    · exact List.forall_mem_cons.mpr ⟨by decide, hrest⟩
  · split
    · decide
    · decide
  · intro c hc
    rw [List.eq_of_mem_replicate hc]
    decide
  · exact fun c hc => numeral_of_isDigit (isDigit_of_mem_toDigits hc)

theorem layout_letters (hsuffix : ∀ c ∈ style.wholeSuffix, numeral c = true) :
    ∀ c ∈ style.layout digits point, numeral c = true := by
  unfold layout
  split
  · exact style.inFull_letters hdigits hsuffix
  · exact style.scientific_letters hdigits

end

theorem mark_mem_scientific : 'e' ∈ style.scientific digits point :=
  List.mem_append_right _ List.mem_cons_self

theorem layout_head (hdigits : ∀ c ∈ digits, c.isDigit = true)
    (hne : digits ≠ []) :
    ∃ c rest, style.layout digits point = c :: rest ∧ c.isDigit = true := by
  obtain ⟨c, tail, rfl⟩ := List.exists_cons_of_ne_nil hne
  have hc := hdigits c List.mem_cons_self
  unfold layout
  split
  · unfold inFull
    split
    · exact ⟨'0', _, rfl, by decide⟩
    split
    · exact ⟨c, _, rfl, hc⟩
    · next hpos _ =>
        obtain ⟨n, hn⟩ : ∃ n, point.toNat = n + 1 :=
          Nat.exists_eq_add_one.mpr (by omega)
        rw [hn]
        exact ⟨c, _, rfl, hc⟩
  · exact ⟨c, _, rfl, hc⟩

variable {style} {other : Style}

theorem inFull_of_fraction (h : point < digits.length) :
    style.inFull digits point = other.inFull digits point := by
  unfold inFull
  rw [if_neg (Int.not_le.mpr h), if_neg (Int.not_le.mpr h)]

theorem mark_not_mem_inFull (hdigits : ∀ c ∈ digits, c.isDigit = true)
    (h : point < digits.length) : 'e' ∉ style.inFull digits point := by
  have hnot : 'e' ∉ digits := fun hmem => absurd (hdigits _ hmem) (by decide)
  unfold inFull
  rw [if_neg (Int.not_le.mpr h)]
  split
  · simp [List.mem_replicate, hnot]
  · intro hmem
    rw [List.mem_append, List.mem_cons] at hmem
    rcases hmem with htake | hpoint | hdrop
    · exact hnot (List.mem_of_mem_take htake)
    · cases hpoint
    · exact hnot (List.mem_of_mem_drop hdrop)

theorem scientific_eq_iff :
    style.scientific digits point = other.scientific digits point ↔
      (Nat.toDigits 10 (point - 1).natAbs).leftpad style.exponentDigits '0' =
        (Nat.toDigits 10 (point - 1).natAbs).leftpad other.exponentDigits
          '0' := by
  unfold scientific
  dsimp only
  rw [List.append_cancel_left_eq, List.cons_inj_right, List.cons_inj_right]

end Style

end Binary64
