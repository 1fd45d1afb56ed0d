/-
Numbers in the Worker: the nearest double of a text, and the shortest digits of
a double.
-/
import Voly.Python.Repr
import Voly.Worker.Json

namespace Worker

open Python Binary64

/-- `Number::toString` has an exponent below `1e-6` and from `1e21` on. -/
def ecmaStyle : Style where
  least := -6
  greatest := 21
  exponentDigits := 1
  wholeSuffix := []

/-- `JSON.stringify` of a double that is not negative; infinity is `null`. -/
def stringifyUnits (units : Nat) : List Char :=
  if units = 0 then ['0']
  else if limit ≤ units then ['n', 'u', 'l', 'l']
  else ecmaStyle.layout (shortest units).text (shortest units).point

/-- `JSON.stringify(JSON.parse(text))` for a number, or a word of JSON. -/
def numberText (text : List Char) : List Char :=
  if text.any Char.isDigit then
    let units := nearest (magnitude text)
    (if text.head? = some '-' ∧ 0 < units ∧ units < limit then ['-']
      else []) ++ stringifyUnits units
  else text

theorem stringifyUnits_letters (units : Nat) :
    ∀ c ∈ stringifyUnits units, atomic c = true := by
  unfold stringifyUnits
  split
  · decide
  split
  · decide
  · intro c hc
    exact atomic_of_numeral (ecmaStyle.layout_letters
      (shortest units).text_digits (List.forall_mem_nil _) c hc)

theorem stringifyUnits_ne_nil (units : Nat) : stringifyUnits units ≠ [] := by
  unfold stringifyUnits
  split
  · exact List.cons_ne_nil _ _
  split
  · exact List.cons_ne_nil _ _
  · next hzero _ =>
      obtain ⟨c, rest, hlayout, _⟩ := @Style.layout_head ecmaStyle _
        (shortest units).point (shortest units).text_digits
        (Decimal.text_ne_nil (shortest_pos (Nat.pos_of_ne_zero hzero)))
      rw [hlayout]
      exact List.cons_ne_nil _ _

theorem numberText_shape (x : AtomText) :
    (!(numberText x.text).isEmpty && (numberText x.text).all atomic) =
      true := by
  unfold numberText
  split
  · dsimp only
    rw [Bool.and_eq_true, Bool.not_eq_true', List.isEmpty_eq_false_iff,
      List.all_eq_true, List.forall_mem_append]
    refine ⟨?_, ?_, stringifyUnits_letters _⟩
    · exact List.append_ne_nil_of_right_ne_nil _ (stringifyUnits_ne_nil _)
    · split
      · decide
      · exact List.forall_mem_nil _
  · exact x.shape

/-- The number or word that the Worker writes for the one it has read. -/
def numberAtom (x : AtomText) : AtomText :=
  ⟨numberText x.text, numberText_shape x⟩

/-- `JSON.parse` of a text without NaN and infinities. -/
def parseJson (text : List Char) : Option Doc :=
  (loads text).map (Doc.mapAtoms numberAtom)

theorem magnitude_negative (text : List Char) :
    magnitude ('-' :: text) = magnitude text := rfl

/-- The shortest decimal of the nearest double is the integer itself, and the
integer has at most 21 digits. -/
def ShortInteger (n : Nat) : Prop :=
  n = 0 ∨ n < 10 ^ 21 ∧ (shortest (nearest n)).value = n

instance (n : Nat) : Decidable (ShortInteger n) :=
  inferInstanceAs (Decidable (_ ∨ _))

theorem layout_integer {d : Decimal} {n : Nat} (hpos : 0 < n)
    (hvalue : d.value = n) (hlength : n < 10 ^ 21) :
    ecmaStyle.layout d.text d.point = Nat.toDigits 10 n := by
  obtain ⟨htext, hpoint⟩ := Decimal.text_of_value hpos hvalue
  have hsize : (Nat.toDigits 10 n).length ≤ 21 :=
    (Nat.length_toDigits_le_iff (by decide) (by decide)).mpr hlength
  have hone : 0 < (Nat.toDigits 10 n).length := Nat.length_toDigits_pos
  obtain ⟨k, hk⟩ := Decimal.exists_zeros ⟨n, 0⟩
  change Nat.toDigits 10 n = _ at hk
  have hfull : (Decimal.text ⟨n, 0⟩) = d.text := htext.symm
  rw [hfull] at hk
  have hcount := congrArg List.length hk
  rw [List.length_append, List.length_replicate] at hcount
  have hzeros : d.point.toNat - d.text.length = k := by omega
  unfold Style.layout Style.inFull
  rw [if_pos (by change -6 < _ ∧ _ ≤ 21; omega), if_neg (by omega),
    if_pos (by omega), hzeros, hk]
  exact List.append_nil _

theorem integer_of_layout {d : Decimal} {n : Nat}
    (h : ecmaStyle.layout d.text d.point = Nat.toDigits 10 n) :
    n < 10 ^ 21 ∧ d.value = n := by
  have hno (c : Char) (hc : c.isDigit = false) : c ∉ Nat.toDigits 10 n := by
    intro hmem
    rw [Python.isDigit_of_mem_digits hmem] at hc
    cases hc
  unfold Style.layout at h
  split at h
  · next hrange =>
      unfold Style.inFull at h
      split at h
      · have hpoint : '.' ∈ Nat.toDigits 10 n := by
          rw [← h]
          exact List.mem_cons_of_mem _ List.mem_cons_self
        exact absurd hpoint (hno '.' rfl)
      split at h
      · next hpos hwhole =>
          have happend : d.text ++ List.replicate
              (d.point.toNat - d.text.length) '0' = Nat.toDigits 10 n := by
            rw [← h]
            exact (List.append_nil _).symm
          have hlength := congrArg List.length happend
          rw [List.length_append, List.length_replicate] at hlength
          have hpower : d.point - d.text.length =
              ((d.point.toNat - d.text.length : Nat) : Int) := by omega
          have hrange' : d.point ≤ 21 := hrange.2
          have hdigits := @Nat.ofDigitChars_ten_toDigits n
          rw [← happend, Nat.ofDigitChars_append,
            Nat.ofDigitChars_replicate_zero] at hdigits
          constructor
          · exact (Nat.length_toDigits_le_iff (by decide) (by decide)).mp
              (by omega)
          · rw [d.value_eq_text, hpower, zpow_natCast, mul_comm]
            exact_mod_cast hdigits
      · have hpoint : '.' ∈ Nat.toDigits 10 n := by
          rw [← h]
          exact List.mem_append_right _ List.mem_cons_self
        exact absurd hpoint (hno '.' rfl)
  · have hmark : 'e' ∈ Nat.toDigits 10 n := by
      rw [← h]
      exact ecmaStyle.mark_mem_scientific
    exact absurd hmark (hno 'e' rfl)

theorem limit_large : 2 * (10 ^ 21 * unit) < limit := by decide +kernel

theorem intText_eq (n : Int) :
    intText n = (if n < 0 then ['-'] else []) ++ Nat.toDigits 10 n.natAbs := by
  cases n with
  | ofNat n => rfl
  | negSucc n =>
      rw [if_pos (Int.negSucc_lt_zero n)]
      rfl

theorem numberText_signed (negative : Prop) [Decidable negative] {c : Char}
    {body rest : List Char} (hbody : body = c :: rest)
    (hc : c.isDigit = true) :
    numberText ((if negative then ['-'] else []) ++ body) =
      (if negative ∧ 0 < nearest (magnitude body) ∧
          nearest (magnitude body) < limit then ['-'] else []) ++
        stringifyUnits (nearest (magnitude body)) := by
  have hany : body.any Char.isDigit = true := by
    rw [hbody, List.any_cons, hc, Bool.true_or]
  have hplain : body.head? ≠ some '-' := by
    rw [hbody]
    rintro heq
    cases heq
    cases hc
  unfold numberText
  by_cases hneg : negative
  · rw [if_pos hneg, List.singleton_append, List.any_cons, hany,
      Bool.or_true, if_pos rfl, magnitude_negative]
    simp only [List.head?_cons, true_and, hneg]
  · rw [if_neg hneg, List.nil_append, if_pos hany]
    simp only [hplain, hneg, false_and]

theorem numberText_int (n : Int) :
    numberText (intText n) =
      (if n < 0 ∧ 0 < nearest n.natAbs ∧ nearest n.natAbs < limit then ['-']
        else []) ++ stringifyUnits (nearest n.natAbs) := by
  have hne : Nat.toDigits 10 n.natAbs ≠ [] := Nat.toDigits_ne_nil
  obtain ⟨c, rest, hdigits⟩ := List.exists_cons_of_ne_nil hne
  have hc : c.isDigit = true := by
    apply Python.isDigit_of_mem_digits (n := n.natAbs)
    rw [hdigits]
    exact List.mem_cons_self
  rw [intText_eq, numberText_signed (n < 0) hdigits hc, magnitude_toDigits]

theorem numberText_int_iff (n : Int) :
    numberText (intText n) = intText n ↔ ShortInteger n.natAbs := by
  rcases Nat.eq_zero_or_pos n.natAbs with hzero | hpos
  · rw [Int.natAbs_eq_zero.mp hzero]
    refine iff_of_true ?_ (Or.inl rfl)
    rw [numberText_int, Int.natAbs_zero, Nat.cast_zero, nearest_zero]
    rfl
  · obtain ⟨hread, hbound⟩ := nearest_natCast_bounds hpos
    have hsome : ¬nearest n.natAbs = 0 := Nat.ne_of_gt hread
    rw [numberText_int]
    unfold stringifyUnits
    rw [if_neg hsome]
    by_cases hlimit : limit ≤ nearest n.natAbs
    · rw [if_pos hlimit, if_neg fun h => Nat.not_lt.mpr hlimit h.2.2]
      refine iff_of_false ?_ ?_
      · intro heq
        have hmem : 'n' ∈ intText n := by
          rw [← heq]
          exact List.mem_cons_self
        rcases intText_letters n 'n' hmem with hdigit | hsign
        · cases hdigit
        · cases hsign
      · rintro (hzero | ⟨hsmall, _⟩)
        · exact absurd hzero (Nat.ne_of_gt hpos)
        · have hunit : n.natAbs * unit ≤ 10 ^ 21 * unit :=
            Nat.mul_le_mul_right _ (Nat.le_of_lt hsmall)
          have hlarge := limit_large
          omega
    · have hbelow := Nat.lt_of_not_le hlimit
      have hsign : (n < 0 ∧ 0 < nearest n.natAbs ∧
          nearest n.natAbs < limit) ↔ n < 0 :=
        and_iff_left ⟨hread, hbelow⟩
      rw [if_neg hlimit, intText_eq, if_congr hsign rfl rfl,
        List.append_cancel_left_eq]
      constructor
      · intro h
        exact Or.inr (integer_of_layout h)
      · rintro (hzero | ⟨hsmall, hvalue⟩)
        · exact absurd hzero (Nat.ne_of_gt hpos)
        · exact layout_integer hpos hvalue hsmall

theorem point_lt_length {units : Nat} (hfits : Fits units)
    (hfraction : ¬unit ∣ units) :
    (shortest units).point < (shortest units).text.length := by
  by_contra hwhole
  apply hfraction
  obtain ⟨k, hk⟩ : ∃ k : Nat, (shortest units).point -
      (shortest units).text.length = k :=
    Int.eq_ofNat_of_zero_le (by omega)
  have hread := nearest_shortest hfits
  have hvalue := (shortest units).value_eq_text
  rw [hk, zpow_natCast] at hvalue
  have hinteger : (shortest units).value =
      ((Nat.ofDigitChars 10 (shortest units).text 0 * 10 ^ k : Nat) : Rat) := by
    rw [hvalue]
    push_cast
    rfl
  rw [hinteger] at hread
  rw [← hread]
  exact unit_dvd_nearest _

/-- The two languages write an exponent or none, and write it alike. -/
def PlainPoint (point : Int) : Prop :=
  point ≤ -9 ∨ -4 < point ∧ point ≤ 16 ∨ 21 < point

instance (point : Int) : Decidable (PlainPoint point) :=
  inferInstanceAs (Decidable (_ ∨ _ ∧ _ ∨ _))

theorem leftpad_of_length {n k : Nat}
    (h : k ≤ (Nat.toDigits 10 n).length) :
    (Nat.toDigits 10 n).leftpad k '0' = Nat.toDigits 10 n := by
  rw [List.leftpad, Nat.sub_eq_zero_of_le h]
  rfl

theorem leftpad_two (n : Nat) :
    (Nat.toDigits 10 n).leftpad 2 '0' = (Nat.toDigits 10 n).leftpad 1 '0' ↔
      10 ≤ n := by
  have hone : 0 < (Nat.toDigits 10 n).length := Nat.length_toDigits_pos
  have hsize : (Nat.toDigits 10 n).length ≤ 1 ↔ n < 10 ^ 1 :=
    Nat.length_toDigits_le_iff (by decide) (by decide)
  rw [leftpad_of_length hone]
  constructor
  · intro h
    have hlength := congrArg List.length h
    rw [List.length_leftpad] at hlength
    omega
  · intro h
    exact leftpad_of_length (by omega)

theorem layouts_eq_iff {digits : List Char} {point : Int}
    (hdigits : ∀ c ∈ digits, c.isDigit = true)
    (h : point < digits.length) :
    ecmaStyle.layout digits point = reprStyle.layout digits point ↔
      PlainPoint point := by
  have hscientific :
      ecmaStyle.scientific digits point = reprStyle.scientific digits point ↔
        10 ≤ (point - 1).natAbs := by
    rw [Style.scientific_eq_iff]
    exact Iff.trans eq_comm (leftpad_two _)
  have hmixed : ecmaStyle.inFull digits point ≠
      reprStyle.scientific digits point := by
    intro heq
    have hmem := @Style.mark_mem_scientific reprStyle digits point
    rw [← heq] at hmem
    exact Style.mark_not_mem_inFull hdigits h hmem
  have hecma : ecmaStyle.layout digits point =
      if -6 < point ∧ point ≤ 21 then ecmaStyle.inFull digits point
      else ecmaStyle.scientific digits point := rfl
  have hrepr : reprStyle.layout digits point =
      if -4 < point ∧ point ≤ 16 then reprStyle.inFull digits point
      else reprStyle.scientific digits point := rfl
  rw [hecma, hrepr]
  unfold PlainPoint
  by_cases hfull : -4 < point ∧ point ≤ 16
  · rw [if_pos hfull, if_pos (by omega)]
    exact iff_of_true (Style.inFull_of_fraction h) (Or.inr (Or.inl hfull))
  · rw [if_neg hfull]
    by_cases hshown : -6 < point ∧ point ≤ 21
    · rw [if_pos hshown]
      exact iff_of_false hmixed (by omega)
    · rw [if_neg hshown, hscientific]
      omega

/-- Where Python's text of a number is the Worker's. -/
def PlainNumber : Number → Prop
  | .int n => ShortInteger n.natAbs
  | .float x => PlainPoint (shortest x.units).point

instance (x : Number) : Decidable (PlainNumber x) := by
  cases x <;> unfold PlainNumber <;> infer_instance

theorem numberText_float_iff (x : Finite) (h : x.isInteger = false) :
    numberText (Number.repr (.float x)) = Number.repr (.float x) ↔
      PlainPoint (shortest x.units).point := by
  have hfraction : ¬unit ∣ x.units := by
    intro hdvd
    rw [Finite.isInteger, beq_eq_false_iff_ne] at h
    exact h (Nat.mod_eq_zero_of_dvd hdvd)
  have hpos : 0 < x.units := by
    apply Nat.pos_of_ne_zero
    intro hzero
    rw [hzero] at hfraction
    exact hfraction (Nat.dvd_zero unit)
  have hpoint := point_lt_length x.fits hfraction
  have hdigits := shortest_pos hpos
  have htext : Number.repr (.float x) =
      (if x.negative = true then ['-'] else []) ++
        reprStyle.layout (shortest x.units).text (shortest x.units).point := by
    change _ ++ reprUnits x.units = _
    rw [reprUnits, if_neg (Nat.ne_of_gt hpos)]
  obtain ⟨c, rest, hlayout, hc⟩ := @Style.layout_head reprStyle _
    (shortest x.units).point (shortest x.units).text_digits
    (Decimal.text_ne_nil hdigits)
  have hread : nearest (magnitude (reprStyle.layout (shortest x.units).text
      (shortest x.units).point)) = x.units := by
    rw [magnitude_layout hdigits hpoint, nearest_shortest x.fits]
  have hsign : (x.negative = true ∧ 0 < x.units ∧ x.units < limit) ↔
      x.negative = true := and_iff_left ⟨hpos, x.below⟩
  rw [htext, numberText_signed (x.negative = true) hlayout hc, hread,
    if_congr hsign rfl rfl, List.append_cancel_left_eq, stringifyUnits,
    if_neg (Nat.ne_of_gt hpos), if_neg (Nat.not_le.mpr x.below)]
  exact layouts_eq_iff (shortest x.units).text_digits hpoint

theorem numberText_normalize_iff (x : Number) :
    numberText x.normalize.repr = x.normalize.repr ↔
      PlainNumber x.normalize := by
  cases x with
  | int n => exact numberText_int_iff n
  | float x =>
      by_cases h : x.isInteger = true
      · have hint : (Number.float x).normalize = .int x.truncate := if_pos h
        rw [hint]
        exact numberText_int_iff x.truncate
      · have hfloat : (Number.float x).normalize = .float x := if_neg h
        rw [hfloat]
        exact numberText_float_iff x (Bool.eq_false_iff.mpr h)

end Worker
