/-
Numbers of JSON documents by their text and the value of its digits; what
`float` and `int` read.
-/
import Voly.Float.Binary64
import Voly.Python.Json
import Voly.Python.JsonDoc

namespace Python

/-- The exponent behind `e` or `E`. -/
def exponentOf (text : List Char) : Int :=
  let power := (text.dropWhile fun c => c != 'e' && c != 'E').drop 1
  let size : Nat := Nat.ofDigitChars 10 (power.filter Char.isDigit) 0
  if power.head? = some '-' then -size else size

/-- The size of a JSON number, its sign left out. -/
def magnitude (text : List Char) : Rat :=
  let body := text.takeWhile fun c => c != 'e' && c != 'E'
  let places := ((body.dropWhile fun c => c != '.').drop 1).length
  let whole : Nat := Nat.ofDigitChars 10 (body.filter Char.isDigit) 0
  whole * (10 : Rat) ^ (exponentOf text - places)

/-- A number that Python reads as zero; a float may be too small for any
other. -/
def isZero (text : List Char) : Bool :=
  isJsonNumber text &&
    if text.any floatMark || text.contains 'E' then
      decide (magnitude text ≤ 1 / 2 ^ 1075)
    else decide (magnitude text = 0)

structure JsonNumber where
  text : List Char
  shape : (isJsonNumber text && !text.isEmpty && text.all atomic) = true
deriving DecidableEq

namespace JsonNumber

variable (x : JsonNumber)

def value : Rat :=
  if x.text.head? = some '-' then -magnitude x.text else magnitude x.text

def toDoc : Doc :=
  .atom ⟨x.text, by
    have hshape := x.shape
    simp only [Bool.and_eq_true] at hshape ⊢
    exact ⟨hshape.1.2, hshape.2⟩⟩

end JsonNumber

/-- `bool(value)`. -/
def truthy : Doc → Bool
  | .atom x =>
      !(["null", "false"].contains (String.ofList x.text) || isZero x.text)
  | .str s => s != ""
  | .list items => !items.isEmpty
  | .dict items => !items.isEmpty

/-- `data.get(key) or ...`. -/
def truthyField (data : Doc) (key : String) : Option Doc :=
  (data.field? key).filter truthy

def intDoc (n : Int) : Doc :=
  .atom ⟨intText n, by
    simp only [Bool.and_eq_true, Bool.not_eq_true', List.isEmpty_eq_false_iff,
      List.all_eq_true]
    refine ⟨intText_ne_nil n, ?_⟩
    intro c hc
    rcases intText_letters n c hc with hdigit | rfl
    · simp [atomic, Char.isAlphanum, hdigit]
    · decide⟩

def boolDoc (b : Bool) : Doc :=
  if b then .atom ⟨['t', 'r', 'u', 'e'], by decide⟩
  else .atom ⟨['f', 'a', 'l', 's', 'e'], by decide⟩

def Doc.num? : Doc → Option JsonNumber
  | .atom x =>
      if h : (isJsonNumber x.text && !x.text.isEmpty && x.text.all atomic) =
          true then some ⟨x.text, h⟩ else none
  | _ => none

def readInt (text : List Char) : Option Int :=
  match text with
  | '-' :: digits =>
      if digits.all Char.isDigit then some (-(Nat.ofDigitChars 10 digits 0))
      else none
  | digits =>
      if digits.all Char.isDigit then some (Nat.ofDigitChars 10 digits 0)
      else none

def Doc.int? : Doc → Option Int
  | .atom x => readInt x.text
  | _ => none

def Doc.bool? : Doc → Option Bool
  | .atom x =>
      if x.text = ['t', 'r', 'u', 'e'] then some true
      else if x.text = ['f', 'a', 'l', 's', 'e'] then some false
      else none
  | _ => none

def Doc.str? : Doc → Option String
  | .str s => some s
  | _ => none

def Doc.strings? : Doc → Option (List String)
  | .list items => items.mapM Doc.str?
  | _ => none

@[simp] theorem num?_toDoc (x : JsonNumber) : x.toDoc.num? = some x := by
  unfold JsonNumber.toDoc Doc.num?
  exact dif_pos x.shape

theorem digits_toDigits (n : Nat) :
    (Nat.toDigits 10 n).all Char.isDigit = true :=
  List.all_eq_true.mpr fun _ => isDigit_of_mem_digits

@[simp] theorem int?_intDoc (n : Int) : (intDoc n).int? = some n := by
  change readInt (intText n) = some n
  cases n with
  | ofNat n =>
      have hne : Nat.toDigits 10 n ≠ [] := Nat.toDigits_ne_nil
      obtain ⟨c, rest, hdigits⟩ := List.exists_cons_of_ne_nil hne
      have hall := digits_toDigits n
      have hread := @Nat.ofDigitChars_ten_toDigits n
      change readInt (Nat.toDigits 10 n) = _
      rw [hdigits] at hall hread ⊢
      unfold readInt
      split
      · next digits heq =>
          rw [(List.cons.inj heq).1] at hall
          cases hall
      · rw [if_pos hall, hread]
        rfl
  | negSucc n =>
      change (if (Nat.toDigits 10 (n + 1)).all Char.isDigit = true then _
        else _) = _
      rw [if_pos (digits_toDigits (n + 1)), Nat.ofDigitChars_ten_toDigits]
      rfl

@[simp] theorem bool?_boolDoc (b : Bool) : (boolDoc b).bool? = some b := by
  cases b <;> rfl

@[simp] theorem str?_str (s : String) : (Doc.str s).str? = some s := rfl

@[simp] theorem strings?_list (items : List String) :
    (Doc.list (items.map Doc.str)).strings? = some items := by
  change (items.map Doc.str).mapM Doc.str? = some items
  induction items with
  | nil => rfl
  | cons item items ih => simp [ih]

theorem head_toDigits_ne_zero {n : Nat} (hpos : 0 < n) :
    (Nat.toDigits 10 n).head? ≠ some '0' := by
  induction n using Nat.strong_induction_on with
  | h n ih =>
      by_cases hsmall : n < 10
      · rw [Nat.toDigits_of_lt_base hsmall]
        have hall : ∀ m < 10, 0 < m →
            [Nat.digitChar m].head? ≠ some '0' := by decide
        exact hall n hsmall hpos
      · have hhigh : 0 < n / 10 := by omega
        have hne : Nat.toDigits 10 (n / 10) ≠ [] := Nat.toDigits_ne_nil
        rw [Nat.toDigits_of_base_le (by decide) (Nat.le_of_not_lt hsmall),
          List.head?_append_of_ne_nil _ hne]
        exact ih (n / 10) (by omega) hhigh

theorem isJsonNumber_digits {digits : List Char}
    (hne : digits ≠ []) (hall : digits.all Char.isDigit = true)
    (hzero : digits = ['0'] ∨ digits.head? ≠ some '0') :
    isJsonNumber digits = true ∧ isJsonNumber ('-' :: digits) = true := by
  have hhead : digits.head? ≠ some '-' := by
    intro h
    have hmem := List.mem_of_mem_head? h
    exact absurd (List.all_eq_true.mp hall _ hmem) (by decide)
  have htake : digits.takeWhile Char.isDigit = digits :=
    List.takeWhile_eq_self_iff.mpr (List.all_eq_true.mp hall)
  have hdrop : digits.dropWhile Char.isDigit = [] :=
    List.dropWhile_eq_nil_iff.mpr (List.all_eq_true.mp hall)
  constructor
  · simp [isJsonNumber, hhead, htake, hdrop, hne, hzero]
  · simp [isJsonNumber, htake, hdrop, hne, hzero]

theorem isJsonNumber_intText (n : Int) : isJsonNumber (intText n) = true := by
  have hne (m : Nat) : Nat.toDigits 10 m ≠ [] := Nat.toDigits_ne_nil
  cases n with
  | ofNat n =>
      refine (isJsonNumber_digits (hne n) (digits_toDigits n) ?_).1
      rcases Nat.eq_zero_or_pos n with rfl | hpos
      · exact Or.inl (Nat.toDigits_zero 10)
      · exact Or.inr (head_toDigits_ne_zero hpos)
  | negSucc n =>
      exact (isJsonNumber_digits (hne (n + 1)) (digits_toDigits (n + 1))
        (Or.inr (head_toDigits_ne_zero (Nat.succ_pos n)))).2

@[simp] theorem proper_intDoc (n : Int) : (intDoc n).proper = true := by
  change (_ || isJsonNumber (intText n)) = true
  rw [isJsonNumber_intText, Bool.or_true]

@[simp] theorem proper_num (x : JsonNumber) : x.toDoc.proper = true := by
  have hshape := x.shape
  simp only [Bool.and_eq_true] at hshape
  change (_ || isJsonNumber x.text) = true
  rw [hshape.1.1, Bool.or_true]

@[simp] theorem proper_boolDoc (b : Bool) : (boolDoc b).proper = true := by
  cases b <;> decide +kernel

@[simp] theorem proper_str (s : String) : (Doc.str s).proper = true := rfl

theorem proper_list (items : List Doc) :
    (Doc.list items).proper = items.all Doc.proper := by
  change Doc.properItems items = _
  induction items with
  | nil => rfl
  | cons item items ih => rw [Doc.properItems, ih, List.all_cons]

theorem proper_dict (items : List (String × Doc)) :
    (Doc.dict items).proper = items.all fun item => item.2.proper := by
  change Doc.properFields items = _
  induction items with
  | nil => rfl
  | cons item items ih =>
      obtain ⟨key, value⟩ := item
      rw [Doc.properFields, ih, List.all_cons]

/-- A float; a finite one is the number that it was read from. -/
inductive PyFloat where
  | finite (value : Rat)
  | infinite (negative : Bool)
  | nan
deriving DecidableEq

/-- Every underscore stands between two digits. -/
def isGrouped (text : List Char) : Bool :=
  text.head? != some '_' && text.getLast? != some '_' &&
    (text.zip text.tail).all fun pair =>
      (pair.1 != '_' || pair.2.isDigit) && (pair.2 != '_' || pair.1.isDigit)

/-- Digits with a point somewhere, and an exponent. -/
def isFloatNumeral (text : List Char) : Bool :=
  let rest := text.dropWhile Char.isDigit
  let pointed := rest.head? = some '.'
  let fraction := if pointed then rest.tail.takeWhile Char.isDigit else []
  let rest' := if pointed then rest.tail.dropWhile Char.isDigit else rest
  let power :=
    if rest'.tail.head? = some '+' ∨ rest'.tail.head? = some '-' then
      rest'.tail.tail
    else rest'.tail
  !(text.takeWhile Char.isDigit ++ fraction).isEmpty &&
    (rest'.isEmpty ||
      (rest'.head? = some 'e' ∨ rest'.head? = some 'E') &&
        !power.isEmpty && power.all Char.isDigit)

/-- `float(text)`. -/
def readFloat (text : String) : Option PyFloat :=
  let body := (strip text).toList
  let negative := body.head? == some '-'
  let digits := if negative || body.head? == some '+' then body.tail else body
  let word := String.ofList (digits.map Char.toLower)
  let numeral := digits.filter (· != '_')
  if word = "inf" ∨ word = "infinity" then some (.infinite negative)
  else if word = "nan" then some .nan
  else if isGrouped digits && isFloatNumeral numeral then
    some (.finite (if negative then -magnitude numeral else magnitude numeral))
  else none

/-- `float(value)`; an integer beyond the range of doubles is refused. -/
def Json.toFloat : Json → Option PyFloat
  | .bool value => some (.finite (if value then 1 else 0))
  | .num value =>
      if Binary64.nearest |value| < Binary64.limit then some (.finite value)
      else none
  | .str text => readFloat text
  | .null => none
  | .arr _ => none
  | .obj _ => none

theorem natFloor_le {q : Rat} (h : 0 ≤ q) :
    ((q.floor.toNat : Nat) : Rat) ≤ q := by
  have hfloor : 0 ≤ q.floor := Rat.le_floor_iff.mpr h
  have hcast : ((q.floor.toNat : Nat) : Int) = q.floor :=
    Int.toNat_of_nonneg hfloor
  calc
    ((q.floor.toNat : Nat) : Rat) = (((q.floor.toNat : Nat) : Int) : Rat) := by
      norm_cast
    _ = (q.floor : Rat) := by rw [hcast]
    _ ≤ q := Rat.floor_le q

theorem two_units_lt : Binary64.unit + Binary64.unit < Binary64.limit := by
  decide +kernel

theorem nearest_lt_limit {q : Rat} (hlow : 0 ≤ q) (hhigh : q ≤ 1) :
    Binary64.nearest |q| < Binary64.limit := by
  rw [abs_of_nonneg hlow]
  let scaled := q * Binary64.unit
  let step := Binary64.ulp scaled.floor.toNat
  have hscaled : 0 ≤ scaled := mul_nonneg hlow (Nat.cast_nonneg _)
  have hunit : scaled ≤ (Binary64.unit : Nat) :=
    mul_le_of_le_one_left (Nat.cast_nonneg _) hhigh
  have hfloor : scaled.floor.toNat ≤ Binary64.unit := by
    exact_mod_cast (natFloor_le hscaled).trans hunit
  have hpos : 0 < step := Binary64.ulp_pos _
  have hstep : step ≤ Binary64.unit := by
    rcases Nat.eq_zero_or_pos scaled.floor.toNat with hzero | hsome
    · have hone : step = 1 := by simp [step, hzero, Binary64.ulp]
      rw [hone]
      exact Binary64.unit_pos
    · exact (Binary64.ulp_le hsome).trans hfloor
  have hquotient : 0 ≤ scaled / step := div_nonneg hscaled (Nat.cast_nonneg _)
  have hread : Binary64.nearest q ≤
      ((scaled / step).floor.toNat + 1) * step :=
    Nat.mul_le_mul_right _ (Binary64.nearestEven_bounds _).2
  have hbelow : (scaled / step).floor.toNat * step ≤ Binary64.unit := by
    have hproduct : ((scaled / step).floor.toNat : Rat) * step ≤ scaled :=
      (le_div_iff₀ (by exact_mod_cast hpos)).mp (natFloor_le hquotient)
    exact_mod_cast hproduct.trans hunit
  have hsum : Binary64.nearest q ≤ Binary64.unit + Binary64.unit := by
    rw [Nat.succ_mul] at hread
    exact hread.trans (Nat.add_le_add hbelow hstep)
  exact Nat.lt_of_le_of_lt hsum two_units_lt

theorem Json.toFloat_num {q : Rat} (hlow : 0 ≤ q) (hhigh : q ≤ 1) :
    (Json.num q).toFloat = some (.finite q) := by
  rw [Json.toFloat, if_pos (nearest_lt_limit hlow hhigh)]

/-- `int(value)`. -/
def Json.toInt : Json → Option Int
  | .num value => some (if value < 0 then ⌈value⌉ else ⌊value⌋)
  | .bool value => some (if value then 1 else 0)
  | .str text => readInt (strip text).toList
  | .null => none
  | .arr _ => none
  | .obj _ => none

@[simp] theorem Json.toInt_intCast (n : Int) :
    (Json.num n).toInt = some n := by
  simp [Json.toInt]

/-- What a loop over the value goes through. -/
def Json.items : Json → Option (List Json)
  | .arr items => some items
  | .obj fields => some (fields.map fun field => .str field.1)
  | .str text => some (text.toList.map fun c => .str (String.singleton c))
  | .null => none
  | .bool _ => none
  | .num _ => none

end Python
