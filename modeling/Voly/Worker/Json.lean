/-
Parsed JSON as the Worker handles it, and `stableStringify`.  A number is its
`Number::toString` text.
-/
import Voly.Python.JsonDoc

namespace Worker

open Python

/-- The UTF-16 code units of a string. -/
def utf16 (s : String) : List Nat :=
  s.toList.flatMap fun c =>
    if c.toNat < 65536 then [c.toNat]
    else [55296 + (c.toNat - 65536) / 1024, 56320 + (c.toNat - 65536) % 1024]

def unitsLe : List Nat → List Nat → Bool
  | [], _ => true
  | _ :: _, [] => false
  | a :: as, b :: bs => if a = b then unitsLe as bs else decide (a < b)

/-- The order of `Array.prototype.sort` on strings. -/
def keyLe (a b : String) : Bool := unitsLe (utf16 a) (utf16 b)

theorem keyLe_refl (a : String) : keyLe a a = true := by
  have hrefl (units : List Nat) : unitsLe units units = true := by
    induction units with
    | nil => rfl
    | cons unit units ih => rw [unitsLe, if_pos rfl, ih]
  exact hrefl (utf16 a)

theorem unitsLe_total (a b : List Nat) :
    unitsLe a b = true ∨ unitsLe b a = true := by
  induction a generalizing b with
  | nil => exact Or.inl rfl
  | cons x a ih =>
      cases b with
      | nil => exact Or.inr rfl
      | cons y b =>
          unfold unitsLe
          by_cases h : x = y
          · rw [if_pos h, if_pos h.symm]
            exact ih b
          · rw [if_neg h, if_neg (Ne.symm h), decide_eq_true_iff,
              decide_eq_true_iff]
            omega

theorem unitsLe_trans {a b c : List Nat} (hab : unitsLe a b = true)
    (hbc : unitsLe b c = true) : unitsLe a c = true := by
  induction a generalizing b c with
  | nil => rfl
  | cons x a ih =>
      cases b with
      | nil => cases hab
      | cons y b =>
          cases c with
          | nil => cases hbc
          | cons z c =>
              unfold unitsLe at hab hbc ⊢
              by_cases hxy : x = y
              · subst hxy
                rw [if_pos rfl] at hab
                by_cases hxz : x = z
                · rw [if_pos hxz] at hbc ⊢
                  exact ih hab hbc
                · rw [if_neg hxz] at hbc ⊢
                  exact hbc
              · rw [if_neg hxy, decide_eq_true_iff] at hab
                by_cases hyz : y = z
                · subst hyz
                  rw [if_neg hxy]
                  exact decide_eq_true hab
                · rw [if_neg hyz, decide_eq_true_iff] at hbc
                  rw [if_neg (by omega)]
                  exact decide_eq_true (Nat.lt_trans hab hbc)

theorem keyLe_total (a b : String) : keyLe a b = true ∨ keyLe b a = true :=
  unitsLe_total (utf16 a) (utf16 b)

theorem keyLe_trans (a b c : String) (hab : keyLe a b = true)
    (hbc : keyLe b c = true) : keyLe a c = true :=
  unitsLe_trans hab hbc

/-- `stableStringify(value)`. -/
def stableStringify (value : Doc) : List Char :=
  (value.sortKeys keyLe).write false

/-- `String.prototype.trim` leaves nothing. -/
def isBlank (s : String) : Bool :=
  s.toList.all fun c =>
    let n := c.toNat
    (9 ≤ n && n ≤ 13) || n == 32 || n == 160 || n == 5760 ||
      (8192 ≤ n && n ≤ 8202) || n == 8232 || n == 8233 || n == 8239 ||
      n == 8287 || n == 12288 || n == 65279

def isNull : Doc → Bool
  | .atom x => x.text == ['n', 'u', 'l', 'l']
  | _ => false

/-- `value.key`; null has no properties, and reading one throws. -/
def property (value : Doc) (key : String) : Except Unit (Option Doc) :=
  match value with
  | .dict items => .ok (Dict.get? items key)
  | value => if isNull value then .error () else .ok none

/-- `value ?? undefined`. -/
def present (value : Option Doc) : Option Doc :=
  value.filter fun v => !isNull v

/-- `!value?.trim()`; what has no `trim` throws. -/
def missing (value : Option Doc) : Except Unit Bool :=
  match present value with
  | none => .ok true
  | some (.str s) => .ok (isBlank s)
  | some _ => .error ()

mutual

/-- `String(value)`. -/
def coerce : Doc → String
  | .atom x => String.ofList x.text
  | .str s => s
  | .list items => ",".intercalate (coerceItems items)
  | .dict _ => "[object Object]"

def coerceItems : List Doc → List String
  | [] => []
  | item :: rest =>
      (if isNull item then "" else coerce item) :: coerceItems rest

end

end Worker
