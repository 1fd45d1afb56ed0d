/-
Python exceptions, mutating calls, plain JSON values and dictionaries of them.
-/
import Mathlib.Data.Rat.Defs
import Voly.Python.Text

namespace Python

/-- A value that `json.dump` writes and `json.load` reads back. -/
inductive Json where
  | null
  | bool (value : Bool)
  | num (value : Rat)
  | str (value : String)
  | arr (items : List Json)
  | obj (items : List (String × Json))

/-- `str(value or default)` for a value that is a string when present. -/
def Json.text : Option Json → String → String
  | some (.str s), default => orElse s default
  | _, default => default

/-- `bool(value)`. -/
def Json.truthy : Json → Bool
  | .null => false
  | .bool value => value
  | .num value => value ≠ 0
  | .str value => value ≠ ""
  | .arr items => !items.isEmpty
  | .obj items => !items.isEmpty

def Json.ofStrings (xs : List String) : Json := .arr (xs.map .str)

universe u v

/-- A call that mutates an `S`; what was written before a raise stays. -/
abbrev Mutation (E S : Type u) (A : Type v) := S → Except E A × S

namespace Mutation

variable {E S : Type u} {A B : Type v}

def ret (a : A) : Mutation E S A := fun s => (.ok a, s)

def raise (e : E) : Mutation E S A := fun s => (.error e, s)

def bind (x : Mutation E S A) (f : A → Mutation E S B) : Mutation E S B :=
  fun s =>
    match x s with
    | (.ok a, s') => f a s'
    | (.error e, s') => (.error e, s')

instance : Monad (Mutation E S) where
  pure := ret
  bind := bind

def read : Mutation E S S := fun s => (.ok s, s)

def update (f : S → S) : Mutation E S Unit := fun s => (.ok (), f s)

/-- A call that only computes, and raises when it fails. -/
def lift (x : Except E A) : Mutation E S A := fun s => (x, s)

@[simp] theorem pure_apply (a : A) (s : S) :
    (pure a : Mutation E S A) s = (.ok a, s) := rfl

@[simp] theorem raise_apply (e : E) (s : S) :
    (raise e : Mutation E S A) s = (.error e, s) := rfl

@[simp] theorem read_apply (s : S) :
    (read : Mutation E S S) s = (.ok s, s) := rfl

@[simp] theorem update_apply (f : S → S) (s : S) :
    (update f : Mutation E S Unit) s = (.ok (), f s) := rfl

@[simp] theorem lift_apply (x : Except E A) (s : S) :
    (lift x : Mutation E S A) s = (x, s) := rfl

theorem bind_apply (x : Mutation E S A) (f : A → Mutation E S B) (s : S) :
    (x >>= f) s =
      match x s with
      | (.ok a, s') => f a s'
      | (.error e, s') => (.error e, s') := rfl

theorem bind_ok {x : Mutation E S A} {f : A → Mutation E S B} {s s' : S}
    {a : A} (h : x s = (.ok a, s')) : (x >>= f) s = f a s' := by
  rw [bind_apply, h]

theorem bind_error {x : Mutation E S A} {f : A → Mutation E S B} {s s' : S}
    {e : E} (h : x s = (.error e, s')) : (x >>= f) s = (.error e, s') := by
  rw [bind_apply, h]

end Mutation

/-- The value of a key, unless it is absent or false. -/
def Dict.truthy? (d : Dict Json) (key : String) : Option Json :=
  match d.get? key with
  | none => none
  | some value => if value.truthy then some value else none

def Dict.present {α : Type} : List (String × Option α) → Dict α
  | [] => []
  | (_, none) :: rest => Dict.present rest
  | (key, some value) :: rest => (key, value) :: Dict.present rest

section

variable {α : Type} {d : Dict α}

theorem Dict.get?_eq_none {key : String} (h : key ∉ d.keys) :
    d.get? key = none := by
  induction d with
  | nil => rfl
  | cons entry rest ih =>
      obtain ⟨k, v⟩ := entry
      simp only [Dict.keys, List.map_cons, List.mem_cons, not_or] at h
      rw [Dict.get?, if_neg (Ne.symm h.1), ih h.2]

theorem Dict.exists_get? {key : String} (h : key ∈ d.keys) :
    ∃ value, d.get? key = some value := by
  induction d with
  | nil => cases h
  | cons row rest ih =>
      by_cases hkey : row.1 = key
      · exact ⟨row.2, if_pos hkey⟩
      · obtain ⟨value, hvalue⟩ :=
          ih ((List.mem_cons.mp h).resolve_left (Ne.symm hkey))
        exact ⟨value, (if_neg hkey).trans hvalue⟩

theorem Dict.keys_present (fields : List (String × Option α)) {key : String}
    (h : key ∈ (Dict.present fields).keys) :
    key ∈ fields.map Prod.fst := by
  induction fields with
  | nil => exact h
  | cons field rest ih =>
      obtain ⟨k, _ | v⟩ := field
      · exact List.mem_cons_of_mem _ (ih h)
      · rcases List.mem_cons.mp h with rfl | h
        · exact List.mem_cons_self
        · exact List.mem_cons_of_mem _ (ih h)

theorem Dict.get?_present {fields : List (String × Option α)}
    (hnodup : (fields.map Prod.fst).Nodup) (key : String) :
    (Dict.present fields).get? key = (Dict.get? fields key).join := by
  induction fields with
  | nil => rfl
  | cons field rest ih =>
      simp only [List.map_cons, List.nodup_cons] at hnodup
      obtain ⟨k, value⟩ := field
      by_cases hk : k = key
      · subst hk
        cases value with
        | none =>
            rw [Dict.present, Dict.get?, if_pos rfl, Option.join_some]
            exact Dict.get?_eq_none fun h =>
              hnodup.1 (Dict.keys_present rest h)
        | some v => simp [Dict.present, Dict.get?]
      · cases value <;> simp [Dict.present, Dict.get?, hk, ih hnodup.2]

theorem Dict.nodup_present {fields : List (String × Option α)}
    (h : (fields.map Prod.fst).Nodup) : (Dict.present fields).keys.Nodup := by
  induction fields with
  | nil => exact h
  | cons field rest ih =>
      rw [List.map_cons, List.nodup_cons] at h
      obtain ⟨k, _ | v⟩ := field
      · exact ih h.2
      · exact List.nodup_cons.mpr
          ⟨fun hmem => h.1 (Dict.keys_present rest hmem), ih h.2⟩

theorem Dict.get?_of_mem (h : d.keys.Nodup) {entry : String × α}
    (hentry : entry ∈ d) :
    d.get? entry.1 = some entry.2 := by
  induction d with
  | nil => cases hentry
  | cons held rest ih =>
      obtain ⟨k, v⟩ := held
      rw [Dict.keys, List.map_cons, List.nodup_cons] at h
      rcases List.mem_cons.mp hentry with rfl | hrest
      · simp [Dict.get?]
      · have hmem : entry.1 ∈ rest.map Prod.fst := List.mem_map_of_mem hrest
        have hne : k ≠ entry.1 := fun hk => h.1 (hk ▸ hmem)
        rw [Dict.get?, if_neg hne]
        exact ih h.2 hrest

theorem Dict.keys_set (d : Dict α) (key : String) (value : α) :
    (d.set key value).keys =
      if key ∈ d.keys then d.keys else d.keys ++ [key] := by
  induction d with
  | nil => rfl
  | cons item rest ih =>
      obtain ⟨k, v⟩ := item
      by_cases hk : k = key
      · simp [Dict.set, Dict.keys, hk]
      · have hcons : (Dict.set ((k, v) :: rest) key value).keys =
            k :: (Dict.set rest key value).keys := by
          simp [Dict.set, Dict.keys, hk]
        have hkeys : Dict.keys ((k, v) :: rest) = k :: Dict.keys rest := rfl
        rw [hcons, ih, hkeys]
        by_cases hmem : key ∈ Dict.keys rest <;> simp [hmem, Ne.symm hk]

theorem Dict.nodup_set (h : d.keys.Nodup) (key : String)
    (value : α) : (d.set key value).keys.Nodup := by
  rw [Dict.keys_set]
  split
  · exact h
  · next hnew => exact List.nodup_append.mpr ⟨h, by simp, by grind⟩

theorem Dict.set_of_notMem {key : String} {value : α}
    (h : key ∉ d.keys) : d.set key value = d ++ [(key, value)] := by
  induction d with
  | nil => rfl
  | cons item rest ih =>
      obtain ⟨hne, hrest⟩ := not_or.mp (mt List.mem_cons.mpr h)
      rw [Dict.set, if_neg (Ne.symm hne), ih hrest, List.cons_append]

theorem Dict.set_of_get? {key : String} {value : α}
    (h : d.get? key = some value) : d.set key value = d := by
  induction d with
  | nil => cases h
  | cons item rest ih =>
      rw [Dict.get?] at h
      rw [Dict.set]
      split at h
      · next hk =>
          cases h
          rw [if_pos hk]
      · next hk => rw [if_neg hk, ih h]

end

theorem Dict.truthy?_eq {d : Dict Json} {key : String} {value : Option Json}
    (h : d.get? key = value) : d.truthy? key = value.filter Json.truthy := by
  rw [Dict.truthy?, h]
  cases value with
  | none => rfl
  | some value => cases htrue : value.truthy <;> simp [Option.filter, htrue]

theorem Dict.get?_append {α : Type} (front rest : Dict α) (key : String) :
    Dict.get? (front ++ rest) key = (front.get? key).or (rest.get? key) := by
  induction front with
  | nil => rfl
  | cons entry front ih =>
      obtain ⟨k, value⟩ := entry
      by_cases hk : k = key <;> simp [Dict.get?, hk, ih]

end Python
