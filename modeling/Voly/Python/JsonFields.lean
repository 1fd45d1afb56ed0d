/-
The fields of a decoded JSON dictionary, as keyword arguments or by
`data.get(key) or default`.
-/
import Voly.Python.Number

namespace Python

variable {A : Type}

def Json.text? : Json → Option String
  | .str s => some s
  | _ => none

def Json.flag? : Json → Option Bool
  | .bool b => some b
  | _ => none

def Json.number? : Json → Option Rat
  | .num q => some q
  | _ => none

def Json.integer? : Json → Option Int
  | .num q => if q.den = 1 then some q.num else none
  | _ => none

def Json.object? : Json → Option (Dict Json)
  | .obj fields => some fields
  | _ => none

def Json.texts? : Json → Option (List String)
  | .arr items => items.mapM Json.text?
  | _ => none

def Json.objects? : Json → Option (List (Dict Json))
  | .arr items => items.mapM Json.object?
  | _ => none

/-- A value that may be `None`. -/
def Json.orNull (write : A → Json) : Option A → Json
  | none => .null
  | some a => write a

def Json.orNull? (read : Json → Option A) : Json → Option (Option A)
  | .null => some none
  | value => (read value).map some

def argument (data : Dict Json) (key : String) (read : Json → Option A) :
    Option A :=
  data.get? key >>= read

def argumentOr (data : Dict Json) (key : String) (read : Json → Option A)
    (default : A) : Option A :=
  match data.get? key with
  | some value => read value
  | none => some default

/-- Whether `cls(**data)` knows every key. -/
def onlyKeys (data : Dict Json) (keys : List String) : Bool :=
  data.all fun item => keys.contains item.1

/-- `str(data.get(key) or default)`, for a text. -/
def textAt (data : Dict Json) (key default : String) : String :=
  Json.text (data.get? key) default

/-- `float(data.get(key) or 0.0)`. -/
def numberAt (data : Dict Json) (key : String) : Option Rat :=
  match data.truthy? key with
  | some value => value.number?
  | none => some 0

/-- `int(data.get(key) or default)`. -/
def integerAt (data : Dict Json) (key : String) (default : Int) :
    Option Int :=
  match data.truthy? key with
  | some value => value.toInt
  | none => some default

/-- `bool(data.get(key, default))`. -/
def flagAt (data : Dict Json) (key : String) (default : Bool) : Bool :=
  match data.get? key with
  | some value => value.truthy
  | none => default

/-- `dict(data.get(key) or {})`. -/
def objectAt (data : Dict Json) (key : String) : Option (Dict Json) :=
  match data.truthy? key with
  | some value => value.object?
  | none => some []

/-- The dictionaries in `data.get(key) or []`. -/
def objectsAt (data : Dict Json) (key : String) : Option (List (Dict Json)) :=
  match data.truthy? key with
  | some value => value.items.map fun items => items.filterMap Json.object?
  | none => some []

/-- The texts in `list(data.get(key) or [])`. -/
def textsAt (data : Dict Json) (key : String) : Option (List String) :=
  match data.truthy? key with
  | some value => value.items >>= fun items => items.mapM Json.text?
  | none => some []

def whenTrue (value : Json) : Option Json := (some value).filter Json.truthy

@[simp] theorem Json.integer?_intCast (n : Int) :
    (Json.num n).integer? = some n := by
  simp [Json.integer?]

@[simp] theorem Json.texts?_ofStrings (items : List String) :
    (Json.ofStrings items).texts? = some items := by
  rw [Json.ofStrings, Json.texts?]
  induction items with
  | nil => rfl
  | cons item items ih => simp [Json.text?, ih]

@[simp] theorem Json.objects?_arr (items : List (Dict Json)) :
    (Json.arr (items.map Json.obj)).objects? = some items := by
  rw [Json.objects?]
  induction items with
  | nil => rfl
  | cons item items ih => simp [Json.object?, ih]

theorem Json.orNull?_orNull {read : Json → Option A} {write : A → Json}
    (hread : ∀ a, read (write a) = some a)
    (hnull : ∀ a, write a ≠ .null) (value : Option A) :
    Json.orNull? read (Json.orNull write value) = some value := by
  cases value with
  | none => rfl
  | some a =>
      have hwritten : Json.orNull? read (write a) = (read (write a)).map some
        := by
        cases hvalue : write a with
        | null => exact absurd hvalue (hnull a)
        | _ => rfl
      rw [Json.orNull, hwritten, hread]
      rfl

section Written

variable {data : Dict Json} {key : String}

theorem orElse_empty (s : String) : orElse s "" = s := by
  by_cases h : s = "" <;> simp [orElse, h]

theorem textAt_str {default s : String}
    (h : data.get? key = some (.str s)) :
    textAt data key default = orElse s default := by
  rw [textAt, h, Json.text]

theorem numberAt_num {q : Rat} (h : data.get? key = some (.num q)) :
    numberAt data key = some q := by
  rw [numberAt, Dict.truthy?_eq h]
  by_cases hzero : q = 0 <;>
    simp [Option.filter, Json.truthy, Json.number?, hzero]

theorem integerAt_num {n default : Int}
    (h : data.get? key = some (.num n)) :
    integerAt data key default = some (if n = 0 then default else n) := by
  rw [integerAt, Dict.truthy?_eq h]
  by_cases hzero : n = 0 <;> simp [Option.filter, Json.truthy, hzero]

theorem flagAt_bool {default flag : Bool}
    (h : data.get? key = some (.bool flag)) :
    flagAt data key default = flag := by
  rw [flagAt, h]
  cases flag <;> rfl

theorem objectAt_obj {fields : Dict Json}
    (h : data.get? key = some (.obj fields)) :
    objectAt data key = some fields := by
  rw [objectAt, Dict.truthy?_eq h]
  cases fields <;> simp [Option.filter, Json.truthy, Json.object?]

theorem objectsAt_arr {items : List (Dict Json)}
    (h : data.get? key = some (.arr (items.map Json.obj))) :
    objectsAt data key = some items := by
  have hobjects : Json.object? ∘ Json.obj = some := rfl
  have hread : (items.map Json.obj).filterMap Json.object? = items := by
    rw [List.filterMap_map, hobjects, List.filterMap_some]
  rw [objectsAt, Dict.truthy?_eq h]
  cases items with
  | nil => rfl
  | cons item items =>
      simpa [Option.filter, Json.truthy, Json.items] using hread

end Written

end Python
