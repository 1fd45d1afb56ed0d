/-
The fields of a JSON dictionary, as a dataclass is read from one, and values
that may be `None`.
-/
import Voly.Python.Number

namespace Python

def stringsDoc (items : List String) : Doc := .list (items.map Doc.str)

/-- `data[key]`, of the kind that `read` accepts. -/
def required {A : Type} (data : Doc) (key : String) (read : Doc → Option A) :
    Option A :=
  data.field? key >>= read

/-- `data.get(key, default)`. -/
def defaulted {A : Type} (data : Doc) (key : String) (read : Doc → Option A)
    (default : A) : Option A :=
  match data.field? key with
  | some value => read value
  | none => some default

/-- `list(value or [])`. -/
def stringsOrEmpty (value : Doc) : Option (List String) :=
  if truthy value then value.strings? else some []

/-- Whether `cls(**data)` knows every key. -/
def knownKeys (data : Doc) (keys : List String) : Bool :=
  match data with
  | .dict items => items.all fun item => keys.contains item.1
  | _ => false

@[simp] theorem truthy_boolDoc (b : Bool) : truthy (boolDoc b) = b := by
  cases b <;> decide +kernel

theorem stringsOrEmpty_stringsDoc (items : List String) :
    stringsOrEmpty (stringsDoc items) = some items := by
  cases items with
  | nil => rfl
  | cons item items =>
      change (Doc.list ((item :: items).map Doc.str)).strings? = _
      exact strings?_list (item :: items)

theorem strings?_stringsDoc (items : List String) :
    (stringsDoc items).strings? = some items :=
  strings?_list items

universe u

variable {A : Type u}

def nullDoc : Doc := .atom ⟨['n', 'u', 'l', 'l'], by decide⟩

/-- `value is None`. -/
def Doc.isNone : Doc → Bool
  | .atom x => x.text == ['n', 'u', 'l', 'l']
  | _ => false

def optionDoc (write : A → Doc) : Option A → Doc
  | none => nullDoc
  | some a => write a

/-- A value that `read` accepts, or `None`. -/
def optional? (read : Doc → Option A) (value : Doc) : Option (Option A) :=
  if value.isNone then some none else (read value).map some

theorem num_text_ne (x : JsonNumber) {word : List Char}
    (h : isJsonNumber word = false) : x.text ≠ word := by
  intro heq
  have hshape := x.shape
  simp [heq, h] at hshape

theorem isNone_toDoc (x : JsonNumber) : x.toDoc.isNone = false := by
  simpa [JsonNumber.toDoc, Doc.isNone] using num_text_ne x (by decide)

theorem truthy_toDoc (x : JsonNumber) : truthy x.toDoc = !isZero x.text := by
  have hword : ∀ word ∈ ["null", "false"],
      String.ofList x.text ≠ word := by
    intro word hword heq
    have hno : ∀ word ∈ ["null", "false"],
        isJsonNumber word.toList = false := by
      decide
    apply num_text_ne x (hno word hword)
    rw [← heq, String.toList_ofList]
  have hnamed : (["null", "false"].contains (String.ofList x.text)) =
      false := by
    rw [List.contains_eq_mem, decide_eq_false_iff_not]
    exact fun hmem => hword _ hmem rfl
  change (!(["null", "false"].contains (String.ofList x.text) ||
    isZero x.text)) = _
  rw [hnamed, Bool.false_or]

theorem optional?_optionDoc {read : Doc → Option A} {write : A → Doc}
    (hread : ∀ a, read (write a) = some a)
    (hsome : ∀ a, (write a).isNone = false) (value : Option A) :
    optional? read (optionDoc write value) = some value := by
  cases value with
  | none => rfl
  | some a => simp [optional?, optionDoc, hsome, hread]

end Python
