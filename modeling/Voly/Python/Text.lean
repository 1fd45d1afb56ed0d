/-
Python text, list and dictionary operations.  Strings are taken apart into
characters so that closed terms evaluate.
-/
import Mathlib.Data.List.DropRight
import Mathlib.Data.List.Sort
import Mathlib.Data.String.Basic

namespace Python

/-- A property of a text's characters is decided over the text. -/
instance (priority := 2000) decidableCharacters (p : Char → Prop)
    [DecidablePred p] (text : List Char) : Decidable (∀ c ∈ text, p c) :=
  List.decidableBAll p text

/-- One character of `str.isspace`. -/
def isSpace (c : Char) : Bool :=
  let n := c.toNat
  (9 ≤ n && n ≤ 13) || (28 ≤ n && n ≤ 32) || n == 133 || n == 160 ||
    n == 5760 || (8192 ≤ n && n ≤ 8202) || n == 8232 || n == 8233 ||
    n == 8239 || n == 8287 || n == 12288

def strip (s : String) : String :=
  String.ofList
    ((s.toList.dropWhile isSpace).reverse.dropWhile isSpace).reverse

/-- `str.lower()` on the letters that option names are spelled with. -/
def lower (s : String) : String :=
  String.ofList (s.toList.map Char.toLower)

/-- The slice `s[:n]`. -/
def slice (n : Nat) (s : String) : String :=
  String.ofList (s.toList.take n)

@[simp] theorem slice_slice (n : Nat) (s : String) :
    slice n (slice n s) = slice n s := by
  simp [slice, List.take_take]

/-- The slice `xs[:n]`: a negative bound counts from the end. -/
def sliceTo {α : Type} (n : Int) (xs : List α) : List α :=
  if 0 ≤ n then xs.take n.toNat else xs.take (xs.length - n.natAbs)

/-- `s.startswith(p)`. -/
def startsWith (s p : String) : Bool :=
  p.toList.isPrefixOf s.toList

/-- `needle in s`. -/
def contains (s needle : String) : Bool :=
  s.toList.tails.any fun rest => needle.toList.isPrefixOf rest

def rstripSlash (s : String) : String :=
  String.ofList (s.toList.reverse.dropWhile (· == '/')).reverse

/-- `a or b` on strings: the empty string is false. -/
def orElse (a b : String) : String :=
  if a = "" then b else a

@[simp] theorem orElse_self (a : String) : orElse a a = a := by
  simp [orElse]

/-- `sorted` on strings. -/
def sorted (xs : List String) : List String :=
  xs.insertionSort (· ≤ ·)

private def hexDigit (n : Nat) : Char :=
  if n < 10 then Char.ofNat (48 + n) else Char.ofNat (87 + n)

private def reprChar (quote c : Char) : List Char :=
  let backslash := Char.ofNat 92
  if c = backslash then [backslash, backslash]
  else if c = quote then [backslash, c]
  else if c.toNat = 10 then [backslash, 'n']
  else if c.toNat = 13 then [backslash, 'r']
  else if c.toNat = 9 then [backslash, 't']
  else if c.toNat < 32 ∨ c.toNat = 127 then
    [backslash, 'x', hexDigit (c.toNat / 16), hexDigit (c.toNat % 16)]
  else [c]

/-- `repr` of a string: single quotes unless the text holds one and no double
quote. -/
def quoted (s : String) : String :=
  let single := Char.ofNat 39
  let double := Char.ofNat 34
  let quote :=
    if single ∈ s.toList ∧ double ∉ s.toList then double else single
  String.ofList (quote :: s.toList.flatMap (reprChar quote) ++ [quote])

/-- `repr` of a list of strings. -/
def quotedList (xs : List String) : String :=
  "[" ++ ", ".intercalate (xs.map quoted) ++ "]"

/-- A dictionary as its items in insertion order. -/
abbrev Dict (α : Type) := List (String × α)

/-- `d.get(key)`. -/
def Dict.get? {α : Type} : Dict α → String → Option α
  | [], _ => none
  | (k, v) :: rest, key => if k = key then some v else Dict.get? rest key

/-- `d[key] = value`: an existing key keeps its place. -/
def Dict.set {α : Type} : Dict α → String → α → Dict α
  | [], key, value => [(key, value)]
  | (k, v) :: rest, key, value =>
      if k = key then (k, value) :: rest
      else (k, v) :: Dict.set rest key value

@[simp] theorem Dict.get?_set {α : Type} (d : Dict α) (key other : String)
    (value : α) :
    (d.set key value).get? other =
      if key = other then some value else d.get? other := by
  induction d with
  | nil => rfl
  | cons entry rest ih =>
      obtain ⟨k, v⟩ := entry
      by_cases hk : k = key
      · subst hk
        by_cases ho : k = other <;> simp [Dict.set, Dict.get?, ho]
      · by_cases ho : k = other
        · subst ho
          have hne : key ≠ k := Ne.symm hk
          simp [Dict.set, Dict.get?, hk, hne]
        · simp [Dict.set, Dict.get?, hk, ho, ih]

theorem Dict.mem_of_get? {α : Type} {d : Dict α} {key : String} {value : α}
    (h : d.get? key = some value) : (key, value) ∈ d := by
  induction d with
  | nil => cases h
  | cons entry rest ih =>
      obtain ⟨k, v⟩ := entry
      rw [Dict.get?] at h
      split at h
      · next hk =>
          cases h
          subst hk
          exact List.mem_cons_self
      · exact List.mem_cons_of_mem _ (ih h)

theorem Dict.mem_set {α : Type} {d : Dict α} {key : String} {value : α}
    {item : String × α} (h : item ∈ d.set key value) :
    item = (key, value) ∨ item ∈ d := by
  induction d with
  | nil => exact Or.inl (List.mem_singleton.mp h)
  | cons entry rest ih =>
      obtain ⟨k, v⟩ := entry
      rw [Dict.set] at h
      split at h
      · next hk =>
          subst hk
          rcases List.mem_cons.mp h with h | h
          · exact Or.inl h
          · exact Or.inr (List.mem_cons_of_mem _ h)
      · rcases List.mem_cons.mp h with h | h
        · exact Or.inr (h ▸ List.mem_cons_self)
        · rcases ih h with h | h
          · exact Or.inl h
          · exact Or.inr (List.mem_cons_of_mem _ h)

/-- `del d[key]`. -/
def Dict.erase {α : Type} (d : Dict α) (key : String) : Dict α :=
  d.filter fun item => item.1 != key

theorem Dict.mem_erase {α : Type} {d : Dict α} {key : String}
    {item : String × α} (h : item ∈ d.erase key) : item ∈ d :=
  (List.mem_filter.mp h).1

theorem Dict.get?_erase {α : Type} (d : Dict α) (key other : String) :
    (d.erase key).get? other = if key = other then none else d.get? other := by
  induction d with
  | nil => simp [Dict.erase, Dict.get?]
  | cons entry rest ih =>
      obtain ⟨k, v⟩ := entry
      rw [Dict.erase] at ih ⊢
      by_cases hk : k = key
      · subst hk
        rw [List.filter_cons_of_neg (by simp), ih]
        by_cases ho : k = other <;> simp [Dict.get?, ho]
      · rw [List.filter_cons_of_pos (by simpa using hk), Dict.get?, ih]
        by_cases ho : k = other
        · subst ho
          have hne : key ≠ k := Ne.symm hk
          simp [Dict.get?, hne]
        · simp [Dict.get?, ho]

theorem Dict.length_set_le {α : Type} (d : Dict α) (key : String)
    (value : α) : (d.set key value).length ≤ d.length + 1 := by
  induction d with
  | nil => exact Nat.le_refl 1
  | cons entry rest ih =>
      rw [Dict.set]
      split
      · exact Nat.le_succ _
      · exact Nat.succ_le_succ ih

theorem Dict.length_erase_lt {α : Type} {d : Dict α} {key : String}
    {value : α} (h : (key, value) ∈ d) :
    (d.erase key).length < d.length := by
  apply List.length_filter_lt_length_iff_exists.mpr
  exact ⟨(key, value), h, by simp⟩

def Dict.keys {α : Type} (d : Dict α) : List String :=
  d.map Prod.fst

theorem dropWhile_rdropWhile_dropWhile {α : Type} (p : α → Bool)
    (l : List α) : ((l.dropWhile p).rdropWhile p).dropWhile p =
      (l.dropWhile p).rdropWhile p := by
  cases htrimmed : (l.dropWhile p).rdropWhile p with
  | nil => rfl
  | cons c rest =>
      obtain ⟨others, hothers⟩ :=
        List.rdropWhile_prefix p (l := l.dropWhile p)
      rw [htrimmed] at hothers
      have hne : l.dropWhile p ≠ [] := by simp [← hothers]
      have hc := List.head_dropWhile_not p hne
      simp only [← hothers, List.cons_append, List.head_cons] at hc
      simp [hc]

theorem strip_eq (s : String) : strip s =
    String.ofList ((s.toList.dropWhile isSpace).rdropWhile isSpace) := rfl

@[simp] theorem strip_strip (s : String) : strip (strip s) = strip s := by
  rw [strip_eq, strip_eq, String.toList_ofList,
    dropWhile_rdropWhile_dropWhile, List.rdropWhile_idempotent]

def isLineBreak (c : Char) : Bool :=
  [10, 11, 12, 13, 28, 29, 30, 133, 8232, 8233].contains c.toNat

/-- The lines of a text, `line` having begun, reversed. -/
def splitLinesFrom (line : List Char) : List Char → List (List Char)
  | [] => if line = [] then [] else [line.reverse]
  | '\r' :: '\n' :: rest => line.reverse :: splitLinesFrom [] rest
  | c :: rest =>
      if isLineBreak c then line.reverse :: splitLinesFrom [] rest
      else splitLinesFrom (c :: line) rest

def splitLines (text : List Char) : List (List Char) := splitLinesFrom [] text

theorem splitLinesFrom_append {line row : List Char}
    (h : ∀ c ∈ row, isLineBreak c = false) (rest : List Char) :
    splitLinesFrom line (row ++ rest) =
      splitLinesFrom (row.reverse ++ line) rest := by
  induction row generalizing line with
  | nil => rfl
  | cons c row ih =>
      have hc : isLineBreak c = false := h c List.mem_cons_self
      have hrow : ∀ c ∈ row, isLineBreak c = false :=
        fun c hmem => h c (List.mem_cons_of_mem _ hmem)
      rw [List.cons_append, splitLinesFrom, if_neg (by simp [hc]), ih hrow,
        List.reverse_cons, List.append_assoc, List.singleton_append]
      rintro _ rfl
      cases hc

/-- Rows without line boundaries, ended by line feeds, are the lines. -/
theorem splitLines_rows {rows : List (List Char)}
    (h : ∀ row ∈ rows, ∀ c ∈ row, isLineBreak c = false) :
    splitLines (rows.flatMap fun row => row ++ ['\n']) = rows := by
  induction rows with
  | nil => rfl
  | cons row rows ih =>
      have hrow := h row List.mem_cons_self
      have hrows := ih fun other hmem => h other (List.mem_cons_of_mem _ hmem)
      rw [List.flatMap_cons, List.append_assoc, splitLines,
        splitLinesFrom_append hrow, List.singleton_append, splitLinesFrom,
        if_pos (by decide), List.append_nil, List.reverse_reverse]
      · exact congrArg (row :: ·) hrows
      · intro _ hreturn
        exact absurd hreturn (by decide)

end Python
