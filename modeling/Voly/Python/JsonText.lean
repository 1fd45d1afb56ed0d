/-
The text that `json.dumps` writes with its default settings, and texts told
apart by their letters.
-/
import Voly.Python.Text

namespace Python

/-- A letter of a number or of `null`, `true`, `false`. -/
def atomic (c : Char) : Bool :=
  c.isAlphanum || c == '+' || c == '-' || c == '.'

/-- A letter that no integer is written with. -/
def floatMark (c : Char) : Bool :=
  c == '.' || c == 'e' || c == 'N' || c == 'I'

/-- What `float.__repr__` writes, and `NaN`, `Infinity`, `-Infinity`. -/
def floatShape (text : List Char) : Bool :=
  text.all atomic && text.any floatMark &&
    match text with
    | c :: _ => c.isDigit || c == '-' || c == 'N' || c == 'I'
    | [] => false

structure FloatText where
  text : List Char
  shape : floatShape text = true
  deriving DecidableEq

/-- `int.__repr__`. -/
def intText : Int → List Char
  | .ofNat n => Nat.toDigits 10 n
  | .negSucc n => '-' :: Nat.toDigits 10 (n + 1)

def hexChar (n : Nat) : Char :=
  if n < 10 then Char.ofNat (48 + n) else Char.ofNat (87 + n)

/-- `\uXXXX` for a 16-bit unit. -/
def unitEscape (n : Nat) : List Char :=
  ['\\', 'u', hexChar (n / 4096), hexChar (n / 256 % 16),
    hexChar (n / 16 % 16), hexChar (n % 16)]

/-- Printable ASCII stands for itself, the rest is escaped, beyond 16 bits as a
pair. -/
def escapeChar (c : Char) : List Char :=
  if c = '"' then ['\\', '"']
  else if c = '\\' then ['\\', '\\']
  else if c = '\n' then ['\\', 'n']
  else if c = '\r' then ['\\', 'r']
  else if c = '\t' then ['\\', 't']
  else if c.toNat = 8 then ['\\', 'b']
  else if c.toNat = 12 then ['\\', 'f']
  else if 32 ≤ c.toNat ∧ c.toNat ≤ 126 then [c]
  else if c.toNat < 65536 then unitEscape c.toNat
  else
    unitEscape (55296 + (c.toNat - 65536) / 1024) ++
      unitEscape (56320 + (c.toNat - 65536) % 1024)

def escape (s : List Char) : List Char := s.flatMap escapeChar

def stringText (s : String) : List Char :=
  '"' :: escape s.toList ++ ['"']

/-- A document that `json.dumps` accepts. -/
inductive Value where
  | none
  | bool (b : Bool)
  | int (n : Int)
  | float (x : FloatText)
  | str (s : String)
  | list (items : List Value)
  | dict (items : List (String × Value))

mutual

/-- The characters of `json.dumps(value)`. -/
def dumps : Value → List Char
  | .none => ['n', 'u', 'l', 'l']
  | .bool true => ['t', 'r', 'u', 'e']
  | .bool false => ['f', 'a', 'l', 's', 'e']
  | .int n => intText n
  | .float x => x.text
  | .str s => stringText s
  | .list items => '[' :: dumpsItems true items
  | .dict items => '{' :: dumpsFields true items

/-- The items up to the closing bracket. -/
def dumpsItems (first : Bool) : List Value → List Char
  | [] => [']']
  | item :: rest =>
      (if first then [] else [',', ' ']) ++ dumps item ++
        dumpsItems false rest

/-- The fields up to the closing brace. -/
def dumpsFields (first : Bool) : List (String × Value) → List Char
  | [] => ['}']
  | (key, item) :: rest =>
      (if first then [] else [',', ' ']) ++ stringText key ++ [':', ' '] ++
        dumps item ++ dumpsFields false rest

end

mutual

/-- The document whose dictionaries are in the order of their keys. -/
def sortKeys : Value → Value
  | .list items => .list (sortItems items)
  | .dict items => .dict (sortFields items)
  | value => value

def sortItems : List Value → List Value
  | [] => []
  | item :: rest => sortKeys item :: sortItems rest

def sortFields : List (String × Value) → List (String × Value)
  | [] => []
  | (key, item) :: rest =>
      (sortFields rest).orderedInsert (fun a b => a.1 ≤ b.1)
        (key, sortKeys item)

end

/-- `json.dumps(value, sort_keys=True)`. -/
def dumpsSorted (value : Value) : List Char := dumps (sortKeys value)

theorem toNat_not_surrogate (c : Char) :
    c.toNat < 55296 ∨ (57344 ≤ c.toNat ∧ c.toNat < 1114112) := by
  rcases c.valid with h | ⟨h₁, h₂⟩
  · exact Or.inl h
  · exact Or.inr ⟨h₁, h₂⟩

theorem ofNat_of_toNat {c : Char} {n : Nat} (h : c.toNat = n) :
    Char.ofNat n = c := by
  rw [← h]
  exact Char.ofNat_toNat c

inductive ShortEscape : Char → List Char → Prop
  | quote : ShortEscape '"' ['\\', '"']
  | slash : ShortEscape '\\' ['\\', '\\']
  | feed : ShortEscape '\n' ['\\', 'n']
  | carriage : ShortEscape '\r' ['\\', 'r']
  | tab : ShortEscape '\t' ['\\', 't']
  | backspace : ShortEscape (Char.ofNat 8) ['\\', 'b']
  | form : ShortEscape (Char.ofNat 12) ['\\', 'f']

theorem shortEscape_or {c : Char} {out other : List Char}
    (h : out = if c = '"' then ['\\', '"']
      else if c = '\\' then ['\\', '\\']
      else if c = '\n' then ['\\', 'n']
      else if c = '\r' then ['\\', 'r']
      else if c = '\t' then ['\\', 't']
      else if c.toNat = 8 then ['\\', 'b']
      else if c.toNat = 12 then ['\\', 'f']
      else other) :
    ShortEscape c out ∨ out = other ∧ c ≠ '"' ∧ c ≠ '\\' := by
  subst h
  split_ifs with hquote hslash hc hc hc hc hc
  · exact .inl (hquote ▸ .quote)
  · exact .inl (hslash ▸ .slash)
  · exact .inl (hc ▸ .feed)
  · exact .inl (hc ▸ .carriage)
  · exact .inl (hc ▸ .tab)
  · exact .inl (ofNat_of_toNat hc ▸ .backspace)
  · exact .inl (ofNat_of_toNat hc ▸ .form)
  · exact .inr ⟨rfl, hquote, hslash⟩

theorem isDigit_of_mem_digits {n : Nat} {c : Char}
    (h : c ∈ Nat.toDigits 10 n) : c.isDigit = true :=
  Nat.isDigit_of_mem_toDigits (by omega) (by omega) h

theorem intText_letters (n : Int) :
    ∀ c ∈ intText n, c.isDigit = true ∨ c = '-' := by
  intro c hc
  cases n with
  | ofNat n => exact Or.inl (isDigit_of_mem_digits hc)
  | negSucc n =>
      rcases List.mem_cons.mp hc with rfl | hc
      · exact Or.inr rfl
      · exact Or.inl (isDigit_of_mem_digits hc)

theorem intText_ne_nil (n : Int) : intText n ≠ [] := by
  cases n with
  | ofNat n => exact Nat.toDigits_ne_nil
  | negSucc n => exact List.cons_ne_nil _ _

theorem toDigits_inj {m n : Nat}
    (h : Nat.toDigits 10 m = Nat.toDigits 10 n) : m = n := by
  have hread := congrArg (fun text => Nat.ofDigitChars 10 text 0) h
  simpa using hread

theorem intText_inj {m n : Int} (h : intText m = intText n) : m = n := by
  have hdash (k : Nat) : '-' ∉ Nat.toDigits 10 k := by
    intro hmem
    have hdigit := isDigit_of_mem_digits hmem
    revert hdigit
    decide
  cases m with
  | ofNat m =>
      cases n with
      | ofNat n => rw [toDigits_inj h]
      | negSucc n =>
          have hmem : '-' ∈ intText (.ofNat m) := by
            rw [h]
            exact List.mem_cons_self
          exact (hdash m hmem).elim
  | negSucc m =>
      cases n with
      | ofNat n =>
          have hmem : '-' ∈ intText (.ofNat n) := by
            rw [← h]
            exact List.mem_cons_self
          exact (hdash n hmem).elim
      | negSucc n =>
          have hdigits := toDigits_inj (List.cons.inj h).2
          rw [Nat.succ.inj hdigits]

/-- Neither a string nor a list nor a dictionary. -/
def isAtom : Value → Bool
  | .none | .bool _ | .int _ | .float _ => true
  | .str _ | .list _ | .dict _ => false

theorem atomic_of_atom {v : Value} (h : isAtom v = true) :
    ∀ c ∈ dumps v, atomic c = true := by
  cases v with
  | none => exact List.all_eq_true.mp (by decide +kernel)
  | bool b =>
      apply List.all_eq_true.mp
      cases b
      · decide +kernel
      · decide +kernel
  | int n =>
      intro c hc
      rcases intText_letters n c hc with hdigit | rfl
      · simp [atomic, Char.isAlphanum, hdigit]
      · decide
  | float x =>
      have hshape := x.shape
      simp only [floatShape, Bool.and_eq_true, List.all_eq_true] at hshape
      exact hshape.1.1
  | str s => cases h
  | list items => cases h
  | dict items => cases h

def atomKind (text : List Char) : Nat :=
  match text with
  | 'n' :: _ => 0
  | 't' :: _ => 1
  | 'f' :: _ => 2
  | text => if text.any floatMark then 4 else 3

theorem atomKind_of_head {c : Char} (hn : c ≠ 'n') (ht : c ≠ 't')
    (hf : c ≠ 'f') (text : List Char) :
    atomKind (c :: text) = if (c :: text).any floatMark then 4 else 3 := by
  simp [atomKind, hn, ht, hf]

theorem atomKind_int (n : Int) : atomKind (intText n) = 3 := by
  have hletters := intText_letters n
  obtain ⟨c, text, htext⟩ := List.exists_cons_of_ne_nil (intText_ne_nil n)
  rw [htext] at hletters ⊢
  have hunmarked : (c :: text).any floatMark = false := by
    rw [List.any_eq_false]
    intro d hd hmark
    rcases hletters d hd with hdigit | rfl
    · simp only [floatMark, Bool.or_eq_true, beq_iff_eq] at hmark
      rcases hmark with ((rfl | rfl) | rfl) | rfl
      all_goals exact absurd hdigit (by decide)
    · exact absurd hmark (by decide)
  have hhead := hletters c List.mem_cons_self
  rw [atomKind_of_head, if_neg (by simp [hunmarked])]
  · rintro rfl
    revert hhead
    decide
  · rintro rfl
    revert hhead
    decide
  · rintro rfl
    revert hhead
    decide

theorem atomKind_float (x : FloatText) : atomKind x.text = 4 := by
  have hshape := x.shape
  cases htext : x.text with
  | nil =>
      rw [htext] at hshape
      cases hshape
  | cons c text =>
      rw [htext] at hshape
      simp only [floatShape, Bool.and_eq_true] at hshape
      have hmarked : (c :: text).any floatMark = true := hshape.1.2
      have hhead := hshape.2
      rw [atomKind_of_head, if_pos hmarked]
      · rintro rfl
        revert hhead
        decide
      · rintro rfl
        revert hhead
        decide
      · rintro rfl
        revert hhead
        decide

def Value.atomKind : Value → Nat
  | .none => 0
  | .bool true => 1
  | .bool false => 2
  | .int _ => 3
  | _ => 4

theorem atomKind_dumps {v : Value} (h : isAtom v = true) :
    Python.atomKind (dumps v) = v.atomKind := by
  cases v with
  | none => rfl
  | bool b => cases b <;> rfl
  | int n => exact atomKind_int n
  | float x => exact atomKind_float x
  | str s => cases h
  | list items => cases h
  | dict items => cases h

theorem dumps_atom_inj {v w : Value} (hv : isAtom v = true)
    (hw : isAtom w = true) (h : dumps v = dumps w) : v = w := by
  have hkind : v.atomKind = w.atomKind := by
    rw [← atomKind_dumps hv, ← atomKind_dumps hw, h]
  cases v with
  | none =>
      cases w with
      | none => rfl
      | bool b => cases b <;> cases hkind
      | _ => cases hkind
  | bool b =>
      cases w with
      | bool b' =>
          cases b <;> cases b' <;> first | rfl | cases hkind
      | _ => cases b <;> cases hkind
  | int m =>
      cases w with
      | int n => rw [intText_inj h]
      | bool b => cases b <;> cases hkind
      | _ => cases hkind
  | float x =>
      cases w with
      | float y =>
          obtain ⟨text, hx⟩ := x
          obtain ⟨text', hy⟩ := y
          cases h
          rfl
      | str t => cases hw
      | list items => cases hw
      | dict items => cases hw
      | bool b => cases b <;> cases hkind
      | _ => cases hkind
  | str s => cases hv
  | list items => cases hv
  | dict items => cases hv

/-- A text that does not go on a number or a word. -/
def Ends (r : List Char) : Prop :=
  ∀ c s, r = c :: s → atomic c = false

theorem takeWhile_atomic {s r : List Char} (hs : ∀ c ∈ s, atomic c = true)
    (hr : Ends r) : (s ++ r).takeWhile atomic = s := by
  induction s with
  | nil =>
      cases r with
      | nil => rfl
      | cons c r => simp [hr c r rfl]
  | cons c s ih =>
      have hrest := ih fun d hd => hs d (List.mem_cons_of_mem c hd)
      simp [hs c List.mem_cons_self, hrest]

theorem ends_of_head {c : Char} (hc : atomic c = false) (r : List Char) :
    Ends (c :: r) := by
  intro d s h
  cases h
  exact hc

end Python
