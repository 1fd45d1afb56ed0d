/-
JSON documents whose text is not limited to ASCII: writing, reading, and the
round trip.
-/
import Voly.Python.JsonText

namespace Python

/-- The text of a number, or `null`, `true`, `false`. -/
structure AtomText where
  text : List Char
  shape : (!text.isEmpty && text.all atomic) = true
deriving DecidableEq

/-- A document; a number stands as it is written. -/
inductive Doc where
  | atom (x : AtomText)
  | str (s : String)
  | list (items : List Doc)
  | dict (items : List (String × Doc))

namespace AtomText

variable (x : AtomText)

theorem ne_nil : x.text ≠ [] := by
  intro hnil
  have hshape := x.shape
  rw [hnil] at hshape
  cases hshape

theorem letters : ∀ c ∈ x.text, atomic c = true := by
  have hshape := x.shape
  simp only [Bool.and_eq_true, List.all_eq_true] at hshape
  exact hshape.2

theorem ext {x y : AtomText} (h : x.text = y.text) : x = y := by
  obtain ⟨text, _⟩ := x
  obtain ⟨text', _⟩ := y
  cases h
  rfl

end AtomText

/-- The items of a dictionary, `json.loads` keeping the last of equal keys. -/
def Doc.field? : Doc → String → Option Doc
  | .dict items, key => Dict.get? items.reverse key
  | _, _ => none

/-- One character of a string with `ensure_ascii=False`. -/
def escapeRaw (c : Char) : List Char :=
  if c = '"' then ['\\', '"']
  else if c = '\\' then ['\\', '\\']
  else if c = '\n' then ['\\', 'n']
  else if c = '\r' then ['\\', 'r']
  else if c = '\t' then ['\\', 't']
  else if c.toNat = 8 then ['\\', 'b']
  else if c.toNat = 12 then ['\\', 'f']
  else if c.toNat < 32 then unitEscape c.toNat
  else [c]

def rawText (s : String) : List Char :=
  '"' :: s.toList.flatMap escapeRaw ++ ['"']

def itemSeparator (spaced : Bool) : List Char :=
  if spaced then [',', ' '] else [',']

def keySeparator (spaced : Bool) : List Char :=
  if spaced then [':', ' '] else [':']

mutual

/-- `json.dumps(value, ensure_ascii=False)`, with the default separators or
with `separators=(",", ":")`. -/
def Doc.write (spaced : Bool) : Doc → List Char
  | .atom x => x.text
  | .str s => rawText s
  | .list items => '[' :: Doc.writeItems spaced true items
  | .dict items => '{' :: Doc.writeFields spaced true items

/-- The items up to the closing bracket. -/
def Doc.writeItems (spaced first : Bool) : List Doc → List Char
  | [] => [']']
  | item :: rest =>
      (if first then [] else itemSeparator spaced) ++ item.write spaced ++
        Doc.writeItems spaced false rest

/-- The fields up to the closing brace. -/
def Doc.writeFields (spaced first : Bool) : List (String × Doc) → List Char
  | [] => ['}']
  | (key, item) :: rest =>
      (if first then [] else itemSeparator spaced) ++ rawText key ++
        keySeparator spaced ++ item.write spaced ++
        Doc.writeFields spaced false rest

end

def isJsonSpace (c : Char) : Bool :=
  c == ' ' || c == '\n' || c == '\r' || c == '\t'

def skipSpace (text : List Char) : List Char :=
  text.dropWhile isJsonSpace

def hexDigit? (c : Char) : Option Nat :=
  if c.isDigit then some (c.toNat - 48)
  else if 'a' ≤ c ∧ c ≤ 'f' then some (c.toNat - 87)
  else if 'A' ≤ c ∧ c ≤ 'F' then some (c.toNat - 55)
  else none

/-- The 16-bit unit that four hexadecimal digits stand for. -/
def readUnit (a b c d : Char) : Option Nat := do
  let a ← hexDigit? a
  let b ← hexDigit? b
  let c ← hexDigit? c
  let d ← hexDigit? d
  some (a * 4096 + b * 256 + c * 16 + d)

/-- What follows a backslash; a lone half of a surrogate pair is no
character. -/
def readEscape : List Char → Option (Char × List Char)
  | 'u' :: a :: b :: c :: d :: rest => do
      let high ← readUnit a b c d
      if high < 55296 ∨ 57344 ≤ high then some (Char.ofNat high, rest)
      else
        match rest with
        | '\\' :: 'u' :: e :: f :: g :: h :: rest =>
            let low ← readUnit e f g h
            if high < 56320 ∧ 56320 ≤ low ∧ low < 57344 then
              some (Char.ofNat (65536 + (high - 55296) * 1024 +
                (low - 56320)), rest)
            else none
        | _ => none
  | '"' :: rest => some ('"', rest)
  | '\\' :: rest => some ('\\', rest)
  | '/' :: rest => some ('/', rest)
  | 'b' :: rest => some (Char.ofNat 8, rest)
  | 'f' :: rest => some (Char.ofNat 12, rest)
  | 'n' :: rest => some ('\n', rest)
  | 'r' :: rest => some ('\r', rest)
  | 't' :: rest => some ('\t', rest)
  | _ => none

/-- One character of a string; the closing quote and bare controls are none. -/
def readChar : List Char → Option (Char × List Char)
  | [] => none
  | c :: rest =>
      if c = '\\' then readEscape rest
      else if c = '"' ∨ c.toNat < 32 then none
      else some (c, rest)

/-- The characters up to the closing quote. -/
def readString : Nat → List Char → Option (List Char × List Char)
  | 0, _ => none
  | fuel + 1, text =>
      match text with
      | '"' :: rest => some ([], rest)
      | text =>
          match readChar text with
          | some (c, rest) =>
              (readString fuel rest).map fun out => (c :: out.1, out.2)
          | none => none

def readAtom (text : List Char) : Option (AtomText × List Char) :=
  let word := text.takeWhile atomic
  if h : (!word.isEmpty && word.all atomic) = true then
    some (⟨word, h⟩, text.dropWhile atomic)
  else none

/-- Past the separator that the next item needs unless it is the first. -/
def readSeparator (first : Bool) (text : List Char) : Option (List Char) :=
  if first then some text
  else
    match text with
    | ',' :: rest => some (skipSpace rest)
    | _ => none

mutual

/-- The value that a text starts with, and what follows it. -/
def readValue : Nat → List Char → Option (Doc × List Char)
  | 0, _ => none
  | fuel + 1, text =>
      match text with
      | '"' :: rest =>
          (readString fuel rest).map fun out =>
            (.str (String.ofList out.1), out.2)
      | '[' :: rest =>
          (readItems fuel true rest).map fun out => (.list out.1, out.2)
      | '{' :: rest =>
          (readFields fuel true rest).map fun out => (.dict out.1, out.2)
      | text => (readAtom text).map fun out => (.atom out.1, out.2)

def readItems : Nat → Bool → List Char → Option (List Doc × List Char)
  | 0, _, _ => none
  | fuel + 1, first, text =>
      match skipSpace text with
      | ']' :: rest => some ([], rest)
      | text => do
          let text ← readSeparator first text
          let (item, rest) ← readValue fuel text
          let (items, rest) ← readItems fuel false rest
          some (item :: items, rest)

def readFields :
    Nat → Bool → List Char → Option (List (String × Doc) × List Char)
  | 0, _, _ => none
  | fuel + 1, first, text =>
      match skipSpace text with
      | '}' :: rest => some ([], rest)
      | text => do
          let text ← readSeparator first text
          match text with
          | '"' :: rest =>
              let (key, rest) ← readString fuel rest
              match skipSpace rest with
              | ':' :: rest =>
                  let (item, rest) ← readValue fuel (skipSpace rest)
                  let (items, rest) ← readFields fuel false rest
                  some ((String.ofList key, item) :: items, rest)
              | _ => none
          | _ => none

end

/-- A sign, digits without a leading zero, a fraction and an exponent. -/
def isJsonNumber (text : List Char) : Bool :=
  let body := if text.head? = some '-' then text.tail else text
  let whole := body.takeWhile Char.isDigit
  let rest := body.dropWhile Char.isDigit
  let fraction := if rest.head? = some '.' then
    rest.tail.takeWhile Char.isDigit else []
  let rest' := if rest.head? = some '.' then
    rest.tail.dropWhile Char.isDigit else rest
  let power := if rest'.head? = some 'e' ∨ rest'.head? = some 'E' then
    (if rest'.tail.head? = some '+' ∨ rest'.tail.head? = some '-' then
      rest'.tail.tail else rest'.tail)
    else ['0']
  !whole.isEmpty && (whole == ['0'] || whole.head? != some '0') &&
    (rest.head? != some '.' || !fraction.isEmpty) &&
    (rest'.isEmpty || rest'.head? == some 'e' || rest'.head? == some 'E') &&
    !power.isEmpty && power.all Char.isDigit

mutual

/-- Every atom is a number or one of the words of JSON and Python. -/
def Doc.proper : Doc → Bool
  | .atom x =>
      ["null", "true", "false", "NaN", "Infinity", "-Infinity"].contains
        (String.ofList x.text) || isJsonNumber x.text
  | .str _ => true
  | .list items => Doc.properItems items
  | .dict items => Doc.properFields items

def Doc.properItems : List Doc → Bool
  | [] => true
  | item :: rest => item.proper && Doc.properItems rest

def Doc.properFields : List (String × Doc) → Bool
  | [] => true
  | (_, item) :: rest => item.proper && Doc.properFields rest

end

theorem readUnit_hexChar {n : Nat} (h : n < 65536) :
    readUnit (hexChar (n / 4096)) (hexChar (n / 256 % 16))
      (hexChar (n / 16 % 16)) (hexChar (n % 16)) = some n := by
  have hdigit : ∀ m < 16, hexDigit? (hexChar m) = some m := by decide
  rw [readUnit, hdigit _ (by omega), hdigit _ (by omega), hdigit _ (by omega),
    hdigit _ (by omega)]
  change some (n / 4096 * 4096 + n / 256 % 16 * 256 + n / 16 % 16 * 16 +
    n % 16) = some n
  congr 1
  omega

theorem readChar_bare {c : Char} (hslash : c ≠ '\\') (hquote : c ≠ '"')
    (hcontrol : ¬c.toNat < 32) (rest : List Char) :
    readChar (c :: rest) = some (c, rest) := by
  rw [readChar, if_neg hslash, if_neg (not_or.mpr ⟨hquote, hcontrol⟩)]

theorem readChar_unitEscape {n : Nat} (h : n < 55296) (rest : List Char) :
    readChar (unitEscape n ++ rest) = some (Char.ofNat n, rest) := by
  change (do
    let high ← readUnit (hexChar (n / 4096)) (hexChar (n / 256 % 16))
      (hexChar (n / 16 % 16)) (hexChar (n % 16))
    _) = _
  rw [readUnit_hexChar (by omega)]
  exact if_pos (Or.inl h)

theorem readChar_escapeRaw (c : Char) (rest : List Char) :
    readChar (escapeRaw c ++ rest) = some (c, rest) := by
  rcases shortEscape_or (@rfl _ (escapeRaw c)) with h | ⟨h, hquote, hslash⟩
  · cases h <;> rfl
  rw [h]
  by_cases hcontrol : c.toNat < 32
  · rw [if_pos hcontrol, readChar_unitEscape (by omega), Char.ofNat_toNat]
  · rw [if_neg hcontrol]
    exact readChar_bare hslash hquote hcontrol rest

theorem skipSpace_cons {c : Char} (h : isJsonSpace c = false)
    (rest : List Char) : skipSpace (c :: rest) = c :: rest := by
  rw [skipSpace, List.dropWhile_cons_of_neg (by simp [h])]

theorem skipSpace_append {gap : List Char}
    (h : gap.all isJsonSpace = true) (rest : List Char) :
    skipSpace (gap ++ rest) = skipSpace rest := by
  induction gap with
  | nil => rfl
  | cons c gap ih =>
      obtain ⟨hc, hgap⟩ := Bool.and_eq_true_iff.mp h
      rw [List.cons_append, skipSpace, List.dropWhile_cons_of_pos hc]
      exact ih hgap

theorem isJsonSpace_of_atomic {c : Char} (h : atomic c = true) :
    isJsonSpace c = false := by
  cases hspace : isJsonSpace c with
  | false => rfl
  | true =>
      simp only [isJsonSpace, Bool.or_eq_true, beq_iff_eq] at hspace
      rcases hspace with ((rfl | rfl) | rfl) | rfl <;>
        exact absurd h (by decide)

/-- The first letter of a document's text. -/
def Doc.opens : Doc → Char → Prop
  | .atom _, c => atomic c = true
  | .str _, c => c = '"'
  | .list _, c => c = '['
  | .dict _, c => c = '{'

theorem Doc.opens_not_space {v : Doc} {c : Char} (h : v.opens c) :
    isJsonSpace c = false := by
  cases v with
  | atom x => exact isJsonSpace_of_atomic h
  | _ =>
      cases h
      rfl

theorem Doc.opens_not_end {v : Doc} {c : Char} (h : v.opens c) :
    c ≠ ']' ∧ c ≠ '}' ∧ c ≠ ',' := by
  refine ⟨?_, ?_, ?_⟩
  · rintro rfl
    cases v <;> exact absurd h (by simp [Doc.opens, atomic])
  · rintro rfl
    cases v <;> exact absurd h (by simp [Doc.opens, atomic])
  · rintro rfl
    cases v <;> exact absurd h (by simp [Doc.opens, atomic])

theorem readAtom_text (x : AtomText) {rest : List Char} (hends : Ends rest) :
    readAtom (x.text ++ rest) = some (x, rest) := by
  have htake : (x.text ++ rest).takeWhile atomic = x.text :=
    takeWhile_atomic x.letters hends
  have hsplit : x.text ++ (x.text ++ rest).dropWhile atomic =
      x.text ++ rest := by
    calc
      x.text ++ (x.text ++ rest).dropWhile atomic =
          (x.text ++ rest).takeWhile atomic ++
            (x.text ++ rest).dropWhile atomic := by rw [htake]
      _ = x.text ++ rest := List.takeWhile_append_dropWhile
  have hdrop : (x.text ++ rest).dropWhile atomic = rest :=
    List.append_cancel_left hsplit
  unfold readAtom
  simp only [htake, hdrop, x.shape, dif_pos]

theorem readValue_atom (x : AtomText) (fuel : Nat) {rest : List Char}
    (hends : Ends rest) :
    readValue (fuel + 1) (x.text ++ rest) = some (.atom x, rest) := by
  have hread := readAtom_text x hends
  obtain ⟨c, text, htext⟩ := List.exists_cons_of_ne_nil x.ne_nil
  have hc : atomic c = true := x.letters c (by
    rw [htext]
    exact List.mem_cons_self)
  rw [htext, List.cons_append] at hread ⊢
  rw [readValue, hread]
  · rfl
  · intro tail heq
    rw [(List.cons.inj heq).1] at hc
    exact absurd hc (by decide)
  · intro tail heq
    rw [(List.cons.inj heq).1] at hc
    exact absurd hc (by decide)
  · intro tail heq
    rw [(List.cons.inj heq).1] at hc
    exact absurd hc (by decide)

theorem ends_nil : Ends [] := by
  intro c s hnil
  cases hnil

/-- How strings are spelled, and the whitespace, by depth. -/
structure Layout where
  escape : Char → List Char
  opening : Nat → List Char
  between : Nat → List Char
  closing : Nat → List Char
  afterColon : List Char
  readBack : ∀ c rest, readChar (escape c ++ rest) = some (c, rest)
  openingBlank : ∀ depth, (opening depth).all isJsonSpace = true
  betweenBlank : ∀ depth, (between depth).all isJsonSpace = true
  closingBlank : ∀ depth, (closing depth).all isJsonSpace = true
  colonBlank : afterColon.all isJsonSpace = true

namespace Layout

variable (l : Layout)

def quote (s : String) : List Char :=
  '"' :: s.toList.flatMap l.escape ++ ['"']

def before (depth : Nat) (first : Bool) : List Char :=
  if first then l.opening depth else ',' :: l.between depth

mutual

def render (depth : Nat) : Doc → List Char
  | .atom x => x.text
  | .str s => l.quote s
  | .list items => '[' :: renderItems (depth + 1) true items
  | .dict items => '{' :: renderFields (depth + 1) true items

def renderItems (depth : Nat) (first : Bool) : List Doc → List Char
  | [] => (if first then [] else l.closing depth) ++ [']']
  | item :: rest =>
      l.before depth first ++ render depth item ++
        renderItems depth false rest

def renderFields (depth : Nat) (first : Bool) :
    List (String × Doc) → List Char
  | [] => (if first then [] else l.closing depth) ++ ['}']
  | (key, item) :: rest =>
      l.before depth first ++ l.quote key ++ (':' :: l.afterColon) ++
        render depth item ++ renderFields depth false rest

end

theorem escape_ne_nil (c : Char) : l.escape c ≠ [] := by
  intro hnil
  have hread := l.readBack c []
  rw [hnil] at hread
  cases hread

theorem escape_head (c : Char) (rest : List Char) :
    ∀ tail, l.escape c ++ rest ≠ '"' :: tail := by
  intro tail h
  have hread := l.readBack c rest
  rw [h] at hread
  cases hread

theorem readString_escape (s : List Char) (rest : List Char) {fuel : Nat}
    (hfuel : (s.flatMap l.escape).length < fuel) :
    readString fuel (s.flatMap l.escape ++ '"' :: rest) = some (s, rest) := by
  induction s generalizing fuel with
  | nil =>
      cases fuel with
      | zero => cases hfuel
      | succ fuel => rfl
  | cons c s ih =>
      cases fuel with
      | zero => cases hfuel
      | succ fuel =>
          have hpos := List.length_pos_iff.mpr (l.escape_ne_nil c)
          rw [List.flatMap_cons, List.length_append] at hfuel
          rw [List.flatMap_cons, List.append_assoc, readString, l.readBack]
          · dsimp only
            rw [ih (by omega)]
            rfl
          · exact l.escape_head c _

theorem render_head (depth : Nat) (v : Doc) :
    ∃ c text, l.render depth v = c :: text ∧ v.opens c := by
  cases v with
  | atom x =>
      obtain ⟨c, text, htext⟩ := List.exists_cons_of_ne_nil x.ne_nil
      refine ⟨c, text, htext, x.letters c ?_⟩
      rw [htext]
      exact List.mem_cons_self
  | _ => exact ⟨_, _, rfl, rfl⟩

theorem skipSpace_render (depth : Nat) (v : Doc) (rest : List Char) :
    skipSpace (l.render depth v ++ rest) = l.render depth v ++ rest := by
  obtain ⟨c, text, htext, hopens⟩ := l.render_head depth v
  rw [htext]
  exact skipSpace_cons (Doc.opens_not_space hopens) _

section

variable (depth : Nat) (first : Bool) {c : Char} (h : isJsonSpace c = false)
  (rest : List Char)
include h

theorem skipSpace_before :
    skipSpace (l.before depth first ++ c :: rest) =
      (if first then [] else ',' :: l.between depth) ++ c :: rest := by
  cases first with
  | true =>
      change skipSpace (l.opening depth ++ c :: rest) = c :: rest
      rw [skipSpace_append (l.openingBlank depth), skipSpace_cons h]
  | false => exact skipSpace_cons rfl _

theorem readSeparator_before :
    readSeparator first
        ((if first then [] else ',' :: l.between depth) ++ c :: rest) =
      some (c :: rest) := by
  cases first with
  | true => rfl
  | false =>
      change some (skipSpace (l.between depth ++ c :: rest)) = _
      rw [skipSpace_append (l.betweenBlank depth), skipSpace_cons h]

end

theorem before_not_end (depth : Nat) (first : Bool) {c close : Char}
    (hc : c ≠ close) (hclose : ',' ≠ close) (rest tail : List Char) :
    (if first then [] else ',' :: l.between depth) ++ c :: rest ≠
      close :: tail := by
  cases first with
  | true => exact fun h => hc (List.cons.inj h).1
  | false => exact fun h => hclose (List.cons.inj h).1

theorem ends_closing {gap : List Char} (h : gap.all isJsonSpace = true)
    {c : Char} (hc : atomic c = false) (rest : List Char) :
    Ends (gap ++ c :: rest) := by
  cases gap with
  | nil => exact ends_of_head hc _
  | cons blank gap =>
      refine ends_of_head ?_ _
      cases hatomic : atomic blank with
      | false => rfl
      | true =>
          have hspace := isJsonSpace_of_atomic hatomic
          rw [(Bool.and_eq_true_iff.mp h).1] at hspace
          cases hspace

section

variable (depth : Nat)

theorem ends_renderItems (items : List Doc) (rest : List Char) :
    Ends (l.renderItems depth false items ++ rest) := by
  cases items with
  | nil =>
      rw [renderItems, List.append_assoc]
      exact ends_closing (l.closingBlank depth) rfl _
  | cons item items => exact ends_of_head rfl _

theorem ends_renderFields (items : List (String × Doc)) (rest : List Char) :
    Ends (l.renderFields depth false items ++ rest) := by
  cases items with
  | nil =>
      rw [renderFields, List.append_assoc]
      exact ends_closing (l.closingBlank depth) rfl _
  | cons item items => exact ends_of_head rfl _

theorem readItems_cons (first : Bool) (v : Doc) (fuel : Nat) (rest : List Char) :
    readItems (fuel + 1) first
        (l.before depth first ++ (l.render depth v ++ rest)) =
      (do
        let (item, rest) ← readValue fuel (l.render depth v ++ rest)
        let (items, rest) ← readItems fuel false rest
        some (item :: items, rest)) := by
  obtain ⟨c, text, htext, hopens⟩ := l.render_head depth v
  have hspace := Doc.opens_not_space hopens
  rw [htext, List.cons_append, readItems, l.skipSpace_before depth first hspace]
  split
  · next hend =>
      exact absurd hend (l.before_not_end depth first
        (Doc.opens_not_end hopens).1 (by decide) _ _)
  · rw [l.readSeparator_before depth first hspace]
    rfl

/-- A field does not look like the object's end; its key is read back first. -/
theorem readFields_cons (first : Bool) (key : String) (v : Doc) {fuel : Nat}
    (hfuel : (l.quote key).length ≤ fuel + 1) (rest : List Char) :
    readFields (fuel + 1) first
        (l.before depth first ++ (l.quote key ++
          ((':' :: l.afterColon) ++ (l.render depth v ++ rest)))) =
      (do
        let (item, rest) ← readValue fuel (l.render depth v ++ rest)
        let (items, rest) ← readFields fuel false rest
        some ((key, item) :: items, rest)) := by
  have hkey (tail : List Char) :
      readString fuel (key.toList.flatMap l.escape ++ '"' :: tail) =
        some (key.toList, tail) := by
    apply l.readString_escape
    simp only [quote, List.length_cons, List.length_append,
      List.length_nil] at hfuel
    omega
  have hcolon : skipSpace ((':' :: l.afterColon) ++
      (l.render depth v ++ rest)) =
      ':' :: (l.afterColon ++ (l.render depth v ++ rest)) :=
    skipSpace_cons rfl _
  have hvalue : skipSpace (l.afterColon ++ (l.render depth v ++ rest)) =
      l.render depth v ++ rest := by
    rw [skipSpace_append l.colonBlank, l.skipSpace_render]
  rw [quote, List.cons_append, List.cons_append, readFields,
    l.skipSpace_before depth first rfl]
  split
  · next hend =>
      exact absurd hend (l.before_not_end depth first (by decide) (by decide)
        _ _)
  · rw [l.readSeparator_before depth first rfl]
    change (do
      let (key, rest) ← readString fuel ((key.toList.flatMap l.escape ++
        ['"']) ++ ((':' :: l.afterColon) ++ (l.render depth v ++ rest)))
      _) = _
    rw [List.append_assoc, List.singleton_append, hkey]
    simp only [Option.bind_eq_bind, Option.bind_some, hcolon, hvalue,
      String.ofList_toList]

theorem readItems_end (first : Bool) (fuel : Nat) (rest : List Char) :
    readItems (fuel + 1) first (l.renderItems depth first [] ++ rest) =
      some ([], rest) := by
  have hskip : skipSpace (l.renderItems depth first [] ++ rest) =
      ']' :: rest := by
    rw [renderItems, List.append_assoc]
    cases first with
    | true => exact skipSpace_cons rfl _
    | false =>
        rw [if_neg Bool.false_ne_true,
          skipSpace_append (l.closingBlank depth)]
        exact skipSpace_cons rfl _
  rw [readItems, hskip]
  rfl

theorem readFields_end (first : Bool) (fuel : Nat) (rest : List Char) :
    readFields (fuel + 1) first (l.renderFields depth first [] ++ rest) =
      some ([], rest) := by
  have hskip : skipSpace (l.renderFields depth first [] ++ rest) =
      '}' :: rest := by
    rw [renderFields, List.append_assoc]
    cases first with
    | true => exact skipSpace_cons rfl _
    | false =>
        rw [if_neg Bool.false_ne_true,
          skipSpace_append (l.closingBlank depth)]
        exact skipSpace_cons rfl _
  rw [readFields, hskip]
  rfl

theorem render_length_pos (v : Doc) :
    0 < (l.render depth v).length := by
  obtain ⟨c, text, htext, _⟩ := l.render_head depth v
  rw [htext]
  exact Nat.succ_pos _

theorem renderItems_length_pos (first : Bool) (items : List Doc) :
    0 < (l.renderItems depth first items).length := by
  cases items with
  | nil => simp [renderItems]
  | cons item items =>
      have hpos := l.render_length_pos depth item
      simp only [renderItems, List.length_append]
      omega

theorem renderFields_length_pos (first : Bool) (items : List (String × Doc)) :
    0 < (l.renderFields depth first items).length := by
  cases items with
  | nil => simp [renderFields]
  | cons item items =>
      have hpos := l.render_length_pos depth item.2
      simp only [renderFields, List.length_append]
      omega

end

mutual

theorem readValue_render : (depth : Nat) → (v : Doc) → {fuel : Nat} →
    {rest : List Char} → (l.render depth v).length ≤ fuel → Ends rest →
    readValue fuel (l.render depth v ++ rest) = some (v, rest)
  | depth, v, 0, rest, hfuel, hends =>
      absurd (l.render_length_pos depth v) (by omega)
  | depth, .atom x, fuel + 1, rest, hfuel, hends => readValue_atom x fuel hends
  | depth, .str s, fuel + 1, rest, hfuel, hends => by
      simp only [render, quote, List.length_cons, List.length_append,
        List.length_nil] at hfuel
      rw [render, quote, List.cons_append, List.cons_append,
        List.append_assoc, readValue, List.singleton_append,
        l.readString_escape s.toList rest (by omega)]
      simp
  | depth, .list items, fuel + 1, rest, hfuel, hends => by
      rw [render, List.length_cons] at hfuel
      rw [render, List.cons_append, readValue,
        readItems_render (depth + 1) true items (by omega)]
      rfl
  | depth, .dict items, fuel + 1, rest, hfuel, hends => by
      rw [render, List.length_cons] at hfuel
      rw [render, List.cons_append, readValue,
        readFields_render (depth + 1) true items (by omega)]
      rfl

theorem readItems_render : (depth : Nat) → (first : Bool) →
    (items : List Doc) → {fuel : Nat} → {rest : List Char} →
    (l.renderItems depth first items).length ≤ fuel →
    readItems fuel first (l.renderItems depth first items ++ rest) =
      some (items, rest)
  | depth, first, items, 0, rest, hfuel =>
      absurd (l.renderItems_length_pos depth first items) (by omega)
  | depth, first, [], fuel + 1, rest, hfuel =>
      l.readItems_end depth first fuel rest
  | depth, first, item :: items, fuel + 1, rest, hfuel => by
      have hpos := l.render_length_pos depth item
      have hrest := l.renderItems_length_pos depth false items
      simp only [renderItems, List.length_append] at hfuel
      rw [renderItems, List.append_assoc, List.append_assoc,
        l.readItems_cons, readValue_render depth item (by omega)
          (l.ends_renderItems depth items rest)]
      change (do
        let (items, rest) ← readItems fuel false
          (l.renderItems depth false items ++ rest)
        some (item :: items, rest)) = _
      rw [readItems_render depth false items (by omega)]
      rfl

theorem readFields_render : (depth : Nat) → (first : Bool) →
    (items : List (String × Doc)) → {fuel : Nat} → {rest : List Char} →
    (l.renderFields depth first items).length ≤ fuel →
    readFields fuel first (l.renderFields depth first items ++ rest) =
      some (items, rest)
  | depth, first, items, 0, rest, hfuel =>
      absurd (l.renderFields_length_pos depth first items) (by omega)
  | depth, first, [], fuel + 1, rest, hfuel =>
      l.readFields_end depth first fuel rest
  | depth, first, (key, item) :: items, fuel + 1, rest, hfuel => by
      have hpos := l.render_length_pos depth item
      have hrest := l.renderFields_length_pos depth false items
      simp only [renderFields, List.length_append, List.length_cons] at hfuel
      have hkey : 0 < (l.quote key).length := Nat.succ_pos _
      rw [renderFields, List.append_assoc, List.append_assoc,
        List.append_assoc, List.append_assoc,
        l.readFields_cons depth first key item (by omega),
        readValue_render depth item (by omega)
          (l.ends_renderFields depth items rest)]
      change (do
        let (items, rest) ← readFields fuel false
          (l.renderFields depth false items ++ rest)
        some ((key, item) :: items, rest)) = _
      rw [readFields_render depth false items (by omega)]
      rfl

end

mutual

def strings : Doc → List String
  | .atom _ => []
  | .str s => [s]
  | .list items => stringsOfItems items
  | .dict items => stringsOfFields items

def stringsOfItems : List Doc → List String
  | [] => []
  | item :: rest => strings item ++ stringsOfItems rest

def stringsOfFields : List (String × Doc) → List String
  | [] => []
  | (key, item) :: rest => key :: strings item ++ stringsOfFields rest

end

/-- The characters that a layout may use outside strings. -/
structure Uses (p : Char → Prop) : Prop where
  atoms : ∀ c, atomic c = true → p c
  marks : ∀ c ∈ ['"', ',', ':', '[', ']', '\x7b', '\x7d'], p c
  opening : ∀ depth, ∀ c ∈ l.opening depth, p c
  between : ∀ depth, ∀ c ∈ l.between depth, p c
  closing : ∀ depth, ∀ c ∈ l.closing depth, p c
  afterColon : ∀ c ∈ l.afterColon, p c

section Letters

variable {l} {p : Char → Prop}

theorem Uses.before (h : l.Uses p) (depth : Nat) (first : Bool) :
    ∀ c ∈ l.before depth first, p c := by
  cases first with
  | true => exact h.opening depth
  | false =>
      intro c hc
      rcases List.mem_cons.mp hc with rfl | hc
      · exact h.marks _ (by simp)
      · exact h.between depth c hc

theorem Uses.quote (h : l.Uses p) {s : String}
    (hs : ∀ c ∈ s.toList, ∀ x ∈ l.escape c, p x) :
    ∀ c ∈ l.quote s, p c := by
  have hmark : p '"' := h.marks _ (by simp)
  intro c hc
  simp only [Layout.quote, List.cons_append, List.mem_cons, List.mem_append,
    List.mem_flatMap, List.not_mem_nil, or_false] at hc
  rcases hc with rfl | ⟨x, hx, hc⟩ | rfl
  · exact hmark
  · exact hs x hx c hc
  · exact hmark

theorem Uses.closed (h : l.Uses p) (depth : Nat) (first : Bool)
    {mark : Char} (hmark : p mark) :
    ∀ c ∈ (if first then [] else l.closing depth) ++ [mark], p c := by
  intro c hc
  rcases List.mem_append.mp hc with hc | hc
  · cases first with
    | true => cases hc
    | false => exact h.closing depth c hc
  · exact List.mem_singleton.mp hc ▸ hmark

mutual

theorem Uses.render (h : l.Uses p) : (depth : Nat) → (v : Doc) →
    (∀ s ∈ strings v, ∀ c ∈ s.toList, ∀ x ∈ l.escape c, p x) →
    ∀ c ∈ l.render depth v, p c
  | depth, .atom x, _ => fun c hc => h.atoms c (x.letters c hc)
  | depth, .str s, hs => h.quote (hs s (List.mem_singleton.mpr rfl))
  | depth, .list items, hs => by
      rw [Layout.render]
      refine List.forall_mem_cons.mpr ⟨h.marks _ (by simp), ?_⟩
      exact h.renderItems (depth + 1) true items hs
  | depth, .dict items, hs => by
      rw [Layout.render]
      refine List.forall_mem_cons.mpr ⟨h.marks _ (by simp), ?_⟩
      exact h.renderFields (depth + 1) true items hs

theorem Uses.renderItems (h : l.Uses p) : (depth : Nat) → (first : Bool) →
    (items : List Doc) →
    (∀ s ∈ stringsOfItems items, ∀ c ∈ s.toList, ∀ x ∈ l.escape c, p x) →
    ∀ c ∈ l.renderItems depth first items, p c
  | depth, first, [], _ => h.closed depth first (h.marks _ (by simp))
  | depth, first, item :: rest, hs => by
      rw [Layout.renderItems]
      refine List.forall_mem_append.mpr
        ⟨List.forall_mem_append.mpr ⟨h.before depth first, ?_⟩, ?_⟩
      · exact h.render depth item fun s hmem =>
          hs s (List.mem_append_left _ hmem)
      · exact h.renderItems depth false rest fun s hmem =>
          hs s (List.mem_append_right _ hmem)

theorem Uses.renderFields (h : l.Uses p) : (depth : Nat) → (first : Bool) →
    (items : List (String × Doc)) →
    (∀ s ∈ stringsOfFields items, ∀ c ∈ s.toList, ∀ x ∈ l.escape c, p x) →
    ∀ c ∈ l.renderFields depth first items, p c
  | depth, first, [], _ => h.closed depth first (h.marks _ (by simp))
  | depth, first, (key, item) :: rest, hs => by
      have hcolon : ∀ c ∈ ':' :: l.afterColon, p c :=
        List.forall_mem_cons.mpr ⟨h.marks _ (by simp), h.afterColon⟩
      have hkey := h.quote (hs key List.mem_cons_self)
      have hitem := h.render depth item fun s hmem =>
        hs s (List.mem_append_left _ (List.mem_cons_of_mem key hmem))
      have hrest := h.renderFields depth false rest fun s hmem =>
        hs s (List.mem_append_right _ hmem)
      rw [Layout.renderFields]
      simp only [List.forall_mem_append]
      exact ⟨⟨⟨⟨h.before depth first, hkey⟩, hcolon⟩, hitem⟩, hrest⟩

end

end Letters

end Layout

/-- `json.loads`: one value and nothing but whitespace around it. -/
def loads (text : List Char) : Option Doc :=
  match readValue (text.length + 1) (skipSpace text) with
  | some (value, rest) => if skipSpace rest = [] then some value else none
  | none => none

theorem Layout.loads_render (l : Layout) (depth : Nat) (v : Doc)
    {gap : List Char} (hgap : gap.all isJsonSpace = true) :
    loads (l.render depth v ++ gap) = some v := by
  have hends : Ends gap := by
    cases gap with
    | nil => exact ends_nil
    | cons c gap =>
        refine ends_of_head ?_ gap
        cases hatomic : atomic c with
        | false => rfl
        | true =>
            have hspace := isJsonSpace_of_atomic hatomic
            rw [(Bool.and_eq_true_iff.mp hgap).1] at hspace
            cases hspace
  have hread := @Layout.readValue_render l depth v
    ((l.render depth v ++ gap).length + 1) gap
    (by rw [List.length_append]; omega) hends
  have hrest : skipSpace gap = [] := by
    have hskip := skipSpace_append hgap []
    rw [List.append_nil] at hskip
    exact hskip
  rw [loads, l.skipSpace_render, hread]
  exact if_pos hrest

/-- `json.dumps(value, ensure_ascii=False)`, with the default or compact
separators. -/
def plain (spaced : Bool) : Layout where
  escape := escapeRaw
  opening _ := []
  between _ := if spaced then [' '] else []
  closing _ := []
  afterColon := if spaced then [' '] else []
  readBack := readChar_escapeRaw
  openingBlank _ := rfl
  betweenBlank _ := by cases spaced <;> rfl
  closingBlank _ := rfl
  colonBlank := by cases spaced <;> rfl

theorem plain_before (spaced first : Bool) (depth : Nat) :
    (plain spaced).before depth first =
      if first then [] else itemSeparator spaced := by
  cases first <;> cases spaced <;> rfl

theorem plain_colon (spaced : Bool) :
    ':' :: (plain spaced).afterColon = keySeparator spaced := by
  cases spaced <;> rfl

mutual

theorem render_plain (spaced : Bool) : (depth : Nat) → (v : Doc) →
    (plain spaced).render depth v = v.write spaced
  | depth, .atom x => rfl
  | depth, .str s => rfl
  | depth, .list items => by
      rw [Layout.render, Doc.write,
        renderItems_plain spaced (depth + 1) true items]
  | depth, .dict items => by
      rw [Layout.render, Doc.write,
        renderFields_plain spaced (depth + 1) true items]

theorem renderItems_plain (spaced : Bool) : (depth : Nat) → (first : Bool) →
    (items : List Doc) → (plain spaced).renderItems depth first items =
      Doc.writeItems spaced first items
  | depth, first, [] => by cases first <;> rfl
  | depth, first, item :: items => by
      rw [Layout.renderItems, Doc.writeItems, plain_before,
        render_plain spaced depth item,
        renderItems_plain spaced depth false items]

theorem renderFields_plain (spaced : Bool) : (depth : Nat) →
    (first : Bool) → (items : List (String × Doc)) →
    (plain spaced).renderFields depth first items =
      Doc.writeFields spaced first items
  | depth, first, [] => by cases first <;> rfl
  | depth, first, (key, item) :: items => by
      rw [Layout.renderFields, Doc.writeFields, plain_before, plain_colon,
        render_plain spaced depth item,
        renderFields_plain spaced depth false items]
      rfl

end

theorem loads_write (spaced : Bool) (v : Doc) :
    loads (v.write spaced) = some v := by
  have hloads := @Layout.loads_render (plain spaced) 0 v [] rfl
  rwa [List.append_nil, render_plain] at hloads

theorem write_injective (spaced : Bool) :
    Function.Injective (Doc.write spaced) := by
  intro v w h
  apply Option.some.inj
  rw [← loads_write spaced v, h, loads_write]

theorem printable_unitEscape {n : Nat} {x : Char} (hn : n < 65536)
    (hx : x ∈ unitEscape n) : 32 ≤ x.toNat := by
  have hdigit : ∀ m < 16, 32 ≤ (hexChar m).toNat := by decide
  simp only [unitEscape, List.mem_cons, List.not_mem_nil, or_false] at hx
  rcases hx with rfl | rfl | rfl | rfl | rfl | rfl
  · decide
  · decide
  · exact hdigit _ (by omega)
  · exact hdigit _ (by omega)
  · exact hdigit _ (by omega)
  · exact hdigit _ (by omega)

theorem printable_escapeRaw (c : Char) :
    ∀ x ∈ escapeRaw c, 32 ≤ x.toNat := by
  rcases shortEscape_or (@rfl _ (escapeRaw c)) with h | ⟨h, _⟩
  · cases h <;> decide
  rw [h]
  split
  · next hcontrol => exact fun x => printable_unitEscape (by omega)
  · next hcontrol =>
      intro x hx
      rw [List.mem_singleton.mp hx]
      exact Nat.le_of_not_lt hcontrol

theorem printable_atomic {c : Char} (h : atomic c = true) :
    32 ≤ c.toNat := by
  by_contra hlow
  have hnone : ∀ n < 32, atomic (Char.ofNat n) = false := by decide
  have hc := hnone c.toNat (Nat.lt_of_not_le hlow)
  rw [Char.ofNat_toNat, h] at hc
  cases hc

theorem plain_uses_printable (spaced : Bool) :
    (plain spaced).Uses fun c => 32 ≤ c.toNat where
  atoms _ h := printable_atomic h
  marks := by decide
  opening _ := by
    intro c hc
    cases hc
  between _ := by
    change ∀ c ∈ if spaced then [' '] else [], 32 ≤ c.toNat
    cases spaced <;> decide
  closing _ := by
    intro c hc
    cases hc
  afterColon := by cases spaced <;> decide

theorem printable_write (spaced : Bool) (v : Doc) :
    ∀ c ∈ v.write spaced, 32 ≤ c.toNat := by
  rw [← render_plain spaced 0 v]
  exact (plain_uses_printable spaced).render 0 v
    fun s _ c _ => printable_escapeRaw c

theorem nul_not_mem_write (spaced : Bool) (v : Doc) :
    Char.ofNat 0 ∉ v.write spaced :=
  fun hmem => absurd (printable_write spaced v _ hmem) (by decide)

section Order

variable (le : String → String → Bool)

/-- A field put before the first key that is not smaller. -/
def insertField (field : String × Doc) :
    List (String × Doc) → List (String × Doc)
  | [] => [field]
  | other :: rest =>
      if le field.1 other.1 then field :: other :: rest
      else other :: insertField field rest

mutual

/-- The document with the keys of every object in order. -/
def Doc.sortKeys : Doc → Doc
  | .list items => .list (Doc.sortItems items)
  | .dict items => .dict (Doc.sortFields items)
  | value => value

def Doc.sortItems : List Doc → List Doc
  | [] => []
  | item :: rest => item.sortKeys :: Doc.sortItems rest

def Doc.sortFields : List (String × Doc) → List (String × Doc)
  | [] => []
  | (key, item) :: rest =>
      insertField le (key, item.sortKeys) (Doc.sortFields rest)

end

variable {le}

theorem sortItems_eq_map (items : List Doc) :
    Doc.sortItems le items = items.map (Doc.sortKeys le) := by
  induction items with
  | nil => rfl
  | cons item rest ih => rw [Doc.sortItems, ih, List.map_cons]

theorem get?_insertField (hrefl : ∀ key, le key key = true) (key : String)
    (value : Doc) (fields : List (String × Doc)) (other : String) :
    Dict.get? (insertField le (key, value) fields) other =
      if key = other then some value else Dict.get? fields other := by
  induction fields with
  | nil => rfl
  | cons field rest ih =>
      obtain ⟨k, v⟩ := field
      unfold insertField
      split
      · rfl
      · next hle =>
          rw [Dict.get?, Dict.get?, ih]
          by_cases hk : k = other
          · subst hk
            have hne : key ≠ k := by
              rintro rfl
              exact hle (hrefl key)
            rw [if_pos rfl, if_pos rfl, if_neg hne]
          · rw [if_neg hk, if_neg hk]

theorem get?_sortFields (hrefl : ∀ key, le key key = true)
    (fields : List (String × Doc)) (key : String) :
    Dict.get? (Doc.sortFields le fields) key =
      (Dict.get? fields key).map (Doc.sortKeys le) := by
  induction fields with
  | nil => rfl
  | cons field rest ih =>
      obtain ⟨k, v⟩ := field
      rw [Doc.sortFields, get?_insertField hrefl, ih, Dict.get?]
      split
      · rfl
      · rfl

end Order

end Python
