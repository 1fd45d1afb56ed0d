/-
JSON on one line, with one item or one document a line: writing and reading
back.
-/
import Voly.Python.Fields

namespace Python

/-- A line boundary that JSON leaves: NEL, line and paragraph separators. -/
def bareBreak (c : Char) : Bool := [133, 8232, 8233].contains c.toNat

/-- The text breaks no line of a JSON document. -/
def Unbroken (s : String) : Prop := ∀ c ∈ s.toList, bareBreak c = false

instance (s : String) : Decidable (Unbroken s) :=
  inferInstanceAs (Decidable (∀ c ∈ s.toList, bareBreak c = false))

theorem isLineBreak_of_bare {c : Char} (hprint : 32 ≤ c.toNat)
    (h : bareBreak c = false) : isLineBreak c = false := by
  simp only [bareBreak, List.contains_eq_mem, decide_eq_false_iff_not,
    List.mem_cons, List.not_mem_nil, or_false, not_or] at h
  simp only [isLineBreak, List.contains_eq_mem, decide_eq_false_iff_not,
    List.mem_cons, List.not_mem_nil, or_false, not_or]
  omega

theorem ascii_unitEscape {n : Nat} {x : Char} (hn : n < 65536)
    (hx : x ∈ unitEscape n) : x.toNat < 128 := by
  have hdigit : ∀ m < 16, (hexChar m).toNat < 128 := by decide
  simp only [unitEscape, List.mem_cons, List.not_mem_nil, or_false] at hx
  rcases hx with rfl | rfl | rfl | rfl | rfl | rfl
  · decide
  · decide
  · exact hdigit _ (by omega)
  · exact hdigit _ (by omega)
  · exact hdigit _ (by omega)
  · exact hdigit _ (by omega)

theorem mem_escapeRaw {c x : Char} (h : x ∈ escapeRaw c) :
    x = c ∨ x.toNat < 128 := by
  rcases shortEscape_or (@rfl _ (escapeRaw c)) with hout | ⟨hout, _⟩
  · have hascii : ∀ x ∈ escapeRaw c, x.toNat < 128 := by
      cases hout <;> decide
    exact .inr (hascii x h)
  rw [hout] at h
  split at h
  · exact Or.inr (ascii_unitEscape (by omega) h)
  · exact Or.inl (List.mem_singleton.mp h)

theorem ascii_escapeChar (c : Char) : ∀ x ∈ escapeChar c, x.toNat < 128 := by
  have hrange := toNat_not_surrogate c
  rcases shortEscape_or (@rfl _ (escapeChar c)) with h | ⟨h, _⟩
  · cases h <;> decide
  rw [h]
  split
  · next hprint =>
      intro x hx
      rw [List.mem_singleton.mp hx]
      omega
  split
  · next hunit => exact fun x => ascii_unitEscape hunit
  · intro x hx
    rcases List.mem_append.mp hx with hx | hx
    · exact ascii_unitEscape (by omega) hx
    · exact ascii_unitEscape (by omega) hx

/-- The text that `json.dumps` writes by default is ASCII. -/
theorem ascii_stringText (s : String) : ∀ x ∈ stringText s, x.toNat < 128 := by
  intro x hx
  simp only [stringText, escape, List.cons_append, List.mem_cons,
    List.mem_append, List.mem_flatMap, List.not_mem_nil, or_false] at hx
  rcases hx with rfl | ⟨c, _, hx⟩ | rfl
  · decide
  · exact ascii_escapeChar c x hx
  · decide

theorem bareBreak_of_ascii {c : Char} (h : c.toNat < 128) :
    bareBreak c = false := by
  simp only [bareBreak, List.contains_eq_mem, decide_eq_false_iff_not,
    List.mem_cons, List.not_mem_nil, or_false, not_or]
  omega

theorem strings_dict (items : List (String × Doc)) :
    Layout.strings (.dict items) =
      items.flatMap fun item => item.1 :: Layout.strings item.2 := by
  change Layout.stringsOfFields items = _
  induction items with
  | nil => rfl
  | cons item items ih =>
      obtain ⟨key, value⟩ := item
      rw [Layout.stringsOfFields, ih, List.flatMap_cons]

theorem strings_list (items : List Doc) :
    Layout.strings (.list items) = items.flatMap Layout.strings := by
  change Layout.stringsOfItems items = _
  induction items with
  | nil => rfl
  | cons item items ih => rw [Layout.stringsOfItems, ih, List.flatMap_cons]

theorem strings_stringsDoc (items : List String) :
    Layout.strings (stringsDoc items) = items := by
  rw [stringsDoc, strings_list, List.flatMap_map]
  exact List.flatMap_singleton' items

theorem strings_boolDoc (b : Bool) : Layout.strings (boolDoc b) = [] := by
  cases b <;> rfl

theorem strings_num (x : JsonNumber) : Layout.strings x.toDoc = [] := rfl

theorem plain_uses_unbroken (spaced : Bool) : (plain spaced).Uses fun c =>
    32 ≤ c.toNat ∧ bareBreak c = false where
  atoms c hc := by
    refine ⟨printable_atomic hc, ?_⟩
    by_contra hbare
    have hnone : ∀ n ∈ [133, 8232, 8233], atomic (Char.ofNat n) = false := by
      decide
    have hmem : c.toNat ∈ [133, 8232, 8233] :=
      List.contains_iff_mem.mp (Bool.of_not_eq_false hbare)
    have hfalse := hnone c.toNat hmem
    rw [Char.ofNat_toNat, hc] at hfalse
    cases hfalse
  marks := by decide
  opening _ := by
    intro c hc
    cases hc
  between _ := by
    change ∀ c ∈ if spaced then [' '] else [], _
    cases spaced <;> decide
  closing _ := by
    intro c hc
    cases hc
  afterColon := by cases spaced <;> decide

/-- A document stays on one line if its strings hold no boundary that JSON
leaves. -/
theorem write_unbroken (spaced : Bool) {v : Doc}
    (h : ∀ s ∈ Layout.strings v, Unbroken s) :
    ∀ c ∈ v.write spaced, isLineBreak c = false := by
  have hescape : ∀ s ∈ Layout.strings v, ∀ c ∈ s.toList, ∀ x ∈ escapeRaw c,
      32 ≤ x.toNat ∧ bareBreak x = false := by
    intro s hs c hc x hx
    have hprint := printable_escapeRaw c x hx
    rcases mem_escapeRaw hx with hsame | hlow
    · subst hsame
      exact ⟨hprint, h s hs x hc⟩
    · exact ⟨hprint, bareBreak_of_ascii hlow⟩
  intro c hc
  rw [← render_plain spaced 0 v] at hc
  obtain ⟨hprint, hbare⟩ :=
    (plain_uses_unbroken spaced).render 0 v hescape c hc
  exact isLineBreak_of_bare hprint hbare

def filledLines (text : List Char) : List (List Char) :=
  (splitLines text).filter fun line => !line.all isSpace

def linesText (rows : List Doc) : List Char :=
  rows.flatMap fun row => row.write true ++ ['\n']

theorem filledLines_linesText {rows : List Doc}
    (hdict : ∀ row ∈ rows, ∃ items, row = .dict items)
    (h : ∀ row ∈ rows, ∀ s ∈ Layout.strings row, Unbroken s) :
    filledLines (linesText rows) = rows.map fun row => row.write true := by
  have hsplit : splitLines (linesText rows) =
      rows.map fun row => row.write true := by
    have hlines := @splitLines_rows (rows.map fun row => row.write true) (by
      intro line hline
      obtain ⟨row, hrow, rfl⟩ := List.mem_map.mp hline
      exact write_unbroken true (h row hrow))
    rwa [List.flatMap_map] at hlines
  have hopen : isSpace '\x7b' = false := by decide
  rw [filledLines, hsplit, List.filter_eq_self]
  intro line hline
  obtain ⟨row, hrow, rfl⟩ := List.mem_map.mp hline
  obtain ⟨items, rfl⟩ := hdict row hrow
  change (!('\x7b' :: _ : List Char).all isSpace) = true
  rw [List.all_cons, hopen]
  rfl

theorem readEscape_pair {a b c d e f g h : Char} {high low : Nat}
    (hhigh : readUnit a b c d = some high)
    (hlow : readUnit e f g h = some low)
    (hhighRange : 55296 ≤ high ∧ high < 56320)
    (hlowRange : 56320 ≤ low ∧ low < 57344) (rest : List Char) :
    readEscape ('u' :: a :: b :: c :: d :: '\\' :: 'u' :: e :: f :: g :: h ::
        rest) =
      some (Char.ofNat (65536 + (high - 55296) * 1024 + (low - 56320)),
        rest) := by
  simp only [readEscape, hhigh, Option.bind_eq_bind, Option.bind_some]
  rw [if_neg (by omega)]
  simp only [hlow, Option.bind_some]
  rw [if_pos ⟨hhighRange.2, hlowRange⟩]

theorem readChar_pair {n : Nat} (hlow : 65536 ≤ n) (hhigh : n < 1114112)
    (rest : List Char) :
    readChar (unitEscape (55296 + (n - 65536) / 1024) ++
        (unitEscape (56320 + (n - 65536) % 1024) ++ rest)) =
      some (Char.ofNat n, rest) := by
  have hfirst := @readUnit_hexChar (55296 + (n - 65536) / 1024) (by omega)
  have hsecond := @readUnit_hexChar (56320 + (n - 65536) % 1024) (by omega)
  have hread := readEscape_pair hfirst hsecond (by omega) (by omega) rest
  have hjoined : 65536 + (55296 + (n - 65536) / 1024 - 55296) * 1024 +
      (56320 + (n - 65536) % 1024 - 56320) = n := by omega
  rw [hjoined] at hread
  simp only [unitEscape, List.cons_append, List.nil_append]
  rw [readChar, if_pos rfl]
  exact hread

theorem toNat_lt_limit (c : Char) : c.toNat < 1114112 := by
  rcases c.valid with h | h
  · exact Nat.lt_trans h (by decide)
  · exact h.2

theorem toNat_not_half (c : Char) :
    c.toNat < 55296 ∨ 57344 ≤ c.toNat := by
  rcases c.valid with hlow | hhigh
  · exact Or.inl hlow
  · exact Or.inr hhigh.1

theorem readChar_unit {n : Nat} (h : n < 65536)
    (hhalf : n < 55296 ∨ 57344 ≤ n) (rest : List Char) :
    readChar (unitEscape n ++ rest) = some (Char.ofNat n, rest) := by
  change (do
    let high ← readUnit (hexChar (n / 4096)) (hexChar (n / 256 % 16))
      (hexChar (n / 16 % 16)) (hexChar (n % 16))
    _) = _
  rw [readUnit_hexChar h]
  exact if_pos hhalf

theorem readChar_escapeChar (c : Char) (rest : List Char) :
    readChar (escapeChar c ++ rest) = some (c, rest) := by
  rcases shortEscape_or (@rfl _ (escapeChar c)) with h | ⟨h, hquote, hslash⟩
  · cases h <;> rfl
  rw [h]
  by_cases hprint : 32 ≤ c.toNat ∧ c.toNat ≤ 126
  · rw [if_pos hprint]
    exact readChar_bare hslash hquote (by omega) rest
  rw [if_neg hprint]
  by_cases hunit : c.toNat < 65536
  · rw [if_pos hunit, readChar_unit hunit (toNat_not_half c),
      Char.ofNat_toNat]
  · rw [if_neg hunit, List.append_assoc,
      readChar_pair (Nat.le_of_not_lt hunit) (toNat_lt_limit c),
      Char.ofNat_toNat]

/-- A line feed and the indent of a depth. -/
def newLine (depth : Nat) : List Char :=
  '\n' :: List.replicate (2 * depth) ' '

theorem newLine_blank (depth : Nat) :
    (newLine depth).all isJsonSpace = true := by
  rw [newLine, List.all_cons, List.all_replicate]
  split <;> rfl

/-- The layout of `json.dumps(value, indent=2)`. -/
def indented : Layout where
  escape := escapeChar
  opening depth := newLine depth
  between depth := newLine depth
  closing depth := newLine (depth - 1)
  afterColon := [' ']
  readBack := readChar_escapeChar
  openingBlank := newLine_blank
  betweenBlank := newLine_blank
  closingBlank depth := newLine_blank (depth - 1)
  colonBlank := rfl

/-- `json.dumps(value, indent=2) + "\n"`. -/
def dumpsIndented (value : Doc) : List Char :=
  indented.render 0 value ++ ['\n']

theorem loads_dumpsIndented (value : Doc) :
    loads (dumpsIndented value) = some value :=
  indented.loads_render 0 value rfl

theorem nothing_blank : ([] : List Char).all isJsonSpace = true := rfl

theorem space_blank : [' '].all isJsonSpace = true := rfl

/-- The layout of `json.dumps(value)`. -/
def onOneLine : Layout where
  escape := escapeChar
  opening _ := []
  between _ := [' ']
  closing _ := []
  afterColon := [' ']
  readBack := readChar_escapeChar
  openingBlank _ := nothing_blank
  betweenBlank _ := space_blank
  closingBlank _ := nothing_blank
  colonBlank := space_blank

/-- `json.dumps(value)`. -/
def dumpsLine (value : Doc) : List Char := onOneLine.render 0 value

theorem loads_dumpsLine (value : Doc) :
    loads (dumpsLine value) = some value := by
  have hloads := @Layout.loads_render onOneLine 0 value [] rfl
  rwa [List.append_nil] at hloads

end Python
