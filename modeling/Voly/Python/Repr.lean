/-
Python's numbers and their texts: `repr` of an integer and of a float, and the
value that such a text has.
-/
import Voly.Float.Layout
import Voly.Python.Number
import Voly.Python.Reorder

namespace Python

open Binary64

/-- `float.__repr__` has an exponent below `1e-4` and from `1e16` on. -/
def reprStyle : Style where
  least := -4
  greatest := 16
  exponentDigits := 2
  wholeSuffix := ['.', '0']

/-- The text of a float that is not negative. -/
def reprUnits (units : Nat) : List Char :=
  if units = 0 then ['0', '.', '0']
  else reprStyle.layout (shortest units).text (shortest units).point

/-- An integer or a finite float. -/
inductive Number where
  | int (n : Int)
  | float (x : Finite)
deriving DecidableEq

/-- `repr(x)`. -/
def Number.repr : Number → List Char
  | .int n => intText n
  | .float x => (if x.negative then ['-'] else []) ++ reprUnits x.units

/-- A float without a fraction becomes an integer. -/
def Number.normalize : Number → Number
  | .int n => .int n
  | .float x => if x.isInteger then .int x.truncate else .float x

theorem atomic_of_numeral {c : Char} (h : numeral c = true) :
    atomic c = true := by
  rw [numeral, Bool.or_eq_true] at h
  rcases h with hdigit | hmark
  · simp [atomic, Char.isAlphanum, hdigit]
  · have hall : ∀ c ∈ ".e+-".toList, atomic c = true := by decide
    exact hall c (List.contains_iff_mem.mp hmark)

theorem reprUnits_letters (units : Nat) :
    ∀ c ∈ reprUnits units, atomic c = true := by
  unfold reprUnits
  split
  · decide
  · intro c hc
    exact atomic_of_numeral (reprStyle.layout_letters
      (shortest units).text_digits (by decide) c hc)

theorem reprUnits_ne_nil (units : Nat) : reprUnits units ≠ [] := by
  unfold reprUnits
  split
  · exact List.cons_ne_nil _ _
  · next hzero =>
      obtain ⟨c, rest, hlayout, _⟩ := @Style.layout_head reprStyle _
        (shortest units).point (shortest units).text_digits
        (Decimal.text_ne_nil (shortest_pos (Nat.pos_of_ne_zero hzero)))
      rw [hlayout]
      exact List.cons_ne_nil _ _

theorem Number.repr_shape (x : Number) :
    (!x.repr.isEmpty && x.repr.all atomic) = true := by
  cases x with
  | int n =>
      rw [Bool.and_eq_true, Bool.not_eq_true', List.isEmpty_eq_false_iff,
        List.all_eq_true]
      refine ⟨intText_ne_nil n, ?_⟩
      intro c hc
      rcases intText_letters n c hc with hdigit | rfl
      · exact atomic_of_numeral (numeral_of_isDigit hdigit)
      · decide
  | float x =>
      change (!((if x.negative then ['-'] else []) ++
        reprUnits x.units).isEmpty && List.all (_ ++ _) _) = true
      rw [Bool.and_eq_true, Bool.not_eq_true', List.isEmpty_eq_false_iff,
        List.all_eq_true, List.forall_mem_append]
      refine ⟨?_, ?_, reprUnits_letters x.units⟩
      · exact List.append_ne_nil_of_right_ne_nil _ (reprUnits_ne_nil x.units)
      · split
        · decide
        · exact List.forall_mem_nil _

def Number.toAtom (x : Number) : AtomText := ⟨x.repr, x.repr_shape⟩

/-- A value of dictionaries, lists, strings and numbers. -/
inductive Content where
  | number (x : Number)
  | str (s : String)
  | list (items : List Content)
  | dict (items : List (String × Content))

mutual

def Content.normalizeNumbers : Content → Content
  | .number x => .number x.normalize
  | .str s => .str s
  | .list items => .list (Content.normalizeItems items)
  | .dict items => .dict (Content.normalizeFields items)

def Content.normalizeItems : List Content → List Content
  | [] => []
  | item :: rest => item.normalizeNumbers :: Content.normalizeItems rest

def Content.normalizeFields :
    List (String × Content) → List (String × Content)
  | [] => []
  | (key, item) :: rest =>
      (key, item.normalizeNumbers) :: Content.normalizeFields rest

end

mutual

/-- The document that is written for a value. -/
def Content.toDoc : Content → Doc
  | .number x => .atom x.toAtom
  | .str s => .str s
  | .list items => .list (Content.toDocs items)
  | .dict items => .dict (Content.toFields items)

def Content.toDocs : List Content → List Doc
  | [] => []
  | item :: rest => item.toDoc :: Content.toDocs rest

def Content.toFields : List (String × Content) → List (String × Doc)
  | [] => []
  | (key, item) :: rest => (key, item.toDoc) :: Content.toFields rest

end

mutual

def Content.numbers : Content → List Number
  | .number x => [x]
  | .str _ => []
  | .list items => Content.numbersOfItems items
  | .dict items => Content.numbersOfFields items

def Content.numbersOfItems : List Content → List Number
  | [] => []
  | item :: rest => item.numbers ++ Content.numbersOfItems rest

def Content.numbersOfFields : List (String × Content) → List Number
  | [] => []
  | (_, item) :: rest => item.numbers ++ Content.numbersOfFields rest

end

mutual

/-- The keys of every dictionary in a value. -/
def Content.keyLists : Content → List (List String)
  | .number _ => []
  | .str _ => []
  | .list items => Content.keyListsOfItems items
  | .dict items => items.map Prod.fst :: Content.keyListsOfFields items

def Content.keyListsOfItems : List Content → List (List String)
  | [] => []
  | item :: rest => item.keyLists ++ Content.keyListsOfItems rest

def Content.keyListsOfFields : List (String × Content) → List (List String)
  | [] => []
  | (_, item) :: rest => item.keyLists ++ Content.keyListsOfFields rest

end

mutual

theorem atoms_toDoc : (v : Content) →
    v.normalizeNumbers.toDoc.atoms =
      v.numbers.map fun x => x.normalize.toAtom
  | .number _ => rfl
  | .str _ => rfl
  | .list items => atoms_toDocs items
  | .dict items => atoms_toFields items

theorem atoms_toDocs : (items : List Content) →
    Doc.atomsOfItems (Content.toDocs (Content.normalizeItems items)) =
      (Content.numbersOfItems items).map fun x => x.normalize.toAtom
  | [] => rfl
  | item :: rest => by
      change item.normalizeNumbers.toDoc.atoms ++ _ =
        (item.numbers ++ _).map _
      rw [List.map_append, atoms_toDoc item, atoms_toDocs rest]

theorem atoms_toFields : (items : List (String × Content)) →
    Doc.atomsOfFields (Content.toFields (Content.normalizeFields items)) =
      (Content.numbersOfFields items).map fun x => x.normalize.toAtom
  | [] => rfl
  | (_, item) :: rest => by
      change item.normalizeNumbers.toDoc.atoms ++ _ =
        (item.numbers ++ _).map _
      rw [List.map_append, atoms_toDoc item, atoms_toFields rest]

end

theorem keys_toFields (items : List (String × Content)) :
    (Content.toFields (Content.normalizeFields items)).map Prod.fst =
      items.map Prod.fst := by
  induction items with
  | nil => rfl
  | cons item rest ih =>
      rw [Content.normalizeFields, Content.toFields, List.map_cons, ih,
        List.map_cons]

mutual

theorem objects_toDoc : (v : Content) →
    v.normalizeNumbers.toDoc.objects = v.keyLists
  | .number _ => rfl
  | .str _ => rfl
  | .list items => objects_toDocs items
  | .dict items => by
      change List.map Prod.fst (Content.toFields _) ::
        Doc.objectsOfFields _ = items.map Prod.fst :: _
      rw [keys_toFields, objects_toFields items]

theorem objects_toDocs : (items : List Content) →
    Doc.objectsOfItems (Content.toDocs (Content.normalizeItems items)) =
      Content.keyListsOfItems items
  | [] => rfl
  | item :: rest => by
      change item.normalizeNumbers.toDoc.objects ++ _ = item.keyLists ++ _
      rw [objects_toDoc item, objects_toDocs rest]

theorem objects_toFields : (items : List (String × Content)) →
    Doc.objectsOfFields (Content.toFields (Content.normalizeFields items)) =
      Content.keyListsOfFields items
  | [] => rfl
  | (_, item) :: rest => by
      change item.normalizeNumbers.toDoc.objects ++ _ = item.keyLists ++ _
      rw [objects_toDoc item, objects_toFields rest]

end

theorem exponentOf_append {body tail : List Char}
    (hbody : ∀ c ∈ body, (c != 'e' && c != 'E') = true) :
    exponentOf (body ++ tail) = exponentOf tail := by
  unfold exponentOf
  rw [List.dropWhile_append_of_pos hbody]

theorem magnitude_parts {left right dotted tail : List Char}
    (hleft : ∀ c ∈ left, c.isDigit = true)
    (hright : ∀ c ∈ right, c.isDigit = true)
    (hdotted : dotted = '.' :: right ∨ dotted = [] ∧ right = [])
    (htail : tail.head? = none ∨ tail.head? = some 'e') :
    magnitude (left ++ dotted ++ tail) =
      (Nat.ofDigitChars 10 (left ++ right) 0 : Nat) *
        (10 : Rat) ^ (exponentOf tail - right.length) := by
  have hmarks {c : Char} (hc : c.isDigit = true) :
      (c != 'e' && c != 'E') = true ∧ (c != '.') = true := by
    constructor
    · rw [Bool.and_eq_true, bne_iff_ne, bne_iff_ne]
      constructor
      · rintro rfl
        cases hc
      · rintro rfl
        cases hc
    · rw [bne_iff_ne]
      rintro rfl
      cases hc
  have hbody : ∀ c ∈ left ++ dotted, (c != 'e' && c != 'E') = true := by
    rw [List.forall_mem_append]
    refine ⟨fun c hc => (hmarks (hleft c hc)).1, ?_⟩
    rcases hdotted with rfl | ⟨rfl, _⟩
    · rw [List.forall_mem_cons]
      exact ⟨by decide, fun c hc => (hmarks (hright c hc)).1⟩
    · exact List.forall_mem_nil _
  have hend : tail.takeWhile (fun c => c != 'e' && c != 'E') = [] := by
    cases tail with
    | nil => rfl
    | cons c rest =>
        rcases htail with hnone | hsome
        · cases hnone
        · cases hsome
          rfl
  have hdigits : (left ++ dotted).filter Char.isDigit = left ++ right := by
    rw [List.filter_append, List.filter_eq_self.mpr hleft]
    rcases hdotted with rfl | ⟨rfl, rfl⟩
    · rw [List.filter_cons_of_neg (by decide), List.filter_eq_self.mpr hright]
    · rfl
  have hplaces : (((left ++ dotted).dropWhile fun c => c != '.').drop
      1).length = right.length := by
    rw [List.dropWhile_append_of_pos fun c hc => (hmarks (hleft c hc)).2]
    rcases hdotted with rfl | ⟨rfl, rfl⟩
    · rfl
    · rfl
  unfold magnitude
  dsimp only
  rw [List.takeWhile_append_of_pos hbody, hend, List.append_nil, hdigits,
    hplaces, exponentOf_append hbody]

theorem ofDigitChars_leftpad (n k : Nat) :
    Nat.ofDigitChars 10 ((Nat.toDigits 10 n).leftpad k '0') 0 = n := by
  rw [List.leftpad, Nat.ofDigitChars_append,
    Nat.ofDigitChars_replicate_zero, Nat.mul_zero,
    Nat.ofDigitChars_ten_toDigits]

theorem digits_leftpad (n k : Nat) :
    ∀ c ∈ (Nat.toDigits 10 n).leftpad k '0', c.isDigit = true := by
  rw [List.leftpad, List.forall_mem_append]
  constructor
  · intro c hc
    rw [List.eq_of_mem_replicate hc]
    decide
  · exact fun c hc => Python.isDigit_of_mem_digits hc

theorem exponentOf_marked (power : List Char) :
    exponentOf ('e' :: power) =
      if power.head? = some '-' then
        -((Nat.ofDigitChars 10 (power.filter Char.isDigit) 0 : Nat) : Int)
      else (Nat.ofDigitChars 10 (power.filter Char.isDigit) 0 : Nat) := rfl

theorem exponentOf_power (point : Int) (k : Nat) :
    exponentOf ('e' :: (if point < 1 then '-' else '+') ::
      (Nat.toDigits 10 (point - 1).natAbs).leftpad k '0') = point - 1 := by
  have hsign (sign : Char) (hsign : sign.isDigit = false) :
      (sign :: (Nat.toDigits 10 (point - 1).natAbs).leftpad k '0').filter
        Char.isDigit = (Nat.toDigits 10 (point - 1).natAbs).leftpad k '0' := by
    rw [List.filter_cons_of_neg (by rw [hsign]; decide)]
    exact List.filter_eq_self.mpr (digits_leftpad _ k)
  rw [exponentOf_marked]
  split
  · rw [hsign '-' rfl, ofDigitChars_leftpad, List.head?_cons, if_pos rfl]
    omega
  · rw [hsign '+' rfl, ofDigitChars_leftpad, List.head?_cons,
      if_neg (by decide)]
    omega

section

variable {style : Style} {digits : List Char} {point : Int}
  (hdigits : ∀ c ∈ digits, c.isDigit = true)
include hdigits

theorem magnitude_inFull (h : point < digits.length) :
    magnitude (style.inFull digits point) =
      (Nat.ofDigitChars 10 digits 0 : Nat) *
        (10 : Rat) ^ (point - digits.length) := by
  have hzeros : ∀ c ∈ List.replicate (-point).toNat '0',
      c.isDigit = true := by
    intro c hc
    rw [List.eq_of_mem_replicate hc]
    decide
  unfold Style.inFull
  rw [if_neg (Int.not_le.mpr h)]
  split
  · next hlow =>
      have hparts := @magnitude_parts ['0']
        (List.replicate (-point).toNat '0' ++ digits) _ [] (by decide)
        (List.forall_mem_append.mpr ⟨hzeros, hdigits⟩) (Or.inl rfl)
        (Or.inl rfl)
      rw [List.append_nil] at hparts
      have hexponent : exponentOf [] = 0 := rfl
      have hpower : (0 : Int) - ((-point).toNat + digits.length : Nat) =
          point - digits.length := by omega
      rw [List.singleton_append] at hparts
      rw [hparts, List.singleton_append, Nat.ofDigitChars_cons,
        Nat.ofDigitChars_append, Nat.ofDigitChars_replicate_zero,
        List.length_append, List.length_replicate, hexponent, hpower]
      rfl
  · next hlow =>
      have hparts := @magnitude_parts (digits.take point.toNat)
        (digits.drop point.toNat) _ []
        (fun c hc => hdigits c (List.mem_of_mem_take hc))
        (fun c hc => hdigits c (List.mem_of_mem_drop hc)) (Or.inl rfl)
        (Or.inl rfl)
      rw [List.append_nil] at hparts
      have hexponent : exponentOf [] = 0 := rfl
      have hpower : (0 : Int) - (digits.length - point.toNat : Nat) =
          point - digits.length := by omega
      rw [hparts, List.take_append_drop, List.length_drop, hexponent, hpower]

theorem magnitude_scientific (hne : digits ≠ []) :
    magnitude (style.scientific digits point) =
      (Nat.ofDigitChars 10 digits 0 : Nat) *
        (10 : Rat) ^ (point - digits.length) := by
  have hlength : 0 < digits.length := List.length_pos_iff.mpr hne
  have hdotted : (if digits.drop 1 = [] then [] else '.' :: digits.drop 1) =
        '.' :: digits.drop 1 ∨
      (if digits.drop 1 = [] then [] else '.' :: digits.drop 1) = [] ∧
        digits.drop 1 = [] := by
    split
    · next hnil => exact Or.inr ⟨rfl, hnil⟩
    · exact Or.inl rfl
  unfold Style.scientific
  dsimp only
  rw [magnitude_parts (fun c hc => hdigits c (List.mem_of_mem_take hc))
      (fun c hc => hdigits c (List.mem_of_mem_drop hc)) hdotted (Or.inr rfl),
    List.take_append_drop, exponentOf_power, List.length_drop]
  congr 2
  omega

end

theorem magnitude_layout {style : Style} {d : Decimal} (hpos : 0 < d.digits)
    (h : d.point < d.text.length) :
    magnitude (style.layout d.text d.point) = d.value := by
  rw [d.value_eq_text]
  unfold Style.layout
  split
  · exact magnitude_inFull d.text_digits h
  · exact magnitude_scientific d.text_digits (d.text_ne_nil hpos)

theorem magnitude_toDigits (n : Nat) : magnitude (Nat.toDigits 10 n) = n := by
  have hparts := @magnitude_parts (Nat.toDigits 10 n) [] [] []
    (fun c hc => Python.isDigit_of_mem_digits hc) (List.forall_mem_nil _)
    (Or.inr ⟨rfl, rfl⟩) (Or.inl rfl)
  rw [List.append_nil, List.append_nil, Nat.ofDigitChars_ten_toDigits]
    at hparts
  rw [hparts]
  have hexponent : exponentOf [] = 0 := rfl
  rw [hexponent]
  simp

theorem magnitude_intText (n : Int) : magnitude (intText n) = n.natAbs := by
  cases n with
  | ofNat n => exact magnitude_toDigits n
  | negSucc n => exact magnitude_toDigits (n + 1)

theorem truthy_intDoc (n : Int) : truthy (intDoc n) = decide (n ≠ 0) := by
  have hletter : ∀ c ∈ intText n, floatMark c = false ∧ c ≠ 'E' ∧ c ≠ 'l' := by
    intro c hc
    rcases intText_letters n c hc with hdigit | rfl
    · refine ⟨?_, ?_, ?_⟩
      · by_contra hmark
        simp only [floatMark, Bool.not_eq_false, Bool.or_eq_true,
          beq_iff_eq] at hmark
        rcases hmark with ((rfl | rfl) | rfl) | rfl <;> cases hdigit
      · rintro rfl
        cases hdigit
      · rintro rfl
        cases hdigit
    · decide
  have hmarks : (intText n).any floatMark = false :=
    List.any_eq_false.mpr fun c hc => by simp [(hletter c hc).1]
  have hpower : (intText n).contains 'E' = false := by
    rw [List.contains_eq_mem, decide_eq_false_iff_not]
    exact fun hmem => (hletter 'E' hmem).2.1 rfl
  have hword : ∀ word ∈ ["null", "false"],
      String.ofList (intText n) ≠ word := by
    intro word hword heq
    have htext : intText n = word.toList := by rw [← heq, String.toList_ofList]
    have hletters : ∀ word ∈ ["null", "false"], 'l' ∈ word.toList := by
      decide
    exact (hletter 'l' (htext ▸ hletters word hword)).2.2 rfl
  have hnamed : (["null", "false"].contains (String.ofList (intText n))) =
      false := by
    rw [List.contains_eq_mem, decide_eq_false_iff_not]
    exact fun hmem => hword _ hmem rfl
  have hzero : isZero (intText n) = decide (n = 0) := by
    rw [isZero, isJsonNumber_intText, hmarks, hpower, magnitude_intText]
    simp
  change (!(["null", "false"].contains (String.ofList (intText n)) ||
    isZero (intText n))) = _
  rw [hnamed, hzero, Bool.false_or, decide_not]

end Python
