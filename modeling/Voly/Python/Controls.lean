/-
The character NUL in a text that is read as JSON: it is neither skipped nor
part of a value.
-/
import Voly.Python.JsonDoc

namespace Python

def nul : Char := Char.ofNat 0

/-- What is read of the text holds no NUL. -/
def Passes (text rest : List Char) : Prop := nul ∈ text → nul ∈ rest

theorem Passes.trans {text middle rest : List Char}
    (h : Passes text middle) (h' : Passes middle rest) : Passes text rest :=
  fun hmem => h' (h hmem)

theorem passes_cons {c : Char} (h : c ≠ nul) (rest : List Char) :
    Passes (c :: rest) rest := by
  intro hmem
  rcases List.mem_cons.mp hmem with heq | hrest
  · exact absurd heq.symm h
  · exact hrest

theorem passes_dropWhile {p : Char → Bool} (h : p nul = false)
    (text : List Char) : Passes text (text.dropWhile p) := by
  intro hmem
  rw [← List.takeWhile_append_dropWhile (p := p) (l := text)] at hmem
  rcases List.mem_append.mp hmem with htake | hdrop
  · have hp := List.mem_takeWhile_imp htake
    rw [h] at hp
    cases hp
  · exact hdrop

theorem passes_skipSpace (text : List Char) : Passes text (skipSpace text) :=
  passes_dropWhile (by decide) text

theorem ne_nul_of_hexDigit {c : Char} {n : Nat} (h : hexDigit? c = some n) :
    c ≠ nul := by
  rintro rfl
  have hnone : hexDigit? nul = none := by decide
  rw [hnone] at h
  cases h

theorem passes_unit {a b c d : Char} {n : Nat}
    (h : readUnit a b c d = some n) (rest : List Char) :
    Passes (a :: b :: c :: d :: rest) rest := by
  simp only [readUnit, Option.bind_eq_bind, Option.bind_eq_some_iff] at h
  obtain ⟨_, ha, _, hb, _, hc, _, hd, _⟩ := h
  exact (passes_cons (ne_nul_of_hexDigit ha) _).trans
    ((passes_cons (ne_nul_of_hexDigit hb) _).trans
      ((passes_cons (ne_nul_of_hexDigit hc) _).trans
        (passes_cons (ne_nul_of_hexDigit hd) _)))

theorem passes_escape {text rest : List Char} {x : Char}
    (h : readEscape text = some (x, rest)) : Passes text rest := by
  unfold readEscape at h
  split at h
  · next a b c d tail =>
      simp only [Option.bind_eq_bind, Option.bind_eq_some_iff] at h
      obtain ⟨high, hhigh, hread⟩ := h
      have hu : 'u' ≠ nul := by decide
      have hslash : '\\' ≠ nul := by decide
      have hunit := (passes_cons hu _).trans (passes_unit hhigh tail)
      split at hread
      · rw [← (Prod.mk.inj (Option.some.inj hread)).2]
        exact hunit
      · split at hread
        · next e f g k tail =>
            simp only [Option.bind_eq_some_iff] at hread
            obtain ⟨low, hlow, hread⟩ := hread
            split at hread
            · rw [← (Prod.mk.inj (Option.some.inj hread)).2]
              exact hunit.trans ((passes_cons hslash _).trans
                ((passes_cons hu _).trans (passes_unit hlow tail)))
            · cases hread
        · cases hread
  all_goals first
    | cases h; exact passes_cons (by decide) _
    | cases h

theorem passes_char {text rest : List Char} {x : Char}
    (h : readChar text = some (x, rest)) : Passes text rest := by
  cases text with
  | nil => cases h
  | cons c tail =>
      rw [readChar] at h
      split at h
      · next hslash =>
          rw [hslash]
          exact (passes_cons (by decide) _).trans (passes_escape h)
      split at h
      · cases h
      · next hbare =>
          cases h
          apply passes_cons
          rintro rfl
          exact hbare (Or.inr (by decide))

theorem passes_string {fuel : Nat} {text : List Char}
    {out : List Char × List Char} (h : readString fuel text = some out) :
    Passes text out.2 := by
  induction fuel generalizing text out with
  | zero => cases h
  | succ fuel ih =>
      unfold readString at h
      split at h
      · cases h
        exact passes_cons (by decide) _
      · split at h
        · next c rest hchar =>
            obtain ⟨inner, hinner, rfl⟩ := Option.map_eq_some_iff.mp h
            exact (passes_char hchar).trans (@ih rest inner hinner)
        · cases h

theorem passes_atom {text : List Char} {out : AtomText × List Char}
    (h : readAtom text = some out) : Passes text out.2 := by
  unfold readAtom at h
  dsimp only at h
  split at h
  · cases h
    exact passes_dropWhile (by decide) text
  · cases h

theorem passes_separator {first : Bool} {text rest : List Char}
    (h : readSeparator first text = some rest) : Passes text rest := by
  unfold readSeparator at h
  split at h
  · cases h
    exact id
  · split at h
    · cases h
      exact (passes_cons (by decide) _).trans (passes_skipSpace _)
    · cases h

theorem passes_read (fuel : Nat) :
    (∀ {text : List Char} {out : Doc × List Char},
      readValue fuel text = some out → Passes text out.2) ∧
    (∀ {first : Bool} {text : List Char} {out : List Doc × List Char},
      readItems fuel first text = some out → Passes text out.2) ∧
    (∀ {first : Bool} {text : List Char}
      {out : List (String × Doc) × List Char},
      readFields fuel first text = some out → Passes text out.2) := by
  induction fuel with
  | zero =>
      refine ⟨?_, ?_, ?_⟩
      · intro text out h
        cases h
      · intro first text out h
        cases h
      · intro first text out h
        cases h
  | succ fuel ih =>
      obtain ⟨ihvalue, ihitems, ihfields⟩ := ih
      refine ⟨?_, ?_, ?_⟩
      · intro text out h
        unfold readValue at h
        split at h
        · obtain ⟨inner, hinner, rfl⟩ := Option.map_eq_some_iff.mp h
          exact (passes_cons (by decide) _).trans
            (@passes_string fuel _ inner hinner)
        · obtain ⟨inner, hinner, rfl⟩ := Option.map_eq_some_iff.mp h
          exact (passes_cons (by decide) _).trans (@ihitems _ _ inner hinner)
        · obtain ⟨inner, hinner, rfl⟩ := Option.map_eq_some_iff.mp h
          exact (passes_cons (by decide) _).trans (@ihfields _ _ inner hinner)
        · obtain ⟨inner, hinner, rfl⟩ := Option.map_eq_some_iff.mp h
          exact @passes_atom _ inner hinner
      · intro first text out h
        unfold readItems at h
        apply (passes_skipSpace text).trans
        split at h
        · next rest hend =>
            cases h
            rw [hend]
            exact passes_cons (by decide) _
        · simp only [Option.bind_eq_bind, Option.bind_eq_some_iff] at h
          obtain ⟨middle, hseparator, item, hitem, items, hitems, hout⟩ := h
          rw [← Option.some.inj hout]
          exact (passes_separator hseparator).trans
            ((ihvalue hitem).trans (@ihitems _ _ items hitems))
      · intro first text out h
        unfold readFields at h
        apply (passes_skipSpace text).trans
        split at h
        · next rest hend =>
            cases h
            rw [hend]
            exact passes_cons (by decide) _
        · simp only [Option.bind_eq_bind, Option.bind_eq_some_iff] at h
          obtain ⟨middle, hseparator, hread⟩ := h
          apply (passes_separator hseparator).trans
          split at hread
          · next rest =>
              simp only [Option.bind_eq_some_iff] at hread
              obtain ⟨key, hkey, hread⟩ := hread
              apply (passes_cons (by decide) rest).trans
              apply (passes_string hkey).trans
              apply (passes_skipSpace _).trans
              split at hread
              · next behind hcolon =>
                  simp only [Option.bind_eq_some_iff] at hread
                  obtain ⟨item, hitem, items, hitems, hout⟩ := hread
                  rw [hcolon, ← Option.some.inj hout]
                  exact (passes_cons (by decide) behind).trans
                    ((passes_skipSpace behind).trans
                      ((ihvalue hitem).trans (@ihfields _ _ items hitems)))
              · cases hread
          · cases hread

theorem nul_not_mem_of_loads {text : List Char} {v : Doc}
    (h : loads text = some v) : nul ∉ text := by
  intro hmem
  unfold loads at h
  split at h
  · next value rest hread =>
      split at h
      · next hblank =>
          have hrest := passes_skipSpace rest
            ((passes_read _).1 hread (passes_skipSpace text hmem))
          rw [hblank] at hrest
          cases hrest
      · cases h
  · cases h

end Python
