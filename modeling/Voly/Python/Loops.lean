/-
Loops that make a list item by item and stop at the first item that fails.
-/
import Mathlib.Data.List.Basic

namespace Python

variable {A B C E : Type} {f : A → Except E B} {g : A → C} {k : B → C}
  {l : List A}

theorem ok_of_bind {x : Except E A} {next : A → Except E B} {b : B}
    (h : (x >>= next) = .ok b) : ∃ a, x = .ok a ∧ next a = .ok b := by
  cases x with
  | error e => cases h
  | ok a => exact ⟨a, rfl, h⟩

theorem mapM_cons_cases {a : A} {out : List B}
    (hout : (a :: l).mapM f = .ok out) :
    ∃ b tail, f a = .ok b ∧ l.mapM f = .ok tail ∧ out = b :: tail := by
  rw [List.mapM_cons] at hout
  cases hfirst : f a with
  | error e =>
      rw [hfirst] at hout
      cases hout
  | ok b =>
      cases htail : l.mapM f with
      | error e =>
          rw [hfirst, htail] at hout
          cases hout
      | ok tail =>
          rw [hfirst, htail] at hout
          cases hout
          exact ⟨b, tail, rfl, rfl, rfl⟩

theorem map_of_mapM (h : ∀ a ∈ l, ∀ b, f a = .ok b → k b = g a)
    {out : List B} (hout : l.mapM f = .ok out) :
    out.map k = l.map g := by
  induction l generalizing out with
  | nil =>
      cases hout
      rfl
  | cons a l ih =>
      obtain ⟨ha, hrest⟩ := List.forall_mem_cons.mp h
      obtain ⟨b, tail, hb, htail, rfl⟩ := mapM_cons_cases hout
      rw [List.map_cons, List.map_cons, ha b hb, ih hrest htail]

theorem exists_of_mapM {out : List B} (hout : l.mapM f = .ok out) :
    ∀ a ∈ l, ∃ b, f a = .ok b := by
  induction l generalizing out with
  | nil => exact List.forall_mem_nil _
  | cons a l ih =>
      obtain ⟨b, tail, hb, htail, _⟩ := mapM_cons_cases hout
      exact List.forall_mem_cons.mpr ⟨⟨b, hb⟩, ih htail⟩

theorem exists_mapM (h : ∀ a ∈ l, ∃ b, f a = .ok b) :
    ∃ out, l.mapM f = .ok out := by
  induction l with
  | nil => exact ⟨[], rfl⟩
  | cons a l ih =>
      obtain ⟨⟨b, hb⟩, hrest⟩ := List.forall_mem_cons.mp h
      obtain ⟨out, hout⟩ := ih hrest
      refine ⟨b :: out, ?_⟩
      rw [List.mapM_cons, hb, hout]
      rfl

theorem mem_of_mapM {out : List B} (hout : l.mapM f = .ok out) :
    ∀ b ∈ out, ∃ a ∈ l, f a = .ok b := by
  induction l generalizing out with
  | nil =>
      cases hout
      exact List.forall_mem_nil _
  | cons a l ih =>
      obtain ⟨b, tail, hb, htail, rfl⟩ := mapM_cons_cases hout
      refine List.forall_mem_cons.mpr ⟨⟨a, List.mem_cons_self, hb⟩, ?_⟩
      intro b' hb'
      obtain ⟨a', ha', hfa'⟩ := ih htail b' hb'
      exact ⟨a', List.mem_cons_of_mem a ha', hfa'⟩

theorem exists_mapM_forall_iff {good : B → Prop} :
    (∃ out, l.mapM f = .ok out ∧ ∀ b ∈ out, good b) ↔
      ∀ a ∈ l, ∃ b, f a = .ok b ∧ good b := by
  induction l with
  | nil => exact ⟨fun _ => List.forall_mem_nil _, fun _ =>
      ⟨[], rfl, List.forall_mem_nil _⟩⟩
  | cons a l ih =>
      rw [List.forall_mem_cons, ← ih]
      constructor
      · rintro ⟨out, hout, hgood⟩
        obtain ⟨b, tail, hb, htail, rfl⟩ := mapM_cons_cases hout
        rw [List.forall_mem_cons] at hgood
        exact ⟨⟨b, hb, hgood.1⟩, tail, htail, hgood.2⟩
      · rintro ⟨⟨b, hb, hgood⟩, tail, htail, hgoods⟩
        refine ⟨b :: tail, ?_, List.forall_mem_cons.mpr ⟨hgood, hgoods⟩⟩
        rw [List.mapM_cons, hb, htail]
        rfl

theorem mapM_cons_some {f : A → Option B} {a : A} {out : List B} :
    (a :: l).mapM f = some out ↔
      ∃ b tail, f a = some b ∧ l.mapM f = some tail ∧ out = b :: tail := by
  rw [List.mapM_cons]
  constructor
  · intro hout
    obtain ⟨b, hb, hrest⟩ := Option.bind_eq_some_iff.mp hout
    obtain ⟨tail, htail, hcons⟩ := Option.bind_eq_some_iff.mp hrest
    cases hcons
    exact ⟨b, tail, hb, htail, rfl⟩
  · rintro ⟨b, tail, hb, htail, rfl⟩
    rw [hb, htail]
    rfl

theorem exists_mapM_iff (f : A → Option B) (items : List A) :
    (∃ out, items.mapM f = some out) ↔
      ∀ item ∈ items, (f item).isSome = true := by
  induction items with
  | nil => simp
  | cons item rest ih =>
      cases hitem : f item with
      | none => simp [hitem]
      | some b =>
          simp only [List.mapM_cons, hitem, List.forall_mem_cons,
            Option.isSome_some, true_and, ← ih]
          constructor
          · rintro ⟨out, hout⟩
            cases hrest : rest.mapM f with
            | none => simp [hrest] at hout
            | some others => exact ⟨others, rfl⟩
          · rintro ⟨others, hothers⟩
            exact ⟨b :: others, by simp [hothers]⟩

end Python
