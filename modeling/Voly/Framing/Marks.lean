/-
Byte strings put together from names and contents, between separators and marks.
-/
import Mathlib.Data.List.Infix

namespace Framing

variable {α : Type} {sep : α}

def Opens (sep : α) (rest : List α) : Prop :=
  ∀ c tail, rest = c :: tail → c = sep

theorem opens_nil : Opens sep [] := by
  intro c tail hnil
  cases hnil

theorem opens_cons (rest : List α) : Opens sep (sep :: rest) := by
  intro c tail hcons
  exact (List.cons.inj hcons).1.symm

theorem field_inj {a b rest rest' : List α} (ha : sep ∉ a) (hb : sep ∉ b)
    (hrest : Opens sep rest) (hrest' : Opens sep rest')
    (h : a ++ rest = b ++ rest') : a = b ∧ rest = rest' := by
  induction a generalizing b with
  | nil =>
      cases b with
      | nil => exact ⟨rfl, h⟩
      | cons y b =>
          have hy := hrest y (b ++ rest') h
          exact absurd (hy ▸ List.mem_cons_self) hb
  | cons x a ih =>
      cases b with
      | nil =>
          have hx := hrest' x (a ++ rest) h.symm
          exact absurd (hx ▸ List.mem_cons_self) ha
      | cons y b =>
          obtain ⟨rfl, htail⟩ := List.cons.inj h
          obtain ⟨rfl, hrests⟩ :=
            ih (fun hmem => ha (List.mem_cons_of_mem _ hmem))
              (fun hmem => hb (List.mem_cons_of_mem _ hmem)) htail
          exact ⟨rfl, hrests⟩

/-- A word between two separators. -/
def mark (sep : α) (word : List α) : List α := sep :: word ++ [sep]

/-- No mark begins inside the content, also with the separator behind it. -/
def Clean (sep : α) (words : List (List α)) (content : List α) : Prop :=
  ∀ word ∈ words, ¬ mark sep word <:+: content ++ [sep]

instance [DecidableEq α] (words : List (List α)) (content : List α) :
    Decidable (Clean sep words content) := by
  unfold Clean
  infer_instance

/-- What follows a content: nothing, or one of the marks. -/
def Marked (sep : α) (words : List (List α)) (rest : List α) : Prop :=
  rest = [] ∨ ∃ word ∈ words, mark sep word <+: rest

theorem Marked.opens {words : List (List α)} {rest : List α}
    (h : Marked sep words rest) : Opens sep rest := by
  rcases h with rfl | ⟨word, _, tail, rfl⟩
  · exact opens_nil
  · exact opens_cons _

variable {words : List (List α)}

/-- A mark that begins inside a clean content would end there, or with the
separator that opens the rest. -/
theorem Clean.not_mark {content rest before inside word : List α}
    (hclean : Clean sep words content) (hword : word ∈ words)
    (hfree : sep ∉ word) (hrest : Opens sep rest)
    (hsplit : content = before ++ inside) (hne : inside ≠ []) :
    ¬ mark sep word <+: inside ++ rest := by
  rintro ⟨tail, htail⟩
  apply hclean word hword
  subst hsplit
  rcases List.append_eq_append_iff.mp htail with
    ⟨more, hinside, _⟩ | ⟨more, hmark, hrest'⟩
  · refine ⟨before, more ++ [sep], ?_⟩
    rw [hinside]
    simp only [List.append_assoc]
  · -- the mark runs into the rest: only its last letter can be there
    obtain ⟨first, inside, rfl⟩ := List.exists_cons_of_ne_nil hne
    rw [mark, List.cons_append, List.cons_append] at hmark
    obtain ⟨rfl, hbody⟩ := List.cons.inj hmark
    have hmore : Opens sep more := by
      intro c others hmore
      exact hrest c (others ++ tail) (by rw [hrest', hmore]; rfl)
    cases more with
    | nil =>
        refine ⟨before, [sep], ?_⟩
        rw [List.append_nil] at hbody
        rw [mark, ← hbody]
        simp
    | cons c others =>
        have hlast : c = sep := hmore c others rfl
        subst hlast
        have hinside : c ∉ inside := by
          intro hmem
          have hpart : inside <+: word := by
            have hdrop := congrArg List.dropLast hbody
            rw [List.dropLast_concat, List.dropLast_append_cons] at hdrop
            exact ⟨_, hdrop.symm⟩
          exact hfree (hpart.subset hmem)
        have hsame := field_inj hfree hinside (opens_cons [])
          (opens_cons others) hbody
        refine ⟨before, [], ?_⟩
        rw [mark, hsame.1]
        simp

theorem content_inj {content content' rest rest' : List α}
    (hfree : ∀ word ∈ words, sep ∉ word)
    (hclean : Clean sep words content) (hclean' : Clean sep words content')
    (hrest : Marked sep words rest) (hrest' : Marked sep words rest')
    (h : content ++ rest = content' ++ rest') :
    content = content' ∧ rest = rest' := by
  have never {content content' rest rest' more : List α}
      (hclean : Clean sep words content) (hrest : Marked sep words rest)
      (hrest' : Marked sep words rest') (hcontent : content = content' ++ more)
      (hmore : rest' = more ++ rest) : more = [] := by
    by_contra hne
    rcases hrest' with hnil | ⟨word, hword, hmark⟩
    · rw [hnil] at hmore
      exact hne (List.append_eq_nil_iff.mp hmore.symm).1
    · rw [hmore] at hmark
      exact hclean.not_mark hword (hfree word hword) hrest.opens hcontent hne
        hmark
  rcases List.append_eq_append_iff.mp h with
    ⟨more, hcontent, hmore⟩ | ⟨more, hcontent, hmore⟩
  · have hnil := never hclean' hrest' hrest hcontent hmore
    subst hnil
    simp only [List.append_nil, List.nil_append] at hcontent hmore
    exact ⟨hcontent.symm, hmore⟩
  · have hnil := never hclean hrest hrest' hcontent hmore
    subst hnil
    simp only [List.append_nil, List.nil_append] at hcontent hmore
    exact ⟨hcontent, hmore.symm⟩

theorem mark_inj {word word' rest rest' : List α} (hfree : sep ∉ word)
    (hfree' : sep ∉ word')
    (h : mark sep word ++ rest = mark sep word' ++ rest') :
    word = word' ∧ rest = rest' := by
  simp only [mark, List.cons_append, List.append_assoc,
    List.nil_append] at h
  obtain ⟨hword, hrest⟩ := field_inj hfree hfree' (opens_cons rest)
    (opens_cons rest') (List.cons.inj h).2
  exact ⟨hword, (List.cons.inj hrest).2⟩

end Framing
