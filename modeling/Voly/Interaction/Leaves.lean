/-
Scripts by the notes they leave on every way out, also where an exception ends
them.
-/
import Voly.Interaction.Noted

namespace Interaction

variable {Op : Type} {Reply : Op → Type} {A B S E V G : Type}

theorem Prog.wp_true {P : Protocol Op Reply G} (hallow : ∀ g op, P.allows g op)
    (x : Prog Op Reply A) (g : G) : x.wp P (fun _ _ => True) g := by
  induction x generalizing g with
  | done a => trivial
  | ask op next ih => exact ⟨hallow g op, fun r _ => ih r _⟩

theorem Prog.wp_and {P : Protocol Op Reply G} {Q Q' : A → G → Prop}
    (x : Prog Op Reply A) {g : G} (h : x.wp P Q g) (h' : x.wp P Q' g) :
    x.wp P (fun a g' => Q a g' ∧ Q' a g') g := by
  induction x generalizing g with
  | done a => exact ⟨h, h'⟩
  | ask op next ih => exact ⟨h.1, fun r hr => ih r (h.2 r hr) (h'.2 r hr)⟩

/-- What holds of a second observer's notes holds beside the first observer. -/
theorem Prog.wp_along {P : Protocol Op Reply G}
    {see : (op : Op) → Reply op → List V} {notesOf : G → List V}
    {Q : A → G → Prop} {R : A → List V → Prop}
    (hnext : ∀ g op r, notesOf (P.next g op r) = notesOf g ++ see op r)
    (x : Prog Op Reply A) {g : G} (h : x.wp P Q g)
    (h' : x.wp (noting see) R (notesOf g)) :
    x.wp P (fun a g' => Q a g' ∧ R a (notesOf g')) g := by
  induction x generalizing g with
  | done a => exact ⟨h, h'⟩
  | ask op next ih =>
      refine ⟨h.1, fun r hr => ih r (h.2 r hr) ?_⟩
      rw [hnext]
      exact h'.2 r trivial

namespace Script

variable {see : (op : Op) → Reply op → List V} {s : S}

section

variable {x : Script Op Reply S E A} {P : Protocol Op Reply G} {g : G}

theorem Leaves.along {R : Except E A → S → List V → Prop}
    {Q : Except E A → S → G → Prop} {notesOf : G → List V}
    (hnext : ∀ g op r, notesOf (P.next g op r) = notesOf g ++ see op r)
    (h : Leaves see x s R) (hwp : wp P x Q s g) :
    wp P x (fun out s' g' => Q out s' g' ∧ ∃ vs,
      notesOf g' = notesOf g ++ vs ∧ R out s' vs) s g :=
  Prog.wp_along hnext (x s) hwp (h (notesOf g))

theorem wp_and {Q Q' : Except E A → S → G → Prop} (h : wp P x Q s g)
    (h' : wp P x Q' s g) :
    wp P x (fun out s' g' => Q out s' g' ∧ Q' out s' g') s g :=
  Prog.wp_and (x s) h h'

end

theorem wp_beside {P : Protocol Op Reply G} {Q : Except E A → S → G → Prop}
    {R : Except E A → S → Prop} {x : Script Op Reply S E A} {g : G}
    (h : wp P x Q s g)
    (h' : wp (kind fun _ => True) x (fun out s' _ => R out s') s ()) :
    wp P x (fun out s' g' => Q out s' g' ∧ R out s') s g := by
  have hboth := Prog.wp_both (fun _ _ _ => trivial) (x s) h h'
  exact Prog.wp_mono _ hboth fun _ _ hout => ⟨hout.1, hout.2.choose_spec⟩

section Keeps

variable (f : S → V)

/-- However the script ends, `f` of its state is what it was. -/
def Keeps (x : Script Op Reply S E A) : Prop :=
  ∀ s, wp (kind fun _ => True) x (fun _ s' _ => f s' = f s) s ()

variable {f}

theorem Keeps.pure (a : A) :
    Keeps f (Pure.pure a : Script Op Reply S E A) := fun _ => rfl

theorem Keeps.bind {x : Script Op Reply S E A} {y : A → Script Op Reply S E B}
    (hx : Keeps f x) (hy : ∀ a, Keeps f (y a)) : Keeps f (x >>= y) := by
  intro s
  apply wp_seq (hx s)
  · intro a s' _ hsame
    exact wp_mono (hy a s') fun _ _ _ hlater => hlater.trans hsame
  · exact fun _ _ _ hsame => hsame

theorem Keeps.read : Keeps f (Script.read : Script Op Reply S E S) :=
  fun _ => rfl

theorem Keeps.update {u : S → S} (h : ∀ s, f (u s) = f s) :
    Keeps f (Script.update u : Script Op Reply S E Unit) := h

theorem Keeps.run {x : S → Except E A × S} (h : ∀ s, f (x s).2 = f s) :
    Keeps f (Script.run x : Script Op Reply S E A) := h

theorem Keeps.ask (op : Op) :
    Keeps f (Script.ask op : Script Op Reply S E (Reply op)) :=
  fun _ => ⟨trivial, fun _ _ => rfl⟩

theorem Keeps.askOk (op : Op) (get : Reply op → Except E A) :
    Keeps f (Script.askOk op get : Script Op Reply S E A) :=
  fun _ => ⟨trivial, fun _ _ => rfl⟩

theorem Keeps.ite {c : Prop} [Decidable c] {x y : Script Op Reply S E A}
    (hx : Keeps f x) (hy : Keeps f y) : Keeps f (if c then x else y) := by
  split
  · exact hx
  · exact hy

theorem Keeps.exec {W : Type} {x : Script Op Reply S E A} (h : Keeps f x)
    (serve : Serve Op Reply W) (oracle : Nat → Oracle Op Reply) (n : Nat)
    (w : W) (s : S) : f ((x s).exec serve oracle n w).1.2 = f s := by
  obtain ⟨_, _, hkept⟩ := (x s).exec_of_wp serve oracle (fun _ _ => True)
    (fun _ _ _ _ _ _ => ⟨trivial, trivial⟩) n w trivial (h s)
  exact hkept

theorem Keeps.beside {P : Protocol Op Reply G}
    {Q : Except E A → S → G → Prop} {x : Script Op Reply S E A} {g : G}
    (h : Keeps f x) (hwp : wp P x Q s g) :
    wp P x (fun out s' g' => Q out s' g' ∧ f s' = f s) s g :=
  wp_beside hwp (h s)

end Keeps

end Script

/-- What notes tell of a state, told one after the other. -/
structure Composes (R : S → List V → S → Prop) : Prop where
  refl : ∀ s, R s [] s
  trans : ∀ {s vs s' vs' s''}, R s vs s' → R s' vs' s'' → R s (vs ++ vs') s''

namespace Script

variable (see : (op : Op) → Reply op → List V) (R : S → List V → S → Prop)

/-- However the script ends, its notes tell what became of the state. -/
def Traced (x : Script Op Reply S E A) : Prop :=
  ∀ s, Leaves see x s fun _ s' vs => R s vs s'

variable {see R} {s : S}

theorem Traced.then (hR : Composes R) {x : Script Op Reply S E A} {s₀ : S}
    {vs₀ : List V} (hx : Traced see R x) (h₀ : R s₀ vs₀ s) :
    Leaves see x s fun _ s' vs => R s₀ (vs₀ ++ vs) s' :=
  (hx s).mono fun _ _ _ hlater => hR.trans h₀ hlater

theorem Traced.bind (hR : Composes R) {x : Script Op Reply S E A}
    {f : A → Script Op Reply S E B} (hx : Traced see R x)
    (hf : ∀ a, Traced see R (f a)) : Traced see R (x >>= f) := by
  intro s
  apply Leaves.seq (hx s)
  · exact fun a _ _ hfirst => (hf a).then hR hfirst
  · exact fun _ _ _ hfirst => hfirst

theorem Traced.handle (hR : Composes R) {x : Script Op Reply S E A}
    {f : E → Script Op Reply S E A} (hx : Traced see R x)
    (hf : ∀ e, Traced see R (f e)) : Traced see R (x.handle f) := by
  intro s
  apply Leaves.handle (hx s)
  · exact fun _ _ _ hfirst => hfirst
  · exact fun e _ _ hfirst => (hf e).then hR hfirst

theorem Traced.update {u : S → S} (h : ∀ s, R s [] (u s)) :
    Traced see R (Script.update u : Script Op Reply S E Unit) :=
  fun s => Leaves.update (h s)

theorem Traced.run {x : S → Except E A × S} (h : ∀ s, R s [] (x s).2) :
    Traced see R (Script.run x : Script Op Reply S E A) :=
  fun s => Leaves.run (h s)

theorem Traced.ask (hR : Composes R) {op : Op} (hquiet : ∀ r, see op r = []) :
    Traced see R (Script.ask op : Script Op Reply S E (Reply op)) := by
  intro s notes
  refine ⟨trivial, fun r _ => ⟨[], ?_, hR.refl s⟩⟩
  change notes ++ see op r = _
  rw [hquiet r]

theorem Traced.askOk (hR : Composes R) {op : Op} {get : Reply op → Except E A}
    (hquiet : ∀ r, see op r = []) :
    Traced see R (Script.askOk op get : Script Op Reply S E A) := by
  intro s
  apply Leaves.askOk
  intro r
  rw [hquiet r]
  exact hR.refl s

theorem Traced.ite {c : Prop} [Decidable c] {x y : Script Op Reply S E A}
    (hx : Traced see R x) (hy : Traced see R y) :
    Traced see R (if c then x else y) := by
  split
  · exact hx
  · exact hy

end Script

end Interaction
