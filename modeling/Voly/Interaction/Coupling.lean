/-
Two scripts that run in one world: embedded scripts, and coupled runs, of which
the right one ends in the world of the left one.
-/
import Voly.Interaction.System

namespace Interaction

variable {Op Op' : Type} {Reply : Op → Type} {Reply' : Op' → Type}
  {A B C D W G S T E E' : Type}

/-- A program whose questions are asked as questions of a larger kind. -/
def Prog.embed (wrap : Op → Op')
    (unwrap : (op : Op) → Reply' (wrap op) → Reply op) :
    Prog Op Reply A → Prog Op' Reply' A
  | .done a => .done a
  | .ask op next =>
      .ask (wrap op) fun r => (next (unwrap op r)).embed wrap unwrap

def Script.call (x : Script Op Reply Unit E A) : Script Op Reply S E A :=
  fun s => (x ()).bind fun out => .done (out.1, s)

theorem Prog.bind_assoc (x : Prog Op Reply A) (f : A → Prog Op Reply B)
    (g : B → Prog Op Reply C) :
    (x.bind f).bind g = x.bind fun a => (f a).bind g := by
  induction x with
  | done a => rfl
  | ask op next ih => exact congrArg _ (funext ih)

theorem Script.bind_assoc (x : Script Op Reply S E A)
    (f : A → Script Op Reply S E B) (g : B → Script Op Reply S E C) :
    (x >>= f) >>= g = x >>= fun a => f a >>= g := by
  funext s
  change ((x s).bind _).bind _ = (x s).bind _
  rw [Prog.bind_assoc]
  congr 1
  funext out
  rcases out with ⟨_ | _, _⟩ <;> rfl

/-- An embedded program meets what it meets alone, unnoticed by the observer. -/
theorem Prog.wp_embed {P : Protocol Op Reply Unit} {P' : Protocol Op' Reply' G}
    {wrap : Op → Op'} {unwrap : (op : Op) → Reply' (wrap op) → Reply op}
    {g : G} (hallow : ∀ op, P'.allows g (wrap op))
    (hrelies : ∀ op r, P'.relies g (wrap op) r → P.relies () op (unwrap op r))
    (hnext : ∀ op r, P'.next g (wrap op) r = g) {Q : A → Unit → Prop}
    (x : Prog Op Reply A) (h : x.wp P Q ()) :
    (x.embed wrap unwrap).wp P' (fun a g' => g' = g ∧ Q a ()) g := by
  induction x with
  | done a => exact ⟨rfl, h⟩
  | ask op next ih =>
      refine ⟨hallow op, fun r hr => ?_⟩
      rw [hnext op r]
      exact ih _ (h.2 _ (hrelies op r hr))

/-- The part of a protocol that an embedded program sees. -/
def Protocol.pull (P : Protocol Op' Reply' G) (wrap : Op → Op')
    (back : (op : Op) → Reply op → Reply' (wrap op)) : Protocol Op Reply G where
  allows g op := P.allows g (wrap op)
  relies g op r := P.relies g (wrap op) (back op r)
  next g op r := P.next g (wrap op) (back op r)

theorem Prog.wp_embed_pull {P : Protocol Op' Reply' G} {wrap : Op → Op'}
    {unwrap : (op : Op) → Reply' (wrap op) → Reply op}
    {back : (op : Op) → Reply op → Reply' (wrap op)}
    (hback : ∀ op r, back op (unwrap op r) = r) {Q : A → G → Prop} {g : G}
    (x : Prog Op Reply A) (h : x.wp (P.pull wrap back) Q g) :
    (x.embed wrap unwrap).wp P Q g := by
  induction x generalizing g with
  | done a => exact h
  | ask op next ih =>
      refine ⟨h.1, fun r hr => ?_⟩
      have hnext := h.2 (unwrap op r)
      simp only [Protocol.pull, hback] at hnext
      exact ih _ (hnext hr)

theorem Script.wp_call {P : Protocol Op Reply G}
    (x : Script Op Reply Unit E A) {Q : Except E A → S → G → Prop} {s : S}
    {g : G} :
    Script.wp P (Script.call x : Script Op Reply S E A) Q s g ↔
      Script.wp P x (fun out _ g' => Q out s g') () g := by
  unfold Script.wp Script.call
  rw [Prog.wp_bind]
  exact Iff.rfl

/-- The script follows and returns as `Q` says; it raises only where `calm`
fails. -/
def Script.Gives (P : Protocol Op Reply G) (calm : Prop)
    (x : Script Op Reply S E A) (Q : A → S → G → Prop) (s : S) (g : G) :
    Prop :=
  Script.wp P x (fun out s' g' =>
    match out with
    | .ok a => Q a s' g'
    | .error _ => ¬calm) s g

namespace Script.Gives

variable {P : Protocol Op Reply G} {calm : Prop} {x : Script Op Reply S E A}
  {f : A → Script Op Reply S E B} {Q Q' : A → S → G → Prop}
  {R : B → S → G → Prop} {s : S} {g : G}

theorem ret {a : A} (h : Q a s g) :
    Gives P calm (pure a : Script Op Reply S E A) Q s g := h

theorem raise {e : E} (h : ¬calm) :
    Gives P calm (Script.raise e : Script Op Reply S E A) Q s g := h

theorem read {f : S → Script Op Reply S E B} (h : Gives P calm (f s) R s g) :
    Gives P calm (Script.read >>= f) R s g := h

theorem update {h : S → S} {f : Unit → Script Op Reply S E B}
    (hf : Gives P calm (f ()) R (h s) g) :
    Gives P calm (Script.update h >>= f) R s g := hf

theorem mono (h : Gives P calm x Q s g)
    (hQ : ∀ a s' g', Q a s' g' → Q' a s' g') : Gives P calm x Q' s g := by
  apply Script.wp_mono h
  intro out s' g' hout
  cases out with
  | ok a => exact hQ a s' g' hout
  | error e => exact hout

theorem bind (h : Gives P calm x Q s g)
    (hnext : ∀ a s' g', Q a s' g' → Gives P calm (f a) R s' g') :
    Gives P calm (x >>= f) R s g :=
  Script.wp_seq h hnext fun _ _ _ hnot => hnot

theorem ask {op : Op} {Q : Reply op → S → G → Prop}
    (hallow : P.allows g op)
    (h : ∀ r, P.relies g op r → Q r s (P.next g op r)) :
    Gives P calm (Script.ask op : Script Op Reply S E (Reply op)) Q s g :=
  ⟨hallow, h⟩

theorem askOk {op : Op} {get : Reply op → Except E A}
    (hallow : P.allows g op)
    (hok : ∀ r a, P.relies g op r → get r = .ok a → Q a s (P.next g op r))
    (herror : ∀ r e, P.relies g op r → get r = .error e → ¬calm) :
    Gives P calm (Script.askOk op get : Script Op Reply S E A) Q s g := by
  refine ⟨hallow, fun r hr => ?_⟩
  dsimp only
  cases hget : get r with
  | ok a => exact hok r a hr hget
  | error e => exact herror r e hr hget

theorem call {x : Script Op Reply Unit E A}
    (h : Gives P calm x (fun a _ g' => Q a s g') () g) :
    Gives P calm (Script.call x : Script Op Reply S E A) Q s g :=
  (Script.wp_call x).mpr h

end Script.Gives

section Eval

variable (answer : W → (op : Op) → Reply op × W)

/-- An embedded program runs as before, where the larger world answers as the
smaller one. -/
theorem Prog.eval_embed {answer' : W → (op : Op') → Reply' op × W}
    {wrap : Op → Op'} {unwrap : (op : Op) → Reply' (wrap op) → Reply op}
    (h : ∀ w op, answer w op =
      (unwrap op (answer' w (wrap op)).1, (answer' w (wrap op)).2))
    (x : Prog Op Reply A) (w : W) :
    (x.embed wrap unwrap).eval answer' w = x.eval answer w := by
  induction x generalizing w with
  | done a => rfl
  | ask op next ih =>
      rw [Prog.embed, Prog.eval, Prog.eval, h w op]
      exact ih _ _

theorem Script.eval_call (x : Script Op Reply Unit E A) (s : S) (w : W) :
    Script.eval answer (Script.call x : Script Op Reply S E A) s w =
      (((Script.eval answer x () w).1.1, s),
        (Script.eval answer x () w).2) := by
  unfold Script.eval Script.call
  rw [Prog.eval_bind]
  rfl

@[simp] theorem Script.eval_read (s : S) (w : W) :
    Script.eval answer (Script.read : Script Op Reply S E S) s w =
      ((.ok s, s), w) := rfl

@[simp] theorem Script.eval_update (f : S → S) (s : S) (w : W) :
    Script.eval answer (Script.update f : Script Op Reply S E Unit) s w =
      ((.ok (), f s), w) := rfl

/-- A world that replies as relied on and follows its observer ends in the
postcondition. -/
theorem Prog.eval_of_wp {P : Protocol Op Reply G} {Q : A → G → Prop}
    (R : W → G → Prop)
    (hanswer : ∀ w g op, R w g → P.allows g op →
      P.relies g op (answer w op).1 ∧
        R (answer w op).2 (P.next g op (answer w op).1))
    (x : Prog Op Reply A) (w : W) {g : G} (hR : R w g) (hx : x.wp P Q g) :
    ∃ g', R (x.eval answer w).2 g' ∧ Q (x.eval answer w).1 g' := by
  induction x generalizing w g with
  | done a => exact ⟨g, hR, hx⟩
  | ask op next ih =>
      obtain ⟨hrelies, hnext⟩ := hanswer w g op hR hx.1
      exact ih _ _ hnext (hx.2 _ hrelies)

end Eval

/-- Both runs return, and `Q` holds of what they return and leave, or both
raise. -/
def Ends (Q : A → B → S → T → W → Prop) (w : W) :
    Except E A × S → Except E' B × T → Prop
  | (.ok a, s), (.ok b, t) => Q a b s t w
  | (.error _, _), (.error _, _) => True
  | _, _ => False

theorem Ends.imp {Q Q' : A → B → S → T → W → Prop} {w : W}
    {x : Except E A × S} {y : Except E' B × T} (h : Ends Q w x y)
    (hQ : ∀ a b s t, Q a b s t w → Q' a b s t w) : Ends Q' w x y := by
  obtain ⟨out, s⟩ := x
  obtain ⟨out', t⟩ := y
  cases out <;> cases out'
  · trivial
  · exact h
  · exact h
  · exact hQ _ _ _ _ h

/-- From related states two scripts end related, unless the left leaves its
worlds. -/
def Coupled (answer : W → (op : Op) → Reply op × W) (sound : W → Prop)
    (R : S → T → W → Prop) (Q : A → B → S → T → W → Prop)
    (x : Script Op Reply S E A) (y : Script Op Reply T E' B) : Prop :=
  ∀ s t w, R s t w → sound (Script.eval answer x s w).2 →
    (Script.eval answer y t w).2 = (Script.eval answer x s w).2 ∧
      Ends Q (Script.eval answer x s w).2 (Script.eval answer x s w).1
        (Script.eval answer y t w).1

section Rules

variable {answer : W → (op : Op) → Reply op × W} {sound : W → Prop}
  {R R' : S → T → W → Prop} {Q : A → B → S → T → W → Prop}

theorem Prog.sound_of_eval
    (hback : ∀ w op, sound (answer w op).2 → sound w)
    (x : Prog Op Reply A) {w : W} (h : sound (x.eval answer w).2) :
    sound w := by
  induction x generalizing w with
  | done a => exact h
  | ask op next ih => exact hback w op (ih _ h)

theorem Prog.eval_keeps {F : W → Prop}
    (hF : ∀ w op, F w → F (answer w op).2) (x : Prog Op Reply A) {w : W}
    (h : F w) : F (x.eval answer w).2 := by
  induction x generalizing w with
  | done a => exact h
  | ask op next ih => exact ih _ (hF w op h)

namespace Coupled

theorem ret {a : A} {b : B} (h : ∀ s t w, R s t w → sound w → Q a b s t w) :
    Coupled answer sound R Q (pure a : Script Op Reply S E A)
      (pure b : Script Op Reply T E' B) :=
  fun s t w hR hs => ⟨rfl, h s t w hR hs⟩

theorem read {Q : S → T → S → T → W → Prop}
    (h : ∀ s t w, R s t w → sound w → Q s t s t w) :
    Coupled answer sound R Q (Script.read : Script Op Reply S E S)
      (Script.read : Script Op Reply T E' T) :=
  fun s t w hR hs => ⟨rfl, h s t w hR hs⟩

theorem update {f : S → S} {g : T → T} {Q : Unit → Unit → S → T → W → Prop}
    (h : ∀ s t w, R s t w → sound w → Q () () (f s) (g t) w) :
    Coupled answer sound R Q (Script.update f : Script Op Reply S E Unit)
      (Script.update g : Script Op Reply T E' Unit) :=
  fun s t w hR hs => ⟨rfl, h s t w hR hs⟩

theorem ask {op : Op} {Q : Reply op → Reply op → S → T → W → Prop}
    (h : ∀ s t w, R s t w → sound (answer w op).2 →
      Q (answer w op).1 (answer w op).1 s t (answer w op).2) :
    Coupled answer sound R Q (Script.ask op : Script Op Reply S E _)
      (Script.ask op : Script Op Reply T E' _) :=
  fun s t w hR hs => ⟨rfl, h s t w hR hs⟩

theorem call {x : Script Op Reply Unit E A} {Q : A → A → S → T → W → Prop}
    (h : ∀ s t w w' a, R s t w →
      Script.eval answer x () w = ((.ok a, ()), w') → sound w' →
      Q a a s t w') :
    Coupled answer sound R Q (Script.call x : Script Op Reply S E A)
      (Script.call x : Script Op Reply T E A) := by
  intro s t w hR hs
  rw [Script.eval_call] at hs ⊢
  rw [Script.eval_call]
  refine ⟨rfl, ?_⟩
  rcases hx : Script.eval answer x () w with ⟨⟨out, u⟩, w'⟩
  rw [hx] at hs
  cases out with
  | ok a => exact h s t w w' a hR hx hs
  | error e => trivial

section

variable {x : Script Op Reply S E A} {y : Script Op Reply T E' B}

theorem frame {F : W → Prop} (hF : ∀ w op, F w → F (answer w op).2)
    (h : Coupled answer sound R Q x y) :
    Coupled answer sound (fun s t w => R s t w ∧ F w)
      (fun a b s t w => Q a b s t w ∧ F w) x y := by
  intro s t w hR hs
  obtain ⟨hworld, hends⟩ := h s t w hR.1 hs
  exact ⟨hworld, hends.imp fun a b s' t' hQ =>
    ⟨hQ, Prog.eval_keeps hF (x s) hR.2⟩⟩

theorem of_pre {p : Prop} (hp : ∀ s t w, R s t w → p)
    (h : p → Coupled answer sound R Q x y) : Coupled answer sound R Q x y :=
  fun s t w hR => h (hp s t w hR) s t w hR

theorem both (hback : ∀ w op, sound (answer w op).2 → sound w)
    (h : ∀ s t w, R s t w → sound w → ∃ a b s' t' w',
      Script.eval answer x s w = ((.ok a, s'), w') ∧
      Script.eval answer y t w = ((.ok b, t'), w') ∧ Q a b s' t' w') :
    Coupled answer sound R Q x y := by
  intro s t w hR hs
  obtain ⟨a, b, s', t', w', hx, hy, hQ⟩ :=
    h s t w hR (Prog.sound_of_eval hback (x s) hs)
  rw [hx, hy]
  exact ⟨rfl, hQ⟩

theorem seq (hback : ∀ w op, sound (answer w op).2 → sound w)
    {f : A → Script Op Reply S E C} {g : B → Script Op Reply T E' D}
    {Q' : C → D → S → T → W → Prop} (h : Coupled answer sound R Q x y)
    (hrest : ∀ a b, Coupled answer sound (Q a b) Q' (f a) (g b)) :
    Coupled answer sound R Q' (x >>= f) (y >>= g) := by
  intro s t w hR hs
  rcases hx : Script.eval answer x s w with ⟨⟨out, s'⟩, w'⟩
  have hsound : sound w' := by
    cases out with
    | ok a =>
        rw [Script.eval_bind_ok answer hx] at hs
        exact Prog.sound_of_eval hback (f a s') hs
    | error e =>
        rw [Script.eval_bind_error answer hx] at hs
        exact hs
  obtain ⟨hworld, hends⟩ := h s t w hR (by rw [hx]; exact hsound)
  rw [hx] at hworld hends
  rcases hy : Script.eval answer y t w with ⟨⟨out', t'⟩, w''⟩
  rw [hy] at hworld hends
  obtain rfl : w'' = w' := hworld
  cases out with
  | ok a =>
      cases out' with
      | ok b =>
          rw [Script.eval_bind_ok answer hx] at hs ⊢
          rw [Script.eval_bind_ok answer hy]
          exact hrest a b s' t' w'' hends hs
      | error e => exact hends.elim
  | error e =>
      cases out' with
      | ok b => exact hends.elim
      | error e' =>
          rw [Script.eval_bind_error answer hx,
            Script.eval_bind_error answer hy]
          exact ⟨rfl, trivial⟩

theorem mono {Q' : A → B → S → T → W → Prop}
    (h : Coupled answer sound R' Q' x y) (hR : ∀ s t w, R s t w → R' s t w)
    (hQ : ∀ a b s t w, Q' a b s t w → Q a b s t w) :
    Coupled answer sound R Q x y := by
  intro s t w hpre hs
  obtain ⟨hworld, hends⟩ := h s t w (hR s t w hpre) hs
  exact ⟨hworld, hends.imp fun a b s t => hQ a b s t _⟩

end

end Coupled

end Rules

end Interaction
