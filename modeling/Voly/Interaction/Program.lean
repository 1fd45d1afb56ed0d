/-
Interaction programs: a program is done, or asks its surroundings one question
and goes on with the reply.
-/
import Mathlib.Logic.Function.Basic
import Mathlib.Logic.Relation

namespace Interaction

variable {Op : Type} {Reply : Op → Type} {A B G : Type}

inductive Prog (Op : Type) (Reply : Op → Type) (A : Type) : Type where
  | done (value : A)
  | ask (op : Op) (next : Reply op → Prog Op Reply A)

namespace Prog

def bind : Prog Op Reply A → (A → Prog Op Reply B) → Prog Op Reply B
  | done a, f => f a
  | ask op next, f => ask op fun r => (next r).bind f

def isDone : Prog Op Reply A → Bool
  | done _ => true
  | ask _ _ => false

def question? : Prog Op Reply A → Option Op
  | done _ => none
  | ask op _ => some op

@[simp] theorem bind_done (a : A) (f : A → Prog Op Reply B) :
    (done a : Prog Op Reply A).bind f = f a := rfl

@[simp] theorem bind_ask (op : Op) (next : Reply op → Prog Op Reply A)
    (f : A → Prog Op Reply B) :
    (ask op next).bind f = ask op fun r => (next r).bind f := rfl

end Prog

/-- What a program may ask, can rely on, and how the observer state `G` follows.
-/
structure Protocol (Op : Type) (Reply : Op → Type) (G : Type) where
  allows : G → Op → Prop
  relies : G → (op : Op) → Reply op → Prop
  next : G → (op : Op) → Reply op → G

/-- From observer state `g` every question of the program is allowed and every
way to finish satisfies `Q`. -/
def Prog.wp (P : Protocol Op Reply G) (Q : A → G → Prop) :
    Prog Op Reply A → G → Prop
  | .done a, g => Q a g
  | .ask op next, g =>
      P.allows g op ∧
        ∀ r, P.relies g op r → (next r).wp P Q (P.next g op r)

namespace Prog

variable {P : Protocol Op Reply G}

@[simp] theorem wp_done (Q : A → G → Prop) (a : A) (g : G) :
    (done a : Prog Op Reply A).wp P Q g = Q a g := rfl

theorem wp_ask (Q : A → G → Prop) (op : Op)
    (next : Reply op → Prog Op Reply A) (g : G) :
    (ask op next).wp P Q g =
      (P.allows g op ∧
        ∀ r, P.relies g op r → (next r).wp P Q (P.next g op r)) := rfl

theorem wp_bind (x : Prog Op Reply A) (f : A → Prog Op Reply B)
    (Q : B → G → Prop) (g : G) :
    (x.bind f).wp P Q g ↔ x.wp P (fun a => (f a).wp P Q) g := by
  induction x generalizing g with
  | done a => rfl
  | ask op next ih =>
      simp only [bind_ask, wp_ask]
      constructor
      · rintro ⟨hallow, h⟩
        exact ⟨hallow, fun r hr => (ih r _).mp (h r hr)⟩
      · rintro ⟨hallow, h⟩
        exact ⟨hallow, fun r hr => (ih r _).mpr (h r hr)⟩

theorem wp_mono {Q R : A → G → Prop} (x : Prog Op Reply A) {g : G}
    (h : x.wp P Q g) (hQR : ∀ a g', Q a g' → R a g') : x.wp P R g := by
  induction x generalizing g with
  | done a => exact hQR a g h
  | ask op next ih =>
      exact ⟨h.1, fun r hr => ih r (h.2 r hr)⟩

/-- The final observer state is reached by allowed exchanges. -/
theorem wp_reaches {Q : A → G → Prop} {R : G → G → Prop}
    (hrefl : ∀ g, R g g) (htrans : ∀ a b c, R a b → R b c → R a c)
    (hnext : ∀ g op r, P.allows g op → R g (P.next g op r))
    (x : Prog Op Reply A) {g : G} (h : x.wp P Q g) :
    x.wp P (fun a g' => Q a g' ∧ R g g') g := by
  induction x generalizing g with
  | done a => exact ⟨h, hrefl g⟩
  | ask op next ih =>
      refine ⟨h.1, fun r hr => ?_⟩
      refine wp_mono (next r) (ih r (h.2 r hr)) fun a g' hout => ?_
      exact ⟨hout.1, htrans _ _ _ (hnext g op r h.1) hout.2⟩

/-- Whatever the replies are, the program asks only what the law allows after
what was observed before. -/
def Obeys (next : G → (op : Op) → Reply op → G) (law : G → Op → Prop) :
    Prog Op Reply A → G → Prop
  | .done _, _ => True
  | .ask op rest, g =>
      law g op ∧ ∀ r, (rest r).Obeys next law (next g op r)

theorem obeys_of_wp {Q : A → G → Prop} {law : G → Op → Prop} (Inv : G → Prop)
    (hrelies : ∀ g op r, P.relies g op r)
    (hstep : ∀ g op, Inv g → P.allows g op →
      law g op ∧ ∀ r, Inv (P.next g op r))
    (x : Prog Op Reply A) {g : G} (hInv : Inv g) (h : x.wp P Q g) :
    x.Obeys P.next law g := by
  induction x generalizing g with
  | done a => trivial
  | ask op rest ih =>
      obtain ⟨hlaw, hnext⟩ := hstep g op hInv h.1
      exact ⟨hlaw, fun r => ih r (hnext r) (h.2 r (hrelies g op r))⟩

end Prog

/-- A program with a private state `S` and exceptions `E`; a raise keeps the
state. -/
def Script (Op : Type) (Reply : Op → Type) (S E A : Type) : Type :=
  S → Prog Op Reply (Except E A × S)

namespace Script

variable {S E : Type}

def ret (a : A) : Script Op Reply S E A := fun s => .done (.ok a, s)

def raise (e : E) : Script Op Reply S E A := fun s => .done (.error e, s)

def andThen (x : Script Op Reply S E A) (f : A → Script Op Reply S E B) :
    Script Op Reply S E B := fun s =>
  (x s).bind fun out =>
    match out with
    | (.ok a, s') => f a s'
    | (.error e, s') => .done (.error e, s')

instance : Monad (Script Op Reply S E) where
  pure := ret
  bind := andThen

/-- `try: x except Exception as e: f e`. -/
def handle (x : Script Op Reply S E A) (f : E → Script Op Reply S E A) :
    Script Op Reply S E A := fun s =>
  (x s).bind fun out =>
    match out with
    | (.ok a, s') => .done (.ok a, s')
    | (.error e, s') => f e s'

def read : Script Op Reply S E S := fun s => .done (.ok s, s)

def update (f : S → S) : Script Op Reply S E Unit :=
  fun s => .done (.ok (), f s)

/-- A call that only touches the private state. -/
def run (x : S → Except E A × S) : Script Op Reply S E A :=
  fun s => .done (x s)

def ask (op : Op) : Script Op Reply S E (Reply op) :=
  fun s => .ask op fun r => .done (.ok r, s)

/-- Ask, and raise what the reply raises. -/
def askOk (op : Op) (get : Reply op → Except E A) :
    Script Op Reply S E A :=
  fun s => .ask op fun r => .done (get r, s)

/-- The script, started in `s` under observer state `g`, follows the protocol
and finishes as `Q` says. -/
def wp (P : Protocol Op Reply G) (x : Script Op Reply S E A)
    (Q : Except E A → S → G → Prop) (s : S) (g : G) : Prop :=
  (x s).wp P (fun out => Q out.1 out.2) g

variable {P : Protocol Op Reply G} {Q : Except E A → S → G → Prop}
  {s : S} {g : G}

theorem wp_started (x : Script Op Reply S E A)
    {Q : Except E A × S → G → Prop} :
    (x s).wp P Q g ↔ wp P x (fun out s' => Q (out, s')) s g := Iff.rfl

@[simp] theorem wp_pure (a : A) :
    wp P (pure a : Script Op Reply S E A) Q s g ↔ Q (.ok a) s g := Iff.rfl

@[simp] theorem wp_raise (e : E) :
    wp P (raise e : Script Op Reply S E A) Q s g ↔ Q (.error e) s g :=
  Iff.rfl

@[simp] theorem wp_read {Q : Except E S → S → G → Prop} :
    wp P (read : Script Op Reply S E S) Q s g ↔ Q (.ok s) s g := Iff.rfl

@[simp] theorem wp_update {Q : Except E Unit → S → G → Prop} (f : S → S) :
    wp P (update f : Script Op Reply S E Unit) Q s g ↔ Q (.ok ()) (f s) g :=
  Iff.rfl

@[simp] theorem wp_run (x : S → Except E A × S) :
    wp P (run x : Script Op Reply S E A) Q s g ↔ Q (x s).1 (x s).2 g :=
  Iff.rfl

@[simp] theorem wp_ask (op : Op) {Q : Except E (Reply op) → S → G → Prop} :
    wp P (ask op : Script Op Reply S E (Reply op)) Q s g ↔
      P.allows g op ∧
        ∀ r, P.relies g op r → Q (.ok r) s (P.next g op r) := Iff.rfl

@[simp] theorem wp_askOk (op : Op) (get : Reply op → Except E A) :
    wp P (askOk op get : Script Op Reply S E A) Q s g ↔
      P.allows g op ∧
        ∀ r, P.relies g op r → Q (get r) s (P.next g op r) := Iff.rfl

theorem wp_bind (x : Script Op Reply S E A) (f : A → Script Op Reply S E B)
    {Q : Except E B → S → G → Prop} :
    wp P (x >>= f) Q s g ↔
      wp P x (fun out s' g' =>
        match out with
        | .ok a => wp P (f a) Q s' g'
        | .error e => Q (.error e) s' g') s g := by
  unfold wp
  change ((x s).bind _).wp P _ g ↔ _
  rw [Prog.wp_bind]
  constructor
  · intro h
    refine Prog.wp_mono _ h ?_
    rintro ⟨out, s'⟩ g' h'
    cases out <;> exact h'
  · intro h
    refine Prog.wp_mono _ h ?_
    rintro ⟨out, s'⟩ g' h'
    cases out <;> exact h'

section Sequence

variable {f : A → Script Op Reply S E B} {R : Except E B → S → G → Prop}

@[simp] theorem wp_pure_bind (a : A) :
    wp P ((pure a : Script Op Reply S E A) >>= f) R s g ↔
      wp P (f a) R s g := Iff.rfl

@[simp] theorem wp_read_bind {f : S → Script Op Reply S E B} :
    wp P (read >>= f) R s g ↔ wp P (f s) R s g := Iff.rfl

@[simp] theorem wp_update_bind (h : S → S)
    {f : Unit → Script Op Reply S E B} :
    wp P (update h >>= f) R s g ↔ wp P (f ()) R (h s) g := Iff.rfl

theorem wp_run_bind (x : S → Except E A × S) :
    wp P (run x >>= f) R s g ↔
      match x s with
      | (.ok a, s') => wp P (f a) R s' g
      | (.error e, s') => R (.error e) s' g := by
  rw [wp_bind, wp_run]
  rcases x s with ⟨_ | _, _⟩ <;> rfl

@[simp] theorem wp_ask_bind (op : Op)
    {f : Reply op → Script Op Reply S E B} :
    wp P (ask op >>= f) R s g ↔
      P.allows g op ∧
        ∀ r, P.relies g op r → wp P (f r) R s (P.next g op r) := Iff.rfl

end Sequence

theorem wp_handle (x : Script Op Reply S E A)
    (f : E → Script Op Reply S E A) :
    wp P (x.handle f) Q s g ↔
      wp P x (fun out s' g' =>
        match out with
        | .ok a => Q (.ok a) s' g'
        | .error e => wp P (f e) Q s' g') s g := by
  unfold wp
  change ((x s).bind _).wp P _ g ↔ _
  rw [Prog.wp_bind]
  constructor
  · intro h
    refine Prog.wp_mono _ h ?_
    rintro ⟨out, s'⟩ g' h'
    cases out <;> exact h'
  · intro h
    refine Prog.wp_mono _ h ?_
    rintro ⟨out, s'⟩ g' h'
    cases out <;> exact h'

theorem wp_mono {R : Except E A → S → G → Prop} {x : Script Op Reply S E A}
    (h : wp P x Q s g) (hQR : ∀ out s' g', Q out s' g' → R out s' g') :
    wp P x R s g :=
  Prog.wp_mono _ h fun out g' => hQR out.1 out.2 g'

theorem wp_reaches {R : G → G → Prop} (hrefl : ∀ g, R g g)
    (htrans : ∀ a b c, R a b → R b c → R a c)
    (hnext : ∀ g op r, P.allows g op → R g (P.next g op r))
    {x : Script Op Reply S E A} (h : wp P x Q s g) :
    wp P x (fun out s' g' => Q out s' g' ∧ R g g') s g :=
  Prog.wp_reaches hrefl htrans hnext _ h

/-- Sequencing: an exception leaves at once, a value goes on. -/
theorem wp_seq {x : Script Op Reply S E A} {f : A → Script Op Reply S E B}
    {R : Except E B → S → G → Prop} (h : wp P x Q s g)
    (hok : ∀ a s' g', Q (.ok a) s' g' → wp P (f a) R s' g')
    (herror : ∀ e s' g', Q (.error e) s' g' → R (.error e) s' g') :
    wp P (x >>= f) R s g := by
  rw [wp_bind]
  refine wp_mono h ?_
  intro out s' g' hout
  cases out with
  | ok a => exact hok a s' g' hout
  | error e => exact herror e s' g' hout

/-- Questions of the kind `p` may be asked, and nothing is observed. -/
def kind (p : Op → Prop) : Protocol Op Reply Unit :=
  ⟨fun _ op => p op, fun _ _ _ => True, fun _ _ _ => ()⟩

/-- The script asks only `p` questions, and what it returns satisfies `R`. -/
def Only (p : Op → Prop) (R : A → Prop) (x : Script Op Reply S E A) : Prop :=
  ∀ s, wp (kind p) x (fun out _ _ => ∀ a, out = .ok a → R a) s ()

section Only

variable {p : Op → Prop} {R : A → Prop} {R' : B → Prop}

theorem Only.pure {a : A} (h : R a) :
    Only p R (Pure.pure a : Script Op Reply S E A) := by
  intro s b hb
  cases hb
  exact h

theorem Only.bind {x : Script Op Reply S E A}
    {f : A → Script Op Reply S E B} (hx : Only p R x)
    (hf : ∀ a, R a → Only p R' (f a)) : Only p R' (x >>= f) := by
  intro s
  apply wp_seq (hx s)
  · intro a s' _ ha
    exact hf a (ha a rfl) s'
  · intro e s' _ _ b hb
    cases hb

theorem Only.handle {x : Script Op Reply S E A}
    {f : E → Script Op Reply S E A} (hx : Only p R x)
    (hf : ∀ e, Only p R (f e)) : Only p R (x.handle f) := by
  intro s
  rw [wp_handle]
  apply wp_mono (hx s)
  intro out s' _ hout
  cases out with
  | ok a => exact hout
  | error e => exact hf e s'

theorem Only.ask {op : Op} (hop : p op) :
    Only p (fun _ => True) (ask op : Script Op Reply S E (Reply op)) :=
  fun _ => ⟨hop, fun _ _ _ _ => trivial⟩

theorem Only.askOk {op : Op} {get : Reply op → Except E A} (hop : p op)
    (hget : ∀ r a, get r = .ok a → R a) :
    Only p R (askOk op get : Script Op Reply S E A) :=
  fun _ => ⟨hop, fun r _ => hget r⟩

theorem Only.ite {c : Prop} [Decidable c] {x y : Script Op Reply S E A}
    (hx : c → Only p R x) (hy : ¬c → Only p R y) :
    Only p R (if c then x else y) := by
  split
  · next hc => exact hx hc
  · next hc => exact hy hc

theorem Only.wp {x : Script Op Reply S E A} (h : Only p R x)
    (hallow : ∀ op, p op → P.allows g op)
    (hnext : ∀ op r, p op → P.next g op r = g) :
    wp P x (fun out _ g' => g' = g ∧ ∀ a, out = .ok a → R a) s g := by
  have hprog : ∀ (y : Prog Op Reply (Except E A × S)),
      y.wp (kind p) (fun out _ => ∀ a, out.1 = .ok a → R a) () →
      y.wp P (fun out g' => g' = g ∧ ∀ a, out.1 = .ok a → R a) g := by
    intro y hy
    induction y with
    | done out => exact ⟨rfl, hy⟩
    | ask op next ih =>
        refine ⟨hallow op hy.1, ?_⟩
        intro r _
        rw [hnext op r hy.1]
        exact ih r (hy.2 r trivial)
  exact hprog (x s) (h s)

end Only

end Script

end Interaction
