/-
Running interaction programs: one to its end, and a pool whose questions
interleave over a shared world.
-/
import Voly.Interaction.Program

namespace Interaction

variable {Op : Type} {Reply : Op → Type} {A W G I : Type}

/-- One proposed reply to every question; the world may overrule it. -/
abbrev Oracle (Op : Type) (Reply : Op → Type) := (op : Op) → Reply op

/-- How a world takes a question and a proposed reply. -/
abbrev Serve (Op : Type) (Reply : Op → Type) (W : Type) :=
  W → (op : Op) → Reply op → Reply op × W

/-- Run one program to its end; question `n` of the run gets the proposals of
oracle `n`. -/
def Prog.exec (serve : Serve Op Reply W) (oracle : Nat → Oracle Op Reply) :
    Prog Op Reply A → Nat → W → A × W
  | .done a, _, w => (a, w)
  | .ask op next, n, w =>
      let out := serve w op (oracle n op)
      (next out.1).exec serve oracle (n + 1) out.2

section Exec

variable (serve : Serve Op Reply W) (oracle : Nat → Oracle Op Reply)

/-- A run keeps what the served proposals keep, and ends in the postcondition.
-/
theorem Prog.exec_of_wp {P : Protocol Op Reply G} {Q : A → G → Prop}
    (R : W → G → Prop)
    (hserve : ∀ n w g op, R w g → P.allows g op →
      P.relies g op (serve w op (oracle n op)).1 ∧
        R (serve w op (oracle n op)).2
          (P.next g op (serve w op (oracle n op)).1))
    (p : Prog Op Reply A) (n : Nat) (w : W) {g : G} (hR : R w g)
    (hp : p.wp P Q g) :
    ∃ g', R (p.exec serve oracle n w).2 g' ∧
      Q (p.exec serve oracle n w).1 g' := by
  induction p generalizing n w g with
  | done a => exact ⟨g, hR, hp⟩
  | ask op next ih =>
      obtain ⟨hrelies, hnext⟩ := hserve n w g op hR hp.1
      exact ih _ _ _ hnext (hp.2 _ hrelies)

end Exec

/-- Run one program in a world that answers every question itself. -/
def Prog.eval (answer : W → (op : Op) → Reply op × W) :
    Prog Op Reply A → W → A × W
  | .done a, w => (a, w)
  | .ask op next, w =>
      let out := answer w op
      (next out.1).eval answer out.2

section Eval

variable {B S E : Type} (answer : W → (op : Op) → Reply op × W)

theorem Prog.eval_bind (x : Prog Op Reply A) (f : A → Prog Op Reply B)
    (w : W) :
    (x.bind f).eval answer w =
      (f (x.eval answer w).1).eval answer (x.eval answer w).2 := by
  induction x generalizing w with
  | done a => rfl
  | ask op next ih => exact ih _ _

/-- Run a script from the private state `s`. -/
def Script.eval (x : Script Op Reply S E A) (s : S) (w : W) :
    (Except E A × S) × W :=
  (x s).eval answer w

@[simp] theorem Script.eval_pure (a : A) (s : S) (w : W) :
    Script.eval answer (pure a : Script Op Reply S E A) s w =
      ((.ok a, s), w) := rfl

@[simp] theorem Script.eval_ask (op : Op) (s : S) (w : W) :
    Script.eval answer (Script.ask op : Script Op Reply S E (Reply op)) s w =
      ((.ok (answer w op).1, s), (answer w op).2) := rfl

@[simp] theorem Script.eval_askOk (op : Op) (get : Reply op → Except E A)
    (s : S) (w : W) :
    Script.eval answer (Script.askOk op get) s w =
      ((get (answer w op).1, s), (answer w op).2) := rfl

section

variable {x : Script Op Reply S E A} {s s' : S} {w w' : W} {a : A} {e : E}

theorem Script.eval_bind_ok {f : A → Script Op Reply S E B}
    (h : Script.eval answer x s w = ((.ok a, s'), w')) :
    Script.eval answer (x >>= f) s w = Script.eval answer (f a) s' w' := by
  unfold Script.eval at h ⊢
  change ((x s).bind _).eval answer w = _
  rw [Prog.eval_bind, h]

theorem Script.eval_bind_error {f : A → Script Op Reply S E B}
    (h : Script.eval answer x s w = ((.error e, s'), w')) :
    Script.eval answer (x >>= f) s w = ((.error e, s'), w') := by
  unfold Script.eval at h ⊢
  change ((x s).bind _).eval answer w = _
  rw [Prog.eval_bind, h]
  rfl

theorem Script.eval_handle_ok {f : E → Script Op Reply S E A}
    (h : Script.eval answer x s w = ((.ok a, s'), w')) :
    Script.eval answer (x.handle f) s w = ((.ok a, s'), w') := by
  unfold Script.eval at h ⊢
  change ((x s).bind _).eval answer w = _
  rw [Prog.eval_bind, h]
  rfl

theorem Script.eval_handle_error {f : E → Script Op Reply S E A}
    (h : Script.eval answer x s w = ((.error e, s'), w')) :
    Script.eval answer (x.handle f) s w =
      Script.eval answer (f e) s' w' := by
  unfold Script.eval at h ⊢
  change ((x s).bind _).eval answer w = _
  rw [Prog.eval_bind, h]

end

end Eval

/-- Nothing is forbidden, nothing is relied on, nothing is observed. -/
def Protocol.free : Protocol Op Reply Unit :=
  ⟨fun _ _ => True, fun _ _ _ => True, fun _ _ _ => ()⟩

/-- A world that gives every proposed reply. -/
def echo : Serve Op Reply Unit := fun w _ r => (r, w)

theorem Prog.exec_of_free (Q : A → Prop) {serve : Serve Op Reply W}
    {oracle : Nat → Oracle Op Reply} (p : Prog Op Reply A) {n : Nat} {w : W}
    (hp : p.wp Protocol.free (fun a _ => Q a) ()) :
    Q (p.exec serve oracle n w).1 := by
  obtain ⟨_, _, hQ⟩ := p.exec_of_wp serve oracle (fun _ _ => True)
    (fun _ _ _ _ _ _ => ⟨trivial, trivial⟩) n w trivial hp
  exact hQ

/-- Programs that share a world; program `i` returns an `A i`. -/
structure Pool (Op : Type) (Reply : Op → Type) (I W : Type) (A : I → Type)
    where
  world : W
  procs : (i : I) → Prog Op Reply (A i)

namespace Pool

variable {A G : I → Type} [DecidableEq I]

/-- Program `i` asks its next question; a finished program stays. -/
def step (serve : I → Serve Op Reply W) (pool : Pool Op Reply I W A)
    (turn : I × Oracle Op Reply) : Pool Op Reply I W A :=
  match pool.procs turn.1 with
  | .done _ => pool
  | .ask op next =>
      let out := serve turn.1 pool.world op (turn.2 op)
      ⟨out.2, Function.update pool.procs turn.1 (next out.1)⟩

/-- A schedule names, step by step, who moves and which replies are
proposed. -/
def run (serve : I → Serve Op Reply W) (pool : Pool Op Reply I W A)
    (schedule : List (I × Oracle Op Reply)) : Pool Op Reply I W A :=
  schedule.foldl (step serve) pool

/-- Every question of the schedule meets the condition `ok` in the world it is
asked in. -/
def Meets (serve : I → Serve Op Reply W) (ok : W → I → Op → Prop) :
    Pool Op Reply I W A → List (I × Oracle Op Reply) → Prop
  | _, [] => True
  | pool, turn :: rest =>
      (∀ op, (pool.procs turn.1).question? = some op →
        ok pool.world turn.1 op) ∧
      Meets serve ok (step serve pool turn) rest

/-- A condition on a question that may not be there. -/
def decideQuestion (p : Op → Prop) [DecidablePred p] :
    (question : Option Op) → Decidable (∀ op, question = some op → p op)
  | none => isTrue fun _ h => nomatch h
  | some op =>
      decidable_of_iff (p op)
        ⟨fun h _ heq => Option.some.inj heq ▸ h, fun h => h op rfl⟩

instance decidableMeets (serve : I → Serve Op Reply W) (ok : W → I → Op → Prop)
    [∀ w i op, Decidable (ok w i op)] :
    (pool : Pool Op Reply I W A) → (schedule : List (I × Oracle Op Reply)) →
      Decidable (Meets serve ok pool schedule)
  | _, [] => isTrue trivial
  | pool, turn :: rest =>
      @instDecidableAnd _ _ (decideQuestion (ok pool.world turn.1) _)
        (decidableMeets serve ok (step serve pool turn) rest)

/-- The world invariant holds and every program still follows its protocol. -/
def Follows (P : (i : I) → Protocol Op Reply (G i))
    (Q : (i : I) → A i → G i → Prop) (Inv : W → ((i : I) → G i) → Prop)
    (pool : Pool Op Reply I W A) : Prop :=
  ∃ g : (i : I) → G i, Inv pool.world g ∧
    ∀ i, (pool.procs i).wp (P i) (Q i) (g i)

/-- One served question, as program `i` asks it, keeps the invariant. -/
def Serves (P : (i : I) → Protocol Op Reply (G i))
    (serve : I → Serve Op Reply W) (ok : W → I → Op → Prop)
    (Inv : W → ((i : I) → G i) → Prop) : Prop :=
  ∀ w g i op r, Inv w g → (P i).allows (g i) op → ok w i op →
    (P i).relies (g i) op (serve i w op r).1 ∧
      Inv (serve i w op r).2
        (Function.update g i ((P i).next (g i) op (serve i w op r).1))

variable {P : (i : I) → Protocol Op Reply (G i)}
  {Q : (i : I) → A i → G i → Prop} {serve : I → Serve Op Reply W}
  {ok : W → I → Op → Prop} {Inv : W → ((i : I) → G i) → Prop}

theorem step_follows (hserve : Serves P serve ok Inv)
    {pool : Pool Op Reply I W A} (turn : I × Oracle Op Reply)
    (hok : ∀ op, (pool.procs turn.1).question? = some op →
      ok pool.world turn.1 op)
    (h : pool.Follows P Q Inv) : (step serve pool turn).Follows P Q Inv := by
  obtain ⟨g, hInv, hprocs⟩ := h
  obtain ⟨i, oracle⟩ := turn
  have hi := hprocs i
  unfold step
  cases hp : pool.procs i with
  | done a => exact ⟨g, hInv, hprocs⟩
  | ask op next =>
      simp only at hok ⊢
      rw [hp] at hi
      have hop : ok pool.world i op := hok op (by simp [hp, Prog.question?])
      obtain ⟨hrelies, hnext⟩ :=
        hserve pool.world g i op (oracle op) hInv hi.1 hop
      refine ⟨_, hnext, ?_⟩
      intro j
      by_cases hj : j = i
      · subst hj
        simp only [Function.update_self]
        exact hi.2 _ hrelies
      · simp only [Function.update_of_ne hj]
        exact hprocs j

theorem run_follows (hserve : Serves P serve ok Inv)
    (schedule : List (I × Oracle Op Reply)) {pool : Pool Op Reply I W A}
    (hmeets : pool.Meets serve ok schedule) (h : pool.Follows P Q Inv) :
    (run serve pool schedule).Follows P Q Inv := by
  induction schedule generalizing pool with
  | nil => exact h
  | cons turn rest ih =>
      exact ih hmeets.2 (step_follows hserve turn hmeets.1 h)

theorem run_append (serve : I → Serve Op Reply W)
    (pool : Pool Op Reply I W A) (first rest : List (I × Oracle Op Reply)) :
    run serve pool (first ++ rest) = run serve (run serve pool first) rest :=
  List.foldl_append

theorem meets_append {pool : Pool Op Reply I W A}
    {first rest : List (I × Oracle Op Reply)} :
    pool.Meets serve ok (first ++ rest) ↔
      pool.Meets serve ok first ∧
        (run serve pool first).Meets serve ok rest := by
  induction first generalizing pool with
  | nil => exact ⟨fun h => ⟨trivial, h⟩, And.right⟩
  | cons turn others ih =>
      exact (and_congr_right fun _ => ih).trans and_assoc.symm

/-- Where the world tells whether all questions met the condition, its last
state does. -/
theorem kept_meets_iff {J : W → Prop}
    (hserve : ∀ w i op r, J (serve i w op r).2 ↔ ok w i op ∧ J w)
    (schedule : List (I × Oracle Op Reply)) (pool : Pool Op Reply I W A) :
    J (run serve pool schedule).world ↔
      J pool.world ∧ pool.Meets serve ok schedule := by
  induction schedule generalizing pool with
  | nil => exact ⟨fun h => ⟨h, trivial⟩, And.left⟩
  | cons turn rest ih =>
      have hstep : J (step serve pool turn).world ↔ J pool.world ∧
          ∀ op, (pool.procs turn.1).question? = some op →
            ok pool.world turn.1 op := by
        unfold step
        cases hp : pool.procs turn.1 with
        | done a =>
            simp [Prog.question?]
        | ask op next =>
            simp only [Prog.question?, Option.some.injEq, forall_eq']
            exact (hserve _ _ _ _).trans and_comm
      change J (run serve (step serve pool turn) rest).world ↔
        J pool.world ∧ _ ∧ (step serve pool turn).Meets serve ok rest
      rw [ih, hstep, and_assoc]

theorem meets_congr {ok' : W → I → Op → Prop}
    (hserve : Serves P serve (fun _ _ _ => True) Inv)
    (hiff : ∀ w g i op, Inv w g → (P i).allows (g i) op →
      (ok w i op ↔ ok' w i op))
    (schedule : List (I × Oracle Op Reply)) {pool : Pool Op Reply I W A}
    (h : pool.Follows P Q Inv) :
    pool.Meets serve ok schedule ↔ pool.Meets serve ok' schedule := by
  induction schedule generalizing pool with
  | nil => exact Iff.rfl
  | cons turn rest ih =>
      have hrest := ih (step_follows hserve turn (fun _ _ => trivial) h)
      obtain ⟨g, hInv, hprocs⟩ := h
      refine and_congr (forall_congr' fun op => ?_) hrest
      refine forall_congr' fun hop => hiff _ g _ _ hInv ?_
      have hi := hprocs turn.1
      cases hp : pool.procs turn.1 with
      | done a =>
          rw [hp] at hop
          cases hop
      | ask op' next =>
          rw [hp] at hop hi
          cases hop
          exact hi.1

theorem meets_true (serve : I → Serve Op Reply W)
    (pool : Pool Op Reply I W A) (schedule : List (I × Oracle Op Reply)) :
    pool.Meets serve (fun _ _ _ => True) schedule := by
  induction schedule generalizing pool with
  | nil => trivial
  | cons turn rest ih => exact ⟨fun _ _ => trivial, ih _⟩

theorem meets_of_kept {J : W → Prop} (schedule : List (I × Oracle Op Reply))
    {pool : Pool Op Reply I W A} (hpool : J pool.world)
    (hkept : ∀ w i op r, J w → J (serve i w op r).2)
    (hok : ∀ w i op, J w → ok w i op) : pool.Meets serve ok schedule := by
  induction schedule generalizing pool with
  | nil => trivial
  | cons turn rest ih =>
      refine ⟨fun op _ => hok _ _ _ hpool, ih ?_⟩
      unfold step
      split
      · exact hpool
      · exact hkept _ _ _ _ hpool

end Pool

end Interaction
