/-
Scripts by what is noted of their exchanges, and by the log of what they ask.
-/
import Voly.Interaction.System

namespace Interaction

variable {Op : Type} {Reply : Op → Type} {A B S E V G : Type}

/-- Both postconditions hold, whatever a second observer has seen. -/
theorem Prog.wp_both {P : Protocol Op Reply V} {P' : Protocol Op Reply G}
    {Q : A → V → Prop} {Q' : A → G → Prop}
    (hrelies : ∀ g op r, P'.relies g op r) (x : Prog Op Reply A) {v : V}
    {g : G} (h : x.wp P Q v) (h' : x.wp P' Q' g) :
    x.wp P (fun a v' => Q a v' ∧ ∃ g', Q' a g') v := by
  induction x generalizing v g with
  | done a => exact ⟨h, g, h'⟩
  | ask op next ih =>
      refine ⟨h.1, ?_⟩
      intro r hr
      exact ih r (h.2 r hr) (h'.2 r (hrelies g op r))

section Noted

variable (see : (op : Op) → Reply op → List V)

/-- Everything may be asked, every reply may come, and `see` says what is
noted. -/
def noting : Protocol Op Reply (List V) where
  allows _ _ := True
  relies _ _ _ := True
  next notes op r := notes ++ see op r

/-- A world that gives every proposed reply and keeps the notes. -/
def noted : Serve Op Reply (List V) := fun notes op r =>
  (r, notes ++ see op r)

end Noted

namespace Script

variable (see : (op : Op) → Reply op → List V)

/-- Whatever the replies, the script ends with notes related to its end. -/
def Leaves (x : Script Op Reply S E A) (s : S)
    (R : Except E A → S → List V → Prop) : Prop :=
  ∀ notes, wp (noting see) x (fun out s' notes' => ∃ vs,
    notes' = notes ++ vs ∧ R out s' vs) s notes

variable {see} {s : S} {R : Except E A → S → List V → Prop}
  {R' : Except E B → S → List V → Prop}

theorem Leaves.pure {a : A} (h : R (.ok a) s []) :
    Leaves see (Pure.pure a : Script Op Reply S E A) s R :=
  fun notes => ⟨[], (List.append_nil notes).symm, h⟩

theorem Leaves.mono {x : Script Op Reply S E A}
    {R' : Except E A → S → List V → Prop} (h : Leaves see x s R)
    (himp : ∀ out s' vs, R out s' vs → R' out s' vs) :
    Leaves see x s R' := by
  intro notes
  apply wp_mono (h notes)
  rintro out s' _ ⟨vs, rfl, hout⟩
  exact ⟨vs, rfl, himp out s' vs hout⟩

/-- In a sequence the second part's notes follow, unless an exception ends it
before. -/
theorem Leaves.seq {x : Script Op Reply S E A} {f : A → Script Op Reply S E B}
    (hx : Leaves see x s R)
    (hf : ∀ a s' vs, R (.ok a) s' vs →
      Leaves see (f a) s' fun out s'' vs' => R' out s'' (vs ++ vs'))
    (herror : ∀ e s' vs, R (.error e) s' vs → R' (.error e) s' vs) :
    Leaves see (x >>= f) s R' := by
  intro notes
  apply wp_seq (hx notes)
  · rintro a s' _ ⟨vs, rfl, hout⟩
    apply wp_mono (hf a s' vs hout (notes ++ vs))
    rintro out s'' _ ⟨vs', rfl, hout'⟩
    exact ⟨vs ++ vs', List.append_assoc notes vs vs', hout'⟩
  · rintro e s' _ ⟨vs, rfl, hout⟩
    exact ⟨vs, rfl, herror e s' vs hout⟩

theorem Leaves.handle {x : Script Op Reply S E A}
    {f : E → Script Op Reply S E A} {R' : Except E A → S → List V → Prop}
    (hx : Leaves see x s R) (hok : ∀ a s' vs, R (.ok a) s' vs →
      R' (.ok a) s' vs)
    (hf : ∀ e s' vs, R (.error e) s' vs →
      Leaves see (f e) s' fun out s'' vs' => R' out s'' (vs ++ vs')) :
    Leaves see (x.handle f) s R' := by
  intro notes
  rw [wp_handle]
  apply wp_mono (hx notes)
  rintro out s' _ ⟨vs, rfl, hout⟩
  cases out with
  | ok a => exact ⟨vs, rfl, hok a s' vs hout⟩
  | error e =>
      apply wp_mono (hf e s' vs hout (notes ++ vs))
      rintro out s'' _ ⟨vs', rfl, hout'⟩
      exact ⟨vs ++ vs', List.append_assoc notes vs vs', hout'⟩

theorem Leaves.read_bind {f : S → Script Op Reply S E B}
    (h : Leaves see (f s) s R') : Leaves see (read >>= f) s R' :=
  fun notes => wp_read_bind.mpr (h notes)

theorem Leaves.update {u : S → S} {R : Except E Unit → S → List V → Prop}
    (h : R (.ok ()) (u s) []) :
    Leaves see (Script.update u : Script Op Reply S E Unit) s R :=
  fun notes => ⟨[], (List.append_nil notes).symm, h⟩

theorem Leaves.update_bind {u : S → S} {f : Unit → Script Op Reply S E B}
    (h : Leaves see (f ()) (u s) R') :
    Leaves see (Script.update u >>= f) s R' :=
  fun notes => (wp_update_bind u).mpr (h notes)

theorem Leaves.run {x : S → Except E A × S} (h : R (x s).1 (x s).2 []) :
    Leaves see (Script.run x : Script Op Reply S E A) s R :=
  fun notes => ⟨[], (List.append_nil notes).symm, h⟩

theorem Leaves.run_bind {x : S → Except E A × S}
    {f : A → Script Op Reply S E B}
    (hok : ∀ a s', x s = (.ok a, s') → Leaves see (f a) s' R')
    (herror : ∀ e s', x s = (.error e, s') → R' (.error e) s' []) :
    Leaves see (Script.run x >>= f) s R' := by
  intro notes
  rw [wp_run_bind]
  rcases hx : x s with ⟨e | a, s'⟩
  · exact ⟨[], (List.append_nil notes).symm, herror e s' hx⟩
  · exact hok a s' hx notes

theorem Leaves.ask_bind {op : Op} {f : Reply op → Script Op Reply S E B}
    (h : ∀ r, Leaves see (f r) s fun out s' vs => R' out s' (see op r ++ vs)) :
    Leaves see (ask op >>= f) s R' := by
  intro notes
  rw [wp_ask_bind]
  refine ⟨trivial, fun r _ => ?_⟩
  apply wp_mono (h r (notes ++ see op r))
  rintro out s' _ ⟨vs, rfl, hout⟩
  exact ⟨see op r ++ vs, List.append_assoc notes (see op r) vs, hout⟩

theorem Leaves.askOk {op : Op} {get : Reply op → Except E A}
    (h : ∀ r, R (get r) s (see op r)) :
    Leaves see (Script.askOk op get : Script Op Reply S E A) s R :=
  fun _ => ⟨trivial, fun r _ => ⟨see op r, rfl, h r⟩⟩

theorem Leaves.ite {c : Prop} [Decidable c] {x y : Script Op Reply S E A}
    (hx : c → Leaves see x s R) (hy : ¬c → Leaves see y s R) :
    Leaves see (if c then x else y) s R := by
  split
  · next hc => exact hx hc
  · next hc => exact hy hc

section

variable {x : Script Op Reply S E A}

theorem Only.leaves {p : Op → Prop} {R : A → Prop} (h : Only p R x)
    (hquiet : ∀ op r, p op → see op r = []) :
    Leaves see x s fun out _ vs => vs = [] ∧ ∀ a, out = .ok a → R a := by
  intro notes
  have hwp := @Only.wp _ _ _ _ _ _ (noting see) s notes p R x h
    (fun _ _ => trivial) fun op r hop => by
      change notes ++ see op r = notes
      rw [hquiet op r hop, List.append_nil]
  apply wp_mono hwp
  rintro out s' _ ⟨rfl, hR⟩
  exact ⟨[], (List.append_nil _).symm, rfl, hR⟩

theorem Leaves.also {P : Protocol Op Reply G} {g : G}
    {Q : Except E A → S → G → Prop} (h : Leaves see x s R)
    (hrelies : ∀ g op r, P.relies g op r) (hwp : wp P x Q s g) :
    Leaves see x s fun out s' vs => R out s' vs ∧ ∃ g', Q out s' g' := by
  intro notes
  have hboth := Prog.wp_both hrelies (x s) (h notes) hwp
  apply Prog.wp_mono _ hboth
  rintro ⟨out, s'⟩ notes' ⟨⟨vs, hnotes, hout⟩, g', hQ⟩
  exact ⟨vs, hnotes, hout, g', hQ⟩

theorem Leaves.exec (h : Leaves see x s R) (oracle : Nat → Oracle Op Reply)
    (n : Nat) :
    R ((x s).exec (noted see) oracle n []).1.1
      ((x s).exec (noted see) oracle n []).1.2
      ((x s).exec (noted see) oracle n []).2 := by
  obtain ⟨notes, hnotes, vs, hvs, hout⟩ := (x s).exec_of_wp (noted see) oracle
    (fun w notes => w = notes)
    (fun _ _ _ op hw _ => ⟨trivial, by rw [hw]; rfl⟩) n [] rfl (h [])
  rw [hnotes, hvs, List.nil_append]
  exact hout

end

end Script

section Returned

variable (see : (op : Op) → Reply op → List V)

/-- Whatever the replies, a script that returns leaves notes related to its
result. -/
def Script.Returns (x : Script Op Reply S E A) (s : S)
    (R : A → S → List V → Prop) : Prop :=
  ∀ notes, wp (noting see) x (fun out s' notes' => ∃ vs,
    notes' = notes ++ vs ∧ ∀ a, out = .ok a → R a s' vs) s notes

theorem Prog.wp_noting (x : Prog Op Reply A) (notes : List V) :
    x.wp (noting see) (fun _ notes' => ∃ vs, notes' = notes ++ vs) notes := by
  induction x generalizing notes with
  | done a => exact ⟨[], (List.append_nil notes).symm⟩
  | ask op next ih =>
      refine ⟨trivial, fun r _ => ?_⟩
      apply Prog.wp_mono _ (ih r (notes ++ see op r))
      rintro _ _ ⟨vs, rfl⟩
      exact ⟨see op r ++ vs, List.append_assoc notes (see op r) vs⟩

end Returned

namespace Script

variable {see : (op : Op) → Reply op → List V} {s : S}
  {R : A → S → List V → Prop} {R' : B → S → List V → Prop}

theorem Returns.pure {a : A} (h : R a s []) :
    Returns see (Pure.pure a : Script Op Reply S E A) s R :=
  Leaves.pure fun _ hb => Except.ok.inj hb ▸ h

theorem Returns.mono {x : Script Op Reply S E A}
    {R' : A → S → List V → Prop} (h : Returns see x s R)
    (himp : ∀ a s' vs, R a s' vs → R' a s' vs) : Returns see x s R' :=
  Leaves.mono h fun _ s' vs hout a ha => himp a s' vs (hout a ha)

theorem Returns.of_forall (x : Script Op Reply S E A)
    (h : ∀ a s' vs, R a s' vs) : Returns see x s R := by
  intro notes
  apply Prog.wp_mono _ (Prog.wp_noting see (x s) notes)
  rintro ⟨out, s'⟩ _ ⟨vs, rfl⟩
  exact ⟨vs, rfl, fun a _ => h a s' vs⟩

theorem Returns.seq {x : Script Op Reply S E A} {f : A → Script Op Reply S E B}
    (hx : Returns see x s R)
    (hf : ∀ a s' vs, R a s' vs →
      Returns see (f a) s' fun b s'' vs' => R' b s'' (vs ++ vs')) :
    Returns see (x >>= f) s R' :=
  Leaves.seq hx (fun a s' vs hout => hf a s' vs (hout a rfl))
    fun _ _ _ _ _ hb => by cases hb

theorem Returns.handle {x : Script Op Reply S E A}
    {f : E → Script Op Reply S E A} (hx : Returns see x s R)
    (hf : ∀ e s' vs,
      Returns see (f e) s' fun a s'' vs' => R a s'' (vs ++ vs')) :
    Returns see (x.handle f) s R :=
  Leaves.handle hx (fun _ _ _ hout => hout) fun e s' vs _ => hf e s' vs

theorem Returns.read_bind {f : S → Script Op Reply S E B}
    (h : Returns see (f s) s R') : Returns see (read >>= f) s R' :=
  Leaves.read_bind h

theorem Returns.update_bind {u : S → S} {f : Unit → Script Op Reply S E B}
    (h : Returns see (f ()) (u s) R') :
    Returns see (update u >>= f) s R' := Leaves.update_bind h

theorem Returns.run_bind {x : S → Except E A × S}
    {f : A → Script Op Reply S E B}
    (h : ∀ a s', x s = (.ok a, s') → Returns see (f a) s' R') :
    Returns see (run x >>= f) s R' :=
  Leaves.run_bind h fun _ _ _ _ hb => by cases hb

theorem Returns.ask_bind {op : Op} {f : Reply op → Script Op Reply S E B}
    (h : ∀ r, Returns see (f r) s fun b s' vs => R' b s' (see op r ++ vs)) :
    Returns see (ask op >>= f) s R' := Leaves.ask_bind h

theorem Returns.askOk {op : Op} {get : Reply op → Except E A}
    (h : ∀ r a, get r = .ok a → R a s (see op r)) :
    Returns see (askOk op get : Script Op Reply S E A) s R := Leaves.askOk h

theorem Returns.ite {c : Prop} [Decidable c] {x y : Script Op Reply S E A}
    (hx : c → Returns see x s R) (hy : ¬c → Returns see y s R) :
    Returns see (if c then x else y) s R := Leaves.ite hx hy

theorem Only.returns {p : Op → Prop} {R : A → Prop}
    {x : Script Op Reply S E A} (h : Only p R x)
    (hquiet : ∀ op r, p op → see op r = []) :
    Returns see x s fun a _ vs => vs = [] ∧ R a :=
  (h.leaves hquiet).mono fun _ _ _ hout a ha => ⟨hout.1, hout.2 a ha⟩

theorem Returns.also {P : Protocol Op Reply G}
    {Q : Except E A → S → G → Prop} {x : Script Op Reply S E A} {g : G}
    (h : Returns see x s R) (hrelies : ∀ g op r, P.relies g op r)
    (hwp : wp P x Q s g) :
    Returns see x s fun a s' vs => R a s' vs ∧ ∃ g', Q (.ok a) s' g' := by
  refine (Leaves.also h hrelies hwp).mono ?_
  rintro _ _ _ ⟨hout, hQ⟩ a rfl
  exact ⟨hout a rfl, hQ⟩

theorem Returns.exec {x : Script Op Reply S E A} (h : Returns see x s R)
    {oracle : Nat → Oracle Op Reply} {n : Nat} {a : A} {s' : S} {vs : List V}
    (hrun : (x s).exec (noted see) oracle n [] = ((.ok a, s'), vs)) :
    R a s' vs := by
  have hout := Leaves.exec h oracle n
  rw [hrun] at hout
  exact hout a rfl

end Script

/-- A question that was asked and the reply it got. -/
structure Exchange (Op : Type) (Reply : Op → Type) where
  op : Op
  reply : Reply op

/-- Everything may be asked, every reply may come, and all of it is noted. -/
def logging : Protocol Op Reply (List (Exchange Op Reply)) where
  allows _ _ := True
  relies _ _ _ := True
  next log op r := log ++ [⟨op, r⟩]

/-- How the surroundings answer, given what was exchanged before. -/
abbrev Surroundings (Op : Type) (Reply : Op → Type) :=
  List (Exchange Op Reply) → Oracle Op Reply

def Surroundings.answer (env : Surroundings Op Reply)
    (log : List (Exchange Op Reply)) (op : Op) :
    Reply op × List (Exchange Op Reply) :=
  (env log op, log ++ [⟨op, env log op⟩])

namespace Script

/-- Whatever the replies, the script ends with exchanges related to its outcome.
-/
def Emits (x : Script Op Reply S E A) (s : S)
    (R : Except E A → S → List (Exchange Op Reply) → Prop) : Prop :=
  ∀ log, wp logging x
    (fun out s' log' => ∃ es, log' = log ++ es ∧ R out s' es) s log

variable {R : Except E A → S → List (Exchange Op Reply) → Prop} {s : S}

theorem Emits.pure {a : A} (h : R (.ok a) s []) :
    Emits (Pure.pure a : Script Op Reply S E A) s R := Leaves.pure h

theorem Emits.run {x : S → Except E A × S} (h : R (x s).1 (x s).2 []) :
    Emits (run x : Script Op Reply S E A) s R := Leaves.run h

theorem Emits.ask {op : Op}
    {R : Except E (Reply op) → S → List (Exchange Op Reply) → Prop}
    (h : ∀ r, R (.ok r) s [⟨op, r⟩]) :
    Emits (ask op : Script Op Reply S E (Reply op)) s R := by
  intro log
  exact ⟨trivial, fun r _ => ⟨[⟨op, r⟩], rfl, h r⟩⟩

theorem Emits.mono {x : Script Op Reply S E A}
    {R' : Except E A → S → List (Exchange Op Reply) → Prop}
    (h : Emits x s R) (himp : ∀ out s' es, R out s' es → R' out s' es) :
    Emits x s R' := Leaves.mono h himp

theorem Emits.seq {x : Script Op Reply S E A} {f : A → Script Op Reply S E B}
    {R' : Except E B → S → List (Exchange Op Reply) → Prop}
    (hx : Emits x s R)
    (hok : ∀ a s' es, R (.ok a) s' es →
      Emits (f a) s' fun out s'' es' => R' out s'' (es ++ es'))
    (herror : ∀ e s' es, R (.error e) s' es → R' (.error e) s' es) :
    Emits (x >>= f) s R' := Leaves.seq hx hok herror

theorem Emits.ask_bind {op : Op} {f : Reply op → Script Op Reply S E B}
    {R' : Except E B → S → List (Exchange Op Reply) → Prop}
    (h : ∀ r, Emits (f r) s fun out s' es => R' out s' (⟨op, r⟩ :: es)) :
    Emits (Script.ask op >>= f) s R' := Leaves.ask_bind h

theorem Emits.ite {c : Prop} [Decidable c] {x y : Script Op Reply S E A}
    (hx : c → Emits x s R) (hy : ¬c → Emits y s R) :
    Emits (if c then x else y) s R := Leaves.ite hx hy

theorem Emits.eval {x : Script Op Reply S E A} (h : Emits x s R)
    (env : Surroundings Op Reply) :
    R (Script.eval env.answer x s []).1.1 (Script.eval env.answer x s []).1.2
      (Script.eval env.answer x s []).2 := by
  have hprog : ∀ (p : Prog Op Reply (Except E A × S)) log
      (Q : Except E A × S → List (Exchange Op Reply) → Prop),
      p.wp logging Q log →
        Q (p.eval env.answer log).1 (p.eval env.answer log).2 := by
    intro p
    induction p with
    | done out => exact fun log Q hQ => hQ
    | ask op next ih =>
        intro log Q hQ
        exact ih _ _ Q (hQ.2 (env log op) trivial)
  obtain ⟨es, hlog, hR⟩ := hprog _ _ _ (h [])
  rw [List.nil_append] at hlog
  have hes : (Script.eval env.answer x s []).2 = es := hlog
  rw [hes]
  exact hR

end Script

end Interaction
