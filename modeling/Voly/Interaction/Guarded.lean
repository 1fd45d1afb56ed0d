/-
Clients that take turns on a cell under one lock: the cell holds what the
changes make one after the other.
-/
import Mathlib.Data.List.Induction
import Mathlib.Data.List.Nodup
import Voly.Interaction.Steps

namespace Interaction

universe u

variable {I C F V : Type u}

/-- Who is let in, how the cell is accessed, and what a client changes. -/
structure Guard (I C F V : Type u) where
  admits : I → Bool
  read : F → Option V
  write : V → F
  change : I × C → V → V

inductive Stand (V : Type u) where
  | waiting
  | inside
  | holding (value : V)
  | wrote (value : V)
  | returned (value : V)
  | refused
  | failed

namespace Stand

variable {value : V}

def locked : Stand V → Bool
  | .inside | .holding _ | .wrote _ => true
  | _ => false

def saved : Stand V → Option V
  | .wrote value | .returned value => some value
  | _ => none

end Stand

/-- The cell, the lock and the clients. -/
structure Guarded (I F V : Type u) where
  cell : F
  holder : Option I := none
  stand : I → Stand V := fun _ => .waiting

section Steps

variable [DecidableEq I]

namespace Guarded

/-- The client leaves the locked part. -/
def leave (w : Guarded I F V) (i : I) (stand : Stand V) : Guarded I F V :=
  { w with holder := none, stand := Function.update w.stand i stand }

end Guarded

/-- The next step of a client.  A step without a choice breaks: the cell cannot
be read or written. -/
def Guard.step (P : Guard I C F V) (w : Guarded I F V) :
    I × Option C → Option (Guarded I F V)
  | (i, choice) =>
      match w.stand i with
      | .waiting =>
          if P.admits i then
            match w.holder with
            | none => some { w with
                holder := some i
                stand := Function.update w.stand i .inside }
            | some _ => none
          else some { w with stand := Function.update w.stand i .refused }
      | .inside =>
          match choice, P.read w.cell with
          | some _, some value => some { w with
              stand := Function.update w.stand i (.holding value) }
          | _, _ => some (w.leave i .failed)
      | .holding value =>
          match choice with
          | some c => some { w with
              cell := P.write (P.change (i, c) value)
              stand := Function.update w.stand i
                (.wrote (P.change (i, c) value)) }
          | none => some (w.leave i .failed)
      | .wrote value => some (w.leave i (.returned value))
      | _ => none

end Steps

/-- The value after changes that are made one after the other. -/
def Guard.value (P : Guard I C F V) (base : V) (order : List (I × C)) : V :=
  order.foldl (fun value turn => P.change turn value) base

/-- The clients have changed the cell one after the other, each at most
once. -/
structure Serial (P : Guard I C F V) (base : V) (w : Guarded I F V)
    (order : List (I × C)) : Prop where
  cell : w.cell = P.write (P.value base order)
  once : (order.map Prod.fst).Nodup
  savers : ∀ i, i ∈ order.map Prod.fst ↔ (w.stand i).saved.isSome = true
  admitted : ∀ turn ∈ order, P.admits turn.1 = true
  alone : ∀ i, (w.stand i).locked = true → w.holder = some i
  current : ∀ i value, w.stand i = .holding value →
    value = P.value base order
  entered : ∀ i, (w.stand i).locked = true → P.admits i = true

variable {P : Guard I C F V} {Good : V → Prop} {base : V}
  {w w' : Guarded I F V} {order : List (I × C)}

theorem Guard.value_snoc (turn : I × C) :
    P.value base (order ++ [turn]) = P.change turn (P.value base order) := by
  rw [value, List.foldl_append]
  rfl

theorem Guard.value_good (hbase : Good base)
    (hkeep : ∀ turn value, P.admits turn.1 = true → Good value →
      Good (P.change turn value))
    (horder : ∀ turn ∈ order, P.admits turn.1 = true) :
    Good (P.value base order) := by
  induction order using List.reverseRecOn with
  | nil => exact hbase
  | append_singleton order turn ih =>
      rw [value_snoc]
      apply hkeep turn _ (horder turn (by simp))
      apply ih
      intro earlier hmem
      exact horder earlier (List.mem_append_left _ hmem)

theorem Guard.turn [DecidableEq I] {i : I} (c : C) {value : V}
    (hadmits : P.admits i = true) (hstand : w.stand i = .waiting)
    (hfree : w.holder = none) (hread : P.read w.cell = some value) :
    ∃ w', follow P.step w [(i, some c), (i, some c), (i, some c)] = some w' ∧
      w'.cell = P.write (P.change (i, c) value) := by
  have henter : P.step w (i, some c) = some { w with
      holder := some i
      stand := Function.update w.stand i .inside } := by
    simp [step, hstand, hadmits, hfree]
  refine ⟨{ w with
    cell := P.write (P.change (i, c) value)
    holder := some i
    stand := Function.update w.stand i (.wrote (P.change (i, c) value)) },
    ?_, rfl⟩
  rw [follow_cons henter]
  simp [follow, step, hread]

namespace Serial

theorem initial (P : Guard I C F V) (base : V) :
    Serial P base { cell := P.write base } [] where
  cell := rfl
  once := List.nodup_nil
  savers i := by simp [Stand.saved]
  admitted := nofun
  alone := nofun
  current := nofun
  entered := nofun

variable [DecidableEq I]

theorem move (h : Serial P base w order) {i : I} {stand : Stand V}
    {holder : Option I}
    (hsaved : stand.saved.isSome = (w.stand i).saved.isSome)
    (hlocked : stand.locked = true → holder = some i ∧ P.admits i = true)
    (hothers : ∀ j, j ≠ i → w.holder = some j → holder = some j)
    (hvalue : ∀ value, stand = .holding value →
      value = P.value base order) :
    Serial P base
      { w with holder, stand := Function.update w.stand i stand } order := by
  constructor
  case cell => exact h.cell
  case once => exact h.once
  case savers =>
    intro j
    by_cases hj : j = i
    · subst hj
      simpa [hsaved] using h.savers j
    · simpa [hj] using h.savers j
  case admitted => exact h.admitted
  case alone =>
    intro j
    by_cases hj : j = i
    · subst hj
      simpa using fun hstand => (hlocked hstand).1
    · simpa [hj] using fun hstand => hothers j hj (h.alone j hstand)
  case current =>
    intro j value
    by_cases hj : j = i
    · subst hj
      simpa using hvalue value
    · simpa [hj] using h.current j value
  case entered =>
    intro j
    by_cases hj : j = i
    · subst hj
      simpa using fun hstand => (hlocked hstand).2
    · simpa [hj] using h.entered j

theorem leave (h : Serial P base w order) {i : I} {stand : Stand V}
    (hinside : (w.stand i).locked = true)
    (hsaved : stand.saved.isSome = (w.stand i).saved.isSome)
    (hout : stand.locked = false) : Serial P base (w.leave i stand) order := by
  apply h.move hsaved
  · intro hlocked
    rw [hout] at hlocked
    cases hlocked
  · intro j hj hholder
    rw [h.alone i hinside] at hholder
    exact absurd (Option.some.inj hholder).symm hj
  · intro value hvalue
    rw [hvalue] at hout
    cases hout

theorem save (h : Serial P base w order) {i : I} {value : V} (c : C)
    (hstand : w.stand i = .holding value) :
    Serial P base
      { w with
        cell := P.write (P.change (i, c) value)
        stand := Function.update w.stand i (.wrote (P.change (i, c) value)) }
      (order ++ [(i, c)]) := by
  have hvalue := h.current i value hstand
  have hinside : (w.stand i).locked = true := by rw [hstand]; rfl
  have hnew : i ∉ order.map Prod.fst := by
    rw [h.savers, hstand]
    exact Bool.false_ne_true
  constructor
  case cell => rw [Guard.value_snoc, hvalue]
  case once =>
    rw [List.map_append, List.map_singleton, ← List.concat_eq_append]
    exact List.Nodup.concat hnew h.once
  case savers =>
    intro j
    by_cases hj : j = i
    · subst hj
      simp [Stand.saved]
    · simpa [hj] using h.savers j
  case admitted =>
    intro turn hmem
    rcases List.mem_append.mp hmem with hold | hlast
    · exact h.admitted turn hold
    · rw [List.mem_singleton.mp hlast]
      exact h.entered i hinside
  case alone =>
    intro j
    by_cases hj : j = i
    · subst hj
      exact fun _ => h.alone j hinside
    · simpa [hj] using h.alone j
  case current =>
    intro j other
    by_cases hj : j = i
    · subst hj
      simp
    · -- another client that holds a value would have the lock too
      intro hother
      have hsame : w.stand j = .holding other := by simpa [hj] using hother
      have hlock := h.alone j (by rw [hsame]; rfl)
      rw [h.alone i hinside] at hlock
      exact absurd (Option.some.inj hlock).symm hj
  case entered =>
    intro j
    by_cases hj : j = i
    · subst hj
      exact fun _ => h.entered j hinside
    · simpa [hj] using h.entered j

section

variable (hread : ∀ value, Good value → P.read (P.write value) = some value)
  (hkeep : ∀ turn value, P.admits turn.1 = true → Good value → Good (P.change
    turn value)) (hbase : Good base)
include hread hkeep hbase

theorem step (h : Serial P base w order) {turn : I × Option C}
    (hstep : P.step w turn = some w') :
    ∃ order', Serial P base w' order' := by
  obtain ⟨i, choice⟩ := turn
  have hloads : P.read w.cell = some (P.value base order) := by
    rw [h.cell]
    exact hread _ (Guard.value_good hbase hkeep h.admitted)
  cases hstand : w.stand i with
  | waiting =>
      simp only [Guard.step, hstand] at hstep
      by_cases hadmits : P.admits i = true
      · rw [if_pos hadmits] at hstep
        cases hholder : w.holder with
        | some j => simp [hholder] at hstep
        | none =>
            simp only [hholder, Option.some.injEq] at hstep
            subst hstep
            refine ⟨order, h.move ?_ (fun _ => ⟨rfl, hadmits⟩) ?_ nofun⟩
            · rw [hstand]; rfl
            · intro j _ hj
              rw [hholder] at hj
              cases hj
      · rw [if_neg hadmits, Option.some.injEq] at hstep
        subst hstep
        refine ⟨order, h.move ?_ nofun (fun _ _ hj => hj) nofun⟩
        rw [hstand]; rfl
  | inside =>
      have hinside : (w.stand i).locked = true := by rw [hstand]; rfl
      cases choice with
      | none =>
          simp only [Guard.step, hstand, Option.some.injEq] at hstep
          subst hstep
          exact ⟨order, h.leave hinside (by rw [hstand]; rfl) rfl⟩
      | some c =>
          simp only [Guard.step, hstand, hloads, Option.some.injEq] at hstep
          subst hstep
          refine ⟨order, h.move ?_ ?_ (fun _ _ hj => hj) ?_⟩
          · rw [hstand]; rfl
          · exact fun _ => ⟨h.alone i hinside, h.entered i hinside⟩
          · intro value hvalue
            cases hvalue
            rfl
  | holding value =>
      have hinside : (w.stand i).locked = true := by rw [hstand]; rfl
      cases choice with
      | none =>
          simp only [Guard.step, hstand, Option.some.injEq] at hstep
          subst hstep
          exact ⟨order, h.leave hinside (by rw [hstand]; rfl) rfl⟩
      | some c =>
          simp only [Guard.step, hstand, Option.some.injEq] at hstep
          subst hstep
          exact ⟨order ++ [(i, c)], h.save c hstand⟩
  | wrote value =>
      have hinside : (w.stand i).locked = true := by rw [hstand]; rfl
      simp only [Guard.step, hstand, Option.some.injEq] at hstep
      subst hstep
      exact ⟨order, h.leave hinside (by rw [hstand]; rfl) rfl⟩
  | _ => simp [Guard.step, hstand] at hstep

theorem run {turns : List (I × Option C)}
    (hrun : follow P.step { cell := P.write base } turns = some w) :
    ∃ order, Serial P base w order := by
  have hstep : ∀ w turn w', (∃ order, Serial P base w order) → True →
      P.step w turn = some w' → ∃ order, Serial P base w' order := by
    rintro w turn w' ⟨order, h⟩ _ hstep
    exact h.step hread hkeep hbase hstep
  exact follow_invariant hstep ⟨[], initial P base⟩ (throughout_true _ turns)
    hrun

end

end Serial

end Interaction
