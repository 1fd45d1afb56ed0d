/-
Clients of shared cells: they load a cell, change it and save it; the log tells
which saves were lost.
-/
import Mathlib.Logic.Function.Basic

namespace Interaction

universe u v w

variable {I : Type u} {K : Type v} {V : Type w} [DecidableEq I] [DecidableEq K]

/-- What a client does to a cell. -/
inductive Access (K : Type v) where
  | load (key : K)
  | save (key : K)
deriving DecidableEq

/-- No other client has saved the cell since the client last loaded it.  The
log is latest first. -/
def UpToDate (who : I) (key : K) : List (I × Access K) → Prop
  | [] => True
  | (i, access) :: rest =>
      if i = who ∧ access = .load key then True
      else (access = .save key → i = who) ∧ UpToDate who key rest

/-- Every save of the cell was up to date when it was made. -/
def InTurn (key : K) : List (I × Access K) → Prop
  | [] => True
  | (i, access) :: rest =>
      (access = .save key → UpToDate i key rest) ∧ InTurn key rest

/-- Who has saved the cell, latest first. -/
def savers (key : K) : List (I × Access K) → List I
  | [] => []
  | (i, access) :: rest =>
      if access = .save key then i :: savers key rest else savers key rest

section Log

variable {who i : I} {key other : K} {access : Access K}
  {log : List (I × Access K)}

instance decidableUpToDate (who : I) (key : K) :
    (log : List (I × Access K)) → Decidable (UpToDate who key log)
  | [] => isTrue trivial
  | (i, access) :: rest =>
      have := decidableUpToDate who key rest
      inferInstanceAs (Decidable
        (if i = who ∧ access = .load key then True
        else (access = .save key → i = who) ∧ UpToDate who key rest))

@[simp] theorem upToDate_load_self :
    UpToDate who key ((who, .load key) :: log) := by
  rw [UpToDate, if_pos ⟨rfl, rfl⟩]
  trivial

theorem upToDate_load (h : ¬(i = who ∧ other = key)) :
    UpToDate who key ((i, .load other) :: log) ↔ UpToDate who key log := by
  have hnot : ¬(i = who ∧ Access.load other = Access.load key) := by
    rintro ⟨hi, hkey⟩
    cases hkey
    exact h ⟨hi, rfl⟩
  rw [UpToDate, if_neg hnot]
  simp

theorem upToDate_save :
    UpToDate who key ((i, .save other) :: log) ↔
      (other = key → i = who) ∧ UpToDate who key log := by
  have hnot : ¬(i = who ∧ Access.save other = Access.load key) := by
    rintro ⟨_, hkey⟩
    cases hkey
  rw [UpToDate, if_neg hnot]
  simp

@[simp] theorem inTurn_load :
    InTurn key ((i, .load other) :: log) ↔ InTurn key log := by
  simp [InTurn]

@[simp] theorem inTurn_save :
    InTurn key ((i, .save other) :: log) ↔
      (other = key → UpToDate i key log) ∧ InTurn key log := by
  simp [InTurn]

omit [DecidableEq I] in
@[simp] theorem savers_load :
    savers key ((i, .load other) :: log) = savers key log := by
  simp [savers]

omit [DecidableEq I] in
@[simp] theorem savers_save :
    savers key ((i, .save other) :: log) =
      if other = key then i :: savers key log else savers key log := by
  simp [savers]

end Log

/-- The cells after a log of loads and saves; each change makes the value larger
by one. -/
structure Shared (change : I → V → V) (size : V → Nat) (base cell : K → V)
    (held : I → Option (K × V)) (log : List (I × Access K)) : Prop where
  serial : ∀ key, InTurn key log →
    cell key = (savers key log).foldr change (base key)
  behind : ∀ key, ¬InTurn key log →
    size (cell key) < size (base key) + (savers key log).length
  fresh : ∀ i key v, held i = some (key, v) → UpToDate i key log →
    v = cell key
  stale : ∀ i key v, held i = some (key, v) → ¬UpToDate i key log →
    size v < size (base key) + (savers key log).length

namespace Shared

variable {change : I → V → V} {size : V → Nat} {base cell : K → V}
  {held : I → Option (K × V)} {log : List (I × Access K)} {key : K} {i : I}
  {v : V}

theorem initial (change : I → V → V) (size : V → Nat) (base : K → V) :
    Shared change size base base (fun _ => none) [] :=
  { serial := fun _ _ => rfl
    behind := fun _ h => absurd trivial h
    fresh := nofun
    stale := nofun }

omit [DecidableEq I] in
theorem size_foldr (hsize : ∀ i v, size (change i v) = size v + 1)
    (clients : List I) (v : V) :
    size (clients.foldr change v) = size v + clients.length := by
  induction clients with
  | nil => rfl
  | cons i clients ih =>
      rw [List.foldr_cons, hsize, ih, List.length_cons, Nat.add_assoc]

section

variable (h : Shared change size base cell held log)
include h

theorem size_eq_iff (hsize : ∀ i v, size (change i v) = size v + 1) (key : K) :
    size (cell key) = size (base key) + (savers key log).length ↔
      InTurn key log := by
  constructor
  · intro heq
    by_contra hturn
    exact absurd heq (Nat.ne_of_lt (h.behind key hturn))
  · intro hturn
    rw [h.serial key hturn, size_foldr hsize]

theorem size_le (hsize : ∀ i v, size (change i v) = size v + 1) (key : K) :
    size (cell key) ≤ size (base key) + (savers key log).length := by
  by_cases hturn : InTurn key log
  · exact Nat.le_of_eq ((h.size_eq_iff hsize key).mpr hturn)
  · exact Nat.le_of_lt (h.behind key hturn)

theorem load (i : I) (key : K) :
    Shared change size base cell
      (Function.update held i (some (key, cell key)))
      ((i, .load key) :: log) := by
  constructor
  case serial =>
    intro k
    rw [inTurn_load, savers_load]
    exact h.serial k
  case behind =>
    intro k
    rw [inTurn_load, savers_load]
    exact h.behind k
  case fresh =>
    intro j k v hheld hdate
    by_cases hj : j = i
    · rw [hj, Function.update_self] at hheld
      cases hheld
      rfl
    · rw [Function.update_of_ne hj] at hheld
      rw [upToDate_load fun hboth => hj hboth.1.symm] at hdate
      exact h.fresh j k v hheld hdate
  case stale =>
    intro j k v hheld hdate
    rw [savers_load]
    by_cases hj : j = i
    · rw [hj, Function.update_self] at hheld
      cases hheld
      rw [hj] at hdate
      exact absurd upToDate_load_self hdate
    · rw [Function.update_of_ne hj] at hheld
      rw [upToDate_load fun hboth => hj hboth.1.symm] at hdate
      exact h.stale j k v hheld hdate

theorem save (hsize : ∀ i v, size (change i v) = size v + 1)
    (hheld : held i = some (key, v)) :
    Shared change size base (Function.update cell key (change i v))
      (Function.update held i none) ((i, .save key) :: log) := by
  constructor
  case serial =>
    intro k hturn
    rw [inTurn_save] at hturn
    rw [savers_save]
    by_cases hk : key = k
    · subst hk
      have hv := h.fresh i key v hheld (hturn.1 rfl)
      rw [Function.update_self, if_pos rfl, List.foldr_cons, hv,
        h.serial key hturn.2]
    · rw [Function.update_of_ne (Ne.symm hk), if_neg hk]
      exact h.serial k hturn.2
  case behind =>
    intro k hturn
    rw [inTurn_save] at hturn
    rw [savers_save]
    by_cases hk : key = k
    · subst hk
      rw [Function.update_self, if_pos rfl, List.length_cons, hsize,
        ← Nat.add_assoc]
      apply Nat.succ_lt_succ
      by_cases hdate : UpToDate i key log
      · rw [h.fresh i key v hheld hdate]
        exact h.behind key fun hold => hturn ⟨fun _ => hdate, hold⟩
      · exact h.stale i key v hheld hdate
    · rw [Function.update_of_ne (Ne.symm hk), if_neg hk]
      exact h.behind k fun hold => hturn ⟨fun heq => absurd heq hk, hold⟩
  case fresh =>
    intro j k u hj hdate
    have hne : j ≠ i := by
      rintro rfl
      rw [Function.update_self] at hj
      cases hj
    rw [Function.update_of_ne hne] at hj
    rw [upToDate_save] at hdate
    have hk : k ≠ key := fun heq => hne (hdate.1 heq.symm).symm
    rw [Function.update_of_ne hk]
    exact h.fresh j k u hj hdate.2
  case stale =>
    intro j k u hj hdate
    have hne : j ≠ i := by
      rintro rfl
      rw [Function.update_self] at hj
      cases hj
    rw [Function.update_of_ne hne] at hj
    rw [upToDate_save] at hdate
    rw [savers_save]
    by_cases hk : key = k
    · subst hk
      rw [if_pos rfl, List.length_cons, ← Nat.add_assoc]
      apply Nat.lt_succ_of_le
      by_cases hold : UpToDate j key log
      · rw [h.fresh j key u hj hold]
        exact h.size_le hsize key
      · exact Nat.le_of_lt (h.stale j key u hj hold)
    · rw [if_neg hk]
      exact h.stale j k u hj fun hold =>
        hdate ⟨fun heq => absurd heq hk, hold⟩

end

end Shared

/-- The cells, and what clients hold, are the base changed by some of the savers
in their order, also where saves were lost. -/
structure Traced (change : I → V → V) (base cell : K → V)
    (held : I → Option (K × V)) (log : List (I × Access K)) : Prop where
  cells : ∀ key, ∃ clients : List I, clients.Sublist (savers key log) ∧
    cell key = clients.foldr change (base key)
  held : ∀ i key v, held i = some (key, v) →
    ∃ clients : List I, clients.Sublist (savers key log) ∧
      v = clients.foldr change (base key)

namespace Traced

variable {change : I → V → V} {base cell : K → V}
  {held : I → Option (K × V)} {log : List (I × Access K)}

omit [DecidableEq I] in
theorem initial (change : I → V → V) (base : K → V) :
    Traced change base base (fun _ => none) [] :=
  ⟨fun _ => ⟨[], List.Sublist.refl _, rfl⟩, nofun⟩

theorem load (h : Traced change base cell held log) (i : I) (key : K) :
    Traced change base cell (Function.update held i (some (key, cell key)))
      ((i, .load key) :: log) := by
  constructor
  case cells =>
    intro k
    rw [savers_load]
    exact h.cells k
  case held =>
    intro j k v hheld
    rw [savers_load]
    by_cases hj : j = i
    · rw [hj, Function.update_self] at hheld
      cases hheld
      exact h.cells key
    · rw [Function.update_of_ne hj] at hheld
      exact h.held j k v hheld

theorem save (h : Traced change base cell held log) {i : I} {key : K} {v : V}
    (hheld : held i = some (key, v)) :
    Traced change base (Function.update cell key (change i v))
      (Function.update held i none) ((i, .save key) :: log) := by
  have hgrow : ∀ k, (savers k log).Sublist
      (savers k ((i, .save key) :: log)) := by
    intro k
    rw [savers_save]
    split
    · exact List.sublist_cons_self _ _
    · exact List.Sublist.refl _
  constructor
  case cells =>
    intro k
    by_cases hk : k = key
    · obtain ⟨clients, hsub, rfl⟩ := h.held i key v hheld
      rw [hk, Function.update_self, savers_save, if_pos rfl]
      exact ⟨i :: clients, hsub.cons_cons i, rfl⟩
    · obtain ⟨clients, hsub, heq⟩ := h.cells k
      rw [Function.update_of_ne hk]
      exact ⟨clients, hsub.trans (hgrow k), heq⟩
  case held =>
    intro j k u hj
    have hne : j ≠ i := by
      rintro rfl
      rw [Function.update_self] at hj
      cases hj
    rw [Function.update_of_ne hne] at hj
    obtain ⟨clients, hsub, heq⟩ := h.held j k u hj
    exact ⟨clients, hsub.trans (hgrow k), heq⟩

end Traced

end Interaction
