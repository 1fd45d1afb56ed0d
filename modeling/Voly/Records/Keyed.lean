/-
Lists of records told apart by a key, and journals whose entries overwrite what
their key had.
-/
import Mathlib.Algebra.BigOperators.Group.List.Basic
import Mathlib.Data.List.Nodup
import Mathlib.Tactic.Abel

namespace Keyed

universe u v

variable {A : Type u} {K : Type v} [DecidableEq K] (key : A → K)

/-- The first record of a key. -/
def lookup (k : K) (records : List A) : Option A :=
  records.find? fun record => key record = k

/-- The record takes the place of the first one with its key, or comes
last. -/
def put (record : A) : List A → List A
  | [] => [record]
  | held :: rest =>
      if key held = key record then record :: rest else held :: put record rest

/-- The records of a key are changed in place. -/
def change (k : K) (f : A → A) (records : List A) : List A :=
  records.map fun record => if key record = k then f record else record

/-- The records without those of a key. -/
def drop (k : K) (records : List A) : List A :=
  records.filter fun record => key record ≠ k

variable {key} {k : K} {record held : A} {records : List A}

theorem mem_of_lookup (h : lookup key k records = some record) :
    record ∈ records :=
  List.mem_of_find?_eq_some h

theorem key_of_lookup (h : lookup key k records = some record) :
    key record = k := by
  have hfound := List.find?_some h
  simpa using hfound

theorem lookup_eq_none_iff :
    lookup key k records = none ↔ k ∉ records.map key := by
  simp [lookup]

theorem lookup_key (h : (records.map key).Nodup) (hrecord : record ∈ records) :
    lookup key (key record) records = some record := by
  cases hfound : lookup key (key record) records with
  | none =>
      exact absurd (List.mem_map_of_mem hrecord) (lookup_eq_none_iff.mp hfound)
  | some held =>
      rw [List.inj_on_of_nodup_map h (mem_of_lookup hfound) hrecord
        (key_of_lookup hfound)]

theorem keys_put : (put key record records).map key =
    if key record ∈ records.map key then records.map key
    else records.map key ++ [key record] := by
  induction records with
  | nil => simp [put]
  | cons held rest ih =>
      by_cases hheld : key held = key record
      · simp [put, hheld]
      · have hother : key record ≠ key held := Ne.symm hheld
        simp only [put, hheld, if_false, List.map_cons, ih, List.mem_cons,
          hother, false_or]
        split <;> rfl

theorem nodup_put (h : (records.map key).Nodup) :
    ((put key record records).map key).Nodup := by
  rw [keys_put]
  split
  · exact h
  · next hnew => simpa [List.nodup_append, h] using hnew

variable (key) in
theorem put_cases (record : A) (records : List A) :
    (key record ∉ records.map key ∧ put key record records =
      records ++ [record]) ∨
    ∃ front old rest, records = front ++ old :: rest ∧ key old = key record ∧
      put key record records = front ++ record :: rest := by
  induction records with
  | nil => simp [put]
  | cons held rest ih =>
      by_cases hheld : key held = key record
      · refine Or.inr ⟨[], held, rest, rfl, hheld, ?_⟩
        simp [put, hheld]
      · rcases ih with ⟨hnew, hput⟩ | ⟨front, old, others, hrest, hold, hput⟩
        · refine Or.inl ⟨?_, ?_⟩
          · simpa [Ne.symm hheld] using hnew
          · simp [put, hheld, hput]
        · refine Or.inr ⟨held :: front, old, others, ?_, hold, ?_⟩
          · simp [hrest]
          · simp [put, hheld, hput]

theorem put_new (h : key record ∉ records.map key) :
    put key record records = records ++ [record] := by
  rcases put_cases key record records with
    ⟨_, hput⟩ | ⟨front, old, rest, hsplit, hold, _⟩
  · exact hput
  · rw [hsplit] at h
    exact absurd (by simp [hold]) h

/-- With distinct keys, a put replaces one record and keeps the others. -/
theorem mem_put (h : (records.map key).Nodup) :
    held ∈ put key record records ↔
      held = record ∨ held ∈ records ∧ key held ≠ key record := by
  induction records with
  | nil => simp [put]
  | cons first rest ih =>
      rw [List.map_cons, List.nodup_cons] at h
      by_cases hfirst : key first = key record
      · have hrest : ∀ other ∈ rest, key other ≠ key record := by
          intro other hother hsame
          apply h.1
          rw [hfirst, ← hsame]
          exact List.mem_map_of_mem hother
        constructor
        · intro hheld
          simp only [put, hfirst, if_true, List.mem_cons] at hheld
          rcases hheld with hheld | hheld
          · exact Or.inl hheld
          · exact Or.inr ⟨List.mem_cons_of_mem _ hheld, hrest held hheld⟩
        · intro hheld
          simp only [put, hfirst, if_true, List.mem_cons]
          rcases hheld with hheld | ⟨hheld, hother⟩
          · exact Or.inl hheld
          · rcases List.mem_cons.mp hheld with hheld | hheld
            · subst hheld
              exact absurd hfirst hother
            · exact Or.inr hheld
      · simp only [put, hfirst, if_false, List.mem_cons, ih h.2]
        constructor
        · rintro (hheld | hheld | ⟨hheld, hother⟩)
          · subst hheld
            exact Or.inr ⟨Or.inl rfl, hfirst⟩
          · exact Or.inl hheld
          · exact Or.inr ⟨Or.inr hheld, hother⟩
        · rintro (hheld | ⟨hheld | hheld, hother⟩)
          · exact Or.inr (Or.inl hheld)
          · exact Or.inl hheld
          · exact Or.inr (Or.inr ⟨hheld, hother⟩)

theorem lookup_put : lookup key k (put key record records) =
    if key record = k then some record else lookup key k records := by
  induction records with
  | nil =>
      by_cases hk : key record = k <;> simp [lookup, put, hk]
  | cons held rest ih =>
      by_cases hheld : key held = key record
      · by_cases hk : key record = k
        · simp [lookup, put, hheld, hk]
        · simp [lookup, put, hheld, hk]
      · by_cases hk : key held = k
        · have hother : key record ≠ k := fun h => hheld (hk.trans h.symm)
          rw [put, if_neg hheld, if_neg hother]
          simp [lookup, hk]
        · have hrest := ih
          simp only [lookup] at hrest
          simp [lookup, put, hheld, hk, hrest]

theorem keys_change {f : A → A} (hf : ∀ record, key (f record) = key record) :
    (change key k f records).map key = records.map key := by
  rw [change, List.map_map]
  refine List.map_congr_left fun record _ => ?_
  rw [Function.comp_apply]
  split
  · exact hf record
  · rfl

theorem lookup_change {f : A → A} (hf : ∀ record, key (f record) = key record)
    {other : K} : lookup key other (change key k f records) =
      if other = k then (lookup key k records).map f
      else lookup key other records := by
  induction records with
  | nil => simp [lookup, change]
  | cons held rest ih =>
      simp only [lookup, change] at ih
      by_cases hheld : key held = k
      · by_cases hother : other = k
        · simp [lookup, change, hheld, hother, hf]
        · have hne : k ≠ other := Ne.symm hother
          simpa [lookup, change, hheld, hother, hne, hf] using ih
      · by_cases hother : key held = other
        · have hne : other ≠ k := fun h => hheld (hother.trans h)
          simp [lookup, change, hother, hne]
        · simpa [lookup, change, hheld, hother] using ih

theorem lookup_drop {other : K} : lookup key other (drop key k records) =
    if other = k then none else lookup key other records := by
  induction records with
  | nil => simp [lookup, drop]
  | cons held rest ih =>
      simp only [lookup, drop] at ih
      by_cases hheld : key held = k
      · by_cases hother : other = k
        · simp [lookup, drop, hother]
        · have hne : k ≠ other := Ne.symm hother
          simpa [lookup, drop, hheld, hother, hne] using ih
      · by_cases hother : key held = other
        · have hne : other ≠ k := fun h => hheld (hother.trans h)
          simp [lookup, drop, hother, hne]
        · simpa [lookup, drop, hheld, hother] using ih

variable (key) in
/-- The saved records are the held ones, but for the record's own key. -/
structure Replaces (records : List A) (record : A) (saved : List A) :
    Prop where
  nodup : (saved.map key).Nodup
  from_held : ∀ held ∈ saved,
    held = record ∨ held ∈ records ∧ key held ≠ key record

theorem put_replaces (h : (records.map key).Nodup) :
    Replaces key records record (put key record records) :=
  ⟨nodup_put h, fun _ hheld => (mem_put h).mp hheld⟩

theorem replaces_self (h : (records.map key).Nodup)
    (hrecord : record ∈ records) : Replaces key records record records := by
  refine ⟨h, fun held hheld => ?_⟩
  by_cases hsame : key held = key record
  · exact Or.inl (List.inj_on_of_nodup_map h hheld hrecord hsame)
  · exact Or.inr ⟨hheld, hsame⟩

theorem mem_drop : held ∈ drop key k records ↔
    held ∈ records ∧ key held ≠ k := by
  simp [drop]

theorem nodup_drop (h : (records.map key).Nodup) :
    ((drop key k records).map key).Nodup :=
  h.sublist (List.filter_sublist.map key)

theorem filter_key (h : (records.map key).Nodup) :
    (records.filter fun record => key record = k) =
      (lookup key k records).toList := by
  induction records with
  | nil => rfl
  | cons first rest ih =>
      rw [List.map_cons, List.nodup_cons] at h
      by_cases hfirst : key first = k
      · have hrest : (rest.filter fun record => key record = k) = [] := by
          rw [List.filter_eq_nil_iff]
          intro other hother hsame
          apply h.1
          rw [hfirst, ← of_decide_eq_true hsame]
          exact List.mem_map_of_mem hother
        simp [lookup, hfirst, hrest]
      · have hrest := ih h.2
        simp only [lookup] at hrest
        simp [lookup, hfirst, hrest]

theorem drop_split {front rest : List A}
    (h : ((front ++ held :: rest).map key).Nodup) :
    drop key (key held) (front ++ held :: rest) = front ++ rest := by
  simp only [List.map_append, List.map_cons, List.nodup_append,
    List.nodup_cons] at h
  obtain ⟨_, ⟨hrest, _⟩, hfront⟩ := h
  have hkeepFront : drop key (key held) front = front := by
    refine List.filter_eq_self.mpr fun other hother => ?_
    have hne := hfront _ (List.mem_map_of_mem hother) _ List.mem_cons_self
    simpa using hne
  have hkeepRest : drop key (key held) rest = rest := by
    refine List.filter_eq_self.mpr fun other hother => ?_
    have hne : key other ≠ key held := fun hsame =>
      hrest (hsame ▸ List.mem_map_of_mem hother)
    simpa using hne
  simp only [drop] at hkeepFront hkeepRest ⊢
  rw [List.filter_append, hkeepFront, List.filter_cons_of_neg (by simp),
    hkeepRest]

variable (key) in
/-- The records after all of `puts` are put. -/
def putAll (puts records : List A) : List A :=
  puts.foldl (fun records record => put key record records) records

theorem put_perm (h : (records.map key).Nodup) :
    (put key record records).Perm
      (drop key (key record) records ++ [record]) := by
  rcases put_cases key record records with
    ⟨hnew, hput⟩ | ⟨front, old, rest, hsplit, hold, hput⟩
  · have hkept : drop key (key record) records = records := by
      refine List.filter_eq_self.mpr fun held hheld => ?_
      have hne : key held ≠ key record := fun hsame =>
        hnew (hsame ▸ List.mem_map_of_mem hheld)
      simpa using hne
    rw [hput, hkept]
  · subst hsplit
    rw [hput, ← hold, drop_split h]
    have hmoved : ([record] ++ rest).Perm (rest ++ [record]) :=
      List.perm_append_comm
    simpa using hmoved.append_left front

theorem nodup_putAll {puts : List A} (h : (records.map key).Nodup) :
    ((putAll key puts records).map key).Nodup := by
  induction puts generalizing records with
  | nil => exact h
  | cons record rest ih => exact ih (nodup_put h)

theorem putAll_perm {puts : List A} (hputs : (puts.map key).Nodup)
    (h : (records.map key).Nodup) : (putAll key puts records).Perm
      ((records.filter fun held => key held ∉ puts.map key) ++ puts) := by
  induction puts generalizing records with
  | nil => simp [putAll]
  | cons record rest ih =>
      rw [List.map_cons, List.nodup_cons] at hputs
      have hrest := @ih (put key record records) hputs.2 (nodup_put h)
      have hself : ([record].filter fun held => key held ∉ rest.map key) =
          [record] := by
        simpa using hputs.1
      have hput : (put key record records).Perm _ := put_perm h
      have hfirst := hput.filter fun held => key held ∉ rest.map key
      rw [List.filter_append, hself, drop, List.filter_filter] at hfirst
      have hboth := hrest.trans (hfirst.append_right rest)
      rw [List.append_assoc, List.singleton_append] at hboth
      have hkept : (records.filter fun held =>
          key held ∉ (record :: rest).map key) = records.filter fun held =>
            decide (key held ∉ rest.map key) &&
              decide (key held ≠ key record) := by
        refine List.filter_congr fun held _ => ?_
        rw [← Bool.decide_and, decide_eq_decide, List.map_cons, List.mem_cons,
          not_or, and_comm]
      rw [hkept]
      exact hboth

end Keyed

namespace Journal

variable {K V : Type}

/-- The sum of all entries. -/
def total [AddCommGroup V] (entries : List (K × Option V)) : V :=
  (entries.map fun entry => entry.2.getD 0).sum

theorem total_cons [AddCommGroup V] (entry : K × Option V)
    (rest : List (K × Option V)) :
    total (entry :: rest) = entry.2.getD 0 + total rest := by
  rw [total, List.map_cons, List.sum_cons, total]

variable [DecidableEq K]

/-- The value of the last entry of a key that has one. -/
def last (k : K) : List (K × Option V) → Option V
  | [] => none
  | entry :: rest => (last k rest).or (if entry.1 = k then entry.2 else none)

section Last

variable {k : K} {front rest : List (K × Option V)}

@[simp] theorem last_nil : last k ([] : List (K × Option V)) = none := rfl

theorem last_append : last k (front ++ rest) =
    (last k rest).or (last k front) := by
  induction front with
  | nil => simp
  | cons entry front ih =>
      rw [List.cons_append, last, ih, last, Option.or_assoc]

theorem last_singleton (entry : K × Option V) :
    last k [entry] = if entry.1 = k then entry.2 else none := by
  rw [last, last_nil, Option.none_or]

theorem getD_last_append (initial : V) :
    (last k (front ++ rest)).getD initial =
      (last k rest).getD ((last k front).getD initial) := by
  rw [last_append]
  cases last k rest <;> rfl

end Last

section Sums

variable [AddCommGroup V]

/-- The sum of the entries that a later one of the same key overwrites. -/
def lost : List (K × Option V) → V
  | [] => 0
  | entry :: rest =>
      (if (last entry.1 rest).isSome then entry.2.getD 0 else 0) + lost rest

theorem sum_map_at {keys : List K} {k : K} {f g : K → V}
    (hnodup : keys.Nodup) (hmem : k ∈ keys)
    (hothers : ∀ other, other ≠ k → f other = g other) :
    (keys.map f).sum = (keys.map g).sum + (f k - g k) := by
  induction keys with
  | nil => cases hmem
  | cons head keys ih =>
      obtain ⟨hhead, hrest⟩ := List.nodup_cons.mp hnodup
      rw [List.map_cons, List.sum_cons, List.map_cons, List.sum_cons]
      by_cases heq : head = k
      · subst heq
        have hsame : keys.map f = keys.map g := by
          apply List.map_congr_left
          intro other hother
          apply hothers
          rintro rfl
          exact hhead hother
        rw [hsame]
        abel
      · rw [hothers head heq, ih hrest
          ((List.mem_cons.mp hmem).resolve_left fun h => heq h.symm)]
        abel

/-- What the keys have in the end is the sum without the overwritten entries. -/
theorem sum_last {keys : List K} (hnodup : keys.Nodup)
    {entries : List (K × Option V)}
    (hknown : ∀ entry ∈ entries, entry.1 ∈ keys) :
    (keys.map fun k => (last k entries).getD 0).sum =
      total entries - lost entries := by
  induction entries with
  | nil => simp [total, lost]
  | cons entry rest ih =>
      have hmem := hknown entry List.mem_cons_self
      have hothers : ∀ other, other ≠ entry.1 →
          (last other (entry :: rest)).getD 0 = (last other rest).getD 0 := by
        intro other hother
        rw [last, if_neg hother.symm, Option.or_none]
      rw [sum_map_at hnodup hmem hothers,
        ih fun other hother => hknown other (List.mem_cons_of_mem entry hother),
        last, if_pos rfl, lost, total_cons]
      cases last entry.1 rest with
      | none =>
          change _ + (entry.2.getD 0 - 0) = _ - (0 + lost rest)
          abel
      | some value =>
          change _ + (value - value) = _ - (entry.2.getD 0 + lost rest)
          abel

end Sums

end Journal
