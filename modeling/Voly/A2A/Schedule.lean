/-
The wave lists of a run are schedules: every wave holds new roles whose
dependencies were placed before.
-/
import Voly.A2A.Calls

namespace Voly.A2A

open Python Interaction

/-- A wave of roles not placed before, with all dependencies placed. -/
structure Layer (roles : List Assignment) (placed : List Int)
    (wave : List Assignment) : Prop where
  known : ∀ a ∈ wave, a ∈ roles
  fresh : ∀ a ∈ wave, a.idx ∉ placed
  deps : ∀ a ∈ wave, ∀ d ∈ a.dependsOn, d ∈ placed
  nodup : (wave.map Assignment.idx).Nodup

/-- Waves that can be placed one after the other. -/
inductive Layered (roles : List Assignment) :
    List Int → List (List Assignment) → Prop where
  | nil {placed : List Int} : Layered roles placed []
  | cons {placed : List Int} {wave : List Assignment}
      {rest : List (List Assignment)} (hwave : Layer roles placed wave)
      (hrest : Layered roles
        ((wave.map Assignment.idx).reverse ++ placed) rest) :
      Layered roles placed (wave :: rest)

/-- Waves that are ready one after the other. -/
inductive Scheduled (roles : List Assignment) :
    List Int → List (List Assignment) → Prop where
  | nil {placed : List Int} : Scheduled roles placed []
  | cons {placed : List Int} {wave : List Assignment}
      {rest : List (List Assignment)}
      (hwave : WaveReady roles placed [] wave)
      (hrest : Scheduled roles
        ((wave.map Assignment.idx).reverse ++ placed) rest) :
      Scheduled roles placed (wave :: rest)

def DependsEarlier (roles : List Assignment) : Prop :=
  ∀ before a after, roles = before ++ a :: after →
    ∀ d ∈ a.dependsOn, d ∈ before.map Assignment.idx

/-- What is asked of the roles of a run. -/
structure Orderly (roles : List Assignment) : Prop where
  unique : (roles.map Assignment.idx).Nodup
  earlier : DependsEarlier roles
  clear : ∀ a ∈ roles, a.Clear

def RunConfig.waves (config : RunConfig) (roles : List Assignment) :
    List (List Assignment) :=
  if config.useParallel then buildWaves roles else roles.map fun a => [a]

section Schedules

variable {roles remaining : List Assignment} {placed placed' : List Int}
  {a : Assignment}

theorem DependsEarlier.known (h : DependsEarlier roles) (ha : a ∈ roles)
    {d : Int} (hd : d ∈ a.dependsOn) : d ∈ roles.map Assignment.idx := by
  obtain ⟨before, after, hsplit⟩ := List.append_of_mem ha
  have hbefore := h before a after hsplit d hd
  rw [hsplit, List.map_append]
  exact List.mem_append_left _ hbefore

theorem Layered.scheduled {waves : List (List Assignment)}
    (h : Layered roles placed waves) (hclear : ∀ a ∈ roles, a.Clear) :
    Scheduled roles placed waves := by
  induction h with
  | nil => exact Scheduled.nil
  | cons hwave _ ih =>
      exact Scheduled.cons
        ⟨fun a ha => ⟨hwave.known a ha, hclear a (hwave.known a ha)⟩,
          hwave.fresh,
          fun a ha d hd => ⟨hwave.deps a ha d hd, fun hin => nomatch hin⟩,
          hwave.nodup⟩ ih

theorem layered_singletons (hunique : (roles.map Assignment.idx).Nodup)
    (hearlier : DependsEarlier roles) (before : List Assignment)
    {rest : List Assignment} (hsplit : roles = before ++ rest)
    (hplaced : ∀ i, i ∈ placed ↔ i ∈ before.map Assignment.idx) :
    Layered roles placed (rest.map fun a => [a]) := by
  induction rest generalizing before placed with
  | nil => exact Layered.nil
  | cons a rest ih =>
      have ha : a ∈ roles := by
        rw [hsplit]
        exact List.mem_append_right _ List.mem_cons_self
      have hnodup := hunique
      rw [hsplit, List.map_append, List.map_cons] at hnodup
      refine Layered.cons ⟨?_, ?_, ?_, List.nodup_singleton a.idx⟩
        (ih (before ++ [a]) (by rw [hsplit]; simp) ?_)
      · intro b hb
        obtain rfl := List.mem_singleton.mp hb
        exact ha
      · intro b hb hin
        obtain rfl := List.mem_singleton.mp hb
        exact (List.disjoint_of_nodup_append hnodup)
          ((hplaced b.idx).mp hin) List.mem_cons_self
      · intro b hb d hd
        obtain rfl := List.mem_singleton.mp hb
        exact (hplaced d).mpr (hearlier before b rest hsplit d hd)
      · intro i
        simp only [List.map_cons, List.map_nil, List.reverse_cons,
          List.reverse_nil, List.nil_append, List.cons_append,
          List.mem_cons, List.map_append, List.mem_append, hplaced i]
        tauto

/-- A role whose dependencies are placed, or unknown. -/
def placeable (idxs placed : List Int) (a : Assignment) : Bool :=
  a.dependsOn.all fun d => d ∈ placed ∨ d ∉ idxs

theorem first_placeable (hearlier : DependsEarlier roles)
    {rest : List Assignment}
    (hfirst : (roles.filter fun p => p.idx ∉ placed) = a :: rest) :
    placeable (roles.map Assignment.idx) placed a = true := by
  obtain ⟨before, after, hsplit, hbefore, _, _⟩ :=
    List.filter_eq_cons_iff.mp hfirst
  unfold placeable
  rw [List.all_eq_true]
  intro d hd
  obtain ⟨p, hp, rfl⟩ :=
    List.mem_map.mp (hearlier before a after hsplit d hd)
  have hin := hbefore p hp
  simp only [decide_eq_true_eq, Decidable.not_not] at hin
  exact decide_eq_true (Or.inl hin)

theorem wave_layer (hunique : (roles.map Assignment.idx).Nodup)
    (hearlier : DependsEarlier roles)
    (hplaced : ∀ i, i ∈ placed' ↔ i ∈ placed) :
    Layer roles placed'
      ((roles.filter fun p => p.idx ∉ placed).filter
        (placeable (roles.map Assignment.idx) placed)) := by
  have hmem : ∀ b ∈ (roles.filter fun p => p.idx ∉ placed).filter
      (placeable (roles.map Assignment.idx) placed),
      b ∈ roles ∧ b.idx ∉ placed ∧
        placeable (roles.map Assignment.idx) placed b = true := by
    intro b hb
    obtain ⟨hleft, hready⟩ := List.mem_filter.mp hb
    obtain ⟨hrole, hfresh⟩ := List.mem_filter.mp hleft
    exact ⟨hrole, of_decide_eq_true hfresh, hready⟩
  refine ⟨fun b hb => (hmem b hb).1, ?_, ?_, ?_⟩
  · intro b hb hin
    exact (hmem b hb).2.1 ((hplaced b.idx).mp hin)
  · intro b hb d hd
    obtain ⟨hrole, _, hready⟩ := hmem b hb
    have hplace := of_decide_eq_true (List.all_eq_true.mp hready d hd)
    refine (hplaced d).mpr (hplace.resolve_right fun hout => ?_)
    exact hout (hearlier.known hrole hd)
  · exact hunique.sublist
      ((List.filter_sublist.trans List.filter_sublist).map Assignment.idx)

theorem wavesFrom_ready (idxs : List Int) (fuel : Nat)
    (hready : remaining.filter (placeable idxs placed) ≠ []) :
    wavesFrom idxs (fuel + 1) placed remaining =
      remaining.filter (placeable idxs placed) ::
        wavesFrom idxs fuel
          (placed ++ (remaining.filter (placeable idxs placed)).map
            Assignment.idx)
          (remaining.filter fun p => p.idx ∉ placed ++
            (remaining.filter (placeable idxs placed)).map
              Assignment.idx) := by
  cases remaining with
  | nil => exact absurd rfl hready
  | cons first rest =>
      have hwave : ((first :: rest).filter fun a => a.dependsOn.all fun d =>
          d ∈ placed ∨ d ∉ idxs) =
            (first :: rest).filter (placeable idxs placed) := rfl
      rw [wavesFrom, hwave, if_neg hready]

theorem left_after (hleft : remaining = roles.filter fun p => p.idx ∉ placed)
    (wave : List Assignment) :
    (remaining.filter fun p => p.idx ∉ placed ++ wave.map Assignment.idx) =
      roles.filter fun p => p.idx ∉ placed ++ wave.map Assignment.idx := by
  rw [hleft, List.filter_filter]
  apply List.filter_congr
  intro p _
  by_cases hp : p.idx ∈ placed <;> simp [hp]

theorem some_placeable (hearlier : DependsEarlier roles)
    (hleft : remaining = roles.filter fun p => p.idx ∉ placed)
    (hne : remaining ≠ []) :
    remaining.filter (placeable (roles.map Assignment.idx) placed) ≠ [] := by
  intro hnone
  cases hcase : remaining with
  | nil => exact hne hcase
  | cons first rest =>
      have hfirst := first_placeable hearlier (hleft.symm.trans hcase)
      rw [hcase, List.filter_cons_of_pos hfirst] at hnone
      cases hnone

theorem layered_wavesFrom (hunique : (roles.map Assignment.idx).Nodup)
    (hearlier : DependsEarlier roles) (fuel : Nat)
    (hplaced : ∀ i, i ∈ placed' ↔ i ∈ placed)
    (hleft : remaining = roles.filter fun p => p.idx ∉ placed) :
    Layered roles placed'
      (wavesFrom (roles.map Assignment.idx) fuel placed remaining) := by
  induction fuel generalizing placed placed' remaining with
  | zero => exact Layered.nil
  | succ fuel ih =>
      by_cases hne : remaining = []
      · rw [hne]
        exact Layered.nil
      · rw [wavesFrom_ready _ _ (some_placeable hearlier hleft hne)]
        apply Layered.cons
        · rw [hleft]
          exact wave_layer hunique hearlier hplaced
        · apply ih
          · intro i
            rw [List.mem_append, List.mem_reverse, List.mem_append, hplaced i]
            exact Or.comm
          · exact left_after hleft _

theorem wavesFrom_covers (hearlier : DependsEarlier roles) (fuel : Nat)
    (hleft : remaining = roles.filter fun p => p.idx ∉ placed)
    (hfuel : remaining.length ≤ fuel) (ha : a ∈ remaining) :
    ∃ wave ∈ wavesFrom (roles.map Assignment.idx) fuel placed remaining,
      a.idx ∈ wave.map Assignment.idx := by
  induction fuel generalizing placed remaining with
  | zero =>
      rw [List.eq_nil_of_length_eq_zero (Nat.le_zero.mp hfuel)] at ha
      cases ha
  | succ fuel ih =>
      have hready := some_placeable hearlier hleft (List.ne_nil_of_mem ha)
      rw [wavesFrom_ready _ _ hready]
      obtain ⟨first, hfirst⟩ := List.exists_mem_of_ne_nil _ hready
      generalize hwave : remaining.filter
        (placeable (roles.map Assignment.idx) placed) = wave at hfirst ⊢
      by_cases hin : a.idx ∈ wave.map Assignment.idx
      · exact ⟨wave, List.mem_cons_self, hin⟩
      · have hnext : a.idx ∉ placed ++ wave.map Assignment.idx := by
          rw [hleft] at ha
          have hout := of_decide_eq_true (List.mem_filter.mp ha).2
          rw [List.mem_append]
          exact not_or.mpr ⟨hout, hin⟩
        have hfewer : (remaining.filter fun p =>
            p.idx ∉ placed ++ wave.map Assignment.idx).length <
              remaining.length := by
          apply List.length_filter_lt_length_iff_exists.mpr
          rw [← hwave] at hfirst
          refine ⟨first, (List.mem_filter.mp hfirst).1, ?_⟩
          rw [hwave] at hfirst
          simp only [decide_eq_true_eq, Decidable.not_not]
          exact List.mem_append_right _ (List.mem_map_of_mem hfirst)
        obtain ⟨later, hlater, hmem⟩ := ih (left_after hleft wave)
          (by omega) (List.mem_filter.mpr ⟨ha, decide_eq_true hnext⟩)
        exact ⟨later, List.mem_cons_of_mem _ hlater, hmem⟩

theorem layered_waves (config : RunConfig)
    (hunique : (roles.map Assignment.idx).Nodup)
    (hearlier : DependsEarlier roles) :
    Layered roles [] (config.waves roles) := by
  unfold RunConfig.waves
  split
  · apply layered_wavesFrom hunique hearlier _ fun _ => Iff.rfl
    exact (List.filter_eq_self.mpr fun a _ =>
      decide_eq_true (fun hin => nomatch hin)).symm
  · exact layered_singletons hunique hearlier [] rfl fun _ => Iff.rfl

theorem waves_cover (config : RunConfig) (hearlier : DependsEarlier roles)
    (ha : a ∈ roles) :
    ∃ wave ∈ config.waves roles, a.idx ∈ wave.map Assignment.idx := by
  unfold RunConfig.waves
  split
  · apply wavesFrom_covers hearlier _ _ (le_refl _) ha
    exact (List.filter_eq_self.mpr fun a _ =>
      decide_eq_true (fun hin => nomatch hin)).symm
  · exact ⟨[a], List.mem_map_of_mem ha, List.mem_singleton.mpr rfl⟩

end Schedules

end Voly.A2A
