/-
What a plan run shows of its retries: the calls of a step, the saved statuses,
and the waves.
-/
import Voly.Interaction.Noted
import Voly.Plan.Runner

namespace Voly

open Python Interaction StepStatus

/-- The start of a call, a save, and a load that shows an abort. -/
inductive RunEvent where
  | called (stepId : String)
  | saved (plan : Plan)
  | abortSeen

def seeRun : (op : PlanOp) → PlanReply op → List RunEvent
  | .callStart step _ _, _ => [.called step.id]
  | .save plan, _ => [.saved plan]
  | .load _, .ok (some plan) =>
      if plan.status = .aborted then [.abortSeen] else []
  | _, _ => []

/-- How often a step was called. -/
def callsOf (stepId : String) : List RunEvent → Nat
  | [] => 0
  | .called other :: rest =>
      (if other = stepId then 1 else 0) + callsOf stepId rest
  | .saved _ :: rest => callsOf stepId rest
  | .abortSeen :: rest => callsOf stepId rest

/-- How often a step was called before each save, and its status there. -/
def shown (stepId : String) : Nat → List RunEvent → List (Nat × StepStatus)
  | _, [] => []
  | n, .called other :: rest =>
      shown stepId (n + if other = stepId then 1 else 0) rest
  | n, .saved plan :: rest =>
      (plan.statusOf stepId).toList.map (fun status => (n, status)) ++
        shown stepId n rest
  | n, .abortSeen :: rest => shown stepId n rest

/-- The steps that are called between two saves. -/
def waves : List RunEvent → List (List String)
  | [] => [[]]
  | .called stepId :: rest =>
      match waves rest with
      | [] => [[stepId]]
      | wave :: later => (stepId :: wave) :: later
  | .saved _ :: rest => [] :: waves rest
  | .abortSeen :: rest => waves rest

/-- One step comes before another in the order and in its wave. -/
def Ahead (order : List String) (events : List RunEvent)
    (other stepId : String) : Prop :=
  [other, stepId].Sublist order ∧
    ∃ wave ∈ waves events, other ∈ wave ∧ stepId ∈ wave

instance (order : List String) (events : List RunEvent)
    (other stepId : String) : Decidable (Ahead order events other stepId) :=
  inferInstanceAs (Decidable (_ ∧ _))

section Events

variable {stepId : String} {events front rest : List RunEvent}

@[simp] theorem callsOf_append : callsOf stepId (front ++ rest) =
    callsOf stepId front + callsOf stepId rest := by
  induction front with
  | nil => simp [callsOf]
  | cons event front ih =>
      cases event <;> simp [callsOf, ih, Nat.add_assoc]

@[simp] theorem callsOf_map (stepIds : List String) :
    callsOf stepId (stepIds.map RunEvent.called) = stepIds.count stepId := by
  induction stepIds with
  | nil => rfl
  | cons other stepIds ih =>
      rw [List.map_cons, callsOf, ih, List.count_cons, Nat.add_comm]
      simp

theorem shown_append (n : Nat) : shown stepId n (front ++ rest) =
    shown stepId n front ++ shown stepId (n + callsOf stepId front) rest := by
  induction front generalizing n with
  | nil => simp [shown, callsOf]
  | cons event front ih =>
      cases event <;> simp [shown, callsOf, ih, Nat.add_assoc]

theorem shown_add (n m : Nat) : shown stepId (n + m) events =
    (shown stepId m events).map fun entry => (n + entry.1, entry.2) := by
  induction events generalizing m with
  | nil => rfl
  | cons event events ih =>
      cases event with
      | called other =>
          rw [shown, Nat.add_assoc, ih, shown]
      | saved plan =>
          rw [shown, ih, shown, List.map_append, List.map_map]
          rfl
      | abortSeen => rw [shown, ih, shown]

theorem shown_shift (n : Nat) {calls : Nat} {status : StepStatus}
    (h : (calls, status) ∈ shown stepId 0 events) :
    (n + calls, status) ∈ shown stepId n events := by
  have hadd := @shown_add stepId events n 0
  rw [Nat.add_zero] at hadd
  rw [hadd]
  exact List.mem_map_of_mem h

@[simp] theorem waves_map (stepIds : List String) :
    waves (stepIds.map RunEvent.called) = [stepIds] := by
  induction stepIds with
  | nil => rfl
  | cons stepId stepIds ih => rw [List.map_cons, waves, ih]

theorem waves_ne_nil (events : List RunEvent) : waves events ≠ [] := by
  induction events with
  | nil => exact List.cons_ne_nil _ _
  | cons event events ih =>
      cases event with
      | called stepId =>
          rw [waves]
          split <;> exact List.cons_ne_nil _ _
      | saved plan => exact List.cons_ne_nil _ _
      | abortSeen => exact ih

theorem waves_append_saved (plan : Plan) :
    waves (front ++ .saved plan :: rest) = waves front ++ waves rest := by
  induction front with
  | nil => rfl
  | cons event front ih =>
      cases event with
      | called stepId =>
          rw [List.cons_append, waves, ih, waves]
          cases hwaves : waves front with
          | nil => exact absurd hwaves (waves_ne_nil front)
          | cons wave later => rfl
      | saved plan' => rw [List.cons_append, waves, ih, waves, List.cons_append]
      | abortSeen => rw [List.cons_append, waves, ih, waves]

theorem called_of_wave {wave : List String} (hwave : wave ∈ waves events)
    (h : stepId ∈ wave) : 0 < callsOf stepId events := by
  induction events generalizing wave with
  | nil =>
      rw [List.mem_singleton.mp hwave] at h
      exact absurd h List.not_mem_nil
  | cons event events ih =>
      cases event with
      | called other =>
          rw [callsOf]
          by_cases hother : other = stepId
          · simp [hother]
          · cases hwaves : waves events with
            | nil => exact absurd hwaves (waves_ne_nil events)
            | cons first later =>
                rw [waves, hwaves] at hwave
                rw [hwaves] at ih
                rcases List.mem_cons.mp hwave with rfl | hlater
                · rcases List.mem_cons.mp h with rfl | h
                  · exact absurd rfl hother
                  · exact Nat.add_pos_right _ (ih List.mem_cons_self h)
                · exact Nat.add_pos_right _
                    (ih (List.mem_cons_of_mem _ hlater) h)
      | saved plan =>
          rcases List.mem_cons.mp hwave with rfl | hwave
          · exact absurd h List.not_mem_nil
          · exact ih hwave h
      | abortSeen => exact ih hwave h

end Events

/-- A step is called once if it passed, has no retry, or waits behind a failed
one; twice if it failed first. -/
structure Paced (maxRetries : Nat) (order : List String)
    (events : List RunEvent) : Prop where
  most : ∀ stepId, callsOf stepId events ≤ 2
  once : ∀ stepId, callsOf stepId events = 1 → maxRetries = 0 ∨
    (∃ status, status ≠ failed ∧ (1, status) ∈ shown stepId 0 events) ∨
    ∃ other, Ahead order events other stepId ∧ callsOf other events = 2 ∧
      ∃ status, status ≠ verified ∧ (2, status) ∈ shown other 0 events
  twice : ∀ stepId, callsOf stepId events = 2 → 1 ≤ maxRetries ∧
    (1, failed) ∈ shown stepId 0 events ∧
    ∀ other, Ahead order events other stepId → ∃ status, status ≠ failed ∧
      (callsOf other events, status) ∈ shown other 0 events

section Budget

variable {maxRetries : Nat} {order : List String}
  {events rest : List RunEvent}

theorem Ahead.called {other stepId : String}
    (h : Ahead order events other stepId) :
    0 < callsOf other events ∧ 0 < callsOf stepId events := by
  obtain ⟨_, wave, hwave, hother, hstep⟩ := h
  exact ⟨called_of_wave hwave hother, called_of_wave hwave hstep⟩

theorem Paced.quiet (h : ∀ stepId, callsOf stepId events = 0) :
    Paced maxRetries order events where
  most := fun stepId => by rw [h]; decide
  once := fun stepId hcalls => absurd (h stepId) (by rw [hcalls]; decide)
  twice := fun stepId hcalls => absurd (h stepId) (by rw [hcalls]; decide)

theorem Ahead.mono {other stepId : String} {events' : List RunEvent}
    (h : Ahead order events other stepId)
    (hwaves : ∀ wave ∈ waves events, stepId ∈ wave → wave ∈ waves events') :
    Ahead order events' other stepId := by
  obtain ⟨horder, wave, hwave, hother, hstep⟩ := h
  exact ⟨horder, wave, hwaves wave hwave hstep, hother, hstep⟩

/-- A run is paced if each step is, with those ahead of it, in some paced run.
-/
theorem Paced.of_parts {events : List RunEvent} (h : ∀ stepId, ∃ part,
    Paced maxRetries order part ∧
      (∀ other, other = stepId ∨ Ahead order part other stepId →
        callsOf other events = callsOf other part ∧
          ∀ entry ∈ shown other 0 part, entry ∈ shown other 0 events) ∧
      ∀ other, Ahead order part other stepId ↔
        Ahead order events other stepId) :
    Paced maxRetries order events := by
  refine ⟨fun stepId => ?_, fun stepId hone => ?_, fun stepId htwo => ?_⟩ <;>
    obtain ⟨part, hpart, hsame, hahead⟩ := h stepId <;>
    obtain ⟨hcalls, hshown⟩ := hsame stepId (Or.inl rfl)
  · rw [hcalls]
    exact hpart.most stepId
  · rw [hcalls] at hone
    rcases hpart.once stepId hone with hbudget | ⟨status, hne, hseen⟩ |
      ⟨other, hother, htwice, status, hne, hseen⟩
    · exact Or.inl hbudget
    · exact Or.inr (Or.inl ⟨status, hne, hshown _ hseen⟩)
    · obtain ⟨hcalls', hshown'⟩ := hsame other (Or.inr hother)
      exact Or.inr (Or.inr ⟨other, (hahead other).mp hother,
        hcalls'.trans htwice, status, hne, hshown' _ hseen⟩)
  · rw [hcalls] at htwo
    obtain ⟨hbudget, hseen, hothers⟩ := hpart.twice stepId htwo
    refine ⟨hbudget, hshown _ hseen, fun other hother => ?_⟩
    have hbefore := (hahead other).mpr hother
    obtain ⟨hcalls', hshown'⟩ := hsame other (Or.inr hbefore)
    obtain ⟨status, hne, hlast⟩ := hothers other hbefore
    exact ⟨status, hne, by rw [hcalls']; exact hshown' _ hlast⟩

section Append

variable {plan : Plan} (events rest plan) {stepId : String}

theorem callsOf_append_saved :
    callsOf stepId (events ++ .saved plan :: rest) =
      callsOf stepId (events ++ [.saved plan]) + callsOf stepId rest := by
  simp [callsOf]

theorem shown_first {entry : Nat × StepStatus}
    (h : entry ∈ shown stepId 0 (events ++ [.saved plan])) :
    entry ∈ shown stepId 0 (events ++ .saved plan :: rest) := by
  rw [List.append_cons, shown_append]
  exact List.mem_append_left _ h

theorem shown_later {entry : Nat × StepStatus}
    (hnew : callsOf stepId (events ++ [.saved plan]) = 0)
    (h : entry ∈ shown stepId 0 rest) :
    entry ∈ shown stepId 0 (events ++ .saved plan :: rest) := by
  rw [List.append_cons, shown_append, hnew]
  exact List.mem_append_right _ h

theorem mem_waves_append {wave : List String} (h : stepId ∈ wave) :
    wave ∈ waves (events ++ .saved plan :: rest) ↔
      wave ∈ waves (events ++ [.saved plan]) ∨ wave ∈ waves rest := by
  have hlast : waves (events ++ [.saved plan]) = waves events ++ [[]] :=
    waves_append_saved plan
  have hne : wave ≠ [] := List.ne_nil_of_mem h
  rw [waves_append_saved, hlast]
  simp [hne]

end Append

theorem Paced.snoc (h : Paced maxRetries order events) (plan : Plan) :
    Paced maxRetries order (events ++ [.saved plan]) := by
  have hwaves : waves (events ++ [.saved plan]) = waves events ++ [[]] :=
    waves_append_saved plan
  refine Paced.of_parts fun stepId =>
    ⟨events, h, fun other _ => ?_, fun other => ?_⟩
  · refine ⟨by simp [callsOf], fun entry hentry => ?_⟩
    rw [shown_append]
    exact List.mem_append_left _ hentry
  · constructor
    · refine fun hahead => hahead.mono fun wave hwave _ => ?_
      rw [hwaves]
      exact List.mem_append_left _ hwave
    · refine fun hahead => hahead.mono fun wave hwave hmem => ?_
      rw [hwaves] at hwave
      rcases List.mem_append.mp hwave with hwave | hwave
      · exact hwave
      · rw [List.mem_singleton.mp hwave] at hmem
        exact absurd hmem List.not_mem_nil

theorem Paced.append {plan : Plan}
    (h : Paced maxRetries order (events ++ [.saved plan]))
    (hrest : Paced maxRetries order rest)
    (hnew : ∀ stepId, 0 < callsOf stepId (events ++ [.saved plan]) →
      callsOf stepId rest = 0) :
    Paced maxRetries order (events ++ .saved plan :: rest) := by
  have hcalls := @callsOf_append_saved events rest plan
  refine Paced.of_parts fun stepId => ?_
  rcases Nat.eq_zero_or_pos (callsOf stepId rest) with hnone | hcalled
  · -- the step and those of its waves are called in the first part
    refine ⟨_, h, fun other hother => ?_, fun other => ?_⟩
    · refine ⟨?_, fun entry hentry => shown_first events rest plan hentry⟩
      rw [hcalls]
      rcases hother with rfl | hother
      · rw [hnone, Nat.add_zero]
      · rw [hnew other hother.called.1, Nat.add_zero]
    · constructor
      · exact fun hahead => hahead.mono fun wave hwave hmem =>
          (mem_waves_append events rest plan hmem).mpr (Or.inl hwave)
      · refine fun hahead => hahead.mono fun wave hwave hmem => ?_
        refine ((mem_waves_append events rest plan hmem).mp hwave).resolve_right
          fun hlater => ?_
        exact absurd (called_of_wave hlater hmem) (by rw [hnone]; decide)
  · -- they are called in the second part
    have hzero : ∀ {other}, 0 < callsOf other rest →
        callsOf other (events ++ [.saved plan]) = 0 := by
      intro other hcalled
      by_contra hne
      have hnone := hnew other (Nat.pos_of_ne_zero hne)
      exact absurd hcalled (by rw [hnone]; decide)
    refine ⟨_, hrest, fun other hother => ?_, fun other => ?_⟩
    · have hfresh : callsOf other (events ++ [.saved plan]) = 0 := by
        rcases hother with rfl | hother
        · exact hzero hcalled
        · exact hzero hother.called.1
      refine ⟨?_, fun entry hentry =>
        shown_later events rest plan hfresh hentry⟩
      rw [hcalls, hfresh, Nat.zero_add]
    · constructor
      · exact fun hahead => hahead.mono fun wave hwave hmem =>
          (mem_waves_append events rest plan hmem).mpr (Or.inr hwave)
      · refine fun hahead => hahead.mono fun wave hwave hmem => ?_
        refine ((mem_waves_append events rest plan hmem).mp hwave).resolve_left
          fun hearly => ?_
        exact absurd (called_of_wave hearly hmem)
          (by rw [hzero hcalled]; decide)

end Budget

/-- How a wave's outcomes are handled, in order; an uncalled step is refused. -/
inductive Handling (maxRetries : Nat) (started : List String)
    (landed : Plan) : List String → Bool → List RunEvent → Prop
  | done : Handling maxRetries started landed [] true []
  | passed {stepId stepIds goOn events}
      (hpassed : landed.statusOf stepId ≠ some failed)
      (hrest : Handling maxRetries started landed stepIds goOn events) :
      Handling maxRetries started landed (stepId :: stepIds) goOn events
  | retried {stepId stepIds goOn events plan status}
      (hcalled : stepId ∈ started)
      (hfailed : landed.statusOf stepId = some failed)
      (hbudget : 1 ≤ maxRetries)
      (hshown : Plan.statusOf plan stepId = some status)
      (hstatus : status ≠ failed)
      (hrest : Handling maxRetries started landed stepIds goOn events) :
      Handling maxRetries started landed (stepId :: stepIds) goOn
        (.called stepId :: .saved plan :: events)
  | stopped {stepId stepIds plan status}
      (hcalled : stepId ∈ started)
      (hfailed : landed.statusOf stepId = some failed)
      (hbudget : 1 ≤ maxRetries)
      (hshown : Plan.statusOf plan stepId = some status)
      (hstatus : status ≠ verified) :
      Handling maxRetries started landed (stepId :: stepIds) false
        [.called stepId, .saved plan]
  | spent {stepId stepIds}
      (hfailed : landed.statusOf stepId = some failed)
      (hbudget : maxRetries = 0) :
      Handling maxRetries started landed (stepId :: stepIds) false []
  | refused {stepId stepIds plan}
      (hnone : ∀ other ∈ stepId :: stepIds, other ∉ started) :
      Handling maxRetries started landed (stepId :: stepIds) false
        [.saved plan]

/-- In a list without duplicates, what comes before the first element is
nothing. -/
theorem not_ahead_head {other stepId : String} {stepIds : List String}
    (hnodup : (stepId :: stepIds).Nodup) :
    ¬[other, stepId].Sublist (stepId :: stepIds) := by
  intro h
  have hmem : stepId ∈ stepIds := by
    cases h with
    | cons _ h => exact h.subset (List.mem_cons_of_mem _ List.mem_cons_self)
    | cons_cons _ h => exact h.subset List.mem_cons_self
  exact (List.nodup_cons.mp hnodup).1 hmem

section Retry

variable {stepId other : String} {plan : Plan} {status : StepStatus}
  {events : List RunEvent}

theorem shown_retry (h : plan.statusOf stepId = some status) :
    (1, status) ∈
      shown stepId 0 (.called stepId :: .saved plan :: events) := by
  simp [shown, h]

theorem callsOf_retry (hne : other ≠ stepId) :
    callsOf other (.called stepId :: .saved plan :: events) =
      callsOf other events := by
  simp [callsOf, Ne.symm hne]

theorem shown_retry_other (hne : other ≠ stepId) {entry : Nat × StepStatus}
    (h : entry ∈ shown other 0 events) :
    entry ∈ shown other 0 (.called stepId :: .saved plan :: events) := by
  simp only [shown, if_neg (Ne.symm hne), Nat.add_zero]
  exact List.mem_append_right _ h

end Retry

namespace Handling

variable {maxRetries : Nat} {started stepIds : List String} {landed : Plan}
  {goOn : Bool} {events : List RunEvent} {stepId : String}

section

variable (h : Handling maxRetries started landed stepIds goOn events)
include h

theorem mem_of_called (hcalled : 0 < callsOf stepId events) :
    stepId ∈ stepIds := by
  induction h with
  | passed _ _ ih => exact List.mem_cons_of_mem _ (ih hcalled)
  | @retried other _ _ _ _ _ _ _ _ _ _ _ ih =>
      by_cases hother : other = stepId
      · simp [hother]
      · simp only [callsOf, hother, if_false, Nat.zero_add] at hcalled
        exact List.mem_cons_of_mem _ (ih hcalled)
  | @stopped other _ _ _ =>
      by_cases hother : other = stepId
      · simp [hother]
      · simp [callsOf, hother] at hcalled
  | _ => exact absurd hcalled (Nat.lt_irrefl 0)

theorem most (hnodup : stepIds.Nodup) : callsOf stepId events ≤ 1 := by
  induction h with
  | done => exact Nat.zero_le _
  | passed _ _ ih => exact ih (List.nodup_cons.mp hnodup).2
  | @retried other _ _ _ _ _ _ _ _ _ _ hrest ih =>
      obtain ⟨hnew, hnodup⟩ := List.nodup_cons.mp hnodup
      by_cases hother : other = stepId
      · have hnone : callsOf stepId _ = 0 := Nat.eq_zero_of_not_pos
          fun hcalled => hnew (hother ▸ hrest.mem_of_called hcalled)
        simp [callsOf, hother, hnone]
      · simpa [callsOf, hother] using ih hnodup
  | @stopped other _ _ _ =>
      by_cases hother : other = stepId <;> simp [callsOf, hother]
  | spent => exact Nat.zero_le _
  | refused => exact Nat.zero_le _

theorem wave_length {wave : List String} (hwave : wave ∈ waves events) :
    wave.length ≤ 1 := by
  induction h with
  | done => simp [List.mem_singleton.mp hwave]
  | passed _ _ ih => exact ih hwave
  | retried _ _ _ _ _ _ ih =>
      rcases List.mem_cons.mp hwave with rfl | hwave
      · exact Nat.le_refl 1
      · exact ih hwave
  | stopped =>
      rcases List.mem_cons.mp hwave with rfl | hwave
      · exact Nat.le_refl 1
      · simp [List.mem_singleton.mp hwave]
  | spent => simp [List.mem_singleton.mp hwave]
  | refused =>
      rcases List.mem_cons.mp hwave with rfl | hwave
      · exact Nat.zero_le 1
      · simp [List.mem_singleton.mp hwave]

/-- A step not called again has passed, or there is no retry, or one before it
failed. -/
theorem untouched (hnodup : stepIds.Nodup) (hmem : stepId ∈ stepIds)
    (hstarted : stepId ∈ started) (hnone : callsOf stepId events = 0) :
    maxRetries = 0 ∨
      landed.statusOf stepId ≠ some failed ∨
      ∃ other, [other, stepId].Sublist stepIds ∧ callsOf other events = 1 ∧
        ∃ status, status ≠ verified ∧ (1, status) ∈ shown other 0 events := by
  induction h with
  | done => exact absurd hmem List.not_mem_nil
  | passed hpassed _ ih =>
      rcases List.mem_cons.mp hmem with rfl | hmem
      · exact Or.inr (Or.inl hpassed)
      · rcases ih hnodup.of_cons hmem hnone with hbudget | hrest |
          ⟨other, hahead, hrest⟩
        · exact Or.inl hbudget
        · exact Or.inr (Or.inl hrest)
        · exact Or.inr (Or.inr ⟨other, hahead.cons _, hrest⟩)
  | @retried head _ _ _ _ _ _ _ _ _ _ _ ih =>
      have hhead : stepId ≠ head := by
        rintro rfl
        simp [callsOf] at hnone
      rw [callsOf_retry hhead] at hnone
      have hmem := List.mem_of_ne_of_mem hhead hmem
      rcases ih hnodup.of_cons hmem hnone with hbudget | hrest |
        ⟨other, hahead, hone, status, hne, hshown⟩
      · exact Or.inl hbudget
      · exact Or.inr (Or.inl hrest)
      · have hother : other ≠ head := by
          rintro rfl
          exact (List.nodup_cons.mp hnodup).1
            (hahead.subset List.mem_cons_self)
        refine Or.inr (Or.inr ⟨other, hahead.cons _, ?_, status, hne,
          shown_retry_other hother hshown⟩)
        rw [callsOf_retry hother, hone]
  | @stopped head stepIds _ _ _ _ _ hshown hstatus =>
      have hhead : stepId ≠ head := by
        rintro rfl
        simp [callsOf] at hnone
      have hmem := List.mem_of_ne_of_mem hhead hmem
      refine Or.inr (Or.inr ⟨head, ?_, by simp [callsOf], _, hstatus,
        shown_retry hshown⟩)
      exact (List.singleton_sublist.mpr hmem).cons_cons head
  | spent _ hbudget => exact Or.inl hbudget
  | refused hrefused => exact absurd hstarted (hrefused stepId hmem)

/-- A step called again has failed, and none before it in the wave is left
failed. -/
theorem touched (hnodup : stepIds.Nodup) (hcalled : callsOf stepId events = 1) :
    1 ≤ maxRetries ∧ landed.statusOf stepId = some failed ∧
      ∀ other, [other, stepId].Sublist stepIds →
        callsOf other events = 0 ∧ landed.statusOf other ≠ some failed ∨
        callsOf other events = 1 ∧
          ∃ status, status ≠ failed ∧ (1, status) ∈ shown other 0 events := by
  induction h with
  | @passed head _ _ events hpassed hrest ih =>
      obtain ⟨hnew, hlater⟩ := List.nodup_cons.mp hnodup
      obtain ⟨hbudget, hfailed, hahead⟩ := ih hlater hcalled
      refine ⟨hbudget, hfailed, fun other hother => ?_⟩
      cases hother with
      | cons _ hother => exact hahead other hother
      | cons_cons _ hother =>
          have hnone : callsOf head events = 0 :=
            Nat.eq_zero_of_not_pos fun hpos => hnew (hrest.mem_of_called hpos)
          exact Or.inl ⟨hnone, hpassed⟩
  | @retried head _ _ events _ _ _ hfailed hbudget hshown hstatus hrest ih =>
      obtain ⟨hnew, hlater⟩ := List.nodup_cons.mp hnodup
      have hnone : callsOf head events = 0 :=
        Nat.eq_zero_of_not_pos fun hpos => hnew (hrest.mem_of_called hpos)
      by_cases hhead : stepId = head
      · subst hhead
        exact ⟨hbudget, hfailed, fun other hother =>
          absurd hother (not_ahead_head hnodup)⟩
      · rw [callsOf_retry hhead] at hcalled
        obtain ⟨_, hstep, hahead⟩ := ih hlater hcalled
        refine ⟨hbudget, hstep, fun other hother => ?_⟩
        cases hother with
        | cons _ hother =>
            have hne : other ≠ head := by
              rintro rfl
              exact hnew (hother.subset List.mem_cons_self)
            rw [callsOf_retry hne]
            rcases hahead other hother with hzero | ⟨hone, status, hok, hseen⟩
            · exact Or.inl hzero
            · exact Or.inr ⟨hone, status, hok, shown_retry_other hne hseen⟩
        | cons_cons _ hother =>
            refine Or.inr ⟨?_, _, hstatus, shown_retry hshown⟩
            simp [callsOf, hnone]
  | @stopped head _ _ _ _ hfailed hbudget _ _ =>
      have hhead : stepId = head := by
        by_contra hhead
        have hsame : head = stepId := by simpa [callsOf] using hcalled
        exact hhead hsame.symm
      subst hhead
      exact ⟨hbudget, hfailed, fun other hother =>
        absurd hother (not_ahead_head hnodup)⟩
  | _ => simp [callsOf] at hcalled

theorem started_of_called (hcalled : 0 < callsOf stepId events) :
    stepId ∈ started := by
  induction h with
  | passed _ _ ih => exact ih hcalled
  | @retried other _ _ _ _ _ hother _ _ _ _ _ ih =>
      by_cases hsame : stepId = other
      · exact hsame ▸ hother
      · rw [callsOf_retry hsame] at hcalled
        exact ih hcalled
  | @stopped other _ _ _ hother =>
      by_cases hsame : stepId = other
      · exact hsame ▸ hother
      · rw [callsOf_retry hsame] at hcalled
        exact absurd hcalled (Nat.lt_irrefl 0)
  | _ => exact absurd hcalled (Nat.lt_irrefl 0)

end

theorem last (h : Handling maxRetries started landed stepIds goOn events) :
    events = [] ∨ ∃ front plan, events = front ++ [.saved plan] := by
  induction h with
  | done => exact Or.inl rfl
  | passed _ _ ih => exact ih
  | @retried stepId _ _ _ plan _ _ _ _ _ _ _ ih =>
      rcases ih with rfl | ⟨front, last, rfl⟩
      · exact Or.inr ⟨[.called stepId], plan, rfl⟩
      · exact Or.inr ⟨.called stepId :: .saved plan :: front, last, rfl⟩
  | @stopped stepId _ plan => exact Or.inr ⟨[.called stepId], plan, rfl⟩
  | spent => exact Or.inl rfl
  | @refused _ _ plan => exact Or.inr ⟨[], plan, rfl⟩

end Handling

theorem shown_map (stepId : String) (n : Nat) (stepIds : List String) :
    shown stepId n (stepIds.map RunEvent.called) = [] := by
  induction stepIds generalizing n with
  | nil => rfl
  | cons other stepIds ih => rw [List.map_cons, shown, ih]

theorem pair_sublist {stepIds order : List String} {other stepId : String}
    (hsub : stepIds.Sublist order) (horder : order.Nodup)
    (hother : other ∈ stepIds) (hstep : stepId ∈ stepIds)
    (h : [other, stepId].Sublist order) :
    [other, stepId].Sublist stepIds := by
  induction hsub with
  | slnil => exact absurd hother List.not_mem_nil
  | cons head hsub ih =>
      obtain ⟨hnew, horder⟩ := List.nodup_cons.mp horder
      cases h with
      | cons _ h => exact ih horder hother hstep h
      | cons_cons _ h => exact absurd (hsub.subset hother) hnew
  | cons_cons head hsub ih =>
      obtain ⟨hnew, horder⟩ := List.nodup_cons.mp horder
      cases h with
      | cons _ h =>
          have hne : ∀ item ∈ [other, stepId], item ≠ head := by
            rintro item hitem rfl
            exact hnew (h.subset hitem)
          refine List.Sublist.cons _ (ih horder ?_ ?_ h)
          · exact List.mem_of_ne_of_mem
              (hne other List.mem_cons_self) hother
          · exact List.mem_of_ne_of_mem
              (hne stepId (List.mem_cons_of_mem _ List.mem_cons_self)) hstep
      | cons_cons _ h =>
          have hmem := h.subset List.mem_cons_self
          have hne : stepId ≠ other := by
            rintro rfl
            exact hnew hmem
          exact (List.singleton_sublist.mpr
            (List.mem_of_ne_of_mem hne hstep)).cons_cons _

section Unit

variable {maxRetries : Nat} {started stepIds order : List String}
  {claimed landed : Plan} {goOn : Bool} {events : List RunEvent}
  {stepId : String}

/-- A wave and what follows it: claims, calls, a save, and the outcomes. -/
def waveEvents (claimed landed : Plan) (started : List String)
    (events : List RunEvent) : List RunEvent :=
  .saved claimed :: (started.map .called ++ .saved landed :: events)

theorem callsOf_wave :
    callsOf stepId (waveEvents claimed landed started events) =
      started.count stepId + callsOf stepId events := by
  simp [waveEvents, callsOf]

theorem Handling.wave_last
    (h : Handling maxRetries started landed stepIds goOn events) :
    ∃ front plan, waveEvents claimed landed started events =
      front ++ [.saved plan] := by
  rcases h.last with rfl | ⟨front, plan, rfl⟩
  · exact ⟨.saved claimed :: started.map .called, landed, rfl⟩
  · refine ⟨.saved claimed ::
      (started.map .called ++ .saved landed :: front), plan, ?_⟩
    simp [waveEvents]

theorem waves_wave : waves (waveEvents claimed landed started events) =
    [] :: started :: waves events := by
  rw [waveEvents, waves, waves_append_saved, waves_map]
  rfl

theorem shown_landed {status : StepStatus}
    (h : landed.statusOf stepId = some status) :
    (started.count stepId, status) ∈
      shown stepId 0 (waveEvents claimed landed started events) := by
  rw [waveEvents, shown, shown_append, shown_map, List.nil_append,
    callsOf_map, shown, h, Nat.zero_add]
  exact List.mem_append_right _ (List.mem_append_left _ List.mem_cons_self)

theorem shown_handled {calls : Nat} {status : StepStatus}
    (h : (calls, status) ∈ shown stepId 0 events) :
    (started.count stepId + calls, status) ∈
      shown stepId 0 (waveEvents claimed landed started events) := by
  rw [waveEvents, shown, shown_append, shown_map, List.nil_append,
    callsOf_map, shown, Nat.zero_add]
  exact List.mem_append_right _ (List.mem_append_right _ (shown_shift _ h))

theorem Handling.paced
    (h : Handling maxRetries started landed stepIds goOn events)
    (hstarted : started.Nodup) (hsub : ∀ stepId ∈ started, stepId ∈ stepIds)
    (hstepIds : stepIds.Sublist order) (horder : order.Nodup)
    (hlanded : ∀ stepId ∈ stepIds, ∃ status,
      landed.statusOf stepId = some status) :
    Paced maxRetries order (waveEvents claimed landed started events) := by
  have hnodup : stepIds.Nodup := horder.sublist hstepIds
  have hcount : ∀ {stepId}, stepId ∈ started → started.count stepId = 1 :=
    fun hmem => List.count_eq_one_of_mem hstarted hmem
  have hcalls : ∀ {stepId}, stepId ∈ started →
      callsOf stepId (waveEvents claimed landed started events) =
        1 + callsOf stepId events := by
    intro stepId hmem
    rw [callsOf_wave, hcount hmem]
  have hmember : ∀ {stepId},
      0 < callsOf stepId (waveEvents claimed landed started events) →
        stepId ∈ started := by
    intro stepId hcalled
    by_contra hmem
    have hnone : callsOf stepId events = 0 := Nat.eq_zero_of_not_pos
      fun hcalled => hmem (h.started_of_called hcalled)
    rw [callsOf_wave, List.count_eq_zero_of_not_mem hmem, hnone] at hcalled
    exact absurd hcalled (Nat.lt_irrefl 0)
  have hfirst : ∀ {stepId status}, stepId ∈ started →
      landed.statusOf stepId = some status → (1, status) ∈
        shown stepId 0 (waveEvents claimed landed started events) := by
    intro stepId status hmem hstatus
    rw [← hcount hmem]
    exact shown_landed hstatus
  have hsecond : ∀ {stepId status}, stepId ∈ started →
      (1, status) ∈ shown stepId 0 events → (2, status) ∈
        shown stepId 0 (waveEvents claimed landed started events) := by
    intro stepId status hmem hshown
    have hhandled := @shown_handled started claimed landed events stepId 1
      status hshown
    rwa [hcount hmem] at hhandled
  refine ⟨fun stepId => ?_, fun stepId hone => ?_, fun stepId htwo => ?_⟩
  · by_cases hmem : stepId ∈ started
    · rw [hcalls hmem]
      exact Nat.add_le_add_left (h.most hnodup) 1
    · exact Nat.le_trans (Nat.le_of_not_gt fun hcalled =>
        hmem (hmember hcalled)) (Nat.zero_le 2)
  · have hmem : stepId ∈ started := hmember (by rw [hone]; decide)
    rw [hcalls hmem] at hone
    have hnone : callsOf stepId events = 0 := by omega
    obtain ⟨status, hstatus⟩ := hlanded stepId (hsub stepId hmem)
    rcases h.untouched hnodup (hsub stepId hmem) hmem hnone with hbudget |
      hpassed | ⟨other, hahead, hother, failure, hne, hshown⟩
    · exact Or.inl hbudget
    · refine Or.inr (Or.inl ⟨status, ?_, hfirst hmem hstatus⟩)
      rintro rfl
      exact hpassed hstatus
    · have hotherMem := h.started_of_called (by rw [hother]; decide)
      refine Or.inr (Or.inr ⟨other, ⟨hahead.trans hstepIds, started, ?_,
        hotherMem, hmem⟩, ?_, failure, hne, hsecond hotherMem hshown⟩)
      · rw [waves_wave]
        exact List.mem_cons_of_mem _ List.mem_cons_self
      · rw [hcalls hotherMem, hother]
  · have hmem : stepId ∈ started := hmember (by rw [htwo]; decide)
    rw [hcalls hmem] at htwo
    have hone : callsOf stepId events = 1 := by omega
    obtain ⟨hbudget, hfailed, hahead⟩ := h.touched hnodup hone
    refine ⟨hbudget, hfirst hmem hfailed, ?_⟩
    rintro other ⟨hsublist, wave, hwave, hother, hstep⟩
    have hne : other ≠ stepId := by
      rintro rfl
      have hpair := horder.sublist hsublist
      simp at hpair
    have hotherMem : other ∈ started := by
      rw [waves_wave] at hwave
      rcases List.mem_cons.mp hwave with rfl | hwave
      · exact absurd hother List.not_mem_nil
      rcases List.mem_cons.mp hwave with rfl | hwave
      · exact hother
      · -- the retries are waves of their own
        have hlength := h.wave_length hwave
        obtain ⟨only, rfl⟩ := List.length_eq_one_iff.mp
          (Nat.le_antisymm hlength (List.length_pos_of_mem hother))
        rw [List.mem_singleton] at hother hstep
        exact absurd (hother.trans hstep.symm) hne
    have hbefore := pair_sublist hstepIds horder (hsub other hotherMem)
      (hsub stepId hmem) hsublist
    rcases hahead other hbefore with ⟨hzero, hpassed⟩ |
      ⟨honce, status, hok, hshown⟩
    · obtain ⟨status, hstatus⟩ := hlanded other (hsub other hotherMem)
      refine ⟨status, ?_, ?_⟩
      · rintro rfl
        exact hpassed hstatus
      · rw [hcalls hotherMem, hzero]
        exact hfirst hotherMem hstatus
    · refine ⟨status, hok, ?_⟩
      rw [hcalls hotherMem, honce]
      exact hsecond hotherMem hshown

end Unit

end Voly
