/-
Machines that take one event after the other.  A list of events of which one
cannot happen in its state is no run.
-/
import Mathlib.Data.List.Basic

namespace Interaction

universe u v

variable {S : Type u} {E : Type v}

/-- The state after a list of events. -/
def follow (step : S → E → Option S) : S → List E → Option S
  | s, [] => some s
  | s, e :: events =>
      match step s e with
      | some s' => follow step s' events
      | none => none

/-- Every event of a run happens in a state that meets the condition. -/
def Throughout (step : S → E → Option S) (ok : S → E → Prop) :
    S → List E → Prop
  | _, [] => True
  | s, e :: events =>
      ok s e ∧
        match step s e with
        | some s' => Throughout step ok s' events
        | none => True

instance decidableThroughout (step : S → E → Option S) (ok : S → E → Prop)
    [∀ s e, Decidable (ok s e)] :
    ∀ s events, Decidable (Throughout step ok s events)
  | _, [] => isTrue trivial
  | s, e :: events =>
      have : Decidable (match step s e with
          | some s' => Throughout step ok s' events
          | none => True) :=
        match step s e with
        | some s' => decidableThroughout step ok s' events
        | none => isTrue trivial
      inferInstanceAs (Decidable (_ ∧ _))

section Runs

variable {step : S → E → Option S} {ok : S → E → Prop}

theorem follow_cons {s s' : S} {e : E} (h : step s e = some s')
    (events : List E) : follow step s (e :: events) = follow step s' events := by
  rw [follow, h]

section

variable {events : List E}

theorem exists_of_follow_cons {s t : S} {e : E}
    (h : follow step s (e :: events) = some t) :
    ∃ s', step s e = some s' ∧ follow step s' events = some t := by
  rw [follow] at h
  cases hstep : step s e with
  | none =>
      rw [hstep] at h
      cases h
  | some s' =>
      rw [hstep] at h
      exact ⟨s', rfl, h⟩

theorem Throughout.head {s : S} {e : E} (h : Throughout step ok s (e :: events)) :
    ok s e :=
  h.1

theorem Throughout.tail {s s' : S} {e : E}
    (h : Throughout step ok s (e :: events)) (hstep : step s e = some s') :
    Throughout step ok s' events := by
  have hrest := h.2
  rw [hstep] at hrest
  exact hrest

theorem Throughout.and {ok' : S → E → Prop} {s : S}
    (h : Throughout step ok s events) (h' : Throughout step ok' s events) :
    Throughout step (fun s e => ok s e ∧ ok' s e) s events := by
  induction events generalizing s with
  | nil => trivial
  | cons e events ih =>
      refine ⟨⟨h.head, h'.head⟩, ?_⟩
      cases hfirst : step s e with
      | none => trivial
      | some s' => exact ih (h.tail hfirst) (h'.tail hfirst)

/-- What every step keeps under the condition holds after every run whose
steps all meet it. -/
theorem follow_invariant {Inv : S → Prop}
    (hstep : ∀ s e s', Inv s → ok s e → step s e = some s' → Inv s') {s t : S}
    (hs : Inv s) (hok : Throughout step ok s events)
    (hrun : follow step s events = some t) :
    Inv t := by
  induction events generalizing s with
  | nil =>
      cases hrun
      exact hs
  | cons e events ih =>
      obtain ⟨s', hfirst, hrest⟩ := exists_of_follow_cons hrun
      exact ih (hstep s e s' hs hok.head hfirst) (hok.tail hfirst) hrest

/-- What events have under an invariant and the condition, the events of a run
have. -/
theorem Throughout.implies (Inv : S → Prop) {law : S → E → Prop}
    (hstep : ∀ s e, Inv s → ok s e →
      law s e ∧ ∀ s', step s e = some s' → Inv s') {s : S} (hs : Inv s)
    (hok : Throughout step ok s events) : Throughout step law s events := by
  induction events generalizing s with
  | nil => trivial
  | cons e events ih =>
      obtain ⟨hlaw, hnext⟩ := hstep s e hs hok.head
      refine ⟨hlaw, ?_⟩
      cases hfirst : step s e with
      | none => trivial
      | some s' => exact ih (hnext s' hfirst) (hok.tail hfirst)

end

/-- Where law and condition agree under a kept invariant, a run obeys one iff
the other. -/
theorem throughout_iff {law : S → E → Prop} (Inv : S → Prop)
    (hiff : ∀ s e, Inv s → (law s e ↔ ok s e))
    (hkeep : ∀ s e s', Inv s → law s e → step s e = some s' → Inv s')
    {s : S} (hs : Inv s) (events : List E) :
    Throughout step law s events ↔ Throughout step ok s events := by
  constructor
  · intro hlaw
    refine hlaw.implies Inv ?_ hs
    intro s e hInv he
    exact ⟨(hiff s e hInv).mp he, fun s' hstep => hkeep s e s' hInv he hstep⟩
  · intro hok
    refine hok.implies Inv ?_ hs
    intro s e hInv he
    have hlaw := (hiff s e hInv).mpr he
    exact ⟨hlaw, fun s' hstep => hkeep s e s' hInv hlaw hstep⟩

theorem throughout_true (s : S) (events : List E) :
    Throughout step (fun _ _ => True) s events := by
  induction events generalizing s with
  | nil => trivial
  | cons e events ih =>
      refine ⟨trivial, ?_⟩
      cases step s e with
      | none => trivial
      | some s' => exact ih s'

theorem follow_kept {Inv : S → Prop}
    (hstep : ∀ s e s', Inv s → step s e = some s' → Inv s')
    {events : List E} {s t : S} (hs : Inv s)
    (hrun : follow step s events = some t) : Inv t :=
  follow_invariant (fun s e s' hInv _ => hstep s e s' hInv) hs
    (throughout_true s events) hrun

/-- Where the condition picks the events that keep a run right, and wrong stays
wrong, a run is right iff all events meet it. -/
theorem throughout_iff_right {Inv Right : S → Prop}
    (hstep : ∀ s e s', Inv s → step s e = some s' → Inv s')
    (hright : ∀ s e s', Inv s → Right s → step s e = some s' →
      (ok s e ↔ Right s'))
    (hwrong : ∀ s e s', Inv s → ¬Right s → step s e = some s' → ¬Right s')
    {events : List E} {s t : S} (hs : Inv s) (hstart : Right s)
    (hrun : follow step s events = some t) :
    Throughout step ok s events ↔ Right t := by
  induction events generalizing s with
  | nil =>
      cases hrun
      exact iff_of_true trivial hstart
  | cons e events ih =>
      obtain ⟨s', hfirst, hrest⟩ := exists_of_follow_cons hrun
      have hs' := hstep s e s' hs hfirst
      have hiff := hright s e s' hs hstart hfirst
      by_cases hok : ok s e
      · constructor
        · exact fun h => (ih hs' (hiff.mp hok) hrest).mp (h.tail hfirst)
        · intro ht
          refine ⟨hok, ?_⟩
          rw [hfirst]
          exact (ih hs' (hiff.mp hok) hrest).mpr ht
      · -- from here on the run is wrong
        have hinvariant : ∀ s e s', Inv s ∧ ¬Right s →
            step s e = some s' → Inv s' ∧ ¬Right s' :=
          fun s e s' h hstep' =>
            ⟨hstep s e s' h.1 hstep', hwrong s e s' h.1 h.2 hstep'⟩
        have hend := follow_kept hinvariant
          ⟨hs', fun h => hok (hiff.mpr h)⟩ hrest
        exact iff_of_false (fun h => hok h.head) hend.2

theorem exists_follow (hstep : ∀ s e, ∃ s', step s e = some s') (s : S)
    (events : List E) : ∃ t, follow step s events = some t := by
  induction events generalizing s with
  | nil => exact ⟨s, rfl⟩
  | cons e events ih =>
      obtain ⟨s', hs'⟩ := hstep s e
      rw [follow_cons hs']
      exact ih s'

end Runs

end Interaction
