/-
The rate that a model name is charged, and when the order of the table gives the
longest key.
-/
import Mathlib.Data.List.Infix
import Voly.Telemetry.Cost

namespace Voly.Telemetry

open Python

/-- The price of the tokens at a rate. -/
def charge (rate : Rat × Rat) (inputTokens outputTokens : Int) : Rat :=
  roundTo 6 (inputTokens / 1000 * rate.1 + outputTokens / 1000 * rate.2)

/-- A key that the name holds, and no longer one. -/
structure MostSpecific (model : String) (entry : String × Rat × Rat) :
    Prop where
  listed : entry ∈ costRates
  held : contains model entry.1 = true
  longest : ∀ other ∈ costRates, contains model other.1 = true →
    other.1.length ≤ entry.1.length

/-- Nothing for a free model, else the rate of a longest key, or the default. -/
def ChargesMostSpecific (model : String) : Prop :=
  if freeModels.any (contains model) then
    ∀ inputTokens outputTokens,
      estimateCost model inputTokens outputTokens = 0
  else
    (∃ entry, MostSpecific model entry ∧ ∀ inputTokens outputTokens,
      estimateCost model inputTokens outputTokens =
        charge entry.2 inputTokens outputTokens) ∨
    (∀ entry ∈ costRates, contains model entry.1 = false) ∧
      ∀ inputTokens outputTokens,
        estimateCost model inputTokens outputTokens =
          charge defaultRate inputTokens outputTokens

/-- The first key of the table that the name holds. -/
def firstHeld (model : String) : Option (String × Rat × Rat) :=
  costRates.find? fun entry => contains model entry.1

/-- A longest key has the rate of the first one, unless the model is free. -/
def FirstIsMostSpecific (model : String) : Prop :=
  freeModels.any (contains model) = true ∨
    ∀ first, firstHeld model = some first →
      ∃ entry, MostSpecific model entry ∧ entry.2 = first.2

theorem contains_of_startsWith {s p : String} (h : startsWith s p = true) :
    contains s p = true := by
  rw [contains, List.any_eq_true]
  exact ⟨s.toList, (List.mem_tails _ _).mpr (List.suffix_refl _), h⟩

theorem rateOf_eq (model : String) : rateOf model =
    match firstHeld model with
    | some entry => entry.2
    | none => defaultRate := by
  have hheld : (fun entry : String × Rat × Rat =>
      startsWith model entry.1 || contains model entry.1) =
        fun entry => contains model entry.1 := by
    funext entry
    cases hstarts : startsWith model entry.1 with
    | false => rfl
    | true => rw [contains_of_startsWith hstarts, Bool.true_or]
  have hfind : firstHeld model = costRates.find? fun entry =>
      startsWith model entry.1 || contains model entry.1 :=
    congrArg (fun p => costRates.find? p) hheld.symm
  rw [hfind]
  rfl

theorem estimateCost_free {model : String}
    (h : freeModels.any (contains model) = true)
    (inputTokens outputTokens : Int) :
    estimateCost model inputTokens outputTokens = 0 := if_pos h

theorem estimateCost_charged {model : String}
    (h : ¬freeModels.any (contains model) = true)
    (inputTokens outputTokens : Int) :
    estimateCost model inputTokens outputTokens =
      charge (rateOf model) inputTokens outputTokens := if_neg h

theorem charge_billion : ∀ entry ∈ costRates,
    charge entry.2 1000000000 0 = 1000000 * entry.2.1 ∧
      charge entry.2 0 1000000000 = 1000000 * entry.2.2 := by
  decide +kernel

theorem rate_of_charge {entry other : String × Rat × Rat}
    (hentry : entry ∈ costRates) (hother : other ∈ costRates)
    (h : ∀ inputTokens outputTokens,
      charge entry.2 inputTokens outputTokens =
        charge other.2 inputTokens outputTokens) : entry.2 = other.2 := by
  obtain ⟨hin, hout⟩ := charge_billion entry hentry
  obtain ⟨hin', hout'⟩ := charge_billion other hother
  apply Prod.ext
  · have hmillions := hin.symm.trans ((h _ _).trans hin')
    linarith
  · have hmillions := hout.symm.trans ((h _ _).trans hout')
    linarith

/-- The most specific rate is charged iff the first key has a longest one's. -/
theorem charges_most_specific_iff (model : String) :
    ChargesMostSpecific model ↔ FirstIsMostSpecific model := by
  by_cases hfree : freeModels.any (contains model) = true
  · rw [ChargesMostSpecific, if_pos hfree]
    exact ⟨fun _ => Or.inl hfree, fun _ => estimateCost_free hfree⟩
  rw [ChargesMostSpecific, if_neg hfree]
  cases hfirst : firstHeld model with
  | none =>
      have hnone : ∀ entry ∈ costRates, contains model entry.1 = false := by
        simpa [firstHeld] using hfirst
      constructor
      · intro _
        right
        rw [hfirst]
        intro first h
        cases h
      · intro _
        refine Or.inr ⟨hnone, fun inputTokens outputTokens => ?_⟩
        rw [estimateCost_charged hfree, rateOf_eq, hfirst]
  | some first =>
      have hlisted : first ∈ costRates := List.mem_of_find?_eq_some hfirst
      have hheld : contains model first.1 = true := by
        simpa using List.find?_some hfirst
      have hcost : ∀ inputTokens outputTokens,
          estimateCost model inputTokens outputTokens =
            charge first.2 inputTokens outputTokens := by
        intro inputTokens outputTokens
        rw [estimateCost_charged hfree, rateOf_eq, hfirst]
      constructor
      · rintro (⟨entry, hmost, hcharge⟩ | ⟨hnone, _⟩)
        · right
          intro other hother
          cases hfirst.symm.trans hother
          refine ⟨entry, hmost, rate_of_charge hmost.listed hlisted ?_⟩
          intro inputTokens outputTokens
          exact (hcharge _ _).symm.trans (hcost _ _)
        · rw [hnone first hlisted] at hheld
          cases hheld
      · rintro (h | h)
        · exact absurd h hfree
        · obtain ⟨entry, hmost, hrate⟩ := h first hfirst
          refine Or.inl ⟨entry, hmost, fun inputTokens outputTokens => ?_⟩
          rw [hcost, hrate]

namespace RatesWitness

/-- A listed model whose name starts with the key of another one. -/
theorem mini_charged_as_large : ¬ChargesMostSpecific "gpt-4o-mini" := by
  have hlonger : ∀ entry ∈ costRates,
      contains "gpt-4o-mini" entry.1 = true → 11 ≤ entry.1.length →
        estimateCost "gpt-4o-mini" 1000 0 ≠ charge entry.2 1000 0 := by
    decide +kernel
  rw [ChargesMostSpecific, if_neg (by decide +kernel)]
  rintro (⟨entry, hmost, hcharge⟩ | ⟨hnone, _⟩)
  · have hmini := hmost.longest ("gpt-4o-mini", 0.00015, 0.0006)
      (by decide +kernel) (by decide +kernel)
    exact hlonger entry hmost.listed hmost.held hmini (hcharge 1000 0)
  · have hlarge := hnone ("gpt-4o", 0.0025, 0.010) (by decide +kernel)
    revert hlarge
    decide +kernel

end RatesWitness

end Voly.Telemetry
