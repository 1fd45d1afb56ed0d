/-
The estimated price of a model call, in exact rationals, and rounding to
decimals.
-/
import Mathlib.Data.Rat.Floor
import Voly.Python.Text

namespace Voly.Telemetry

open Python

/-- Dollars per 1000 input and output tokens, by model name. -/
def costRates : List (String × Rat × Rat) := [
  ("claude-opus-4", 0.015, 0.075),
  ("claude-opus-4-8", 0.015, 0.075),
  ("claude-sonnet-4", 0.003, 0.015),
  ("claude-sonnet-4-6", 0.003, 0.015),
  ("claude-haiku-4", 0.00025, 0.00125),
  ("claude-haiku-4-5", 0.00025, 0.00125),
  ("claude-3-5-sonnet", 0.003, 0.015),
  ("claude-3-opus", 0.015, 0.075),
  ("gpt-4o", 0.0025, 0.010),
  ("gpt-4o-mini", 0.00015, 0.0006),
  ("gpt-4-turbo", 0.010, 0.030),
  ("o1", 0.015, 0.060),
  ("o3-mini", 0.0011, 0.0044),
  ("deepseek-v4-flash", 0.00014, 0.00028),
  ("deepseek-v4-pro", 0.00054, 0.0022),
  ("deepseek-chat", 0.00027, 0.0011),
  ("deepseek-coder", 0.00027, 0.0011),
  ("gemini-1.5-pro", 0.00125, 0.005),
  ("gemini-1.5-flash", 0.000075, 0.0003),
  ("gemini-2.0-flash", 0.000075, 0.0003),
  ("mimo-v2.5-pro", 0.001, 0.003),
  ("mimo-v2.5", 0.0005, 0.0015),
  ("kimi-k2.6", 0.0005, 0.002),
  ("kimi-k2.7-code", 0.0007, 0.003),
  ("kimi-k3", 0.001, 0.004),
  ("qwen3.7-plus", 0.0004, 0.0016),
  ("qwen3.7-max", 0.0008, 0.0032),
  ("minimax-m3", 0.0003, 0.0012),
  ("glm-5.2", 0.0004, 0.0016),
  ("gpt-5.6-sol", 0.005, 0.030),
  ("gpt-5.6-terra", 0.002, 0.012),
  ("gpt-5.6-luna", 0.0002, 0.0012),
  ("claude-fable-5", 0.010, 0.050),
  ("claude-opus-5", 0.005, 0.025),
  ("claude-sonnet-5", 0.002, 0.010),
  ("qwen3.6-plus", 0.0005, 0.003),
  ("gpt-5.5", 0.005, 0.030),
  ("gpt-5.4", 0.0025, 0.015),
  ("gpt-5.4-mini", 0.00075, 0.0045),
  ("gemini-3.5-flash", 0.0015, 0.009),
  ("grok-build-0.1", 0.001, 0.002),
  ("@cf/meta/llama-4", 0.000028, 0.000028),
  ("@cf/meta/llama-3", 0.000022, 0.000022),
  ("@cf/mistral/mistral", 0.000011, 0.000011),
  ("@cf/google/gemma", 0.000015, 0.000015),
  ("@cf/qwen/qwen", 0.000015, 0.000015),
  ("@cf/deepseek-ai/deepseek", 0.000018, 0.000018)]

def defaultRate : Rat × Rat := (0.001, 0.003)

def freeModels : List String := [
  "big-pickle",
  "deepseek-v4-flash-free",
  "mimo-v2.5-free",
  "north-mini-code-free",
  "nemotron-3-ultra-free",
  "laguna-s-2.1-free",
  "ling-3.0-flash-free",
  "@cf/meta/llama-3.2-1b-instruct",
  "@cf/meta/llama-3.2-3b-instruct",
  "@cf/meta/llama-3.1-8b-instruct-fp8",
  "@cf/ibm-granite/granite-4.0-h-micro"]

/-- `round(x, digits)`: to the nearest, a tie to the even neighbour. -/
def roundTo (digits : Nat) (x : Rat) : Rat :=
  let scaled := x * 10 ^ digits
  let low := scaled.floor
  let rest := scaled - low
  let nearest :=
    if rest < 1 / 2 ∨ (rest = 1 / 2 ∧ low % 2 = 0) then low else low + 1
  nearest / 10 ^ digits

/-- The first rate whose key the model name holds. -/
def rateOf (model : String) : Rat × Rat :=
  match costRates.find? fun entry =>
    startsWith model entry.1 || contains model entry.1 with
  | some entry => entry.2
  | none => defaultRate

def estimateCost (model : String) (inputTokens outputTokens : Int) : Rat :=
  if freeModels.any (contains model) then 0
  else
    let rate := rateOf model
    roundTo 6 (inputTokens / 1000 * rate.1 + outputTokens / 1000 * rate.2)

/-- The integer is as close as any other, and even if another one is as
close. -/
def Nearest (x : Rat) (n : Int) : Prop :=
  |x - n| < 1 / 2 ∨ |x - n| = 1 / 2 ∧ n % 2 = 0

section

variable {x : Rat} {n : Int} (h : Nearest x n)
include h

theorem Nearest.le :
    |x - n| ≤ 1 / 2 := by
  rcases h with h | ⟨h, _⟩
  · exact h.le
  · exact h.le

theorem Nearest.even (hhalf : |x - n| = 1 / 2) : n % 2 = 0 := by
  rcases h with h | ⟨_, heven⟩
  · exact absurd hhalf h.ne
  · exact heven

theorem Nearest.not_succ :
    ¬Nearest x (n + 1) := by
  intro hsucc
  have hlow := abs_le.mp h.le
  have hhigh := abs_le.mp hsucc.le
  push_cast at hhigh
  have hmiddle : x = n + 1 / 2 := by linarith [hlow.2, hhigh.1]
  have heven : n % 2 = 0 := by
    apply h.even
    rw [hmiddle, add_sub_cancel_left]
    norm_num
  have hodd : (n + 1) % 2 = 0 := by
    apply hsucc.even
    rw [hmiddle]
    push_cast
    rw [add_sub_add_left_eq_sub]
    norm_num
  omega

end

theorem Nearest.unique {x : Rat} {n m : Int} (hn : Nearest x n)
    (hm : Nearest x m) : n = m := by
  have hlow := abs_le.mp hn.le
  have hhigh := abs_le.mp hm.le
  have hbelow : (n : Rat) ≤ m + 1 := by linarith [hlow.1, hhigh.2]
  have habove : (m : Rat) ≤ n + 1 := by linarith [hlow.2, hhigh.1]
  have hbelow : n ≤ m + 1 := by exact_mod_cast hbelow
  have habove : m ≤ n + 1 := by exact_mod_cast habove
  have hcases : n = m ∨ n = m + 1 ∨ m = n + 1 := by omega
  rcases hcases with heq | rfl | rfl
  · exact heq
  · exact absurd hn hm.not_succ
  · exact absurd hm hn.not_succ

theorem nearest_floor (x : Rat) : Nearest x
    (if x - x.floor < 1 / 2 ∨ (x - x.floor = 1 / 2 ∧ x.floor % 2 = 0) then
      x.floor else x.floor + 1) := by
  have hlow : (0 : Rat) ≤ x - x.floor := sub_nonneg.mpr (Rat.floor_le x)
  have hhigh : x - x.floor < 1 := by
    have := Rat.lt_floor_add_one x
    push_cast at this
    linarith
  split
  case isTrue hlower =>
    rw [Nearest, abs_of_nonneg hlow]
    exact hlower
  case isFalse hupper =>
    rw [Nearest]
    push_cast
    rw [abs_of_nonpos (by linarith)]
    have hhalf : 1 / 2 ≤ x - x.floor :=
      not_lt.mp fun hless => hupper (Or.inl hless)
    rcases hhalf.lt_or_eq with hmore | htie
    · exact Or.inl (by linarith)
    · refine Or.inr ⟨by linarith, ?_⟩
      have hodd : ¬x.floor % 2 = 0 := fun h => hupper (Or.inr ⟨htie.symm, h⟩)
      omega

theorem roundTo_eq_iff {digits : Nat} {x y : Rat} : roundTo digits x = y ↔
    ∃ n : Int, y = n / 10 ^ digits ∧ Nearest (x * 10 ^ digits) n := by
  have hpow : (10 : Rat) ^ digits ≠ 0 := by positivity
  constructor
  · rintro rfl
    exact ⟨_, rfl, nearest_floor _⟩
  · rintro ⟨n, rfl, hn⟩
    rw [hn.unique (nearest_floor _)]
    rfl

theorem roundTo_sub_eq_iff {digits : Nat} {y error : Rat} :
    roundTo digits (y - error) = y ↔ ∃ n : Int, y = n / 10 ^ digits ∧
      (|error| < 1 / (2 * 10 ^ digits) ∨
        |error| = 1 / (2 * 10 ^ digits) ∧ n % 2 = 0) := by
  have hpow : (0 : Rat) < 10 ^ digits := by positivity
  rw [roundTo_eq_iff]
  apply exists_congr
  intro n
  apply and_congr_right
  rintro rfl
  have herror : (n / 10 ^ digits - error) * 10 ^ digits - n =
      -(error * 10 ^ digits) := by
    field_simp
    ring
  have hhalf : (1 : Rat) / 2 = 1 / (2 * 10 ^ digits) * 10 ^ digits := by
    field_simp
  rw [Nearest, herror, abs_neg, abs_mul, abs_of_pos hpow, hhalf,
    mul_lt_mul_iff_left₀ hpow, mul_left_inj' hpow.ne']

end Voly.Telemetry
