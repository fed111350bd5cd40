import Mathlib.Analysis.Convex.Jensen
import Mathlib.Analysis.SpecialFunctions.Log.Base
import Mathlib.Analysis.SpecialFunctions.Log.NegMulLog

/-!
# The entropy of a finite distribution

Between no entropy at all and the logarithm of the number of outcomes. The first is
had by one outcome alone, the second by outcomes of equal mass, which is where the
strict concavity of `x ↦ -x * log x` leaves room for equality in Jensen's inequality.
The logarithm may have any base above one.
-/

namespace NetworkAdapter

open Real

universe u

/-- Masses of finitely many outcomes, all of them possible. -/
structure Distribution (Outcome : Type u) [Fintype Outcome] where
  mass : Outcome → ℝ
  positive : ∀ outcome, 0 < mass outcome
  total : ∑ outcome, mass outcome = 1

namespace Distribution

variable {Outcome : Type u} [Fintype Outcome]

/-- The entropy, in the unit that the base of the logarithm gives. -/
noncomputable def entropy (base : ℝ) (distribution : Distribution Outcome) : ℝ :=
  ∑ outcome, -(distribution.mass outcome * logb base (distribution.mass outcome))

/-- There is an outcome, since the masses add up to one. -/
theorem nonempty (distribution : Distribution Outcome) : Nonempty Outcome := by
  by_contra none
  have : IsEmpty Outcome := not_nonempty_iff.mp none
  simpa using distribution.total

theorem card_pos (distribution : Distribution Outcome) : 0 < (Fintype.card Outcome : ℝ) := by
  have := distribution.nonempty
  exact_mod_cast Fintype.card_pos

theorem mass_le_one (distribution : Distribution Outcome) (outcome : Outcome) :
    distribution.mass outcome ≤ 1 := by
  rw [← distribution.total]
  exact Finset.single_le_sum (fun other _ => (distribution.positive other).le)
    (Finset.mem_univ outcome)

/-- Jensen's inequality with equal weights: their sum, and the mean mass. -/
theorem uniform_weights (distribution : Distribution Outcome) :
    ∑ _outcome : Outcome, (Fintype.card Outcome : ℝ)⁻¹ = 1 := by
  rw [Finset.sum_const, Finset.card_univ, nsmul_eq_mul,
    mul_inv_cancel₀ distribution.card_pos.ne']

theorem mean_mass (distribution : Distribution Outcome) :
    ∑ outcome, (Fintype.card Outcome : ℝ)⁻¹ • distribution.mass outcome =
      (Fintype.card Outcome : ℝ)⁻¹ := by
  rw [← Finset.smul_sum, distribution.total, smul_eq_mul, mul_one]

section Base

variable {base : ℝ} (large : 1 < base)
include large

/-- No outcome takes entropy away. -/
theorem term_nonneg (distribution : Distribution Outcome) (outcome : Outcome) :
    0 ≤ -(distribution.mass outcome * logb base (distribution.mass outcome)) := by
  have small : logb base (distribution.mass outcome) ≤ 0 :=
    logb_nonpos large (distribution.positive outcome).le (distribution.mass_le_one outcome)
  exact neg_nonneg.mpr
    (mul_nonpos_of_nonneg_of_nonpos (distribution.positive outcome).le small)

theorem entropy_nonneg (distribution : Distribution Outcome) : 0 ≤ distribution.entropy base :=
  Finset.sum_nonneg fun outcome _ => distribution.term_nonneg large outcome

/-- Only an outcome that is certain has none. -/
theorem term_eq_zero_iff (distribution : Distribution Outcome) (outcome : Outcome) :
    -(distribution.mass outcome * logb base (distribution.mass outcome)) = 0 ↔
      distribution.mass outcome = 1 := by
  have positive := distribution.positive outcome
  constructor
  · intro nothing
    have vanishes : logb base (distribution.mass outcome) = 0 :=
      (mul_eq_zero.mp (neg_eq_zero.mp nothing)).resolve_left positive.ne'
    exact eq_one_of_pos_of_logb_eq_zero large positive vanishes
  · intro certain
    simp [certain]

theorem entropy_eq_zero_iff (distribution : Distribution Outcome) :
    distribution.entropy base = 0 ↔ Fintype.card Outcome = 1 := by
  have terms : distribution.entropy base = 0 ↔ ∀ outcome, distribution.mass outcome = 1 := by
    unfold entropy
    rw [Finset.sum_eq_zero_iff_of_nonneg fun outcome _ => distribution.term_nonneg large outcome]
    simp only [Finset.mem_univ, true_implies, distribution.term_eq_zero_iff large]
  rw [terms]
  constructor
  · intro certain
    have total := distribution.total
    simp only [certain, Finset.sum_const, Finset.card_univ, nsmul_eq_mul, mul_one] at total
    exact_mod_cast total
  · intro single outcome
    obtain ⟨only, alone⟩ := Fintype.card_eq_one_iff.mp single
    have total := distribution.total
    rw [Finset.sum_eq_single outcome
      (fun other _ apart => absurd ((alone other).trans (alone outcome).symm) apart)
      (fun absent => absurd (Finset.mem_univ outcome) absent)] at total
    exact total

/-- In natural units the entropy is what Jensen's inequality speaks of. -/
theorem entropy_mul_log (distribution : Distribution Outcome) :
    distribution.entropy base * log base = ∑ outcome, negMulLog (distribution.mass outcome) := by
  have unit : log base ≠ 0 := (log_pos large).ne'
  rw [entropy, Finset.sum_mul]
  refine Finset.sum_congr rfl fun outcome _ => ?_
  rw [negMulLog, logb]
  field_simp

theorem mean_negMulLog (distribution : Distribution Outcome) :
    ∑ outcome, (Fintype.card Outcome : ℝ)⁻¹ • negMulLog (distribution.mass outcome) =
      (Fintype.card Outcome : ℝ)⁻¹ * (distribution.entropy base * log base) := by
  rw [← Finset.smul_sum, smul_eq_mul, entropy_mul_log large]

/-- What an outcome among equals has. -/
theorem negMulLog_inv (number : ℝ) :
    negMulLog number⁻¹ = number⁻¹ * (logb base number * log base) := by
  have unit : log base ≠ 0 := (log_pos large).ne'
  rw [negMulLog, log_inv, logb, div_mul_cancel₀ _ unit]
  ring

/-- More outcomes than there are cannot be told apart. -/
theorem entropy_le (distribution : Distribution Outcome) :
    distribution.entropy base ≤ logb base (Fintype.card Outcome) := by
  have weight : 0 < (Fintype.card Outcome : ℝ)⁻¹ := inv_pos.mpr distribution.card_pos
  have jensen := concaveOn_negMulLog.le_map_sum (t := Finset.univ)
    (fun _ _ => weight.le) distribution.uniform_weights
    (fun outcome _ => Set.mem_Ici.mpr (distribution.positive outcome).le)
  rw [distribution.mean_negMulLog large, distribution.mean_mass, negMulLog_inv large] at jensen
  exact le_of_mul_le_mul_right (le_of_mul_le_mul_left jensen weight) (log_pos large)

/-- Equal masses are the distributions that reach the bound. -/
theorem entropy_eq_iff (distribution : Distribution Outcome) :
    distribution.entropy base = logb base (Fintype.card Outcome) ↔
      ∀ first second, distribution.mass first = distribution.mass second := by
  have weight : 0 < (Fintype.card Outcome : ℝ)⁻¹ := inv_pos.mpr distribution.card_pos
  have unit : log base ≠ 0 := (log_pos large).ne'
  have jensen := strictConcaveOn_negMulLog.map_sum_eq_iff_of_pos (t := Finset.univ)
    (fun _ _ => weight) distribution.uniform_weights
    (fun outcome _ => Set.mem_Ici.mpr (distribution.positive outcome).le)
  rw [distribution.mean_negMulLog large, distribution.mean_mass, negMulLog_inv large,
    mul_right_inj' weight.ne', mul_left_inj' unit, eq_comm] at jensen
  simpa using jensen

end Base

/-- Weights as shares of their sum. -/
noncomputable def ofWeights [Nonempty Outcome] (weights : Outcome → ℝ)
    (positive : ∀ outcome, 0 < weights outcome) : Distribution Outcome where
  mass outcome := weights outcome / ∑ other, weights other
  positive outcome := div_pos (positive outcome)
    (Finset.sum_pos (fun other _ => positive other) Finset.univ_nonempty)
  total := by
    rw [← Finset.sum_div]
    exact div_self (Finset.sum_pos (fun other _ => positive other) Finset.univ_nonempty).ne'

/-- Shares are equal where the weights are. -/
theorem ofWeights_mass_eq_iff [Nonempty Outcome] {weights : Outcome → ℝ}
    (positive : ∀ outcome, 0 < weights outcome) (first second : Outcome) :
    (ofWeights weights positive).mass first = (ofWeights weights positive).mass second ↔
      weights first = weights second := by
  have total : (∑ other, weights other) ≠ 0 :=
    (Finset.sum_pos (fun other _ => positive other) Finset.univ_nonempty).ne'
  exact div_left_inj' total

end Distribution
end NetworkAdapter
