import DexTrade.Proofs.Decimal.Accuracy
import DexTrade.Proofs.Price
/-!
# Gas figures are exact

A division by a billion moves the point by nine places, and a mantissa that fits keeps all its digits on
the way (`Holds.div_billion`). The price of gas in gwei takes one such division and its cost two, so both
are exact wherever there are any: for a price, and for a product of gas and price, below 2^96
(`gas_figures_exact`). A product that is cut off at the largest price is far beyond that.
-/
namespace DexTrade

namespace Decimal

/-- The decimal is a number that is not negative, written with so many places at most. -/
structure Holds (d : Decimal) (x : ℚ) (places : Nat) : Prop where
  sign : d.negative = false
  value : d.value = x
  scale_le : d.scale ≤ places

theorem exists_ofNat? {n : Nat} (h : n ≤ maxMantissa) : ∃ d, ofNat? n = some d ∧ d.Holds n 0 := by
  obtain ⟨d, hd⟩ : ∃ d, make? false n 0 = some d := by
    rw [← Option.ne_none_iff_exists', Ne, make?_eq_none_iff]
    omega
  obtain ⟨hmantissa, hsign⟩ := mantissa_of_make? hd
  rw [Bool.false_and] at hsign
  refine ⟨d, hd, hsign, ?_, (scale_of_make? hd).le⟩
  rw [value_of_nonnegative hsign, magnitude_of_make? hd, pow_zero, div_one]

theorem ofNat?_eq_none_iff (n : Nat) : ofNat? n = none ↔ maxMantissa < n := by
  rw [ofNat?, make?_eq_none_iff, or_iff_left (Nat.not_lt_zero _)]

/-- With nine places to spare, no digit is lost in a division by a billion. -/
theorem magnitude_div?_billion {d q : Decimal} (hroom : d.scale + step ≤ maxScale)
    (h : d.div? billion = some q) :
    q.magnitude = d.magnitude / 10 ^ 9 ∧ q.scale ≤ d.scale + step := by
  rw [div?, Option.bind_eq_some_iff] at h
  obtain ⟨⟨mantissa, scale⟩, hquotient, hmake⟩ := h
  rw [magnitude_of_make? hmake, scale_of_make? hmake, magnitude, div_div]
  by_cases hzero : d.mantissa = 0
  · rw [quotient?_of_zero hzero (by decide)] at hquotient
    obtain ⟨rfl, rfl⟩ := Prod.mk.inj (Option.some.inj hquotient)
    simp [hzero]
  · rw [quotient?_billion hzero hroom] at hquotient
    split at hquotient
    · rename_i hrest
      obtain ⟨rfl, rfl⟩ := Prod.mk.inj (Option.some.inj hquotient)
      have hdigits : (d.mantissa : ℚ) = (d.mantissa / billion.mantissa : Nat) * 10 ^ 9 := by
        exact_mod_cast (Nat.div_mul_cancel (Nat.dvd_of_mod_eq_zero hrest)).symm
      refine ⟨?_, Nat.le_add_right _ _⟩
      rw [hdigits, mul_div_mul_right _ _ (by positivity)]
    · have hvalue := trimZeros_value d.mantissa (d.scale + step)
      have htrimmed := trimZeros_le d.mantissa (d.scale + step)
      rw [Option.some.inj hquotient] at hvalue htrimmed
      rw [← pow_add]
      exact ⟨hvalue, htrimmed.2⟩

/-- Nine places to spare are enough for an exact quotient by a billion. -/
theorem Holds.div_billion {d : Decimal} {x : ℚ} {places : Nat} (h : d.Holds x places)
    (hroom : places + step ≤ maxScale) :
    ∃ q, d.div? billion = some q ∧ q.Holds (x / 10 ^ 9) (places + step) := by
  have hscale := h.scale_le
  obtain ⟨q, hq⟩ := Option.isSome_iff_exists.1 (div?_billion_isSome (d := d) (by omega))
  obtain ⟨hmagnitude, hplaces⟩ := magnitude_div?_billion (by omega) hq
  have hsign := negative_of_div? h.sign rfl hq
  refine ⟨q, hq, hsign, ?_, by omega⟩
  rw [value_of_nonnegative hsign, hmagnitude, ← value_of_nonnegative h.sign, h.value]

end Decimal

namespace Gas

open Decimal

variable {used : Gas} {price : Wei}

/-- There is a price in gwei for a price that is a decimal, and it has nine places at most. -/
theorem exists_gwei? (h : price.toNat ≤ maxMantissa) :
    ∃ gwei, gwei? price = some gwei ∧ gwei.Holds (price.toNat / 10 ^ 9) step := by
  obtain ⟨wei, hwei, hholds⟩ := exists_ofNat? h
  obtain ⟨gwei, hgwei, hholds⟩ := hholds.div_billion (by decide)
  refine ⟨gwei, ?_, by simpa using hholds⟩
  rw [gwei?, hwei]
  exact hgwei

/-- A product that is cut off is no decimal. -/
theorem costInWei_le_iff :
    costInWei used price ≤ maxMantissa ↔ used.toNat * price.toNat ≤ maxMantissa := by
  unfold costInWei maxMantissa
  omega

theorem costInWei_of_le (h : used.toNat * price.toNat ≤ maxMantissa) :
    costInWei used price = used.toNat * price.toNat :=
  Nat.min_eq_left (h.trans (by decide))

/-- Neither of the two divisions that lead to a cost loses a digit. -/
theorem exists_cost? (h : used.toNat * price.toNat ≤ maxMantissa) :
    ∃ wei gwei cost, ofNat? (used.toNat * price.toNat) = some wei ∧ wei.div? billion = some gwei ∧
      gwei.div? billion = some cost ∧ cost? used price = some cost ∧
      gwei.value = wei.value / 10 ^ 9 ∧ cost.value = gwei.value / 10 ^ 9 ∧
      cost.value = used.toNat * price.toNat / 10 ^ 18 := by
  obtain ⟨wei, hwei, hholds⟩ := exists_ofNat? h
  obtain ⟨gwei, hgwei, hinGwei⟩ := hholds.div_billion (by decide)
  obtain ⟨cost, hcost, hinUnits⟩ := hinGwei.div_billion (by decide)
  refine ⟨wei, gwei, cost, hwei, hgwei, hcost, ?_, ?_, ?_, ?_⟩
  · rw [cost?, costInWei_of_le h, hwei]
    exact (congrArg (·.bind fun gwei => gwei.div? billion) hgwei).trans hcost
  · rw [hinGwei.value, hholds.value]
  · rw [hinUnits.value, hinGwei.value]
  · rw [hinUnits.value, div_div, ← pow_add]
    push_cast
    rfl

theorem cost?_eq_none_iff :
    cost? used price = none ↔ maxMantissa < used.toNat * price.toNat := by
  constructor
  · intro hnone
    by_contra hfits
    obtain ⟨_, _, cost, -, -, -, hcost, -⟩ := exists_cost? (Nat.le_of_not_lt hfits)
    rw [hnone] at hcost
    cases hcost
  · intro hlarge
    have hwei : ofNat? (costInWei used price) = none := by
      rw [ofNat?_eq_none_iff, ← Nat.not_le, costInWei_le_iff, Nat.not_le]
      exact hlarge
    rw [cost?, hwei]
    rfl

end Gas

/-- The gas figures of a record, whether of a success or of a failure. There is no price in gwei from
2^96 wei on, and no cost from a product of 2^96 wei on. Below that the price is the exact one; so is the
cost, which comes of the whole product by two divisions that are exact both. -/
theorem gas_figures_exact (a : TradeAnalysis) :
    (a.gwei? = none ↔ 2 ^ 96 ≤ a.effectiveGasPrice.toNat) ∧
    (∀ gwei, a.gwei? = some gwei → gwei.value = a.effectiveGasPrice.toNat / 10 ^ 9) ∧
    (a.costOfGas? = none ↔ 2 ^ 96 ≤ a.gasUsed.toNat * a.effectiveGasPrice.toNat) ∧
    ∀ cost, a.costOfGas? = some cost →
      cost.value = a.gasUsed.toNat * a.effectiveGasPrice.toNat / 10 ^ 18 ∧
      ∃ wei gwei, Decimal.ofNat? (a.gasUsed.toNat * a.effectiveGasPrice.toNat) = some wei ∧
        wei.div? .billion = some gwei ∧ gwei.div? .billion = some cost ∧
        gwei.value = wei.value / 10 ^ 9 ∧ cost.value = gwei.value / 10 ^ 9 := by
  have hlimit (n : Nat) : Decimal.maxMantissa < n ↔ 2 ^ 96 ≤ n := Iff.rfl
  rw [TradeAnalysis.gwei?, TradeAnalysis.costOfGas?, Gas.gwei?_eq_none_iff, Gas.cost?_eq_none_iff]
  refine ⟨hlimit _, fun gwei h => ?_, hlimit _, fun cost h => ?_⟩
  · have hfits : a.effectiveGasPrice.toNat ≤ Decimal.maxMantissa := by
      rw [← Nat.not_lt, ← Gas.gwei?_eq_none_iff, h]
      exact Option.some_ne_none gwei
    obtain ⟨gwei', hgwei, hholds⟩ := Gas.exists_gwei? hfits
    obtain rfl := Option.some.inj (h.symm.trans hgwei)
    exact hholds.value
  · have hfits : a.gasUsed.toNat * a.effectiveGasPrice.toNat ≤ Decimal.maxMantissa := by
      rw [← Nat.not_lt, ← Gas.cost?_eq_none_iff, h]
      exact Option.some_ne_none cost
    obtain ⟨wei, gwei, cost', hwei, hgwei, hdivided, hcost, hfirst, hsecond, hvalue⟩ :=
      Gas.exists_cost? hfits
    obtain rfl := Option.some.inj (h.symm.trans hcost)
    exact ⟨hvalue, wei, gwei, hwei, hgwei, hdivided, hfirst, hsecond⟩

/-- Three units of gas at a third of 2^96 - 1 wei, the largest cost of all: all its 29 digits are kept. -/
theorem gas_figures_of_largest_cost :
    let a : TradeAnalysis := .fail ⟨3, 26409387504754779197847983445, none⟩
    ∃ gwei cost, a.gwei? = some gwei ∧ gwei.value = 26409387504754779197847983445 / 10 ^ 9 ∧
      a.costOfGas? = some cost ∧ cost.value = 79228162514264337593543950335 / 10 ^ 18 := by
  intro a
  obtain ⟨hgwei, hprice, hcost, hproduct⟩ := gas_figures_exact a
  obtain ⟨gwei, hsome⟩ := Option.ne_none_iff_exists'.1 (mt hgwei.1 (by decide))
  obtain ⟨cost, hsome'⟩ := Option.ne_none_iff_exists'.1 (mt hcost.1 (by decide))
  obtain ⟨hvalue, -⟩ := hproduct cost hsome'
  have hused : a.gasUsed.toNat = 3 := rfl
  have hpaid : a.effectiveGasPrice.toNat = 26409387504754779197847983445 := rfl
  refine ⟨gwei, cost, hsome, ?_, hsome', ?_⟩
  · rw [hprice gwei hsome, hpaid]
    norm_num
  · rw [hvalue, hused, hpaid]
    norm_num

end DexTrade
