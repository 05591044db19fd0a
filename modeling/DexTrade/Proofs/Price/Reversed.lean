import DexTrade.Proofs.Analysis.Errors
import DexTrade.Proofs.Price.Executed
/-!
# Reversed prices

A reversed price is the inverse of the price at hand. Every positive decimal has an inverse, but nothing
is left of it at the largest scale if the price is 2 * 10^28 or more: it is zero then, and positive
otherwise (`exists_inverse`, `reversed_price`).
-/
namespace DexTrade

namespace Decimal

/-- The inverse of a positive decimal is never too large, but there may be nothing left of it. -/
theorem exists_inverse {price : Decimal} (h : 0 < price.value) :
    ∃ inverse, one.div? price = some inverse ∧ 0 ≤ inverse.value ∧
      (inverse.value = 0 ↔ 2 * 10 ^ 28 ≤ price.value) := by
  obtain ⟨hsign, hmantissa⟩ := signedMantissa_pos_iff.1 (value_pos_iff.1 h)
  have hsmall : ¬(2 * maxMantissa + 1) * price.mantissa * Nat.pow 10 one.scale ≤
      2 * one.mantissa * Nat.pow 10 price.scale := by
    have hpower : Nat.pow 10 price.scale ≤ Nat.pow 10 28 :=
      Nat.pow_le_pow_right (by decide) price.scale_le
    have hmax : 2 * Nat.pow 10 28 < 2 * maxMantissa + 1 := by decide
    have hone := Nat.le_mul_of_pos_right (2 * maxMantissa + 1) (Nat.pos_of_ne_zero hmantissa)
    change ¬_ * 1 ≤ 2 * 1 * _
    omega
  have hsome : one.div? price ≠ none := fun hnone =>
    (div?_eq_none_iff.1 hnone).elim hmantissa hsmall
  obtain ⟨inverse, hinverse⟩ := Option.ne_none_iff_exists'.1 hsome
  have hpositive := negative_of_div? rfl hsign hinverse
  have hzero : 2 * one.mantissa * Nat.pow 10 (maxScale + price.scale) ≤
      price.mantissa * Nat.pow 10 one.scale ↔ (2 * 10 ^ 28 : ℚ) ≤ price.value := by
    have hunits : (2 * 10 ^ 28 : ℚ) * 10 ^ price.scale = 2 * 10 ^ (28 + price.scale) := by
      rw [mul_assoc, ← pow_add]
    rw [value_of_nonnegative hsign, magnitude, le_div_iff₀ (by positivity), hunits]
    change 2 * 1 * 10 ^ (28 + price.scale) ≤ price.mantissa * 1 ↔ _
    rw [mul_one, mul_one]
    exact_mod_cast Iff.rfl
  refine ⟨inverse, hinverse, ?_, ?_⟩
  · rw [value_of_nonnegative hpositive]
    exact inverse.magnitude_nonneg
  · rw [value_of_nonnegative hpositive, magnitude_eq_zero_iff, mantissa_div?_eq_zero_iff hinverse,
      hzero]

end Decimal

namespace Pool

variable {p : Pool} {tick : Int}

/-- A tick refused in one direction is refused in the other. -/
theorem price_reversed_of_error {e : TradeError} (h : p.price tick false = .error e) :
    p.price tick true = .error e := by
  unfold price at h ⊢
  cases hforward : Price.ofTick tick p.token0.decimals p.token1.decimals with
  | error _ =>
    rw [hforward] at h
    exact h
  | ok _ =>
    rw [hforward] at h
    cases h

theorem price_reversed_of_inverse {price inverse : Decimal} (h : p.price tick false = .ok price)
    (hinverse : Decimal.one.div? price = some inverse) : p.price tick true = .ok inverse := by
  unfold Pool.price at h ⊢
  cases hforward : Price.ofTick tick p.token0.decimals p.token1.decimals with
  | error _ =>
    rw [hforward] at h
    cases h
  | ok forward =>
    rw [hforward] at h
    obtain rfl : forward = price := Except.ok.inj h
    simp only [Except.bind, bind, if_true, hinverse]
    rfl

end Pool

/-- Every positive price of a record can be reversed, and every price of a pool; what comes of it is
never negative, and zero exactly if the price is 2 * 10^28 or more. A pool without a price at a tick has
no reversed one either, for the same reason. -/
theorem reversed_price (t : TradeSuccess) (p : Pool) (tick : Int) :
    (0 < t.price.value →
      ∃ reversed, t.humanPrice? true = some reversed ∧ 0 ≤ reversed.value ∧
        (reversed.value = 0 ↔ 2 * 10 ^ 28 ≤ t.price.value)) ∧
    ((p.price tick false = .error (.priceOutOfRange tick) ∧
        p.price tick true = .error (.priceOutOfRange tick)) ∨
      ∃ price reversed, p.price tick false = .ok price ∧ p.price tick true = .ok reversed ∧
        0 < price.value ∧ 0 ≤ reversed.value ∧
        (reversed.value = 0 ↔ 2 * 10 ^ 28 ≤ price.value)) := by
  refine ⟨fun h => Decimal.exists_inverse h, ?_⟩
  cases hprice : p.price tick false with
  | error e =>
    obtain rfl := Analysis.outOfRange_of_price p tick e hprice
    exact .inl ⟨rfl, Pool.price_reversed_of_error hprice⟩
  | ok price =>
    have hpositive : 0 < price.value := Decimal.value_pos_iff.2 (p.price_pos hprice)
    obtain ⟨inverse, hinverse, hsign, hzero⟩ := Decimal.exists_inverse hpositive
    exact .inr ⟨price, inverse, rfl, Pool.price_reversed_of_inverse hprice hinverse, hpositive, hsign,
      hzero⟩

/-- The reversed price of a record at a price of 0.00031 is positive, and so is that of a pool at tick 0. -/
theorem reversed_price_of_small_price :
    let token0 : Token := ⟨⟨0x4200⟩, 18, none⟩
    let token1 : Token := ⟨⟨0x8335⟩, 18, none⟩
    let p : Pool := ⟨⟨0xd0b5⟩, token0, token1, 500⟩
    let price : Decimal := ⟨false, 31, 5, by decide, by decide, nofun⟩
    let t : TradeSuccess :=
      ⟨150000, 2500000000, [token0.address, token1.address], 10000000000, 0, 3100000, price, 18, 18,
        token0.address, token1.address, 0.5⟩
    (∃ reversed, t.humanPrice? true = some reversed ∧ 0 < reversed.value) ∧
      ∃ reversed, p.price 0 true = .ok reversed ∧ 0 < reversed.value := by
  intro token0 token1 p price t
  have hsign : 0 < price.value := Decimal.value_pos_iff.2 (by decide)
  have hsmall : ¬(2 * 10 ^ 28 : ℚ) ≤ price.value := by
    have hvalue : price.value = 31 / 10 ^ 5 := rfl
    rw [hvalue]
    norm_num
  have hone : p.price 0 false = .ok Decimal.one := by decide +kernel
  have honeSmall : ¬(2 * 10 ^ 28 : ℚ) ≤ Decimal.one.value := by
    have hvalue : Decimal.one.value = 1 / 10 ^ 0 := rfl
    rw [hvalue]
    norm_num
  obtain ⟨hrecord, hpool⟩ := reversed_price t p 0
  constructor
  · obtain ⟨reversed, hreversed, hnonnegative, hzero⟩ := hrecord hsign
    exact ⟨reversed, hreversed, lt_of_le_of_ne hnonnegative (Ne.symm (mt hzero.1 hsmall))⟩
  · rcases hpool with ⟨herror, -⟩ | ⟨forward, reversed, hforward, hreversed, -, hnonnegative, hzero⟩
    · rw [hone] at herror
      cases herror
    · obtain rfl : Decimal.one = forward := Except.ok.inj (hone.symm.trans hforward)
      exact ⟨reversed, hreversed, lt_of_le_of_ne hnonnegative (Ne.symm (mt hzero.1 honeSmall))⟩

/-- At tick 664000 one token with 18 decimals is worth more than 6 * 10^28 of another. Nothing is left of
the inverse, neither in the pool nor in a record with that price. -/
theorem nothing_left_of_reversed_price :
    let token0 : Token := ⟨⟨0x4200⟩, 18, none⟩
    let token1 : Token := ⟨⟨0x8335⟩, 18, none⟩
    let p : Pool := ⟨⟨0xd0b5⟩, token0, token1, 500⟩
    let price : Decimal := ⟨false, 68503354197504039277358481408, 0, by decide, by decide, nofun⟩
    let t : TradeSuccess :=
      ⟨150000, 2500000000, [token0.address, token1.address], 1, 0, 68000000000000000000000000000,
        price, 18, 18, token0.address, token1.address, 0.5⟩
    p.price 664000 false = .ok price ∧ 0 < price.value ∧
      ∃ reversed, p.price 664000 true = .ok reversed ∧ t.humanPrice? true = some reversed ∧
        reversed.value = 0 := by
  intro token0 token1 p price t
  have hprice : p.price 664000 false = .ok price := by decide +kernel
  have hsign : 0 < price.value := Decimal.value_pos_iff.2 (by decide)
  have hlarge : (2 * 10 ^ 28 : ℚ) ≤ price.value := by
    have hvalue : price.value = 68503354197504039277358481408 / 10 ^ 0 := rfl
    rw [hvalue]
    norm_num
  obtain ⟨reversed, hreversed, -, hzero⟩ := Decimal.exists_inverse hsign
  exact ⟨hprice, hsign, reversed, Pool.price_reversed_of_inverse hprice hreversed, hreversed,
    hzero.2 hlarge⟩

end DexTrade
