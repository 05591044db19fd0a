import DexTrade.Proofs.Decimal.Accuracy
import DexTrade.Proofs.Price
/-!
# Executed rates

An executed rate is there for two amounts that are decimals, a first one that is not zero and a quotient
that is not too large. Of two amounts that are no decimals the input is refused first; a zero input and a
rate that is too large are refused alike (`executed_eq_error_iff`). A rate that is there is never
negative, and differs from the exact one by no more than 10^-28 and 10^-28 of it (`executed_accurate`).
-/
namespace DexTrade.Price

variable {amountIn amountOut raw : Word} {decimalsIn decimalsOut decimals : Nat} {rate : Decimal}

/-- The amount is a decimal in human units. -/
def IsConvertible (raw : Word) (decimals : Nat) : Prop :=
  raw.toNat < 0x1000000000000000000000000 ∧ decimals ≤ 28

/-- The exact rate, output per input in human units. -/
def exactRate (amountIn : Word) (decimalsIn : Nat) (amountOut : Word) (decimalsOut : Nat) : ℚ :=
  (amountOut.toNat / 10 ^ decimalsOut) / (amountIn.toNat / 10 ^ decimalsIn)

/-! ## Amounts -/

theorem exists_amount_iff_isConvertible (raw : Word) (decimals : Nat) :
    (∃ d, amount raw decimals = .ok d) ↔ IsConvertible raw decimals := by
  have hmax : Decimal.maxMantissa + 1 = 0x1000000000000000000000000 := rfl
  have hscale : Decimal.maxScale = 28 := rfl
  rw [exists_amount_iff, IsConvertible]
  omega

/-- An amount has no other error than its own. -/
theorem amount_of_not_convertible (h : ¬IsConvertible raw decimals) :
    amount raw decimals = .error (.amountOutOfRange raw) := by
  rw [← exists_amount_iff_isConvertible] at h
  unfold amount at h ⊢
  split
  · rename_i d hmade
    rw [hmade] at h
    exact absurd ⟨d, rfl⟩ h
  · rfl

/-- An amount in human units is exact. -/
theorem value_of_amount {d : Decimal} (h : amount raw decimals = .ok d) :
    d.value = raw.toNat / 10 ^ decimals ∧ d.scale = decimals := by
  obtain ⟨hsign, hmantissa, hscale⟩ := of_amount h
  rw [Decimal.value, Decimal.signedMantissa_of_nonnegative hsign, hmantissa, hscale]
  exact ⟨rfl, rfl⟩

/-! ## Refusals -/

/-- A rate overflows from half a unit above the largest decimal on. -/
theorem overflows_iff (h : amountIn ≠ 0) :
    Overflows amountIn decimalsIn amountOut decimalsOut ↔
      (Decimal.maxMantissa : ℚ) + 1 / 2 ≤ exactRate amountIn decimalsIn amountOut decimalsOut := by
  have hin : (0 : ℚ) < amountIn.toNat := by
    have hne : amountIn.toNat ≠ 0 := fun hzero => h (BitVec.eq_of_toNat_eq hzero)
    exact_mod_cast Nat.pos_of_ne_zero hne
  have hcast : Overflows amountIn decimalsIn amountOut decimalsOut ↔
      (2 * (Decimal.maxMantissa : ℚ) + 1) * amountIn.toNat * 10 ^ decimalsOut ≤
        2 * amountOut.toNat * 10 ^ decimalsIn := by
    exact_mod_cast Iff.rfl
  rw [hcast, exactRate, div_div_div_eq, le_div_iff₀ (by positivity)]
  constructor <;> intro hle <;> linarith

theorem executed_of_amounts {input output : Decimal} (hin : amount amountIn decimalsIn = .ok input)
    (hout : amount amountOut decimalsOut = .ok output) :
    executed amountIn decimalsIn amountOut decimalsOut =
      match output.div? input with
      | some rate => .ok rate
      | none => .error (.unsupportedShape .zeroInput) := by
  unfold executed
  rw [hin, hout]
  rfl

theorem executed_of_input (h : ¬IsConvertible amountIn decimalsIn) :
    executed amountIn decimalsIn amountOut decimalsOut = .error (.amountOutOfRange amountIn) := by
  unfold executed
  rw [amount_of_not_convertible h]
  rfl

theorem executed_of_output (hin : IsConvertible amountIn decimalsIn)
    (hout : ¬IsConvertible amountOut decimalsOut) :
    executed amountIn decimalsIn amountOut decimalsOut = .error (.amountOutOfRange amountOut) := by
  obtain ⟨input, hinput⟩ := (exists_amount_iff_isConvertible _ _).2 hin
  unfold executed
  rw [hinput, amount_of_not_convertible hout]
  rfl

/-- Of amounts that are decimals no rate comes for a zero input or a rate that is too large. -/
theorem executed_of_convertible (hin : IsConvertible amountIn decimalsIn)
    (hout : IsConvertible amountOut decimalsOut) (e : TradeError) :
    executed amountIn decimalsIn amountOut decimalsOut = .error e ↔
      (amountIn = 0 ∨ Overflows amountIn decimalsIn amountOut decimalsOut) ∧
        e = .unsupportedShape .zeroInput := by
  obtain ⟨input, hinput⟩ := (exists_amount_iff_isConvertible _ _).2 hin
  obtain ⟨output, houtput⟩ := (exists_amount_iff_isConvertible _ _).2 hout
  have hthere : (∃ rate, executed amountIn decimalsIn amountOut decimalsOut = .ok rate) ↔
      ¬(amountIn = 0 ∨ Overflows amountIn decimalsIn amountOut decimalsOut) := by
    rw [exists_executed_iff, ← exists_amount_iff, ← exists_amount_iff,
      exists_amount_iff_isConvertible, exists_amount_iff_isConvertible, not_or]
    exact ⟨fun h => ⟨h.1, h.2.2.2⟩, fun h => ⟨h.1, hin, hout, h.2⟩⟩
  have hresult := executed_of_amounts hinput houtput
  cases hdivided : output.div? input with
  | some rate =>
    rw [hdivided] at hresult
    have hnone := hthere.1 ⟨rate, hresult⟩
    rw [hresult]
    exact ⟨nofun, fun h => absurd h.1 hnone⟩
  | none =>
    rw [hdivided] at hresult
    have hrefused : amountIn = 0 ∨ Overflows amountIn decimalsIn amountOut decimalsOut := by
      by_contra h
      obtain ⟨rate, hrate⟩ := hthere.2 h
      rw [hresult] at hrate
      cases hrate
    rw [hresult]
    exact ⟨fun h => ⟨hrefused, (Except.error.inj h).symm⟩, fun h => congrArg _ h.2.symm⟩

/-- The only errors of an executed rate. An input that is no decimal in human units is refused before an
output that is none; of two that are, a zero input is refused with the same error as a rate that is half
a unit above the largest decimal or more. -/
theorem executed_eq_error_iff (amountIn : Word) (decimalsIn : Nat) (amountOut : Word)
    (decimalsOut : Nat) (e : TradeError) :
    executed amountIn decimalsIn amountOut decimalsOut = .error e ↔
      ¬IsConvertible amountIn decimalsIn ∧ e = .amountOutOfRange amountIn ∨
      IsConvertible amountIn decimalsIn ∧ ¬IsConvertible amountOut decimalsOut ∧
        e = .amountOutOfRange amountOut ∨
      IsConvertible amountIn decimalsIn ∧ IsConvertible amountOut decimalsOut ∧
        (amountIn = 0 ∨ (Decimal.maxMantissa : ℚ) + 1 / 2 ≤
          exactRate amountIn decimalsIn amountOut decimalsOut) ∧
        e = .unsupportedShape .zeroInput := by
  by_cases hin : IsConvertible amountIn decimalsIn
  · by_cases hout : IsConvertible amountOut decimalsOut
    · have hlarge : amountIn = 0 ∨ Overflows amountIn decimalsIn amountOut decimalsOut ↔
          amountIn = 0 ∨ (Decimal.maxMantissa : ℚ) + 1 / 2 ≤
            exactRate amountIn decimalsIn amountOut decimalsOut :=
        or_congr_right' fun hne => overflows_iff hne
      rw [executed_of_convertible hin hout, hlarge]
      simp only [hin, hout, not_true_eq_false, false_and, true_and, false_or]
    · rw [executed_of_output hin hout]
      simp only [hin, hout, not_true_eq_false, not_false_eq_true, false_and, true_and, false_or,
        or_false, Except.error.injEq]
      exact eq_comm
  · rw [executed_of_input hin]
    simp only [hin, not_false_eq_true, false_and, true_and, or_false, Except.error.injEq]
    exact eq_comm

/-- One unit of a token with 18 decimals bought 10^17 units of one with 6. The rate is too large, but
what is reported is an input of zero. -/
theorem large_rate_reported_as_zero_input :
    executed 1 18 100000000000000000 6 = .error (.unsupportedShape .zeroInput) ∧
      (1 : Word) ≠ 0 ∧ exactRate 1 18 100000000000000000 6 = 10 ^ 29 := by
  have hin : IsConvertible 1 18 := ⟨by decide, by decide⟩
  have hout : IsConvertible 100000000000000000 6 := ⟨by decide, by decide⟩
  have hlarge : Overflows 1 18 100000000000000000 6 := by
    unfold Overflows
    decide
  refine ⟨(executed_of_convertible hin hout _).2 ⟨.inr hlarge, rfl⟩, by decide, ?_⟩
  have hone : (1 : Word).toNat = 1 := rfl
  have hbought : (100000000000000000 : Word).toNat = 10 ^ 17 := rfl
  rw [exactRate, hone, hbought]
  norm_num

/-! ## Accuracy -/

/-- An executed rate is not negative and differs from the exact one by no more than 10^-28 and 10^-28 of
it. An amount is a decimal exactly if it is below 2^96 and has 28 decimals at most, and then it is exact
and keeps them as its scale. -/
theorem executed_accurate (amountIn : Word) (decimalsIn : Nat) (amountOut : Word)
    (decimalsOut : Nat) :
    (∀ rate, executed amountIn decimalsIn amountOut decimalsOut = .ok rate →
      0 ≤ rate.value ∧ |rate.value - exactRate amountIn decimalsIn amountOut decimalsOut| ≤
        1 / 10 ^ 28 + exactRate amountIn decimalsIn amountOut decimalsOut / 10 ^ 28) ∧
    ∀ raw decimals, ((∃ d, amount raw decimals = .ok d) ↔ IsConvertible raw decimals) ∧
      ∀ d, amount raw decimals = .ok d →
        d.value = raw.toNat / 10 ^ decimals ∧ d.scale = decimals := by
  refine ⟨fun rate h => ?_, fun raw decimals =>
    ⟨exists_amount_iff_isConvertible raw decimals, fun d => value_of_amount⟩⟩
  obtain ⟨input, output, hin, hout, hrate⟩ := executed_eq_ok_iff.1 h
  obtain ⟨hinSign, -⟩ := of_amount hin
  obtain ⟨houtSign, -⟩ := of_amount hout
  have hsign := Decimal.negative_of_div? houtSign hinSign hrate
  have hexact : exactRate amountIn decimalsIn amountOut decimalsOut =
      output.magnitude / input.magnitude := by
    rw [exactRate, ← (value_of_amount hin).1, ← (value_of_amount hout).1,
      Decimal.value_of_nonnegative hinSign, Decimal.value_of_nonnegative houtSign]
  rw [hexact, Decimal.value_of_nonnegative hsign]
  exact ⟨rate.magnitude_nonneg, Decimal.magnitude_div?_close hrate⟩

/-- A rate of 7 * 10^26 / 3 takes the mantissa's last digit two places behind the point. -/
theorem rate_of_thirds :
    ∃ rate, executed 3 6 700000000000000000000 0 = .ok rate ∧
      rate.value = 23333333333333333333333333333 / 10 ^ 2 ∧
      |rate.value - 7 * 10 ^ 26 / 3| ≤ 1 / 10 ^ 28 + 7 * 10 ^ 26 / 3 / 10 ^ 28 := by
  let input : Decimal := ⟨false, 3, 6, by decide, by decide, nofun⟩
  let output : Decimal := ⟨false, 700000000000000000000, 0, by decide, by decide, nofun⟩
  let rate : Decimal := ⟨false, 23333333333333333333333333333, 2, by decide, by decide, nofun⟩
  have hdivided : output.div? input = some rate := by decide +kernel
  have hrate : executed 3 6 700000000000000000000 0 = .ok rate :=
    executed_eq_ok_iff.2 ⟨input, output, rfl, rfl, hdivided⟩
  have hexact : exactRate 3 6 700000000000000000000 0 = 7 * 10 ^ 26 / 3 := by
    have hin : (3 : Word).toNat = 3 := rfl
    have hout : (700000000000000000000 : Word).toNat = 7 * 10 ^ 20 := rfl
    rw [exactRate, hin, hout]
    norm_num
  obtain ⟨haccurate, -⟩ := executed_accurate 3 6 700000000000000000000 0
  obtain ⟨-, hclose⟩ := haccurate rate hrate
  rw [hexact] at hclose
  exact ⟨rate, hrate, rfl, hclose⟩

end DexTrade.Price
