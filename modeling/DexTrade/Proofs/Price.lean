import DexTrade.Pool.Details
import DexTrade.Proofs.Decimal.Overflow
/-!
# Signs and range of prices

A tick price is taken only from a positive floating-point number and only if some digit of it is
left, so it is positive. An executed rate is a quotient of decimals: never negative, and zero if
nothing of it is left at the largest scale (`executed_sign`, `ofTick_pos`). It is there if both amounts
are decimals, the input is not zero and the quotient is not too large (`exists_executed_iff`).
-/
namespace DexTrade

/-! ## Floating-point numbers with a sign -/

namespace Binary64

open Float.Model Float.Model.UnpackedFloat

theorem sign_of_le {bits : BitVec 64} (h : 0x8000000000000000 ≤ bits.toNat) :
    Sign.ofBitVec (@unpackSign Format.binary64 bits) = .negative := by
  have hbit : @unpackSign Format.binary64 bits = 1#1 := by
    have hbits := bits.isLt
    unfold unpackSign
    apply BitVec.eq_of_toNat_eq
    simp [Nat.shiftRight_eq_div_pow]
    omega
  rw [hbit]
  rfl

/-- A finite number with a sign is negative, or zero with a sign. -/
theorem le_zero_of_unpack {bits : BitVec 64} (h : 0x8000000000000000 ≤ bits.toNat)
    (hfinite : (UnpackedFloat.unpack Format.binary64 bits).isFinite = true) :
    (UnpackedFloat.unpack Format.binary64 bits).le (.zero .positive) = true := by
  unfold UnpackedFloat.unpack at hfinite ⊢
  dsimp only at hfinite ⊢
  rw [sign_of_le h] at hfinite ⊢
  by_cases hlargest : @unpackExponent Format.binary64 bits = -1#_
  · rw [if_pos hlargest] at hfinite
    by_cases hmantissa : @unpackMantissa Format.binary64 bits = 0#_
    · rw [if_pos hmantissa] at hfinite
      cases hfinite
    · rw [if_neg hmantissa] at hfinite
      cases hfinite
  · rw [if_neg hlargest]
    by_cases hleast : @unpackExponent Format.binary64 bits = 0#_
    · rw [if_pos hleast]
      by_cases hmantissa : @unpackMantissa Format.binary64 bits = 0#_
      · rw [dif_pos hmantissa]
        rfl
      · rw [dif_neg hmantissa]
        rfl
    · rw [if_neg hleast]
      rfl

theorem le_zero_of_sign {x : Float} (hfinite : x.isFinite = true)
    (h : 0x8000000000000000 ≤ x.toBits.toNat) : x ≤ 0.0 := by
  have hzero : (0.0 : Float).toModel.unpack = .zero .positive := rfl
  have hle : x.toModel.unpack.le (0.0 : Float).toModel.unpack = true := by
    rw [hzero]
    exact le_zero_of_unpack h hfinite
  exact decide_eq_true hle

theorem negative_of_read {x : Float} {negative atBinade : Bool} {mantissa : Nat} {exponent : Int}
    (h : read x = .finite negative mantissa exponent atBinade) :
    negative = decide (0x8000000000000000 ≤ x.toBits.toNat) := by
  unfold read at h
  simp only at h
  split at h
  · split at h
    · cases h
    · cases h
  · split at h
    · exact (Reading.finite.inj h).1.symm
    · exact (Reading.finite.inj h).1.symm

end Binary64

/-! ## Signs of decimals -/

namespace Decimal

theorem signedMantissa_of_nonnegative {d : Decimal} (h : d.negative = false) :
    d.signedMantissa = d.mantissa := by
  rw [signedMantissa, h]
  rfl

theorem negative_of_ofBinary? {mantissa : Nat} {exponent : Int} {d : Decimal}
    (h : ofBinary? false mantissa exponent = some d) : d.negative = false := by
  have hmade {lifted : Option Scaled} {places : Scaled → Nat} {placed : Scaled → Scaled}
      (h : (lifted.bind fun s => (multiplyOut s.tens.toNat s).bind fun whole =>
        make? false (placed whole).mantissa (places whole)) = some d) : d.negative = false := by
    simp only [Option.bind_eq_some_iff] at h
    obtain ⟨_, -, _, -, hmake⟩ := h
    rw [(mantissa_of_make? hmake).2, Bool.false_and]
  unfold ofBinary? at h
  split at h
  · exact hmade h
  · exact hmade h

/-- The decimal of a positive number has no sign. -/
theorem negative_of_ofFloat? {x : Float} {d : Decimal} (hfinite : x.isFinite = true)
    (hpositive : ¬x ≤ 0.0) (h : ofFloat? x = some d) : d.negative = false := by
  unfold ofFloat? at h
  split at h
  · rename_i negative mantissa exponent atBinade hread
    have hsign : negative = false := by
      rw [Binary64.negative_of_read hread]
      exact decide_eq_false fun hle => hpositive (Binary64.le_zero_of_sign hfinite hle)
    subst hsign
    exact negative_of_ofBinary? h
  · cases h

theorem negative_of_div? {a b d : Decimal} (ha : a.negative = false) (hb : b.negative = false)
    (h : a.div? b = some d) : d.negative = false := by
  unfold div? at h
  rw [Option.bind_eq_some_iff] at h
  obtain ⟨_, -, hmake⟩ := h
  rw [(mantissa_of_make? hmake).2, ha, hb]
  rfl

end Decimal

/-! ## Prices -/

namespace Price

theorem ofTick_pos {tick : Int} {decimals0 decimals1 : Nat} {price : Decimal}
    (h : ofTick tick decimals0 decimals1 = .ok price) : 0 < price.signedMantissa := by
  unfold ofTick at h
  simp only at h
  split at h
  · cases h
  · rename_i hrange
    rw [not_or, not_not] at hrange
    split at h
    · rename_i d hdecimal
      split at h
      · cases h
      · rename_i hdigit
        obtain rfl : d = price := Except.ok.inj h
        have hmantissa : d.mantissa ≠ 0 := by simpa [Decimal.isZero] using hdigit
        rw [Decimal.signedMantissa_of_nonnegative
          (Decimal.negative_of_ofFloat? hrange.1 hrange.2 hdecimal)]
        omega
    · cases h

theorem of_amount {raw : Word} {decimals : Nat} {d : Decimal} (h : amount raw decimals = .ok d) :
    d.negative = false ∧ d.mantissa = raw.toNat ∧ d.scale = decimals := by
  unfold amount at h
  split at h
  · rename_i d' hmake
    obtain rfl : d' = d := Except.ok.inj h
    obtain ⟨hmantissa, hnegative⟩ := Decimal.mantissa_of_make? hmake
    exact ⟨by rw [hnegative, Bool.false_and], hmantissa, Decimal.scale_of_make? hmake⟩
  · cases h

/-- The exact rate, output per input, is at most half of the smallest decimal. -/
def Vanishes (amountIn : Word) (decimalsIn : Nat) (amountOut : Word) (decimalsOut : Nat) : Prop :=
  2 * amountOut.toNat * Nat.pow 10 (Decimal.maxScale + decimalsIn) ≤
    amountIn.toNat * Nat.pow 10 decimalsOut

/-- An executed rate is the quotient of both amounts in human units. -/
theorem executed_eq_ok_iff {amountIn amountOut : Word} {decimalsIn decimalsOut : Nat}
    {rate : Decimal} :
    executed amountIn decimalsIn amountOut decimalsOut = .ok rate ↔
      ∃ input output, amount amountIn decimalsIn = .ok input ∧
        amount amountOut decimalsOut = .ok output ∧ output.div? input = some rate := by
  unfold executed
  cases amount amountIn decimalsIn with
  | error e => simp [bind, Except.bind]
  | ok input =>
    cases amount amountOut decimalsOut with
    | error e => simp [bind, Except.bind]
    | ok output =>
      cases hrate : output.div? input with
      | none => simp [bind, Except.bind, hrate]
      | some quotient => simp [bind, Except.bind, pure, Except.pure, hrate]

theorem executed_sign {amountIn amountOut : Word} {decimalsIn decimalsOut : Nat} {rate : Decimal}
    (h : executed amountIn decimalsIn amountOut decimalsOut = .ok rate) :
    0 ≤ rate.signedMantissa ∧
      (rate.signedMantissa = 0 ↔ Vanishes amountIn decimalsIn amountOut decimalsOut) := by
  obtain ⟨input, output, hin, hout, hrate⟩ := executed_eq_ok_iff.1 h
  obtain ⟨hinSign, hinMantissa, hinScale⟩ := of_amount hin
  obtain ⟨houtSign, houtMantissa, houtScale⟩ := of_amount hout
  have hzero := Decimal.mantissa_div?_eq_zero_iff hrate
  rw [hinMantissa, hinScale, houtMantissa, houtScale] at hzero
  rw [Decimal.signedMantissa_of_nonnegative (Decimal.negative_of_div? houtSign hinSign hrate)]
  exact ⟨Int.natCast_nonneg _, Int.natCast_eq_zero.trans hzero⟩

/-! ## Range -/

theorem exists_amount_iff (raw : Word) (decimals : Nat) :
    (∃ d, amount raw decimals = .ok d) ↔
      raw.toNat ≤ Decimal.maxMantissa ∧ decimals ≤ Decimal.maxScale := by
  have hrange := Decimal.make?_eq_none_iff false raw.toNat decimals
  unfold amount
  cases hmade : Decimal.make? false raw.toNat decimals with
  | none =>
    have houtside := hrange.1 hmade
    simp only [reduceCtorEq, exists_false, false_iff]
    omega
  | some d =>
    have hinside := mt hrange.2 (hmade ▸ Option.some_ne_none d)
    simp only [Except.ok.injEq, exists_eq', true_iff]
    omega

/-- The exact rate, output per input, is at least half a unit above the largest mantissa. -/
def Overflows (amountIn : Word) (decimalsIn : Nat) (amountOut : Word) (decimalsOut : Nat) : Prop :=
  (2 * Decimal.maxMantissa + 1) * amountIn.toNat * Nat.pow 10 decimalsOut ≤
    2 * amountOut.toNat * Nat.pow 10 decimalsIn

theorem exists_executed_iff (amountIn : Word) (decimalsIn : Nat) (amountOut : Word)
    (decimalsOut : Nat) :
    (∃ rate, executed amountIn decimalsIn amountOut decimalsOut = .ok rate) ↔
      amountIn ≠ 0 ∧
      (amountIn.toNat ≤ Decimal.maxMantissa ∧ decimalsIn ≤ Decimal.maxScale) ∧
      (amountOut.toNat ≤ Decimal.maxMantissa ∧ decimalsOut ≤ Decimal.maxScale) ∧
      ¬Overflows amountIn decimalsIn amountOut decimalsOut := by
  rw [← exists_amount_iff, ← exists_amount_iff]
  have hdivisible {input output : Decimal} (hin : amount amountIn decimalsIn = .ok input)
      (hout : amount amountOut decimalsOut = .ok output) :
      (∃ rate, output.div? input = some rate) ↔
        amountIn ≠ 0 ∧ ¬Overflows amountIn decimalsIn amountOut decimalsOut := by
    obtain ⟨-, hinMantissa, hinScale⟩ := of_amount hin
    obtain ⟨-, houtMantissa, houtScale⟩ := of_amount hout
    have hnone := Decimal.div?_eq_none_iff (a := output) (b := input)
    rw [hinMantissa, hinScale, houtMantissa, houtScale] at hnone
    have hzero : amountIn = 0 ↔ amountIn.toNat = 0 := (BitVec.toNat_eq (y := 0)).trans Iff.rfl
    rw [← Option.isSome_iff_exists, Option.isSome_iff_ne_none, Ne, hnone, not_or, ← hzero]
    rfl
  constructor
  · rintro ⟨rate, hrate⟩
    obtain ⟨input, output, hin, hout, hquotient⟩ := executed_eq_ok_iff.1 hrate
    obtain ⟨hne, hrange⟩ := (hdivisible hin hout).1 ⟨rate, hquotient⟩
    exact ⟨hne, ⟨input, hin⟩, ⟨output, hout⟩, hrange⟩
  · rintro ⟨hne, ⟨input, hin⟩, ⟨output, hout⟩, hrange⟩
    obtain ⟨rate, hquotient⟩ := (hdivisible hin hout).2 ⟨hne, hrange⟩
    exact ⟨rate, executed_eq_ok_iff.2 ⟨input, output, hin, hout, hquotient⟩⟩

end Price

/-- A pool's price is never zero. -/
theorem Pool.price_pos {p : Pool} {tick : Int} {price : Decimal}
    (h : p.price tick false = .ok price) : 0 < price.signedMantissa := by
  unfold Pool.price at h
  cases hprice : Price.ofTick tick p.token0.decimals p.token1.decimals with
  | error e =>
    rw [hprice] at h
    cases h
  | ok price' =>
    rw [hprice] at h
    obtain rfl : price' = price := Except.ok.inj h
    exact Price.ofTick_pos hprice

end DexTrade
