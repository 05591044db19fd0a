import DexTrade.Proofs.Decimal.Overflow
import Mathlib.Algebra.Order.Field.Power
import Mathlib.Algebra.Order.Field.Rat
import Mathlib.Tactic.FieldSimp
import Mathlib.Tactic.Linarith
import Mathlib.Tactic.Positivity
/-!
# How close quotients are

A decimal stands for a rational number. What a division gives is within half a unit of its last place
of the exact quotient, and if it is not exact, there is no place behind that one: the scale is the
largest or the mantissa has no room for another digit (`Nearest`). So it is off by at most 10^-28, or
by at most 10^-28 of the exact quotient (`magnitude_div?_close`).
-/
namespace DexTrade.Decimal

/-- The number without its sign. -/
def magnitude (d : Decimal) : ℚ :=
  d.mantissa / 10 ^ d.scale

/-- The number that a decimal stands for. -/
def value (d : Decimal) : ℚ :=
  d.signedMantissa / 10 ^ d.scale

/-- The number that a quotient in the making stands for. -/
def Quotient.value (q : Quotient) : ℚ :=
  q.mantissa / 10 ^ q.scale

variable {dividend divisor quotient remainder places : Nat} {start scale : Int} {more : Bool}
  {result : Quotient} {exact : ℚ}

/-! ## Values -/

theorem magnitude_nonneg (d : Decimal) : 0 ≤ d.magnitude := by
  unfold magnitude
  positivity

theorem magnitude_eq_zero_iff {d : Decimal} : d.magnitude = 0 ↔ d.mantissa = 0 := by
  have hunit : (10 : ℚ) ^ d.scale ≠ 0 := by positivity
  rw [magnitude, div_eq_zero_iff, or_iff_left hunit, Nat.cast_eq_zero]

theorem value_of_nonnegative {d : Decimal} (h : d.negative = false) : d.value = d.magnitude := by
  rw [value, magnitude, signedMantissa, h]
  rfl

theorem signedMantissa_pos_iff {d : Decimal} :
    0 < d.signedMantissa ↔ d.negative = false ∧ d.mantissa ≠ 0 := by
  unfold signedMantissa
  cases d.negative with
  | true => simp
  | false => simp [Nat.pos_iff_ne_zero]

theorem value_pos_iff {d : Decimal} : 0 < d.value ↔ 0 < d.signedMantissa := by
  rw [value, div_pos_iff_of_pos_right (by positivity), Int.cast_pos]

/-! ## Rounding -/

/-- Off by half a unit of the last place at most, and exact unless there is no place behind it. -/
structure Nearest (q : Quotient) (exact : ℚ) : Prop where
  whole : 0 ≤ q.scale
  close : |q.value - exact| ≤ 1 / 2 / 10 ^ q.scale
  full : q.value = exact ∨ q.scale = maxScale ∨ maxMantissa < 10 * q.mantissa

theorem Nearest.of_exact (hwhole : 0 ≤ result.scale) (h : result.value = exact) :
    Nearest result exact := by
  refine ⟨hwhole, ?_, .inl h⟩
  rw [h, sub_self, abs_zero]
  positivity

/-- Half a unit of the last place is a half of the mantissa. -/
theorem close_iff {m x : ℚ} :
    |m / 10 ^ scale - x / 10 ^ scale| ≤ 1 / 2 / 10 ^ scale ↔ |m - x| ≤ 1 / 2 := by
  have hunit : (0 : ℚ) < 10 ^ scale := by positivity
  rw [← sub_div, abs_div, abs_of_pos hunit, div_le_div_iff_of_pos_right hunit]

theorem div_place (x : ℚ) (scale : Int) : x / 10 ^ scale = x / 10 / 10 ^ (scale - 1) := by
  have hunit : (10 : ℚ) ^ scale = 10 * 10 ^ (scale - 1) := by
    rw [zpow_sub_one₀ (by norm_num)]
    field_simp
  rw [hunit, div_div]

/-- A digit that is dropped with what stands behind it makes a difference of half a unit at most. -/
theorem nearest_dropDigit {x : ℚ} (hlarge : maxMantissa < quotient) (hlower : quotient ≤ x)
    (hupper : x < quotient + 1) (hmore : more = false → x = quotient)
    (h : dropDigit quotient scale more = some result) : Nearest result (x / 10 ^ scale) := by
  have hmax : maxMantissa = 79228162514264337593543950335 := rfl
  have hdigits : (quotient : ℚ) = 10 * (quotient / 10 : Nat) + (quotient % 10 : Nat) := by
    exact_mod_cast (Nat.div_add_mod quotient 10).symm
  unfold dropDigit at h
  split at h
  · cases h
  · obtain rfl := Option.some.inj h
    simp only [Bool.or_eq_true, Bool.and_eq_true, decide_eq_true_eq, beq_iff_eq]
    rw [div_place]
    split
    · rename_i hup
      have hfive : (5 : ℚ) ≤ (quotient % 10 : Nat) := by exact_mod_cast (by omega)
      have hnine : ((quotient % 10 : Nat) : ℚ) ≤ 9 := by exact_mod_cast (by omega)
      refine ⟨by simp only; omega, close_iff.2 ?_, .inr (.inr (by simp only; omega))⟩
      rw [abs_le]
      push_cast
      constructor <;> linarith
    · rename_i hdown
      have hsmall : quotient % 10 ≤ 5 := Nat.le_of_not_lt fun h => hdown (.inl h)
      have hhalf : x ≤ 10 * (quotient / 10 : Nat) + 5 := by
        cases more with
        | false =>
          have hfive : ((quotient % 10 : Nat) : ℚ) ≤ 5 := by exact_mod_cast hsmall
          linarith [hmore rfl]
        | true =>
          have hfive : quotient % 10 ≠ 5 := fun h => hdown (.inr ⟨h, .inl rfl⟩)
          have hfour : ((quotient % 10 : Nat) : ℚ) ≤ 4 := by exact_mod_cast (by omega)
          linarith
      have hkept : maxMantissa < 10 * (quotient / 10) := by omega
      have hdigit : (0 : ℚ) ≤ (quotient % 10 : Nat) := Nat.cast_nonneg _
      refine ⟨by simp only; omega, close_iff.2 ?_, .inr (.inr hkept)⟩
      rw [abs_le]
      constructor <;> linarith

/-- What rounding up the largest mantissa leads to. -/
theorem dropDigit_of_largest (scale : Int) :
    dropDigit (maxMantissa + 1) scale true =
      if scale ≤ 0 then none else some ⟨7922816251426433759354395034, scale - 1, true⟩ :=
  rfl

/-- What follows the last digit is rounded to nearest. -/
theorem nearest_roundLast (hfits : quotient ≤ maxMantissa) (hwhole : 0 ≤ scale)
    (hfull : scale = maxScale ∨ maxMantissa < 10 * quotient) (hremainder : remainder < divisor)
    (h : roundLast quotient remainder divisor scale = some result) :
    Nearest result ((quotient + remainder / divisor) / 10 ^ scale) := by
  have hdivisor : (0 : ℚ) < divisor := by exact_mod_cast Nat.zero_lt_of_lt hremainder
  have hfraction : (0 : ℚ) ≤ remainder / divisor := by positivity
  have hpart : (remainder : ℚ) / divisor < 1 := by
    rw [div_lt_one hdivisor]
    exact_mod_cast hremainder
  unfold roundLast at h
  simp only [Bool.or_eq_true, Bool.and_eq_true, decide_eq_true_eq, beq_iff_eq] at h
  split at h
  · rename_i hup
    have hhalf : (1 / 2 : ℚ) ≤ remainder / divisor := by
      rw [div_le_div_iff₀ (by norm_num) hdivisor]
      exact_mod_cast (by omega)
    split at h
    · rename_i hlast
      obtain rfl : quotient = maxMantissa := by omega
      have hmax : (maxMantissa : ℚ) = 79228162514264337593543950335 := rfl
      rw [dropDigit_of_largest] at h
      split at h
      · cases h
      · obtain rfl := Option.some.inj h
        rw [div_place]
        refine ⟨by simp only; omega, close_iff.2 ?_, .inr (.inr (by simp only; decide))⟩
        rw [hmax, abs_le]
        push_cast
        constructor <;> linarith
    · obtain rfl := Option.some.inj h
      refine ⟨hwhole, close_iff.2 ?_, .inr ?_⟩
      · rw [abs_le]
        push_cast
        constructor <;> linarith
      · exact hfull.imp id fun h => by simp only; omega
  · rename_i hdown
    obtain rfl := Option.some.inj h
    have hhalf : (remainder : ℚ) / divisor ≤ 1 / 2 := by
      rw [div_le_div_iff₀ hdivisor (by norm_num)]
      exact_mod_cast (by omega)
    refine ⟨hwhole, close_iff.2 ?_, .inr hfull⟩
    rw [abs_le]
    constructor <;> linarith

theorem full_of_room (hfits : quotient ≤ maxMantissa) (hscale : scale ≤ maxScale)
    (hroom : room quotient scale = 0) : scale = maxScale ∨ maxMantissa < 10 * quotient := by
  obtain ⟨-, -, -, hfull⟩ := room_spec hfits hscale
  rw [hroom] at hfull
  by_cases hlast : scale = maxScale
  · exact .inl hlast
  · have hnext := hfull (by decide) (by omega)
    rw [Nat.mul_comm] at hnext
    exact .inr hnext

/-- The places that a division took in do not change what is divided. -/
theorem Growing.exact_eq (h : Growing dividend divisor start quotient remainder scale places) :
    (dividend : ℚ) / divisor / 10 ^ start = (quotient + remainder / divisor) / 10 ^ scale := by
  have hdivisor : (divisor : ℚ) ≠ 0 := by
    have := h.below
    exact_mod_cast (by omega)
  have hvalue : (quotient : ℚ) * divisor + remainder = dividend * 10 ^ places := by
    exact_mod_cast h.value
  rw [h.scale_eq, zpow_add₀ (by norm_num), zpow_natCast]
  field_simp
  linarith

theorem nearest_of_ends (h : Growing dividend divisor start quotient remainder scale places)
    (hend : Ends divisor quotient remainder scale result) :
    Nearest result (dividend / divisor / 10 ^ start) := by
  rw [h.exact_eq]
  have hbelow := h.below
  have hdivisor : (0 : ℚ) < divisor := by exact_mod_cast Nat.zero_lt_of_lt hbelow
  cases hend with
  | exact hnothing hwhole hmantissa hscale =>
    refine .of_exact (hscale ▸ hwhole) ?_
    rw [Quotient.value, hmantissa, hscale, hnothing]
    simp
  | rounded hfits hwhole hroom hresult =>
    exact nearest_roundLast hfits hwhole (full_of_room hfits h.within hroom) hbelow hresult
  | overflowed hlarge hresult =>
    refine nearest_dropDigit hlarge ?_ ?_ ?_ hresult
    · have hfraction : (0 : ℚ) ≤ remainder / divisor := by positivity
      linarith
    · have hpart : (remainder : ℚ) / divisor < 1 := by
        rw [div_lt_one hdivisor]
        exact_mod_cast hbelow
      linarith
    · intro hnothing
      have hzero : remainder = 0 := by simpa using hnothing
      rw [hzero]
      simp

/-! ## The error of a quotient -/

/-- Half a unit of the last place is at most 10^-28, or at most 10^-28 of the exact quotient. -/
theorem Nearest.error_le (h : Nearest result exact) (hexact : 0 ≤ exact) :
    |result.value - exact| ≤ 1 / 10 ^ 28 + exact / 10 ^ 28 := by
  obtain ⟨hwhole, hclose, hfull⟩ := h
  have hpart : 0 ≤ exact / 10 ^ 28 := by positivity
  rcases hfull with hvalue | hlast | hlarge
  · rw [hvalue, sub_self, abs_zero]
    positivity
  · have hunit : (10 : ℚ) ^ result.scale = 10 ^ 28 := by
      rw [hlast]
      exact zpow_natCast 10 28
    rw [hunit] at hclose
    linarith
  · -- the exact quotient is hardly less than the mantissa, of which half a unit is a small part
    have hmantissa : (10 : ℚ) ^ 28 + 1 ≤ 2 * result.mantissa := by
      have hmax : maxMantissa = 79228162514264337593543950335 := rfl
      exact_mod_cast (by omega)
    have hunit : (0 : ℚ) < 1 / 2 / 10 ^ result.scale := by positivity
    have hvalue : result.value = 2 * result.mantissa * (1 / 2 / 10 ^ result.scale) := by
      rw [Quotient.value]
      field_simp
    have hsmall := mul_le_mul_of_nonneg_right hmantissa hunit.le
    have hbelow := (abs_le.1 hclose).2
    linarith

/-! ## Zeros at the end -/

theorem dropZeros_value (places mantissa scale : Nat) :
    ((dropZeros places mantissa scale).1 : ℚ) / 10 ^ (dropZeros places mantissa scale).2 =
      mantissa / 10 ^ scale := by
  unfold dropZeros
  split
  · rename_i hzeros
    have hmantissa : (mantissa : ℚ) = (mantissa / Nat.pow 10 places : Nat) * 10 ^ places := by
      exact_mod_cast (Nat.div_mul_cancel (Nat.dvd_of_mod_eq_zero hzeros.2)).symm
    have hscale : (10 : ℚ) ^ scale = 10 ^ (scale - places) * 10 ^ places := by
      rw [← pow_add, Nat.sub_add_cancel hzeros.1]
    rw [hmantissa, hscale, mul_div_mul_right _ _ (by positivity)]
  · rfl

theorem dropEights_value (turns mantissa scale : Nat) :
    ((dropEights turns mantissa scale).1 : ℚ) / 10 ^ (dropEights turns mantissa scale).2 =
      mantissa / 10 ^ scale := by
  induction turns generalizing mantissa scale with
  | zero => rfl
  | succ turns ih =>
    unfold dropEights
    split
    · rename_i hzeros
      have hdropped : dropZeros 8 mantissa scale = (mantissa / 100000000, scale - 8) :=
        if_pos ⟨hzeros.2.1, hzeros.2.2⟩
      rw [ih, ← dropZeros_value 8 mantissa scale, hdropped]
    · rfl

/-- Zeros at the end make no difference to the number. -/
theorem trimZeros_value (mantissa scale : Nat) :
    ((trimZeros mantissa scale).1 : ℚ) / 10 ^ (trimZeros mantissa scale).2 =
      mantissa / 10 ^ scale := by
  unfold trimZeros
  simp only [dropZeros_value, dropEights_value]

/-! ## Divisions -/

theorem magnitude_of_make? {negative : Bool} {mantissa scale : Nat} {d : Decimal}
    (h : make? negative mantissa scale = some d) : d.magnitude = mantissa / 10 ^ scale := by
  rw [magnitude, (mantissa_of_make? h).1, scale_of_make? h]

theorem magnitude_div (a b : Decimal) :
    a.magnitude / b.magnitude = a.mantissa / b.mantissa / 10 ^ (a.scale - b.scale : Int) := by
  rw [zpow_sub₀ (by norm_num), zpow_natCast, zpow_natCast, magnitude, magnitude]
  field_simp

theorem Quotient.value_of_whole {q : Quotient} (h : 0 ≤ q.scale) :
    q.value = q.mantissa / 10 ^ q.scale.toNat := by
  rw [value, ← zpow_natCast, Int.toNat_of_nonneg h]

/-- What is divided is the number nearest the exact quotient, with zeros at its end taken off. -/
theorem exists_nearest_of_div? {a b d : Decimal} (h : a.div? b = some d) :
    ∃ q, Nearest q (a.magnitude / b.magnitude) ∧ d.magnitude = q.value := by
  unfold div? at h
  rw [Option.bind_eq_some_iff] at h
  obtain ⟨⟨mantissa, scale⟩, hquotient, hmake⟩ := h
  rw [magnitude_of_make? hmake]
  unfold quotient? at hquotient
  split at hquotient
  · cases hquotient
  · rename_i hdivisor
    split at hquotient
    · rename_i hdividend
      obtain ⟨rfl, rfl⟩ := Prod.mk.inj (Option.some.inj hquotient)
      exact ⟨⟨0, 0, false⟩, .of_exact (Int.le_refl 0) (by simp [Quotient.value, magnitude, hdividend]),
        by simp [Quotient.value]⟩
    · rw [Option.map_eq_some_iff] at hquotient
      obtain ⟨q, hgrow, hpair⟩ := hquotient
      obtain ⟨_, _, _, _, hgrowing, hends⟩ := grow_ends_of_start hdivisor hgrow
      have hnearest := nearest_of_ends hgrowing hends
      rw [← magnitude_div] at hnearest
      refine ⟨q, hnearest, ?_⟩
      rw [Quotient.value_of_whole hnearest.whole]
      split at hpair
      · have htrimmed := trimZeros_value q.mantissa q.scale.toNat
        rwa [hpair] at htrimmed
      · obtain ⟨rfl, rfl⟩ := Prod.mk.inj hpair
        rfl

/-- A quotient is off by 10^-28 and 10^-28 of the exact quotient at most. -/
theorem magnitude_div?_close {a b d : Decimal} (h : a.div? b = some d) :
    |d.magnitude - a.magnitude / b.magnitude| ≤
      1 / 10 ^ 28 + a.magnitude / b.magnitude / 10 ^ 28 := by
  obtain ⟨q, hnearest, hvalue⟩ := exists_nearest_of_div? h
  rw [hvalue]
  exact hnearest.error_le (div_nonneg a.magnitude_nonneg b.magnitude_nonneg)

end DexTrade.Decimal
