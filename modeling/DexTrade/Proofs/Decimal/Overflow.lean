import DexTrade.Proofs.Decimal.Division
/-!
# Quotients that are too large

A quotient is no decimal exactly if it lies half a unit or more above the largest mantissa, since half
a unit above is rounded up to the even neighbour (`div?_eq_none_iff`). A turn of the division takes in
digits without changing what number is in the making, so each turn either settles this question or
hands it on (`settles_grow`).
-/
namespace DexTrade.Decimal

variable {numerator divisor quotient remainder p turns : Nat} {scale : Int} {inexact more : Bool}

/-! ## The number in the making -/

/-- The number `numerator / divisor / 10 ^ scale` is at least half a unit above the largest mantissa. -/
def TooLarge (numerator divisor : Nat) (scale : Int) : Prop :=
  (2 * maxMantissa + 1) * divisor * Nat.pow 10 scale.toNat ≤
    2 * numerator * Nat.pow 10 (-scale).toNat

theorem half_above (divisor : Nat) :
    (2 * maxMantissa + 1) * divisor = 2 * (maxMantissa * divisor) + divisor := by
  rw [Nat.add_mul, Nat.mul_assoc, Nat.one_mul]

/-- A scale may be split in any way. -/
theorem tooLarge_sub_iff (above below : Nat) :
    TooLarge numerator divisor (above - below : Int) ↔
      (2 * maxMantissa + 1) * divisor * Nat.pow 10 above ≤ 2 * numerator * Nat.pow 10 below := by
  have hsplit : ∃ common, above = (above - below : Int).toNat + common ∧
      below = (-(above - below : Int)).toNat + common :=
    ⟨min above below, by omega, by omega⟩
  obtain ⟨common, habove, hbelow⟩ := hsplit
  have hpositive : 0 < Nat.pow 10 common := Nat.pow_pos (by decide)
  have hpow (m : Nat) : Nat.pow 10 (m + common) = Nat.pow 10 m * Nat.pow 10 common :=
    Nat.pow_add 10 m common
  unfold TooLarge
  rw [← Nat.mul_le_mul_right_iff hpositive, Nat.mul_assoc _ (Nat.pow 10 _) (Nat.pow 10 common),
    Nat.mul_assoc _ (Nat.pow 10 _) (Nat.pow 10 common), ← hpow, ← hpow, ← habove, ← hbelow]

/-- Taking places in does not change the number. -/
theorem tooLarge_shift (p : Nat) :
    TooLarge (numerator * Nat.pow 10 p) divisor (scale + p) ↔ TooLarge numerator divisor scale := by
  have hscale : scale + p = ((scale.toNat + p : Nat) - (-scale).toNat : Int) := by omega
  have hpositive : 0 < Nat.pow 10 p := Nat.pow_pos (by decide)
  have hpow : Nat.pow 10 (scale.toNat + p) = Nat.pow 10 scale.toNat * Nat.pow 10 p :=
    Nat.pow_add 10 _ p
  rw [hscale, tooLarge_sub_iff, hpow, ← Nat.mul_assoc, ← Nat.mul_assoc,
    Nat.mul_right_comm (2 * numerator), Nat.mul_le_mul_right_iff hpositive]
  rfl

theorem not_tooLarge_of_lt (places : Nat)
    (h : 2 * numerator < (2 * maxMantissa + 1) * divisor * Nat.pow 10 places)
    (hscale : places ≤ scale) : ¬TooLarge numerator divisor scale := by
  have hpower : Nat.pow 10 places ≤ Nat.pow 10 scale.toNat :=
    Nat.pow_le_pow_right (by decide) (by omega)
  have hgrown := Nat.mul_le_mul_left ((2 * maxMantissa + 1) * divisor) hpower
  have hbelow : (-scale).toNat = 0 := by omega
  unfold TooLarge
  rw [hbelow]
  change ¬_ ≤ 2 * numerator * 1
  omega

theorem tooLarge_of_le (h : (2 * maxMantissa + 1) * divisor ≤ 2 * numerator) (hscale : scale ≤ 0) :
    TooLarge numerator divisor scale := by
  have hpower : 0 < Nat.pow 10 (-scale).toNat := Nat.pow_pos (by decide)
  have habove : scale.toNat = 0 := by omega
  have hgrown := Nat.le_mul_of_pos_right (2 * numerator) hpower
  unfold TooLarge
  rw [habove]
  change _ * 1 ≤ _
  omega

/-! ## Single steps -/

/-- A step has no result if the number is too large, and else one that is a decimal. -/
def Settles (tooLarge : Prop) : Option Quotient → Prop
  | none => tooLarge
  | some q => ¬tooLarge ∧ q.mantissa ≤ maxMantissa ∧ q.scale ≤ maxScale

theorem settles_dropDigit (hlower : (2 * maxMantissa + 1) * divisor ≤ 2 * numerator)
    (hupper : numerator < (maxMantissa + Nat.pow 10 step) * divisor)
    (hquotient : quotient < maxMantissa + Nat.pow 10 step) (hscale : scale ≤ maxScale) :
    Settles (TooLarge numerator divisor scale) (dropDigit quotient scale more) := by
  unfold dropDigit
  split
  · rename_i hwhole
    exact tooLarge_of_le hlower hwhole
  · rename_i hplaces
    have hroom : (maxMantissa + Nat.pow 10 step) * 2 ≤ (2 * maxMantissa + 1) * 10 := by decide
    have hsmall : ¬TooLarge numerator divisor scale := by
      refine not_tooLarge_of_lt 1 ?_ (by omega)
      calc 2 * numerator < 2 * ((maxMantissa + Nat.pow 10 step) * divisor) := by omega
        _ = (maxMantissa + Nat.pow 10 step) * 2 * divisor := by
          rw [Nat.mul_right_comm, Nat.mul_comm 2]
        _ ≤ (2 * maxMantissa + 1) * 10 * divisor := Nat.mul_le_mul_right _ hroom
        _ = (2 * maxMantissa + 1) * divisor * Nat.pow 10 1 := Nat.mul_right_comm _ _ _
    have hkept : quotient / 10 + 1 ≤ maxMantissa := by
      have hfits : maxMantissa + Nat.pow 10 step ≤ 10 * (maxMantissa - 1) := by decide
      omega
    refine ⟨hsmall, ?_, ?_⟩
    · simp only
      split <;> omega
    · simp only
      omega

theorem settles_roundLast (hquotient : quotient ≤ maxMantissa) (hremainder : remainder < divisor)
    (hwhole : 0 ≤ scale) (hscale : scale ≤ maxScale) :
    Settles (TooLarge (quotient * divisor + remainder) divisor scale)
      (roundLast quotient remainder divisor scale) := by
  -- below the largest mantissa there is room for one more
  have hroom (h : quotient < maxMantissa ∨ 2 * remainder < divisor) :
      ¬TooLarge (quotient * divisor + remainder) divisor scale := by
    refine not_tooLarge_of_lt 0 ?_ (by omega)
    change _ < (2 * maxMantissa + 1) * divisor * 1
    rw [half_above, Nat.mul_one]
    rcases h with h | h
    · have hnext := Nat.mul_le_mul_right divisor (Nat.succ_le_of_lt h)
      rw [Nat.succ_mul] at hnext
      omega
    · have hmost := Nat.mul_le_mul_right divisor hquotient
      omega
  have hodd : maxMantissa % 2 = 1 := by decide
  unfold roundLast
  simp only [Bool.or_eq_true, Bool.and_eq_true, decide_eq_true_eq, beq_iff_eq]
  split
  · rename_i hup
    split
    · rename_i hfull
      obtain rfl : quotient = maxMantissa := by omega
      have hnext : maxMantissa * divisor + 1000000000 * divisor =
          (maxMantissa + Nat.pow 10 step) * divisor :=
        (Nat.add_mul _ _ _).symm
      refine settles_dropDigit ?_ (by omega) (by decide) hscale
      rw [half_above]
      omega
    · rename_i hfits
      exact ⟨hroom (.inl (by omega)), by simp only; omega, hscale⟩
  · rename_i hdown
    refine ⟨hroom ?_, hquotient, hscale⟩
    by_cases hlast : quotient = maxMantissa
    · subst hlast
      omega
    · exact .inl (by omega)

/-! ## Room for places -/

/-- Searching downwards finds the largest number that fits. -/
theorem exists_find?_range_reverse (fits : Nat → Bool) (hzero : fits 0 = true) (n : Nat) :
    ∃ i ≤ n, (List.range (n + 1)).reverse.find? fits = some i ∧ fits i = true ∧
      (i < n → fits (i + 1) = false) := by
  induction n with
  | zero => exact ⟨0, Nat.le_refl 0, find?_range_reverse hzero, hzero, nofun⟩
  | succ n ih =>
    cases hnext : fits (n + 1) with
    | true => exact ⟨n + 1, Nat.le_refl _, find?_range_reverse hnext, hnext, fun h => by omega⟩
    | false =>
      obtain ⟨i, hi, hfound, hfits, hlargest⟩ := ih
      refine ⟨i, Nat.le_succ_of_le hi, ?_, hfits, fun _ => ?_⟩
      · rw [List.range_succ, List.reverse_append, List.reverse_singleton, List.singleton_append,
          List.find?_cons_of_neg (by simp [hnext]), hfound]
      · obtain hlast | hearlier : i = n ∨ i < n := by omega
        · rw [hlast, hnext]
        · exact hlargest hearlier

/-- A quotient that fits has room for as many places as keep it fitting, if the scale and the step
allow for more. -/
theorem room_spec (hquotient : quotient ≤ maxMantissa) (hscale : scale ≤ maxScale) :
    room quotient scale ≤ step ∧ scale + room quotient scale ≤ maxScale ∧
      quotient * Nat.pow 10 (room quotient scale) ≤ maxMantissa ∧
      (room quotient scale < step → scale + room quotient scale < maxScale →
        maxMantissa < quotient * Nat.pow 10 (room quotient scale + 1)) := by
  obtain ⟨i, hi, hfound, hfits, hlargest⟩ :=
    exists_find?_range_reverse (fun p => quotient * Nat.pow 10 p ≤ maxMantissa)
      (decide_eq_true ((Nat.mul_one quotient).symm ▸ hquotient))
      (min step (maxScale - scale).toNat)
  have hroom : room quotient scale = i := by
    unfold room
    simp only
    rw [hfound, Option.getD_some]
  rw [hroom]
  refine ⟨by omega, by omega, of_decide_eq_true hfits, fun hstep hlast => ?_⟩
  exact Nat.lt_of_not_le (of_decide_eq_false (hlargest (by omega)))

/-! ## Turns -/

/-- A quotient that is too large before the point stays so. -/
theorem tooLarge_of_grown (hlarge : maxMantissa < quotient * Nat.pow 10 p) (hscale : scale + p ≤ 0) :
    TooLarge (quotient * divisor + remainder) divisor scale := by
  have hgrown := Nat.mul_le_mul_right divisor (Nat.succ_le_of_lt hlarge)
  rw [← tooLarge_shift p]
  refine tooLarge_of_le ?_ hscale
  rw [half_above, Nat.add_mul, Nat.mul_right_comm]
  rw [Nat.succ_mul] at hgrown
  omega

/-- The digits of one turn lead beyond the largest mantissa by less than a step. -/
theorem settles_dropSum (hlarge : maxMantissa < quotient)
    (hquotient : quotient < maxMantissa + Nat.pow 10 step) (hremainder : remainder < divisor)
    (hscale : scale ≤ maxScale) :
    Settles (TooLarge (quotient * divisor + remainder) divisor scale)
      (dropDigit quotient scale more) := by
  have hlower := Nat.mul_le_mul_right divisor (Nat.succ_le_of_lt hlarge)
  have hupper := Nat.mul_le_mul_right divisor (Nat.succ_le_of_lt hquotient)
  rw [Nat.succ_mul] at hlower hupper
  refine settles_dropDigit ?_ (by omega) hquotient hscale
  rw [half_above]
  omega

/-- A turn that takes places in settles what the division without them would have to. -/
theorem settles_next (hp : p ≤ step) (hremainder : remainder < divisor)
    (hscale : scale + p ≤ maxScale) (hbefore : maxMantissa < quotient * Nat.pow 10 p →
      TooLarge (quotient * divisor + remainder) divisor scale)
    (hafter : ∀ sum rest, sum ≤ maxMantissa → rest < divisor →
      Settles (TooLarge (sum * divisor + rest) divisor (scale + p))
        (grow divisor turns sum rest (scale + p) inexact)) :
    Settles (TooLarge (quotient * divisor + remainder) divisor scale)
      (if maxMantissa < quotient * Nat.pow 10 p then none
      else if maxMantissa < quotient * Nat.pow 10 p + remainder * Nat.pow 10 p / divisor then
        dropDigit (quotient * Nat.pow 10 p + remainder * Nat.pow 10 p / divisor) (scale + p)
          (remainder * Nat.pow 10 p % divisor != 0)
      else grow divisor turns (quotient * Nat.pow 10 p + remainder * Nat.pow 10 p / divisor)
        (remainder * Nat.pow 10 p % divisor) (scale + p) inexact) := by
  have hvalue := taken_in quotient remainder divisor p
  split
  · rename_i hlarge
    exact hbefore hlarge
  · rename_i hgrown
    have hpower : Nat.pow 10 p ≤ Nat.pow 10 step := Nat.pow_le_pow_right (by decide) hp
    rw [← tooLarge_shift p, ← hvalue]
    split
    · rename_i hlarge
      have hdigits : remainder * Nat.pow 10 p / divisor < Nat.pow 10 p :=
        Nat.div_lt_of_lt_mul (Nat.mul_lt_mul_of_pos_right hremainder (Nat.pow_pos (by decide)))
      exact settles_dropSum hlarge (by omega) (Nat.mod_lt _ (Nat.zero_lt_of_lt hremainder)) hscale
    · rename_i hfits
      exact hafter _ _ (by omega) (Nat.mod_lt _ (Nat.zero_lt_of_lt hremainder))

theorem settles_grow (hquotient : quotient ≤ maxMantissa) (hremainder : remainder < divisor)
    (hscale : scale ≤ maxScale) (hturns : maxScale < scale + turns) :
    Settles (TooLarge (quotient * divisor + remainder) divisor scale)
      (grow divisor turns quotient remainder scale inexact) := by
  have hpositive : 0 < step := by decide
  induction turns generalizing quotient remainder scale inexact with
  | zero => omega
  | succ turns ih =>
    rw [grow]
    simp only
    split
    · rename_i hnothing
      subst hnothing
      split
      · rename_i hwhole
        refine ⟨not_tooLarge_of_lt 0 ?_ hwhole, hquotient, hscale⟩
        have hmost := Nat.mul_le_mul_right divisor hquotient
        rw [half_above]
        change _ < _ * 1
        omega
      · rename_i hwhole
        have hp : scale + (min step (-scale).toNat : Nat) ≤ 0 := by omega
        exact settles_next (Nat.min_le_left _ _) hremainder (by omega)
          (fun hlarge => tooLarge_of_grown hlarge hp)
          fun sum rest hsum hrest => ih hsum hrest (by omega) (by omega)
    · obtain ⟨hstep, hlast, hfits, hfull⟩ := room_spec hquotient hscale
      split
      · rename_i hstuck
        exact tooLarge_of_grown (hfull hstuck.1 (by omega)) (by omega)
      · split
        · rename_i hnone
          exact settles_roundLast hquotient hremainder (by omega) hscale
        · rename_i hplaces
          exact settles_next hstep hremainder hlast (fun hlarge => by omega)
            fun sum rest hsum hrest => ih hsum hrest (by omega) (by omega)

/-! ## Divisions -/

theorem settles_start {a b : Decimal} (hdivisor : b.mantissa ≠ 0) :
    Settles (TooLarge a.mantissa b.mantissa (a.scale - b.scale))
      (grow b.mantissa turnLimit (a.mantissa / b.mantissa) (a.mantissa % b.mantissa)
        (a.scale - b.scale) false) := by
  have hpositive := Nat.pos_of_ne_zero hdivisor
  have hquotient : a.mantissa / b.mantissa ≤ maxMantissa :=
    (Nat.div_le_self _ _).trans a.mantissa_le
  have hturns : maxScale + maxScale < turnLimit := by decide
  have hstart := a.scale_le
  have hend := b.scale_le
  have hsettled : Settles
      (TooLarge (a.mantissa / b.mantissa * b.mantissa + a.mantissa % b.mantissa) b.mantissa
        (a.scale - b.scale))
      (grow b.mantissa turnLimit (a.mantissa / b.mantissa) (a.mantissa % b.mantissa)
        (a.scale - b.scale) false) :=
    settles_grow hquotient (Nat.mod_lt a.mantissa hpositive) (by omega) (by omega)
  rwa [Nat.div_add_mod'] at hsettled

/-- A quotient is no decimal if the divisor is zero or if it is half a unit or more above the largest
mantissa, and for no other reason. -/
theorem div?_eq_none_iff {a b : Decimal} :
    a.div? b = none ↔ b.mantissa = 0 ∨
      (2 * maxMantissa + 1) * b.mantissa * Nat.pow 10 a.scale ≤
        2 * a.mantissa * Nat.pow 10 b.scale := by
  rw [← tooLarge_sub_iff]
  unfold div? quotient?
  split
  · rename_i hdivisor
    exact ⟨fun _ => .inl hdivisor, fun _ => rfl⟩
  · rename_i hdivisor
    have hsettled := settles_start (a := a) hdivisor
    split
    · rename_i hdividend
      have hsmall : ¬TooLarge a.mantissa b.mantissa (a.scale - b.scale) := by
        rw [tooLarge_sub_iff, hdividend, Nat.mul_zero, Nat.zero_mul, Nat.not_le]
        exact Nat.mul_pos (Nat.mul_pos (by decide) (Nat.pos_of_ne_zero hdivisor))
          (Nat.pow_pos (by decide))
      rw [Option.bind_some, make?_eq_none_iff]
      simp [hdivisor, hsmall]
    · cases hgrow : grow b.mantissa turnLimit (a.mantissa / b.mantissa) (a.mantissa % b.mantissa)
          (a.scale - b.scale) false with
      | none =>
        rw [hgrow] at hsettled
        exact ⟨fun _ => .inr hsettled, fun _ => rfl⟩
      | some q =>
        rw [hgrow] at hsettled
        obtain ⟨hsmall, hmantissa, hscale⟩ := hsettled
        have htrimmed := trimZeros_le q.mantissa q.scale.toNat
        simp only [hdivisor, hsmall, or_self, iff_false, Option.map_some, Option.bind_some,
          make?_eq_none_iff]
        split
        · have hfirst := htrimmed.1
          have hsecond := htrimmed.2
          simp only at hfirst hsecond
          omega
        · simp only
          omega

end DexTrade.Decimal
