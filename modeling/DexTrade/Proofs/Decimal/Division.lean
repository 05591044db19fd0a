import DexTrade.Proofs.Trade.Gas
/-!
# Quotients of decimals

Growing a quotient is long division: quotient and remainder always make up the dividend with the
places taken in so far (`Growing`), up to one of three ends (`Ends`). Since places run out only at the
largest scale, a quotient comes to zero exactly if it is at most half of the smallest decimal
(`mantissa_div?_eq_zero_iff`).
-/
namespace DexTrade.Decimal

/-! ## Long division -/

/-- A division with as many more places than at its start. -/
structure Growing (dividend divisor : Nat) (start : Int) (quotient remainder : Nat) (scale : Int)
    (places : Nat) : Prop where
  scale_eq : scale = start + places
  within : scale ≤ maxScale
  value : quotient * divisor + remainder = dividend * Nat.pow 10 places
  below : remainder < divisor

/-- How a division ends. -/
inductive Ends (divisor quotient remainder : Nat) (scale : Int) (result : Quotient) : Prop
  | exact (hnothing : remainder = 0) (hwhole : 0 ≤ scale) (hmantissa : result.mantissa = quotient)
      (hscale : result.scale = scale)
  | rounded (hfits : quotient ≤ maxMantissa) (hwhole : 0 ≤ scale) (hroom : room quotient scale = 0)
      (hresult : roundLast quotient remainder divisor scale = some result)
  | overflowed (hlarge : maxMantissa < quotient)
      (hresult : dropDigit quotient scale (remainder != 0) = some result)

variable {dividend divisor quotient remainder places : Nat} {start scale : Int} {result : Quotient}

theorem Growing.at_start (hpositive : 0 < divisor) (hstart : start ≤ maxScale) :
    Growing dividend divisor start (dividend / divisor) (dividend % divisor) start 0 where
  scale_eq := by simp
  within := hstart
  value := by simpa using Nat.div_add_mod' dividend divisor
  below := Nat.mod_lt _ hpositive

/-- More places are taken in, of which the remainder gives the digits. -/
theorem taken_in (quotient remainder divisor p : Nat) :
    (quotient * Nat.pow 10 p + remainder * Nat.pow 10 p / divisor) * divisor +
        remainder * Nat.pow 10 p % divisor =
      (quotient * divisor + remainder) * Nat.pow 10 p :=
  calc (quotient * Nat.pow 10 p + remainder * Nat.pow 10 p / divisor) * divisor +
        remainder * Nat.pow 10 p % divisor
      = quotient * Nat.pow 10 p * divisor + (remainder * Nat.pow 10 p / divisor * divisor +
          remainder * Nat.pow 10 p % divisor) := by rw [Nat.add_mul, Nat.add_assoc]
    _ = (quotient * divisor + remainder) * Nat.pow 10 p := by
      rw [Nat.div_add_mod', Nat.add_mul, Nat.mul_right_comm]

theorem Growing.next (h : Growing dividend divisor start quotient remainder scale places) {p : Nat}
    (hp : scale + p ≤ maxScale) :
    Growing dividend divisor start
      (quotient * Nat.pow 10 p + remainder * Nat.pow 10 p / divisor)
      (remainder * Nat.pow 10 p % divisor) (scale + p) (places + p) where
  scale_eq := by rw [h.scale_eq, Int.natCast_add, Int.add_assoc]
  within := hp
  value := by
    have hpow : Nat.pow 10 (places + p) = Nat.pow 10 places * Nat.pow 10 p := Nat.pow_add 10 places p
    rw [taken_in, h.value, hpow, Nat.mul_assoc]
  below := Nat.mod_lt _ (by have := h.below; omega)

theorem room_le (quotient : Nat) (scale : Int) : room quotient scale ≤ (maxScale - scale).toNat := by
  unfold room
  simp only
  cases hfound : (List.range (min step (maxScale - scale).toNat + 1)).reverse.find? fun p =>
      quotient * Nat.pow 10 p ≤ maxMantissa with
  | none => exact Nat.zero_le _
  | some p =>
    have hmem := List.mem_of_find?_eq_some hfound
    rw [List.mem_reverse, List.mem_range] at hmem
    rw [Option.getD_some]
    omega

/-- A quotient of zero has room up to the largest scale. -/
theorem room_zero (scale : Int) : room 0 scale = min step (maxScale - scale).toNat := by
  unfold room
  simp only
  rw [find?_range_reverse (by simp), Option.getD_some]

theorem grow_ends {turns : Nat} {inexact : Bool}
    (h : Growing dividend divisor start quotient remainder scale places)
    (hfits : quotient ≤ maxMantissa)
    (hgrow : grow divisor turns quotient remainder scale inexact = some result) :
    ∃ quotient' remainder' scale' places',
      Growing dividend divisor start quotient' remainder' scale' places' ∧
        Ends divisor quotient' remainder' scale' result := by
  -- a turn either ends the division or takes in places, which keeps it a long division
  induction turns generalizing quotient remainder scale places inexact with
  | zero => cases hgrow
  | succ turns ih =>
    have hwithin := h.within
    have hnext (p : Nat) (inexact : Bool) (hp : scale + p ≤ maxScale)
        (hturn : (if maxMantissa < quotient * Nat.pow 10 p then none
          else if maxMantissa < quotient * Nat.pow 10 p + remainder * Nat.pow 10 p / divisor then
            dropDigit (quotient * Nat.pow 10 p + remainder * Nat.pow 10 p / divisor) (scale + p)
              (remainder * Nat.pow 10 p % divisor != 0)
          else grow divisor turns (quotient * Nat.pow 10 p + remainder * Nat.pow 10 p / divisor)
            (remainder * Nat.pow 10 p % divisor) (scale + p) inexact) = some result) :
        ∃ quotient' remainder' scale' places',
          Growing dividend divisor start quotient' remainder' scale' places' ∧
            Ends divisor quotient' remainder' scale' result := by
      split at hturn
      · cases hturn
      · split at hturn
        · rename_i hlarge
          exact ⟨_, _, _, _, h.next hp, .overflowed hlarge hturn⟩
        · rename_i hsmall
          exact ih (h.next hp) (Nat.le_of_not_lt hsmall) hturn
    rw [grow] at hgrow
    simp only at hgrow
    split at hgrow
    · rename_i hnothing
      split at hgrow
      · rename_i hwhole
        obtain rfl := Option.some.inj hgrow
        exact ⟨_, _, _, _, h, .exact hnothing hwhole rfl rfl⟩
      · exact hnext _ _ (by omega) hgrow
    · have hroom := room_le quotient scale
      split at hgrow
      · cases hgrow
      · rename_i hplaced
        have hstep : 0 < step := by decide
        split at hgrow
        · rename_i hfull
          exact ⟨_, _, _, _, h, .rounded hfits (by omega) hfull hgrow⟩
        · exact hnext _ _ (by omega) hgrow

/-- A division of decimals is a long division of their mantissas. -/
theorem grow_ends_of_start {a b : Decimal} (hdivisor : b.mantissa ≠ 0)
    (hgrow : grow b.mantissa turnLimit (a.mantissa / b.mantissa) (a.mantissa % b.mantissa)
      (a.scale - b.scale : Int) false = some result) :
    ∃ quotient remainder scale places,
      Growing a.mantissa b.mantissa (a.scale - b.scale) quotient remainder scale places ∧
        Ends b.mantissa quotient remainder scale result := by
  have hstart : (a.scale - b.scale : Int) ≤ maxScale := by
    have := a.scale_le
    omega
  have hfits : a.mantissa / b.mantissa ≤ maxMantissa := (Nat.div_le_self _ _).trans a.mantissa_le
  exact grow_ends (.at_start (Nat.pos_of_ne_zero hdivisor) hstart) hfits hgrow

/-! ## Quotients of zero -/

theorem mantissa_dropDigit_ne_zero {more : Bool} (hlarge : maxMantissa < quotient)
    (h : dropDigit quotient scale more = some result) : result.mantissa ≠ 0 := by
  have hkept : 0 < quotient / 10 := by
    have hmax : 10 ≤ maxMantissa := by decide
    omega
  unfold dropDigit at h
  split at h
  · cases h
  · rw [← Option.some.inj h]
    simp only
    split
    · exact Nat.succ_ne_zero _
    · omega

theorem mantissa_roundLast_ne_zero (hquotient : quotient ≠ 0)
    (h : roundLast quotient remainder divisor scale = some result) : result.mantissa ≠ 0 := by
  unfold roundLast at h
  simp only at h
  split at h
  · split at h
    · rename_i hlarge
      exact mantissa_dropDigit_ne_zero hlarge h
    · rw [← Option.some.inj h]
      exact Nat.succ_ne_zero _
  · rw [← Option.some.inj h]
    exact hquotient

/-- Without any whole part only more than a half is rounded up. -/
theorem mantissa_roundLast_zero (h : roundLast 0 remainder divisor scale = some result) :
    result.mantissa = 0 ↔ 2 * remainder ≤ divisor := by
  unfold roundLast at h
  simp only [Nat.zero_mod, Nat.reduceBEq, Bool.and_false, Bool.or_false, decide_eq_true_eq] at h
  split at h
  · rw [if_neg (by decide)] at h
    rw [← Option.some.inj h]
    simp only
    omega
  · rw [← Option.some.inj h]
    simp only [true_iff]
    omega

/-- A quotient that has a whole part is larger than any half of the smallest decimal. -/
theorem Growing.divisor_lt (h : Growing dividend divisor start quotient remainder scale places)
    (hquotient : quotient ≠ 0) :
    divisor < 2 * (dividend * Nat.pow 10 (maxScale - start).toNat) := by
  have hplaces : places ≤ (maxScale - start).toNat := by
    have := h.scale_eq
    have := h.within
    omega
  have hpower : Nat.pow 10 places ≤ Nat.pow 10 (maxScale - start).toNat :=
    Nat.pow_le_pow_right (by decide) hplaces
  have hwhole : divisor ≤ quotient * divisor :=
    Nat.le_mul_of_pos_left _ (Nat.pos_of_ne_zero hquotient)
  have hdividend : divisor ≤ dividend * Nat.pow 10 (maxScale - start).toNat :=
    calc divisor ≤ quotient * divisor + remainder := by omega
      _ = dividend * Nat.pow 10 places := h.value
      _ ≤ dividend * Nat.pow 10 (maxScale - start).toNat := Nat.mul_le_mul_left _ hpower
  have hpositive := h.below
  omega

theorem mantissa_eq_zero_iff_of_ends (hdividend : 0 < dividend)
    (h : Growing dividend divisor start quotient remainder scale places)
    (hend : Ends divisor quotient remainder scale result) :
    result.mantissa = 0 ↔ 2 * (dividend * Nat.pow 10 (maxScale - start).toNat) ≤ divisor := by
  by_cases hquotient : quotient = 0
  · subst hquotient
    cases hend with
    | exact hnothing _ _ _ =>
      -- the places taken in would make nothing of the dividend
      have hvalue := h.value
      have hpower : 0 < dividend * Nat.pow 10 places :=
        Nat.mul_pos hdividend (Nat.pow_pos (by decide))
      omega
    | rounded _ _ hroom hresult =>
      rw [room_zero] at hroom
      have hplaces : places = (maxScale - start).toNat := by
        have hstep : 0 < step := by decide
        have := h.scale_eq
        have := h.within
        omega
      have hremainder : remainder = dividend * Nat.pow 10 (maxScale - start).toNat := by
        rw [← hplaces, ← h.value, Nat.zero_mul, Nat.zero_add]
      rw [mantissa_roundLast_zero hresult, hremainder]
    | overflowed hlarge _ => exact absurd hlarge (Nat.not_lt_zero _)
  · have hne : result.mantissa ≠ 0 := by
      cases hend with
      | exact _ _ hmantissa _ => rwa [hmantissa]
      | rounded _ _ _ hresult => exact mantissa_roundLast_ne_zero hquotient hresult
      | overflowed hlarge hresult => exact mantissa_dropDigit_ne_zero hlarge hresult
    have hlarge := h.divisor_lt hquotient
    constructor
    · exact fun hzero => absurd hzero hne
    · omega

/-! ## Zeros at the end -/

theorem dropZeros_eq_zero_iff (places mantissa scale : Nat) :
    (dropZeros places mantissa scale).1 = 0 ↔ mantissa = 0 := by
  unfold dropZeros
  split
  · rename_i hzeros
    have hpower : 0 < Nat.pow 10 places := Nat.pow_pos (by decide)
    have hwhole := Nat.div_mul_cancel (Nat.dvd_of_mod_eq_zero hzeros.2)
    constructor
    · intro (hzero : mantissa / Nat.pow 10 places = 0)
      rw [← hwhole, hzero, Nat.zero_mul]
    · rintro rfl
      exact Nat.zero_div _
  · rfl

theorem dropEights_eq_zero_iff (turns mantissa scale : Nat) :
    (dropEights turns mantissa scale).1 = 0 ↔ mantissa = 0 := by
  induction turns generalizing mantissa scale with
  | zero => rfl
  | succ turns ih =>
    unfold dropEights
    split
    · rw [ih]
      omega
    · rfl

theorem trimZeros_eq_zero_iff (mantissa scale : Nat) :
    (trimZeros mantissa scale).1 = 0 ↔ mantissa = 0 := by
  unfold trimZeros
  simp only [dropZeros_eq_zero_iff, dropEights_eq_zero_iff]

/-! ## Divisions -/

theorem mantissa_of_make? {negative : Bool} {mantissa scale : Nat} {d : Decimal}
    (h : make? negative mantissa scale = some d) :
    d.mantissa = mantissa ∧ d.negative = (negative && mantissa != 0) := by
  unfold make? at h
  split at h
  · rw [← Option.some.inj h]
    exact ⟨rfl, rfl⟩
  · cases h

theorem quotient?_eq_zero_iff {a b : Decimal} {mantissa scale : Nat}
    (h : quotient? a b = some (mantissa, scale)) :
    mantissa = 0 ↔
      2 * (a.mantissa * Nat.pow 10 (maxScale - (a.scale - b.scale : Int)).toNat) ≤ b.mantissa := by
  unfold quotient? at h
  split at h
  · cases h
  · rename_i hdivisor
    split at h
    · rename_i hdividend
      obtain ⟨rfl, -⟩ := Prod.mk.inj (Option.some.inj h)
      simp [hdividend]
    · rename_i hdividend
      rw [Option.map_eq_some_iff] at h
      obtain ⟨q, hgrow, hmantissa⟩ := h
      obtain ⟨_, _, _, _, hgrowing, hends⟩ := grow_ends_of_start hdivisor hgrow
      rw [← mantissa_eq_zero_iff_of_ends (Nat.pos_of_ne_zero hdividend) hgrowing hends]
      split at hmantissa
      · have hfirst : mantissa = (trimZeros q.mantissa q.scale.toNat).1 := by rw [hmantissa]
        rw [hfirst, trimZeros_eq_zero_iff]
      · obtain ⟨rfl, -⟩ := Prod.mk.inj hmantissa
        rfl

/-- A quotient is zero if it is at most half of the smallest decimal, and then only. -/
theorem mantissa_div?_eq_zero_iff {a b d : Decimal} (h : a.div? b = some d) :
    d.mantissa = 0 ↔
      2 * a.mantissa * Nat.pow 10 (maxScale + b.scale) ≤ b.mantissa * Nat.pow 10 a.scale := by
  unfold div? at h
  rw [Option.bind_eq_some_iff] at h
  obtain ⟨⟨mantissa, scale⟩, hquotient, hmake⟩ := h
  have hplaces : maxScale + b.scale = (maxScale - (a.scale - b.scale : Int)).toNat + a.scale := by
    have := a.scale_le
    omega
  have hpower : Nat.pow 10 (maxScale + b.scale) =
      Nat.pow 10 (maxScale - (a.scale - b.scale : Int)).toNat * Nat.pow 10 a.scale := by
    rw [hplaces]
    exact Nat.pow_add 10 _ _
  have hpositive : 0 < Nat.pow 10 a.scale := Nat.pow_pos (by decide)
  rw [(mantissa_of_make? hmake).1, quotient?_eq_zero_iff hquotient, hpower, ← Nat.mul_assoc,
    ← Nat.mul_assoc, Nat.mul_le_mul_right_iff hpositive]

end DexTrade.Decimal
