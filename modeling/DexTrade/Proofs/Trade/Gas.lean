import DexTrade.Decimal.Division
import DexTrade.Trade.Basic
import Mathlib.Order.Nat
/-!
# Gas prices as decimals

A gas price is shown in gwei, a billion of which make one native unit. Dividing by a billion takes
at most one turn of nine places: what remains is below a billion, and nine places hold it exactly. So
the quotient is never too large, and a price can be shown exactly when it is itself a decimal.
-/
namespace DexTrade

namespace Decimal

theorem make?_eq_none_iff (negative : Bool) (mantissa scale : Nat) :
    make? negative mantissa scale = none ↔ maxMantissa < mantissa ∨ maxScale < scale := by
  unfold make?
  split
  · rename_i h
    simp only [reduceCtorEq, false_iff]
    omega
  · rename_i h
    simp only [true_iff]
    omega

theorem scale_of_make? {negative : Bool} {mantissa scale : Nat} {d : Decimal}
    (h : make? negative mantissa scale = some d) : d.scale = scale := by
  unfold make? at h
  split at h
  · exact Option.some.inj h ▸ rfl
  · exact nomatch h

theorem dropZeros_le (places : Nat) (p : Nat × Nat) : dropZeros places p.1 p.2 ≤ p := by
  unfold dropZeros
  split
  · exact ⟨Nat.div_le_self _ _, Nat.sub_le _ _⟩
  · exact le_rfl

theorem dropEights_le (turns : Nat) (p : Nat × Nat) : dropEights turns p.1 p.2 ≤ p := by
  induction turns generalizing p with
  | zero => exact le_rfl
  | succ turns ih =>
    unfold dropEights
    split
    · exact (ih (p.1 / 100000000, p.2 - 8)).trans ⟨Nat.div_le_self _ _, Nat.sub_le _ _⟩
    · exact le_rfl

/-- Taking zeros off makes neither the mantissa nor the scale larger. -/
theorem trimZeros_le (mantissa scale : Nat) : trimZeros mantissa scale ≤ (mantissa, scale) := by
  unfold trimZeros
  have h8 := dropEights_le 3 (mantissa, scale)
  have h4 := (dropZeros_le 4 _).trans h8
  have h2 := (dropZeros_le 2 _).trans h4
  exact (dropZeros_le 1 _).trans h2

theorem find?_range_reverse {n : Nat} {fits : Nat → Bool} (h : fits n = true) :
    (List.range (n + 1)).reverse.find? fits = some n := by
  rw [List.range_succ, List.reverse_append, List.reverse_singleton, List.singleton_append,
    List.find?_cons_of_pos h]

theorem room_eq_step {quotient : Nat} {scale : Int} (hscale : scale + step ≤ maxScale)
    (hquotient : quotient * Nat.pow 10 step ≤ maxMantissa) : room quotient scale = step := by
  have hmost : min step (maxScale - scale).toNat = step := Nat.min_eq_left (by omega)
  unfold room
  simp only [hmost]
  rw [find?_range_reverse (by exact decide_eq_true hquotient), Option.getD_some]

/-- A division by a billion ends at once or after one turn, with all digits of what is divided. -/
theorem grow_billion {n : Nat} (turns : Nat) {scale : Int} (hn : n ≤ maxMantissa)
    (hscale : 0 ≤ scale) (hroom : scale + step ≤ maxScale) :
    grow billion.mantissa (turns + 2) (n / billion.mantissa) (n % billion.mantissa) scale false =
      if n % billion.mantissa = 0 then some ⟨n / billion.mantissa, scale, false⟩
      else some ⟨n, scale + step, true⟩ := by
  have hplace : Nat.pow 10 step = billion.mantissa := rfl
  have hpositive : 0 < billion.mantissa := by decide
  generalize billion.mantissa = b at hplace hpositive ⊢
  have hdigits : n / b * b + n % b = n := Nat.div_add_mod' n b
  have hgrown : n / b * b ≤ maxMantissa := by omega
  have hplaces : room (n / b) scale = step := room_eq_step hroom (hplace ▸ hgrown)
  by_cases hrest : n % b = 0
  · rw [grow, if_pos hrest, if_pos hrest, if_pos hscale]
  · rw [grow, if_neg hrest, if_neg hrest, hplaces, if_neg (by omega), if_neg (by decide)]
    simp only [hplace, Nat.mul_div_cancel _ hpositive, Nat.mul_mod_left, hdigits]
    rw [if_neg (by omega), if_neg (by omega), grow, if_pos rfl, if_pos (by omega)]

/-- A division by a billion leaves the scale as it is or adds nine places, at whose end it takes zeros
off. -/
theorem quotient?_billion {d : Decimal} (hmantissa : d.mantissa ≠ 0)
    (hroom : d.scale + step ≤ maxScale) :
    d.quotient? billion =
      if d.mantissa % billion.mantissa = 0 then some (d.mantissa / billion.mantissa, d.scale)
      else some (trimZeros d.mantissa (d.scale + step)) := by
  have hscale : (d.scale - billion.scale : Int) = d.scale := Int.sub_zero _
  have hgrow := grow_billion 62 d.mantissa_le (Int.natCast_nonneg d.scale) (by omega)
  unfold quotient?
  rw [if_neg (by decide), if_neg hmantissa, hscale]
  split
  · rename_i hrest
    rw [if_pos hrest] at hgrow
    exact congrArg _ hgrow
  · rename_i hrest
    rw [if_neg hrest] at hgrow
    exact congrArg _ hgrow

theorem quotient?_of_zero {a b : Decimal} (ha : a.mantissa = 0) (hb : b.mantissa ≠ 0) :
    a.quotient? b = some (0, 0) := by
  rw [quotient?, if_neg hb, if_pos ha]

/-- A number with nine places to spare can be divided by a billion. -/
theorem div?_billion_isSome {d : Decimal} (hroom : d.scale + step ≤ maxScale) :
    (d.div? billion).isSome := by
  have hmantissa := d.mantissa_le
  have hdivided := Nat.div_le_self d.mantissa billion.mantissa
  obtain ⟨hfirst, hsecond⟩ := trimZeros_le d.mantissa (d.scale + step)
  rw [Option.isSome_iff_ne_none, Ne, div?]
  by_cases hzero : d.mantissa = 0
  · rw [quotient?_of_zero hzero (by decide), Option.bind_some, make?_eq_none_iff]
    omega
  · rw [quotient?_billion hzero hroom]
    split
    · rw [Option.bind_some, make?_eq_none_iff]
      omega
    · rw [Option.bind_some, make?_eq_none_iff]
      omega

end Decimal

namespace Gas

/-- A gas price cannot be shown in gwei if it is no decimal itself. -/
theorem gwei?_eq_none_iff (price : Wei) :
    gwei? price = none ↔ Decimal.maxMantissa < price.toNat := by
  have hfits := Decimal.make?_eq_none_iff false price.toNat 0
  simp only [Nat.not_lt_zero, or_false] at hfits
  unfold gwei? Decimal.ofNat?
  rw [← hfits]
  cases hwei : Decimal.make? false price.toNat 0 with
  | none => simp only [Option.bind_eq_bind, Option.bind_none]
  | some wei =>
    have hroom : wei.scale + Decimal.step ≤ Decimal.maxScale := by
      rw [Decimal.scale_of_make? hwei]
      decide
    have hshown := Decimal.div?_billion_isSome hroom
    rw [Option.isSome_iff_ne_none] at hshown
    simp only [Option.bind_eq_bind, Option.bind_some, hshown, reduceCtorEq]

end Gas

end DexTrade
