import DexTrade.Decimal.Basic
/-!
# Division of decimals

The quotient is built up as a whole number `quotient` of scale `scale` with a remainder below the
divisor. While something remains the scale grows by as many places at a time as the mantissa has room
for, nine at most. A quotient that can grow no further is rounded to nearest, a half to the even
neighbour; trailing zeros that growing brought in are taken off again.
-/
namespace DexTrade.Decimal

/-- The most places the quotient grows by at a time. -/
def step : Nat := 9

/-- How many more places the quotient takes: as many as keep it below 2^96, up to a step and up to
the largest scale. -/
def room (quotient : Nat) (scale : Int) : Nat :=
  let most := min step (maxScale - scale).toNat
  ((List.range (most + 1)).reverse.find? fun p => quotient * Nat.pow 10 p ≤ maxMantissa).getD 0

/-- A quotient in the making. `inexact` says whether anything remained on the way. -/
structure Quotient where
  mantissa : Nat
  scale : Int
  inexact : Bool

/-- Drops the last digit, rounding to nearest; of a half with nothing behind it, to even. -/
def dropDigit (quotient : Nat) (scale : Int) (more : Bool) : Option Quotient :=
  if scale ≤ 0 then none
  else
    let kept := quotient / 10
    let digit := quotient % 10
    let up := 5 < digit || (digit == 5 && (more || kept % 2 == 1))
    some ⟨if up then kept + 1 else kept, scale - 1, true⟩

/-- Rounds to nearest by what remains of the divisor; a half goes to the even neighbour. -/
def roundLast (quotient remainder divisor : Nat) (scale : Int) : Option Quotient :=
  let up := divisor < 2 * remainder || (2 * remainder == divisor && quotient % 2 == 1)
  if up then
    if maxMantissa < quotient + 1 then dropDigit (quotient + 1) scale true
    else some ⟨quotient + 1, scale, true⟩
  else
    some ⟨quotient, scale, true⟩

/-- Grows the quotient until nothing remains or no place is left. Every turn that does not end the
work raises the scale, which starts at -28 or above and ends at 28 or below. -/
def grow (divisor : Nat) : (turns : Nat) → (quotient remainder : Nat) → (scale : Int) →
    (inexact : Bool) → Option Quotient
  | 0, _, _, _, _ => none
  | turns + 1, quotient, remainder, scale, inexact =>
    let next (p : Nat) (inexact : Bool) : Option Quotient :=
      let grown := quotient * Nat.pow 10 p
      if maxMantissa < grown then none
      else
        let sum := grown + remainder * Nat.pow 10 p / divisor
        let rest := remainder * Nat.pow 10 p % divisor
        if maxMantissa < sum then dropDigit sum (scale + p) (rest != 0)
        else grow divisor turns sum rest (scale + p) inexact
    if remainder = 0 then
      if 0 ≤ scale then some ⟨quotient, scale, inexact⟩
      else next (min step (-scale).toNat) inexact
    else
      let p := room quotient scale
      if p < step ∧ scale + p < 0 then none
      else if p = 0 then roundLast quotient remainder divisor scale
      else next p true

/-- Takes `places` zeros off the end if the scale has them to spare. -/
def dropZeros (places : Nat) (mantissa scale : Nat) : Nat × Nat :=
  if places ≤ scale ∧ mantissa % Nat.pow 10 places = 0 then
    (mantissa / Nat.pow 10 places, scale - places)
  else (mantissa, scale)

/-- Takes eight zeros off as often as that goes. -/
def dropEights : Nat → Nat → Nat → Nat × Nat
  | 0, mantissa, scale => (mantissa, scale)
  | turns + 1, mantissa, scale =>
    if mantissa % 0x100000000 = 0 ∧ 8 ≤ scale ∧ mantissa % 100000000 = 0 then
      dropEights turns (mantissa / 100000000) (scale - 8)
    else
      (mantissa, scale)

/-- Takes trailing zeros off the end: eights, then four, then two, then one. -/
def trimZeros (mantissa scale : Nat) : Nat × Nat :=
  let (mantissa, scale) := dropEights 3 mantissa scale
  let (mantissa, scale) := dropZeros 4 mantissa scale
  let (mantissa, scale) := dropZeros 2 mantissa scale
  dropZeros 1 mantissa scale

/-- More turns than any division takes. -/
def turnLimit : Nat := 64

/-- The quotient of two mantissas of the given scales, without signs. -/
def quotient? (a b : Decimal) : Option (Nat × Nat) :=
  if b.mantissa = 0 then none
  else if a.mantissa = 0 then some (0, 0)
  else
    (grow b.mantissa turnLimit (a.mantissa / b.mantissa) (a.mantissa % b.mantissa)
      (a.scale - b.scale : Int) false).map fun q =>
        if q.inexact then trimZeros q.mantissa q.scale.toNat else (q.mantissa, q.scale.toNat)

/-- The quotient, or nothing for a zero divisor or a quotient that is too large. -/
def div? (a b : Decimal) : Option Decimal :=
  (quotient? a b).bind fun (mantissa, scale) => make? (a.negative != b.negative) mantissa scale

end DexTrade.Decimal
