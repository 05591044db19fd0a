/-!
# Decimal numbers

A decimal is a 96-bit whole number divided by a power of ten of at most 28; the power is kept as the
number's scale, so `2.50` and `2.5` are different decimals of one value. Zero has no sign.
-/
namespace DexTrade

/-- The largest mantissa, 2^96 - 1. -/
def Decimal.maxMantissa : Nat := 0xffffffffffffffffffffffff

/-- The largest scale. -/
def Decimal.maxScale : Nat := 28

structure Decimal where
  negative : Bool
  mantissa : Nat
  scale : Nat
  mantissa_le : mantissa ≤ Decimal.maxMantissa
  scale_le : scale ≤ Decimal.maxScale
  zero_sign : mantissa = 0 → negative = false
  deriving DecidableEq

namespace Decimal

/-- The decimal of that sign, mantissa and scale, if both numbers fit. -/
def make? (negative : Bool) (mantissa scale : Nat) : Option Decimal :=
  if h : mantissa ≤ maxMantissa ∧ scale ≤ maxScale then
    some
      { negative := negative && mantissa != 0
        mantissa, scale
        mantissa_le := h.1
        scale_le := h.2
        zero_sign := by rintro rfl; simp }
  else
    none

def one : Decimal := ⟨false, 1, 0, by decide, by decide, fun _ => rfl⟩

def billion : Decimal := ⟨false, 1000000000, 0, by decide, by decide, fun _ => rfl⟩

/-- The whole number as a decimal, if it fits. -/
def ofNat? (n : Nat) : Option Decimal :=
  make? false n 0

def isZero (d : Decimal) : Bool :=
  d.mantissa == 0

/-- The mantissa with its sign. -/
def signedMantissa (d : Decimal) : Int :=
  if d.negative then -(d.mantissa : Int) else d.mantissa

/-- Places the point in front of the last `scale` digits, with zeros in front of it as needed. -/
def withPoint (digits : List Char) (scale : Nat) : List Char :=
  if scale = 0 then digits
  else
    let full := List.replicate (scale + 1 - digits.length) '0' ++ digits
    full.take (full.length - scale) ++ '.' :: full.drop (full.length - scale)

/-- All digits of the mantissa, with as many behind the point as the scale says. -/
def text (d : Decimal) : String :=
  let digits := String.ofList (withPoint (Nat.toDigits 10 d.mantissa) d.scale)
  if d.negative then "-" ++ digits else digits

/-- The number that decimal digits spell. -/
def digitsValue? (digits : List Char) : Option Nat :=
  if digits.isEmpty ∨ ¬digits.all Char.isDigit then none
  else some (digits.foldl (fun n c => 10 * n + (c.toNat - 48)) 0)

/-- Reads digits with at most one point among them and a minus sign in front or none. -/
def ofText? (s : String) : Option Decimal :=
  let (negative, unsigned) :=
    match s.toList with
    | '-' :: rest => (true, rest)
    | cs => (false, cs)
  let whole := unsigned.takeWhile (· != '.')
  let places := unsigned.drop (whole.length + 1)
  (digitsValue? (whole ++ places)).bind fun mantissa => make? negative mantissa places.length

end Decimal

end DexTrade
