import DexTrade.Binary64.Basic
/-!
# Shortest decimal digits

The fewest decimal digits that read back as the number, and of those the ones nearest to it. For one
digit, two digits and so on the two neighbours of the number on that decimal grid are tried; the first
grid with a neighbour that reads back wins. All tests are in whole numbers.
-/
namespace DexTrade.Binary64

/-- The number of decimal digits. -/
def digitCount (n : Nat) : Nat :=
  (Nat.toDigits 10 n).length

/-- A positive fraction of whole numbers. -/
structure Ratio where
  num : Nat
  den : Nat

namespace Ratio

/-- `n * 2 ^ e`. -/
def ofBinary (n : Nat) (e : Int) : Ratio :=
  if 0 ≤ e then ⟨n * Nat.pow 2 e.toNat, 1⟩ else ⟨n, Nat.pow 2 (-e).toNat⟩

/-- `n * 10 ^ e`. -/
def ofDecimal (n : Nat) (e : Int) : Ratio :=
  if 0 ≤ e then ⟨n * Nat.pow 10 e.toNat, 1⟩ else ⟨n, Nat.pow 10 (-e).toNat⟩

def le (a b : Ratio) : Bool :=
  a.num * b.den ≤ b.num * a.den

def lt (a b : Ratio) : Bool :=
  a.num * b.den < b.num * a.den

/-- The largest whole number of units `10 ^ e` that is not above the fraction. -/
def floorUnits (a : Ratio) (e : Int) : Nat :=
  if 0 ≤ e then a.num / (a.den * Nat.pow 10 e.toNat)
  else a.num * Nat.pow 10 (-e).toNat / a.den

/-- The exponent of the first decimal digit. -/
def decimalExponent (a : Ratio) : Int :=
  if a.den ≤ a.num then digitCount (a.num / a.den) - 1
  else
    let places := digitCount (a.den / a.num)
    if a.den ≤ a.num * Nat.pow 10 (places - 1) then -(places - 1 : Int) else -places

end Ratio

/-- Digits read as one whole number, times a power of ten. -/
structure Digits where
  digits : Nat
  exponent : Int
  deriving DecidableEq

/-- The numbers that read back as one floating-point number: between the two bounds, which belong to
them when the mantissa is even. -/
structure Interval where
  low : Ratio
  high : Ratio
  closed : Bool

def Interval.contains (i : Interval) (a : Ratio) : Bool :=
  if i.closed then i.low.le a && a.le i.high else i.low.lt a && a.lt i.high

/-- The numbers that read back as `mantissa * 2 ^ exponent`. -/
def interval (mantissa : Nat) (exponent : Int) (atBinade : Bool) : Interval :=
  { low := .ofBinary (4 * mantissa - if atBinade then 1 else 2) (exponent - 2)
    high := .ofBinary (4 * mantissa + 2) (exponent - 2)
    closed := mantissa % 2 == 0 }

/-- The neighbour of the value on the grid of units `10 ^ e` that reads back, and of two the nearer;
at equal distance the even one. -/
def onGrid? (value : Ratio) (i : Interval) (e : Int) : Option Digits :=
  let below := value.floorUnits e
  let low := Ratio.ofDecimal below e
  let high := Ratio.ofDecimal (below + 1) e
  let middle := Ratio.ofDecimal (2 * below + 1) e
  let twice : Ratio := ⟨2 * value.num, value.den⟩
  match i.contains low, i.contains high with
  | true, false => some ⟨below, e⟩
  | false, true => some ⟨below + 1, e⟩
  | true, true =>
    if twice.lt middle || (twice.le middle && below % 2 == 0) then some ⟨below, e⟩
    else some ⟨below + 1, e⟩
  | false, false => none

/-- The shortest digits of a positive number; seventeen are always enough. -/
def shortest (mantissa : Nat) (exponent : Int) (atBinade : Bool) : Digits :=
  let value := Ratio.ofBinary mantissa exponent
  let first := value.decimalExponent
  let i := interval mantissa exponent atBinade
  ((List.range 17).findSome? fun n : Nat => onGrid? value i (first - n)).getD ⟨0, 0⟩

end DexTrade.Binary64
