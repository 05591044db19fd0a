import DexTrade.Binary64.Basic
import DexTrade.Decimal.Basic
/-!
# Decimals from floating-point numbers

A positive number `m * 2 ^ e` is turned into a decimal step by step. First its power of two becomes a
power of ten, by multiplying the mantissa with as many fives or twos as it has room for and giving up
low bits or digits after that. Then the power of ten is brought between -28 and 0, and the mantissa
down to 52 bits where places are left to give up. Each loop counts one exponent towards zero, so the
exponent bounds its turns.
-/
namespace DexTrade.Decimal

/-- A mantissa times a power of ten. -/
structure Scaled where
  mantissa : Nat
  tens : Int

/-- Turns `2 ^ -turns` into `10 ^ -turns`: each factor `1/2` is taken from an even mantissa, else it
becomes a factor five if there is room, else the mantissa loses its lowest bit. -/
def liftNegative : (turns : Nat) → Scaled → Scaled
  | 0, s => s
  | turns + 1, ⟨m, tens⟩ =>
    liftNegative turns
      (if m % 2 = 0 then ⟨m / 2, tens + 1⟩
      else if m * 5 ≤ maxMantissa then ⟨m * 5, tens⟩
      else ⟨m / 2, tens + 1⟩)

/-- Turns `2 ^ turns` into a power of ten: each factor two doubles the mantissa while it is below
2^95, after that it becomes a tenfold of a fifth. Nothing if the number is too large. -/
def liftPositive : (turns : Nat) → Scaled → Option Scaled
  | 0, s => some s
  | turns + 1, ⟨m, tens⟩ =>
    if m < Nat.pow 2 95 then liftPositive turns ⟨m * 2, tens - 1⟩
    else if (turns + 1 : Int) < 2 * tens then none
    else liftPositive turns ⟨m / 5, tens⟩

/-- Multiplies tens out, if the mantissa has room for all of them. -/
def multiplyOut : (turns : Nat) → Scaled → Option Scaled
  | 0, s => some s
  | turns + 1, ⟨m, tens⟩ =>
    if m * 10 ≤ maxMantissa then multiplyOut turns ⟨m * 10, tens - 1⟩ else none

/-- The mantissa without its last digit, which rounds it up from five on. -/
def withoutLast (m : Nat) : Nat :=
  if 5 ≤ m % 10 then m / 10 + 1 else m / 10

/-- Gives up places beyond the largest scale; a mantissa of one digit leaves zero. -/
def dropPlaces : (turns : Nat) → Scaled → Scaled
  | 0, s => s
  | turns + 1, ⟨m, tens⟩ =>
    if m / 10 = 0 then ⟨0, 0⟩
    else dropPlaces turns ⟨withoutLast m, tens + 1⟩

/-- Gives up places of a mantissa of more than 52 bits. -/
def dropExcess : (turns : Nat) → Scaled → Scaled
  | 0, s => s
  | turns + 1, ⟨m, tens⟩ =>
    if Nat.pow 2 52 ≤ m then dropExcess turns ⟨withoutLast m, tens + 1⟩ else ⟨m, tens⟩

/-- Gives up zeros at the end. -/
def dropTrailingZeros : (turns : Nat) → Scaled → Scaled
  | 0, s => s
  | turns + 1, ⟨m, tens⟩ =>
    if m % 10 = 0 then dropTrailingZeros turns ⟨m / 10, tens + 1⟩ else ⟨m, tens⟩

/-- The decimal for `mantissa * 2 ^ exponent`. -/
def ofBinary? (negative : Bool) (mantissa : Nat) (exponent : Int) : Option Decimal := do
  let start : Scaled := ⟨mantissa, exponent⟩
  let lifted ←
    if exponent < 0 then some (liftNegative (-exponent).toNat start)
    else liftPositive exponent.toNat start
  let whole ← multiplyOut lifted.tens.toNat lifted
  let placed := dropPlaces (-28 - whole.tens).toNat whole
  let short := dropExcess (-placed.tens).toNat placed
  let final := dropTrailingZeros (-short.tens).toNat short
  make? negative final.mantissa (-final.tens).toNat

/-- The decimal for a finite number, if there is one. -/
def ofFloat? (x : Float) : Option Decimal :=
  match Binary64.read x with
  | .finite negative mantissa exponent _ => ofBinary? negative mantissa exponent
  | _ => none

end DexTrade.Decimal
