/-!
# Binary floating-point numbers

A finite 64-bit floating-point number is a whole number of at most 53 bits times a power of two; the
two are read off its bits. Whole numbers are brought into this form by rounding to nearest, a half to
the even neighbour.
-/
namespace DexTrade.Binary64

/-- What the bits of a number say. -/
inductive Reading where
  | notANumber
  | infinite (negative : Bool)
  /-- The number `mantissa * 2 ^ exponent`. `atBinade` says that the next smaller number is only half
  as far away as the next larger one. -/
  | finite (negative : Bool) (mantissa : Nat) (exponent : Int) (atBinade : Bool)
  deriving DecidableEq

/-- The leading digit of a normal mantissa, which has the value 2^52 and is not written. -/
def hiddenBit : Nat := 0x10000000000000

def read (x : Float) : Reading :=
  let bits : Nat := x.toBits.toNat
  let negative : Bool := 0x8000000000000000 ≤ bits
  let field : Nat := bits / hiddenBit % 0x800
  let fraction : Nat := bits % hiddenBit
  if field = 0x7ff then
    if fraction = 0 then .infinite negative else .notANumber
  else if field = 0 then .finite negative fraction (-1074) false
  else .finite negative (hiddenBit + fraction) (field - 1075) (fraction = 0 ∧ 1 < field)

/-- The quotient rounded to the nearest whole number; a half goes to the even neighbour. -/
def roundDiv (n d : Nat) : Nat :=
  let q := n / d
  let r := n % d
  if d < 2 * r ∨ (2 * r = d ∧ q % 2 = 1) then q + 1 else q

/-- The number nearest a whole number below 2^1023. All digits count, also for amounts of more than 64
bits: just above the middle between two neighbours it is the upper one. -/
def ofNat (n : Nat) : Float :=
  if n = 0 then 0.0
  else
    let e := n.log2
    let mantissa := if e ≤ 52 then n * Nat.pow 2 (52 - e) else roundDiv n (Nat.pow 2 (e - 52))
    Float.ofBits (UInt64.ofNat ((e + 1023) * hiddenBit + (mantissa - hiddenBit)))

/-- Multiplies `result` by the powers `base`, `base ^ 2`, `base ^ 4`, … that belong to the ones among
the lowest `digits` binary digits of `n`, lowest first. -/
def powerFrom : (digits : Nat) → (result base : Float) → (n : Nat) → Float
  | 0, result, _, _ => result
  | digits + 1, result, base, n =>
    powerFrom digits (if n % 2 = 1 then result * base else result) (base * base) (n / 2)

/-- A power by repeated squaring; a negative power is the reciprocal of the positive one. -/
def power (base : Float) (n : Int) : Float :=
  let magnitude := powerFrom (n.natAbs.log2 + 1) 1.0 base n.natAbs
  if n < 0 then 1.0 / magnitude else magnitude

end DexTrade.Binary64
