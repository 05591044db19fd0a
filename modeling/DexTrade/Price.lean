import DexTrade.Binary64.Basic
import DexTrade.Decimal.Division
import DexTrade.Decimal.OfBinary64
import DexTrade.Error
/-!
# Prices and fees

From raw amounts and pool ticks to human numbers. Amounts and executed prices are exact decimals. A
tick price is computed in floating point, since `1.0001 ^ tick` runs far outside what a decimal holds
before the tokens' decimals bring it back, and is converted once at the end. The fee paid stays in
floating point.
-/
namespace DexTrade.Price

/-- A tick is a factor of 1.0001. -/
def tickBase : Float := 1.0001

/-- `1.0001 ^ tick` adjusted by the tokens' decimals, as token 1 per token 0. -/
def tickFloat (tick : Int) (decimals0 decimals1 : Nat) : Float :=
  let adjustment := Binary64.power 10.0 (decimals0 - decimals1 : Int)
  Binary64.power tickBase tick * adjustment

/-- The decimal of a tick price; one that leaves no digit is out of range, as is one too large. -/
def ofTick (tick : Int) (decimals0 decimals1 : Nat) : Except TradeError Decimal :=
  let price := tickFloat tick decimals0 decimals1
  if ¬price.isFinite ∨ price ≤ 0.0 then .error (.priceOutOfRange tick)
  else
    match Decimal.ofFloat? price with
    | some d => if d.isZero then .error (.priceOutOfRange tick) else .ok d
    | none => .error (.priceOutOfRange tick)

/-- A raw amount in human units, exactly `amount / 10 ^ decimals` with that scale. -/
def amount (raw : Word) (decimals : Nat) : Except TradeError Decimal :=
  match Decimal.make? false raw.toNat decimals with
  | some d => .ok d
  | none => .error (.amountOutOfRange raw)

/-- The rate of an executed swap in human units, output per input. -/
def executed (amountIn : Word) (decimalsIn : Nat) (amountOut : Word) (decimalsOut : Nat) :
    Except TradeError Decimal := do
  let input ← amount amountIn decimalsIn
  let output ← amount amountOut decimalsOut
  match output.div? input with
  | some rate => return rate
  | none => throw (.unsupportedShape .zeroInput)

/-- The rate of a pool fee in hundredths of a basis point. -/
def poolFeeRate (fee : Nat) : Float :=
  Binary64.ofNat fee / 1000000.0

/-- The rate of a fee in basis points. -/
def basisPointRate (basisPoints : Nat) : Float :=
  Binary64.ofNat basisPoints / 10000.0

/-- The fee on an input amount, in units of the input token. -/
def feePaid (amountIn : Word) (rate : Float) (decimalsIn : Nat) : Float :=
  Binary64.ofNat amountIn.toNat * rate / Binary64.power 10.0 decimalsIn

end DexTrade.Price
