import DexTrade.Price
/-!
# Tokens and pools

What a token and a pool say about themselves.
-/
namespace DexTrade

structure Token where
  address : Address
  decimals : Nat
  /-- Missing where the token has no symbol or one that is no text. -/
  symbol : Option String
  deriving DecidableEq

/-- A pool orders its tokens by address; its ticks price token 1 in units of token 0. -/
structure Pool where
  address : Address
  token0 : Token
  token1 : Token
  /-- In hundredths of a basis point. -/
  fee : Nat
  deriving DecidableEq

namespace Pool

def feeRate (p : Pool) : Float :=
  Price.poolFeeRate p.fee

/-- The human price at a tick: token 1 per token 0, or the other way around. -/
def price (p : Pool) (tick : Int) (reverse : Bool) : Except TradeError Decimal := do
  let price ← Price.ofTick tick p.token0.decimals p.token1.decimals
  if reverse then
    match Decimal.one.div? price with
    | some inverse => return inverse
    | none => throw (.priceOutOfRange tick)
  else
    return price

end Pool

end DexTrade
