import DexTrade.Price
/-!
# Trade records

An analysed transaction ends in exactly one record: a success for a swap that was executed, a failure
for a transaction that reverted. Gas figures are the receipt's; amounts are in raw token units.
-/
namespace DexTrade

abbrev Gas := BitVec 64

abbrev Wei := BitVec 128

structure TradeSuccess where
  gasUsed : Gas
  effectiveGasPrice : Wei
  /-- The route, input token first. -/
  path : List Address
  amountIn : Word
  /-- The least output that the call data asked for. -/
  amountOutMin : Word
  amountOut : Word
  /-- In human units: a pool's price after the swap, or the rate at which a pair executed it. -/
  price : Decimal
  amountInDecimals : Nat
  amountOutDecimals : Nat
  token0 : Address
  token1 : Address
  /-- In units of the input token. -/
  lpFeePaid : Float
  deriving DecidableEq

structure TradeFail where
  gasUsed : Gas
  effectiveGasPrice : Wei
  /-- Missing where no reason could be recovered. -/
  revertReason : Option String
  deriving DecidableEq

inductive TradeAnalysis where
  | success (trade : TradeSuccess)
  | fail (trade : TradeFail)
  deriving DecidableEq

namespace TradeAnalysis

def isSuccess : TradeAnalysis → Bool
  | .success _ => true
  | .fail _ => false

def success? : TradeAnalysis → Option TradeSuccess
  | .success trade => some trade
  | .fail _ => none

def gasUsed : TradeAnalysis → Gas
  | .success trade => trade.gasUsed
  | .fail trade => trade.gasUsed

def effectiveGasPrice : TradeAnalysis → Wei
  | .success trade => trade.effectiveGasPrice
  | .fail trade => trade.effectiveGasPrice

end TradeAnalysis

/-! ## Gas -/

namespace Gas

/-- A gas price in gwei, of which one is a billion wei; nothing if it is too large for a decimal. -/
def gwei? (price : Wei) : Option Decimal := do
  let wei ← Decimal.ofNat? price.toNat
  wei.div? .billion

/-- The wei that gas costs, at most what a price can hold. -/
def costInWei (used : Gas) (price : Wei) : Nat :=
  min (used.toNat * price.toNat) 0xffffffffffffffffffffffffffffffff

/-- The cost in native units of a billion gwei; nothing if it is too large for a decimal. -/
def cost? (used : Gas) (price : Wei) : Option Decimal := do
  let wei ← Decimal.ofNat? (costInWei used price)
  let gwei ← wei.div? .billion
  gwei.div? .billion

end Gas

namespace TradeAnalysis

def gwei? (a : TradeAnalysis) : Option Decimal :=
  Gas.gwei? a.effectiveGasPrice

def costOfGas? (a : TradeAnalysis) : Option Decimal :=
  Gas.cost? a.gasUsed a.effectiveGasPrice

end TradeAnalysis

namespace TradeSuccess

/-- The price, or its inverse if that is asked for and there is one. -/
def humanPrice? (t : TradeSuccess) (reverse : Bool) : Option Decimal :=
  if reverse then Decimal.one.div? t.price else some t.price

def amountInHuman? (t : TradeSuccess) : Option Decimal :=
  (Price.amount t.amountIn t.amountInDecimals).toOption

def amountOutHuman? (t : TradeSuccess) : Option Decimal :=
  (Price.amount t.amountOut t.amountOutDecimals).toOption

end TradeSuccess

end DexTrade
