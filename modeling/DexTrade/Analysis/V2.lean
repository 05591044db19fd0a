import DexTrade.Analysis.Steps
import DexTrade.Swap.V2Router
/-!
# V2 trades

A pair reports a swap as four unsigned amounts, of which exactly one output must not be zero. The
price of the trade is the rate at which it was executed.
-/
namespace DexTrade.Analysis.V2

/-- The output and the input on the other side. -/
structure Amounts where
  output : Word
  input : Word
  deriving DecidableEq

def unsigned (event : Event) (name : String) : Except TradeError Word :=
  match event.unsigned? name with
  | some w => .ok w
  | none => .error (.unsupportedShape (.noUnsigned name))

/-- The amounts of a swap event. -/
def amounts (event : Event) : Except TradeError Amounts := do
  let amount0In ← unsigned event "amount0In"
  let amount1In ← unsigned event "amount1In"
  let amount0Out ← unsigned event "amount0Out"
  let amount1Out ← unsigned event "amount1Out"
  if amount0Out ≠ 0 ∧ amount1Out = 0 then return ⟨amount0Out, amount1In⟩
  else if amount0Out = 0 ∧ amount1Out ≠ 0 then return ⟨amount1Out, amount0In⟩
  else throw (.unsupportedShape (.outputs amount0Out amount1Out))

/-- Both ends of a route. -/
def ends (swap : SwapCall) : Except TradeError (Address × Address) :=
  match swap.tokenIn?, swap.tokenOut? with
  | some tokenIn, some tokenOut => .ok (tokenIn, tokenOut)
  | _, _ => .error (.inputDecode .emptyV2Route)

def called (hash : TxHash) (swap : SwapCall) : Entry :=
  about hash .debug s!"V2 router call {swap.function} over {swap.path.length} tokens"

def traded (pair : Address) (amountIn amountOut : Word) (price : Decimal) : Entry :=
  .debug ("V2 swap in pair " ++ pair.checksummed ++ ": in=" ++ amountIn.decimal ++ " out=" ++
    amountOut.decimal ++ " price=" ++ price.text)

/-- The record of a swap through a pair. The input is the one that the call names, else the pair's. -/
def buildTrade (receipt : Receipt) (fee : Nat) (swap : SwapCall) (event : Event) :
    Analysis TradeSuccess := do
  let amounts ← expect (amounts event)
  let amountIn := swap.amountIn.getD amounts.input
  let (tokenIn, tokenOut) ← expect (ends swap)
  let inToken ← read (.token tokenIn)
  let outToken ← read (.token tokenOut)
  let price ← expect (Price.executed amountIn inToken.decimals amounts.output outToken.decimals)
  let (token0, token1) ← read (.pair event.address)
  write [traded event.address amountIn amounts.output price]
  return { gasUsed := receipt.gasUsed
           effectiveGasPrice := receipt.effectiveGasPrice
           path := swap.path
           amountIn
           amountOutMin := swap.amountOutMin
           amountOut := amounts.output
           price
           amountInDecimals := inToken.decimals
           amountOutDecimals := outToken.decimals
           token0, token1
           lpFeePaid := Price.feePaid amountIn (Price.basisPointRate fee) inToken.decimals }

/-- The steps for a V2 router, with the fee of pairs in basis points. -/
def steps (fee : Nat) : Steps SwapCall where
  entries := V2Router.entries
  decode := V2Router.decode
  called := called
  select events := onlyEvent events .v2Swap
  build receipt swap event := buildTrade receipt fee swap event
  reverted _ _ := []

/-- Analyses a transaction sent to a V2 router, with the fee of pairs in basis points. -/
def analyse (transaction : Transaction) (hash : TxHash) (receipt : Receipt) (fee : Nat)
    (events : TxHash → Analysis (List Event) := Analysis.events) : Analysis TradeAnalysis :=
  (steps fee).analyse transaction hash receipt events

end DexTrade.Analysis.V2
