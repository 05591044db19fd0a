import DexTrade.Analysis.Steps
import DexTrade.Swap.V3Router
/-!
# V3 trades

A pool reports a swap as two signed amounts: what flowed into the pool is positive, what left it is
negative. The price of the trade is the pool's price after it. Only routes of one hop have a record,
since the amounts of one pool belong to both ends of the route.
-/
namespace DexTrade.Analysis.V3

def signed (event : Event) (name : String) : Except TradeError Word :=
  match event.signed? name with
  | some w => .ok w
  | none => .error (.unsupportedShape (.noSigned event.name name))

/-- The two ends of a route of one hop. -/
def ends (path : List Address) : Except TradeError (Address × Address) :=
  match path with
  | [tokenIn, tokenOut] => .ok (tokenIn, tokenOut)
  | [] | [_] => .error (.inputDecode (.noRoute path.length))
  | _ => .error (.unsupported (.multiHop path.length))

/-- The tick of an event, a signed number of 32 bits. -/
def tick (event : Event) : Except TradeError Int := do
  let w ← signed event "tick"
  if -0x80000000 ≤ w.toInt ∧ w.toInt < 0x80000000 then return w.toInt
  else throw (.unsupportedShape (.tickRange w.toInt))

/-- What flowed into the pool and what left it, both without sign. -/
structure Amounts where
  input : Word
  output : Word
  deriving DecidableEq

/-- The distance of a signed number from zero. -/
def magnitude (w : Word) : Word :=
  BitVec.ofNat 256 w.toInt.natAbs

/-- The amounts of opposite sign. -/
def amounts (amount0 amount1 : Word) : Except TradeError Amounts :=
  if 0 < amount0.toInt ∧ amount1.toInt < 0 then .ok ⟨magnitude amount0, magnitude amount1⟩
  else if amount0.toInt < 0 ∧ 0 < amount1.toInt then .ok ⟨magnitude amount1, magnitude amount0⟩
  else .error (.unsupportedShape (.signs amount0 amount1))

/-- What an event says about a trade. -/
structure Reported where
  tick : Int
  amounts : Amounts
  deriving DecidableEq

def reported (event : Event) : Except TradeError Reported := do
  let amount0 ← signed event "amount0"
  let amount1 ← signed event "amount1"
  let tick ← tick event
  let amounts ← amounts amount0 amount1
  return ⟨tick, amounts⟩

def called (hash : TxHash) (swap : SwapCall) : Entry :=
  about hash .debug s!"V3 router call {swap.function} over {swap.path.length} tokens"

/-- A token's symbol, or a question mark. -/
def shownSymbol (t : Token) : String :=
  t.symbol.getD "?"

def traded (pool : Pool) (inToken outToken : Token) (r : Reported) (price : Decimal) : Entry :=
  .debug ("V3 swap in pool " ++ pool.address.checksummed ++ s!" (fee {pool.fee}): " ++
    r.amounts.input.decimal ++ " " ++ shownSymbol inToken ++ " -> " ++ r.amounts.output.decimal ++
    " " ++ shownSymbol outToken ++ s!" tick={r.tick} price=" ++ price.text)

/-- The record of a swap through one pool along a route, input token first. -/
def buildTrade (receipt : Receipt) (path : List Address) (amountOutMin : Word) (event : Event) :
    Analysis TradeSuccess := do
  let (tokenIn, tokenOut) ← expect (ends path)
  let r ← expect (reported event)
  let pool ← read (.pool event.address)
  let inToken ← read (.token tokenIn)
  let outToken ← read (.token tokenOut)
  let price ← expect (pool.price r.tick false)
  write [traded pool inToken outToken r price]
  return { gasUsed := receipt.gasUsed
           effectiveGasPrice := receipt.effectiveGasPrice
           path
           amountIn := r.amounts.input
           amountOutMin
           amountOut := r.amounts.output
           price
           amountInDecimals := inToken.decimals
           amountOutDecimals := outToken.decimals
           token0 := pool.token0.address
           token1 := pool.token1.address
           lpFeePaid := Price.feePaid r.amounts.input pool.feeRate inToken.decimals }

/-- The steps for a V3 router. -/
def steps : Steps SwapCall where
  entries := V3Router.entries
  decode := V3Router.decode
  called := called
  select events := onlyEvent events .v3Swap
  build receipt swap event := buildTrade receipt swap.path swap.amountOutMin event
  reverted _ _ := []

/-- Analyses a transaction sent to a V3 router. -/
def analyse (transaction : Transaction) (hash : TxHash) (receipt : Receipt)
    (events : TxHash → Analysis (List Event) := Analysis.events) : Analysis TradeAnalysis :=
  steps.analyse transaction hash receipt events

end DexTrade.Analysis.V3
