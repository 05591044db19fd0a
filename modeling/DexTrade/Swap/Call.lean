import DexTrade.Pool.Path
/-!
# Swap calls

What the sender of a router transaction asked for: a route, and either an exact input with a least
output or an exact output with a largest input.
-/
namespace DexTrade

structure SwapCall where
  /-- The router function or the router command. -/
  function : String
  /-- The route, input token first. -/
  path : List Address
  /-- The fee of each hop; empty where pools have no fee of their own. -/
  fees : List Nat
  /-- The exact input; missing for an exact output and for a payment in ether. -/
  amountIn : Option Word
  /-- The largest input of an exact output; missing for a payment in ether. -/
  amountInMax : Option Word
  /-- The least output of an exact input, else the exact output. -/
  amountOutMin : Word
  exactOutput : Bool
  deriving DecidableEq

namespace SwapCall

def tokenIn? (s : SwapCall) : Option Address :=
  s.path.head?

def tokenOut? (s : SwapCall) : Option Address :=
  s.path.getLast?

def ofExactInput (function : String) (route : PoolPath) (amountIn : Option Word)
    (amountOutMin : Word) : SwapCall :=
  { function, path := route.tokens, fees := route.fees, amountIn, amountInMax := none
    amountOutMin, exactOutput := false }

def ofExactOutput (function : String) (route : PoolPath) (amountOut : Word)
    (amountInMax : Option Word) : SwapCall :=
  { function, path := route.tokens, fees := route.fees, amountIn := none, amountInMax
    amountOutMin := amountOut, exactOutput := true }

end SwapCall

end DexTrade
