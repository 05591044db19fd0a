import DexTrade.Abi.Interface
import DexTrade.Error
import DexTrade.Journal
import DexTrade.Swap.Call
/-!
# V2 router calls

Nine functions swap along a route of pairs. They differ in which side is exact, in whether the input
is paid in ether, which leaves the input amount out of the arguments, and in whether tokens that take
a fee on transfer are expected, which makes no difference here.
-/
namespace DexTrade.V2Router

inductive Function where
  | exactTokensForTokens
  | tokensForExactTokens
  | exactEtherForTokens
  | tokensForExactEther
  | exactTokensForEther
  | etherForExactTokens
  | exactTokensForTokensWithTransferFee
  | exactEtherForTokensWithTransferFee
  | exactTokensForEtherWithTransferFee
  deriving DecidableEq

namespace Function

def all : List Function :=
  [.exactTokensForTokens, .tokensForExactTokens, .exactEtherForTokens, .tokensForExactEther,
    .exactTokensForEther, .etherForExactTokens, .exactTokensForTokensWithTransferFee,
    .exactEtherForTokensWithTransferFee, .exactTokensForEtherWithTransferFee]

def name : Function → String
  | .exactTokensForTokens => "swapExactTokensForTokens"
  | .tokensForExactTokens => "swapTokensForExactTokens"
  | .exactEtherForTokens => "swapExactETHForTokens"
  | .tokensForExactEther => "swapTokensForExactETH"
  | .exactTokensForEther => "swapExactTokensForETH"
  | .etherForExactTokens => "swapETHForExactTokens"
  | .exactTokensForTokensWithTransferFee =>
    "swapExactTokensForTokensSupportingFeeOnTransferTokens"
  | .exactEtherForTokensWithTransferFee => "swapExactETHForTokensSupportingFeeOnTransferTokens"
  | .exactTokensForEtherWithTransferFee => "swapExactTokensForETHSupportingFeeOnTransferTokens"

def selector : Function → Selector
  | .exactTokensForTokens => 0x38ed1739
  | .tokensForExactTokens => 0x8803dbee
  | .exactEtherForTokens => 0x7ff36ab5
  | .tokensForExactEther => 0x4a25d94a
  | .exactTokensForEther => 0x18cbafe5
  | .etherForExactTokens => 0xfb3bdb41
  | .exactTokensForTokensWithTransferFee => 0x5c11d795
  | .exactEtherForTokensWithTransferFee => 0xb6f9de95
  | .exactTokensForEtherWithTransferFee => 0x791ac947

def isExactOutput : Function → Bool
  | .tokensForExactTokens | .tokensForExactEther | .etherForExactTokens => true
  | _ => false

/-- The input is the ether sent along, so the arguments do not name it. -/
def paysEther : Function → Bool
  | .exactEtherForTokens | .etherForExactTokens | .exactEtherForTokensWithTransferFee => true
  | _ => false

end Function

/-- Input and output amount in the order of the function, route, receiver and deadline. -/
def tokenParams : List Abi.Param :=
  [.uint 256, .uint 256, .addresses, .address, .uint 256]

/-- Output amount, route, receiver and deadline. -/
def etherParams : List Abi.Param :=
  [.uint 256, .addresses, .address, .uint 256]

/-- The swap that a function with arguments for a token payment stands for. The exact amount comes
first, the bound on the other side second. -/
def tokenSwap (f : Function) (exact bound : Word) (route : List Address) : SwapCall :=
  if f.isExactOutput then SwapCall.ofExactOutput f.name ⟨route, []⟩ exact (some bound)
  else SwapCall.ofExactInput f.name ⟨route, []⟩ (some exact) bound

/-- The swap that a function with arguments for a payment in ether stands for. -/
def etherSwap (f : Function) (output : Word) (route : List Address) : SwapCall :=
  if f.isExactOutput then SwapCall.ofExactOutput f.name ⟨route, []⟩ output none
  else SwapCall.ofExactInput f.name ⟨route, []⟩ none output

/-- Reads the arguments of a function. -/
def readArguments (f : Function) (arguments : Bytes) : Except Abi.Error SwapCall :=
  if f.paysEther then do
    let (output, route, _) ← Abi.read etherParams arguments
    return etherSwap f output route
  else do
    let (exact, bound, route, _) ← Abi.read tokenParams arguments
    return tokenSwap f exact bound route

def interface : Abi.Interface SwapCall where
  name := "IUniswapV2Router02Calls"
  shortest := 164
  functions := Function.all.map fun f => (f.selector, readArguments f)

/-- The swap a call of the V2 router asks for; its route has two tokens or more. -/
def decode (input : Bytes) : Except TradeError SwapCall :=
  match interface.read input with
  | .error cause => .error (.inputDecode (.notV2Router (Selector.describe input) cause))
  | .ok swap =>
    if swap.path.length < 2 then
      .error (.inputDecode (.routeTooShort swap.function swap.path.length))
    else
      .ok swap

/-- What reading a call leaves in the journal. -/
def entries (input : Bytes) : List Entry :=
  match decode input with
  | .ok swap => [.trace s!"Decoded {swap.function} over {swap.path.length} tokens"]
  | .error _ => []

end DexTrade.V2Router
