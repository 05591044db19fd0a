import DexTrade.Abi.Error
import DexTrade.Pool.Path
import DexTrade.Swap.Command
import DexTrade.TxHash
/-!
# Why an analysis has no outcome

Every cause for which a transaction has neither a success nor a failure record, and the text of each.
A transaction that reverted is not among them: it has a failure record. Only a failed read may go
better on a second try.
-/
namespace DexTrade

/-- A failed read: what failed, and below it what that failure came from, outermost first. -/
structure ReadFailure where
  message : String
  causes : List String
  deriving DecidableEq

namespace ReadFailure

/-- The message and all causes in one line. -/
def report (f : ReadFailure) : String :=
  ": ".intercalate (f.message :: f.causes)

end ReadFailure

/-- Why a transaction does not hold the one swap it has to hold. -/
inductive SwapSetProblem where
  | noOperation
  | operations (count : Nat)
  | noEvent
  | events (count : Nat)
  deriving DecidableEq

def SwapSetProblem.message : SwapSetProblem → String
  | .noOperation => "no swap operation detected in the transaction"
  | .operations count => s!"multiple swap operations detected in the transaction ({count})"
  | .noEvent => "no Swap event emitted by the transaction"
  | .events count => s!"multiple Swap events emitted by the transaction ({count})"

/-- Why call data is not a swap that can be read. A call is named by its selector as shown. -/
inductive CallProblem where
  | notV2Router (selector : String) (cause : Abi.Error)
  | notV3Router (selector : String) (cause : Abi.Error)
  | notUniversalRouter (selector : String) (cause : Abi.Error)
  | path (cause : PoolPath.Problem)
  /-- A V2 router call whose route has fewer than two tokens. -/
  | routeTooShort (function : String) (tokens : Nat)
  | nestedMulticall (selector : String)
  | inputCount (commands inputs : Nat)
  | commandInput (command : Command) (cause : Abi.Error)
  | notV3Command (command : Command)
  | notV2Command (command : Command)
  /-- A trade whose route has no two ends. -/
  | noRoute (tokens : Nat)
  | emptyV2Route
  deriving DecidableEq

def CallProblem.message : CallProblem → String
  | .notV2Router selector cause => "not a V2 router swap (" ++ selector ++ "): " ++ cause.message
  | .notV3Router selector cause => "not a V3 router swap (" ++ selector ++ "): " ++ cause.message
  | .notUniversalRouter selector cause =>
    "not a Universal Router execute (" ++ selector ++ "): " ++ cause.message
  | .path cause => cause.message
  | .routeTooShort function tokens => s!"{function} path has {tokens} tokens"
  | .nestedMulticall selector => "nested multicall (" ++ selector ++ ") inside multicall"
  | .inputCount commands inputs => s!"{commands} commands but {inputs} inputs"
  | .commandInput command cause => command.describe ++ " input: " ++ cause.message
  | .notV3Command command => command.describe ++ " is not a V3 swap"
  | .notV2Command command => command.describe ++ " is not a V2 swap"
  | .noRoute tokens => s!"swap path has {tokens} tokens"
  | .emptyV2Route => "empty V2 path"

/-- Why the amounts of an event make no trade. -/
inductive ShapeProblem where
  | outputs (amount0Out amount1Out : Word)
  | signs (amount0 amount1 : Word)
  | zeroInput
  | noUnsigned (argument : String)
  | noSigned (event argument : String)
  | tickRange (tick : Int)
  deriving DecidableEq

def ShapeProblem.message : ShapeProblem → String
  | .outputs amount0Out amount1Out =>
    s!"expected exactly one output amount, got amount0Out={amount0Out.decimal} " ++
      s!"amount1Out={amount1Out.decimal}"
  | .signs amount0 amount1 =>
    s!"expected one positive and one negative amount, got amount0={amount0.signedDecimal} " ++
      s!"amount1={amount1.signedDecimal}"
  | .zeroInput => "zero input amount"
  | .noUnsigned argument => "V2 Swap event has no '" ++ argument ++ "'"
  | .noSigned event argument => event ++ " event has no signed '" ++ argument ++ "'"
  | .tickRange tick => s!"tick {tick} out of range"

/-- What is recognised but not analysed. -/
inductive Unsupported where
  /-- The dispatcher met the universal router. -/
  | universalRouter
  | v2Command
  | multiHop (tokens : Nat)
  deriving DecidableEq

def Unsupported.message : Unsupported → String
  | .universalRouter => "universal router not implemented in the v2/v3 dispatcher"
  | .v2Command => "uniswap v2 trades through the universal router"
  | .multiHop tokens => s!"multi-hop route over {tokens} tokens"

inductive TradeError where
  /-- The destination, if there is one, is no known router of the chain. -/
  | unrecognizedRouter (chain : String) (destination : Option Address)
  | unsupported (what : Unsupported)
  | malformedSwapSet (problem : SwapSetProblem)
  | unsupportedShape (problem : ShapeProblem)
  | inputDecode (problem : CallProblem)
  | invalidTxHash (problem : TxHash.Problem)
  | priceOutOfRange (tick : Int)
  | amountOutOfRange (amount : Word)
  | failedRead (failure : ReadFailure)
  deriving DecidableEq

namespace TradeError

def message : TradeError → String
  | .unrecognizedRouter chain destination =>
    let shown := (destination.map Address.lowercase).getD "<contract creation>"
    "unrecognized router " ++ shown ++ " on chain '" ++ chain ++ "'"
  | .unsupported what => "not implemented: " ++ what.message
  | .malformedSwapSet problem => "malformed swap set: " ++ problem.message
  | .unsupportedShape problem => "unsupported swap type: " ++ problem.message
  | .inputDecode problem => "failed to decode transaction input: " ++ problem.message
  | .invalidTxHash problem => "invalid transaction hash: " ++ problem.message
  | .priceOutOfRange tick => s!"price for tick {tick} is outside decimal range"
  | .amountOutOfRange amount => s!"amount {amount.decimal} is outside decimal range"
  | .failedRead failure => failure.message

/-- Whether the cause lies with the source of chain data. -/
def isFailedRead : TradeError → Bool
  | .failedRead _ => true
  | _ => false

end TradeError

end DexTrade
