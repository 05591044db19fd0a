import DexTrade.Analysis.V3
import DexTrade.Swap.UniversalRouter
import DexTrade.Text.Quoted
/-!
# Universal router trades

A call that holds exactly one V3 swap command of one hop. The router may touch several pools on the
way; the trade is read from the last V3 swap event, which is that of the pool the output came from.
-/
namespace DexTrade.Analysis.Universal

def reverted (hash : TxHash) (reason : Option String) : Entry :=
  about hash .info ("Universal Router trade reverted: " ++ Text.quotedOption reason)

def called (hash : TxHash) (op : Operation) (swap : SwapCall) : Entry :=
  about hash .debug
    ("Universal Router " ++ op.command.describe ++ s!" over {swap.path.length} tokens")

/-- The only swap among the operations, if it is a V3 swap. -/
def onlySwap (call : ExecuteCall) : Except TradeError Operation :=
  match call.swapOperations with
  | [] => .error (.malformedSwapSet .noOperation)
  | [op] => if op.command.isV2Swap then .error (.unsupported .v2Command) else .ok op
  | ops => .error (.malformedSwapSet (.operations ops.length))

/-- The operation that is the only swap of a call, and the swap it stands for. -/
def decodeSwap (input : Bytes) : Except TradeError (Operation × SwapCall) := do
  let call ← ExecuteCall.decode input
  let op ← onlySwap call
  let swap ← op.decodeV3Swap
  return (op, swap)

/-- The steps for the universal router. -/
def steps : Steps (Operation × SwapCall) where
  entries := ExecuteCall.entries
  decode := decodeSwap
  called hash | (op, swap) => called hash op swap
  select events := lastEvent events .v3Swap
  build receipt | (_, swap), event => V3.buildTrade receipt swap.path swap.amountOutMin event
  reverted hash fail := [reverted hash fail.revertReason]

/-- Analyses a fetched transaction of the universal router. -/
def analyseFetched (transaction : Transaction) (hash : TxHash) (receipt : Receipt)
    (events : TxHash → Analysis (List Event) := Analysis.events) : Analysis TradeAnalysis :=
  steps.analyse transaction hash receipt events

/-- Fetches a transaction of the universal router and its receipt and analyses them. -/
def analyse (hash : TxHash)
    (events : TxHash → Analysis (List Event) := Analysis.events) : Analysis TradeAnalysis := do
  let transaction ← read (.transaction hash)
  let receipt ← read (.receipt hash)
  analyseFetched transaction hash receipt events

end DexTrade.Analysis.Universal
