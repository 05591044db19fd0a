import DexTrade.Chain.Basic
/-!
# Reverted transactions

A transaction that reverted has a failure record whatever its call data is. Why it reverted is asked
for, but not being told is no error.
-/
namespace DexTrade.Analysis

def noReason (hash : TxHash) (failure : ReadFailure) : Entry :=
  about hash .warn ("Could not fetch revert reason: " ++ failure.report)

/-- The record of a reverted transaction. -/
def failedTrade (hash : TxHash) (receipt : Receipt) : Analysis TradeFail := do
  let reason ← attempt (.revertReason hash)
  match reason with
  | .ok reason => return ⟨receipt.gasUsed, receipt.effectiveGasPrice, reason⟩
  | .error failure =>
    write [noReason hash failure]
    return ⟨receipt.gasUsed, receipt.effectiveGasPrice, none⟩

/-- The only event of a kind. -/
def onlyEvent (events : List Event) (kind : EventKind) : Except TradeError Event :=
  match events.filter fun e => e.kind == kind with
  | [] => .error (.malformedSwapSet .noEvent)
  | [event] => .ok event
  | many => .error (.malformedSwapSet (.events many.length))

/-- The last event of a kind. -/
def lastEvent (events : List Event) (kind : EventKind) : Except TradeError Event :=
  match (events.filter fun e => e.kind == kind).getLast? with
  | some event => .ok event
  | none => .error (.malformedSwapSet .noEvent)

end DexTrade.Analysis
