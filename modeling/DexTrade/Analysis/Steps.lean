import DexTrade.Analysis.Failure
/-!
# The steps of an analysis

The analyses of all router families take the same course. A reverted transaction has a failure record
whatever was called. Of an executed one the call data is decoded before anything is read of it; then one
of the transaction's events is selected, and the record is built from the call and that event.
-/
namespace DexTrade.Analysis

/-- What the families do differently. -/
structure Steps (Call : Type) where
  /-- What reading the call data leaves in the journal. -/
  entries : Bytes → List Entry
  decode : Bytes → Except TradeError Call
  called : TxHash → Call → Entry
  select : List Event → Except TradeError Event
  build : Receipt → Call → Event → Analysis TradeSuccess
  /-- What is written about a failure. -/
  reverted : TxHash → TradeFail → List Entry

namespace Steps

variable {Call : Type}

/-- The trade of a decoded call, read from the event that is selected among the transaction's. -/
def trade (x : Steps Call) (hash : TxHash) (receipt : Receipt)
    (events : TxHash → Analysis (List Event)) (call : Call) : Analysis TradeAnalysis := do
  let events ← events hash
  let event ← expect (x.select events)
  return .success (← x.build receipt call event)

def analyse (x : Steps Call) (transaction : Transaction) (hash : TxHash) (receipt : Receipt)
    (events : TxHash → Analysis (List Event)) : Analysis TradeAnalysis := do
  if receipt.status then
    write (x.entries transaction.input)
    let call ← expect (x.decode transaction.input)
    write [x.called hash call]
    x.trade hash receipt events call
  else
    let fail ← failedTrade hash receipt
    write (x.reverted hash fail)
    return .fail fail

end Steps

end DexTrade.Analysis
