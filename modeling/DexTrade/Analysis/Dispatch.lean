import DexTrade.Analysis.Universal
import DexTrade.Analysis.V2
import DexTrade.Router.Table
import DexTrade.Trade.Text
/-!
# Dispatching

A transaction is analysed by the family of the router it was sent to. Universal router trades have an
analysis of their own and are refused here, as is every destination that the table does not list.
-/
namespace DexTrade.Analysis.Dispatch

/-- The table, the chain whose part of it counts, and the fee of V2 pairs in basis points. -/
structure Context where
  routers : RouterTable
  chain : String
  v2Fee : Nat

def dispatching (hash : TxHash) (router : Address) (kind : RouterKind) : Entry :=
  .debug ("Dispatching to " ++ kind.name ++ " tx=" ++ hash.hex ++ " router=" ++ router.checksummed)

/-- The finished record; its line cannot be written if the gas price is too large. -/
def finished (hash : TxHash) (a : TradeAnalysis) : Entry :=
  ⟨.info, a.line?.map fun line => line ++ " tx=" ++ hash.hex⟩

/-- The analysis of a family. -/
def analyseAs (c : Context) (kind : RouterKind) (transaction : Transaction) (hash : TxHash)
    (receipt : Receipt) (events : TxHash → Analysis (List Event)) : Analysis TradeAnalysis :=
  match kind with
  | .v2 => V2.analyse transaction hash receipt c.v2Fee events
  | .v3 => V3.analyse transaction hash receipt events
  | .universal => expect (.error (.unsupported .universalRouter))
  | .unknown => expect (.error (.unrecognizedRouter c.chain transaction.destination))

/-- Analyses a fetched transaction. -/
def analyseFetched (c : Context) (transaction : Transaction) (hash : TxHash) (receipt : Receipt)
    (events : TxHash → Analysis (List Event) := Analysis.events) : Analysis TradeAnalysis := do
  match transaction.destination with
  | none => expect (.error (.unrecognizedRouter c.chain none))
  | some router =>
    let kind := c.routers.classify c.chain router
    write (c.routers.entries c.chain router)
    write [dispatching hash router kind]
    let analysis ← analyseAs c kind transaction hash receipt events
    write [finished hash analysis]
    return analysis

/-- Fetches a transaction and its receipt and analyses them. -/
def analyse (c : Context) (hash : TxHash)
    (events : TxHash → Analysis (List Event) := Analysis.events) : Analysis TradeAnalysis := do
  let transaction ← read (.transaction hash)
  let receipt ← read (.receipt hash)
  analyseFetched c transaction hash receipt events

end DexTrade.Analysis.Dispatch
