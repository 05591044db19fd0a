import DexTrade.Binary64.Text
import DexTrade.Json.Print
import DexTrade.Pool.Details
import DexTrade.Trade.Basic
/-!
# Writing records

A record has a line for people and a JSON form. The line shows the gas price in gwei, so a gas price
too large for that has no line (`line?_eq_none_iff`).
-/
namespace DexTrade

/-- Places of the fee in a record's line. -/
def feePlaces : Nat := 8

/-- An address, or nothing at all where a route has no such end. -/
def endText (token : Option Address) : String :=
  (token.map Address.lowercase).getD ""

def TradeSuccess.line? (t : TradeSuccess) : Option String :=
  (Gas.gwei? t.effectiveGasPrice).map fun gwei =>
    "SUCCESS | " ++ endText t.path.head? ++ " -> " ++ endText t.path.getLast? ++
      " | in=" ++ t.amountIn.decimal ++ " out=" ++ t.amountOut.decimal ++
      " (min " ++ t.amountOutMin.decimal ++ ") | price=" ++ t.price.text ++
      " | lp_fee=" ++ Binary64.fixedText feePlaces t.lpFeePaid ++
      " | gas=" ++ toString t.gasUsed.toNat ++ " @ " ++ gwei.text ++ " gwei"

def TradeFail.line? (t : TradeFail) : Option String :=
  (Gas.gwei? t.effectiveGasPrice).map fun gwei =>
    "FAIL | reason=" ++ t.revertReason.getD "<unknown>" ++
      " | gas=" ++ toString t.gasUsed.toNat ++ " @ " ++ gwei.text ++ " gwei"

namespace TradeAnalysis

/-- The record in one line; nothing if the gas price cannot be shown. -/
def line? : TradeAnalysis → Option String
  | .success trade => trade.line?
  | .fail trade => trade.line?

theorem line?_eq_none_iff (a : TradeAnalysis) : a.line? = none ↔ a.gwei? = none := by
  cases a <;> simp [line?, gwei?, effectiveGasPrice, TradeSuccess.line?, TradeFail.line?]

end TradeAnalysis

/-! ## JSON -/

def Address.json (a : Address) : JsonValue := .string a.lowercase

def Word.json (w : Word) : JsonValue := .string w.quantity

def Token.json (t : Token) : JsonValue :=
  .object [("address", t.address.json), ("decimals", .natural t.decimals),
    ("symbol", .ofText? t.symbol)]

def Pool.json (p : Pool) : JsonValue :=
  .object [("address", p.address.json), ("token0", p.token0.json), ("token1", p.token1.json),
    ("fee", .natural p.fee)]

/-- A finite number by its shortest digits, anything else as `null`. -/
def Binary64.json (x : Float) : JsonValue :=
  match Binary64.recordText? x with
  | some literal => .number literal
  | none => .null

def TradeAnalysis.json : TradeAnalysis → JsonValue
  | .success t =>
    .object [("outcome", .string "success"), ("gas_used", .natural t.gasUsed.toNat),
      ("effective_gas_price", .natural t.effectiveGasPrice.toNat),
      ("path", .array (t.path.map Address.json)), ("amount_in", Word.json t.amountIn),
      ("amount_out_min", Word.json t.amountOutMin), ("amount_out", Word.json t.amountOut),
      ("price", .string t.price.text), ("amount_in_decimals", .natural t.amountInDecimals),
      ("amount_out_decimals", .natural t.amountOutDecimals), ("token0", t.token0.json),
      ("token1", t.token1.json), ("lp_fee_paid", Binary64.json t.lpFeePaid)]
  | .fail t =>
    .object [("outcome", .string "fail"), ("gas_used", .natural t.gasUsed.toNat),
      ("effective_gas_price", .natural t.effectiveGasPrice.toNat),
      ("revert_reason", .ofText? t.revertReason)]

end DexTrade
