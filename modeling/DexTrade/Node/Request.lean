import DexTrade.Abi.Decode
import DexTrade.Abi.Error
import DexTrade.Chain.Basic
import DexTrade.Json.Value
/-!
# Requests to a node

What is asked of a node, and how it is put as a method with parameters: a transaction or a receipt by
its hash, a getter of a token or pool contract at the latest block, and the replay of a transaction
without effect at the block that holds it.
-/
namespace DexTrade.Node

/-- A function without arguments by which a token or pool contract tells about itself. -/
inductive Getter where
  | decimals
  | symbol
  | token0
  | token1
  | fee
  deriving DecidableEq

namespace Getter

def name : Getter → String
  | .decimals => "decimals"
  | .symbol => "symbol"
  | .token0 => "token0"
  | .token1 => "token1"
  | .fee => "fee"

def selector : Getter → Selector
  | .decimals => 0x313ce567
  | .symbol => 0x95d89b41
  | .token0 => 0x0dfe1681
  | .token1 => 0xd21220a7
  | .fee => 0xddca3f43

/-- The one value that a getter returns. -/
@[reducible] def result : Getter → Abi.Param
  | .decimals => .uint 8
  | .symbol => .bytes
  | .token0 => .address
  | .token1 => .address
  | .fee => .uint 24

/-- Reads the returned value; bytes behind it are not looked at. -/
def read (g : Getter) (data : Bytes) : Except Abi.Error g.result.Value := do
  let (value, ()) ← Abi.read [g.result] data
  return value

end Getter

/-- A transaction as it is executed again. -/
structure Replay where
  transaction : Transaction
  gasLimit : Gas
  block : Nat
  deriving DecidableEq

inductive Request where
  | transaction (hash : TxHash)
  | receipt (hash : TxHash)
  | getter (contract : Address) (g : Getter)
  | replay (r : Replay)
  deriving DecidableEq

/-- A number in hexadecimal, without leading zeros. -/
def quantity (n : Nat) : JsonValue :=
  .string ("0x" ++ String.ofList (Hex.natDigits n))

def bytesValue (b : Bytes) : JsonValue :=
  .string ("0x" ++ Hex.text b)

def addressValue (a : Address) : JsonValue :=
  .string a.lowercase

/-- The call of a replay; the creation of a contract has no destination. -/
def Replay.call (r : Replay) : JsonValue :=
  let t := r.transaction
  let destination := t.destination.map fun a => ("to", addressValue a)
  .object ([("from", addressValue t.sender)] ++ destination.toList ++
    [("input", bytesValue t.input), ("value", quantity t.value.toNat),
      ("gas", quantity r.gasLimit.toNat)])

namespace Request

def method : Request → String
  | .transaction _ => "eth_getTransactionByHash"
  | .receipt _ => "eth_getTransactionReceipt"
  | .getter _ _ | .replay _ => "eth_call"

def params : Request → List JsonValue
  | .transaction hash | .receipt hash => [.string hash.hex]
  | .getter contract g =>
    [.object [("to", addressValue contract), ("input", bytesValue g.selector.toBytes)],
      .string "latest"]
  | .replay r => [r.call, quantity r.block]

end Request

end DexTrade.Node
