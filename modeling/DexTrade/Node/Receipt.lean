import DexTrade.Chain.Basic
import DexTrade.Node.Member
/-!
# Receipts as a node tells them

Whether a transaction succeeded stands in the `status` of its receipt. Receipts from before there were
statuses have the root of the state instead, and count as those of successful transactions.
-/
namespace DexTrade.Node

/-- Types of transactions are numbered from zero. -/
def typeCount : Nat := 5

/-- What a receipt has besides the members that are read. -/
def receiptMembers : List (String × Form) :=
  [("cumulativeGasUsed", .quantity 64), ("logsBloom", .fixed 256), ("transactionHash", .fixed 32),
    ("from", .fixed 20)]

/-- A log entry of a receipt. -/
def logEntry? (v : JsonValue) : Option LogEntry := do
  let address ← member? address? "address" v
  let topics ← member? (list? word?) "topics" v
  let data ← member? bytes? "data" v
  let index ← optionalMember? (quantity? 64) "logIndex" v
  return ⟨address, topics, data, index.map BitVec.toNat⟩

/-- A status of zero or one. -/
def status? (v : JsonValue) : Option Bool :=
  match member? (quantity? 1) "status" v with
  | some status => some (status == 1)
  | none => (member? word? "root" v).map fun _ => true

def receipt? (v : JsonValue) : Option Receipt := do
  let type ← member? (quantity? 8) "type" v
  guard (type.toNat < typeCount && hasMembers receiptMembers v)
  let status ← status? v
  let gasUsed ← member? (quantity? 64) "gasUsed" v
  let price ← member? (quantity? 128) "effectiveGasPrice" v
  let block ← optionalMember? (quantity? 64) "blockNumber" v
  let logs ← member? (list? logEntry?) "logs" v
  return ⟨status, gasUsed, price, block.map BitVec.toNat, logs⟩

end DexTrade.Node
