import DexTrade.Chain.Basic
import DexTrade.Node.Member
/-!
# Transactions as a node tells them

A transaction is an object with members that depend on its type: the fee it offers, the lists it comes
with and its signature. One that lacks a member of its type is not taken, even though only a few of
the members are read.
-/
namespace DexTrade.Node

/-- A transaction with what its replay needs. -/
structure TransactionRecord where
  transaction : Transaction
  gasLimit : Gas
  /-- Missing while the transaction waits for a block. -/
  block : Option Nat
  deriving DecidableEq

namespace TransactionRecord

/-- What a transaction of any type has besides the members that are read. -/
def commonMembers : List (String × Form) :=
  [("hash", .fixed 32), ("nonce", .quantity 64), ("r", .quantity 256), ("s", .quantity 256)]

def bidMembers : List (String × Form) :=
  [("chainId", .quantity 64), ("accessList", .list), ("maxFeePerGas", .quantity 128),
    ("maxPriorityFeePerGas", .quantity 128)]

/-- What a transaction of a type has besides; there are five types. -/
def typeMembers? : Nat → Option (List (String × Form))
  | 0 => some [("gasPrice", .quantity 128), ("v", .quantity 256)]
  | 1 => some [("chainId", .quantity 64), ("accessList", .list), ("gasPrice", .quantity 128)]
  | 2 => some bidMembers
  | 3 => some (bidMembers ++ [("maxFeePerBlobGas", .quantity 128), ("blobVersionedHashes", .list)])
  | 4 => some (bidMembers ++ [("authorizationList", .list)])
  | _ => none

/-- Blobs and authorizations come with a call, never with the creation of a contract. -/
def needsDestination (type : Nat) : Bool :=
  type == 3 || type == 4

/-- A signature tells which of two points it means. -/
def hasParity (v : JsonValue) : Bool :=
  hasMembers [("yParity", .quantity 64)] v || hasMembers [("v", .quantity 256)] v

/-- A transaction of which no type is told is of the first one. -/
def type? (v : JsonValue) : Option Nat :=
  (optionalMember? (quantity? 8) "type" v).map fun type => (type.map BitVec.toNat).getD 0

def ofJson? (v : JsonValue) : Option TransactionRecord := do
  let type ← type? v
  let members ← typeMembers? type
  guard (hasMembers (commonMembers ++ members) v && hasParity v)
  let sender ← member? address? "from" v
  let destination ← optionalMember? address? "to" v
  guard (destination.isSome || !needsDestination type)
  let input ← member? bytes? "input" v
  let value ← member? (quantity? 256) "value" v
  let gasLimit ← member? (quantity? 64) "gas" v
  let block ← optionalMember? (quantity? 64) "blockNumber" v
  return ⟨⟨sender, destination, input, value⟩, gasLimit, block.map BitVec.toNat⟩

end TransactionRecord

end DexTrade.Node
