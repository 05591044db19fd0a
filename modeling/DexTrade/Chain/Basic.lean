import DexTrade.Event.OfLog
import DexTrade.Inquiry
import DexTrade.Pool.Details
import DexTrade.Trade.Basic
/-!
# Chain data

What an analysis reads from a chain. A reading is a question whose answer is a value or a failure. The
events of a transaction are no reading of their own: unless a source of chain data finds them in a way
of its own, they are those of the logs in its receipt.
-/
namespace DexTrade

/-- The parts of a transaction that are read. -/
structure Transaction where
  sender : Address
  /-- Missing for the creation of a contract. -/
  destination : Option Address
  input : Bytes
  value : Word
  deriving DecidableEq

/-- The parts of a receipt that are read. -/
structure Receipt where
  /-- False for a transaction that reverted. -/
  status : Bool
  gasUsed : Gas
  effectiveGasPrice : Wei
  blockNumber : Option Nat
  logs : List LogEntry
  deriving DecidableEq

namespace Chain

inductive Reading where
  | transaction (hash : TxHash)
  | receipt (hash : TxHash)
  | revertReason (hash : TxHash)
  | token (address : Address)
  | pool (address : Address)
  | pair (address : Address)
  deriving DecidableEq

namespace Reading

/-- What a reading gives when it succeeds. -/
@[reducible] def Value : Reading → Type
  | .transaction _ => Transaction
  | .receipt _ => Receipt
  | .revertReason _ => Option String
  | .token _ => Token
  | .pool _ => Pool
  | .pair _ => Address × Address

/-- A reading in words. -/
def describe : Reading → String
  | .transaction hash => "transaction " ++ hash.hex
  | .receipt hash => "receipt " ++ hash.hex
  | .revertReason hash => "revert_reason " ++ hash.hex
  | .token address => "token " ++ address.lowercase
  | .pool address => "pool " ++ address.lowercase
  | .pair address => "pair " ++ address.lowercase

end Reading

/-- Chain data as a source of answers. -/
abbrev source : Source where
  Question := Reading
  Answer r := Except ReadFailure r.Value

/-- Any assignment of a value or a failure to each reading. -/
abbrev Data := (r : Reading) → Except ReadFailure r.Value

end Chain

/-- A computation on chain data that may end without an outcome. -/
abbrev Analysis (α : Type) := ExceptT TradeError (Inquiry Chain.source) α

namespace Analysis

open Chain

/-- A reading on which the outcome depends. -/
def read (r : Reading) : Analysis r.Value :=
  ExceptT.mk (.ask r fun answer => .done (answer.mapError .failedRead))

/-- A reading whose failure the analysis deals with itself. -/
def attempt (r : Reading) : Analysis (Except ReadFailure r.Value) :=
  ExceptT.lift (Inquiry.question (S := source) r)

def write (entries : List Entry) : Analysis Unit :=
  ExceptT.lift (Inquiry.write entries)

/-- Goes on with a result, or ends with its error. -/
def expect {α : Type} (result : Except TradeError α) : Analysis α :=
  ExceptT.mk (.done result)

/-- An entry about a transaction. -/
def about (hash : TxHash) (level : Level) (text : String) : Entry :=
  ⟨level, some (text ++ " tx=" ++ hash.hex)⟩

/-- The recognised events of a transaction, in log order. -/
def events (hash : TxHash) : Analysis (List Event) := do
  let receipt ← read (.receipt hash)
  write (Event.entries receipt.logs)
  return Event.ofLogs receipt.logs

end Analysis

end DexTrade
