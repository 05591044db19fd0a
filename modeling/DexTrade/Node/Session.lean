import DexTrade.Node.Receipt
import DexTrade.Node.Revert
import DexTrade.Node.Transaction
import DexTrade.Text.Quoted
/-!
# Sessions with a node

Every reading of chain data is done by requests to a node. What a token says about itself never
changes, so a session keeps each token it has read and does not ask for it again; this is the whole
state of a session, and failures add nothing to it.
-/
namespace DexTrade.Node

/-- The tokens that were read, each under its address. -/
abbrev TokenCache := List (Address × Token)

/-- Work within a session. -/
abbrev Work (α : Type) := ExceptT ReadFailure (StateT TokenCache (Inquiry source)) α

namespace Work

def ask (q : Request) : Work Response :=
  ExceptT.lift (StateT.lift (Inquiry.question (S := source) q))

def write (e : Entry) : Work Unit :=
  ExceptT.lift (StateT.lift (Inquiry.write [e]))

/-- Goes on with a value, or fails under a message of its own. -/
def expect {α : Type} (message : String) : Except Problem α → Work α
  | .ok a => pure a
  | .error p => throw (p.under message)

end Work

open Work

/-! ## Lookups by hash -/

def transactionRecord (hash : TxHash) : Work TransactionRecord := do
  let response ← ask (.transaction hash)
  match ← expect "eth_getTransactionByHash failed"
      (response.readPresent TransactionRecord.ofJson?) with
  | some t => return t
  | none => throw ⟨"transaction " ++ hash.hex ++ " not found", []⟩

def transaction (hash : TxHash) : Work Transaction := do
  return (← transactionRecord hash).transaction

def receipt (hash : TxHash) : Work Receipt := do
  let response ← ask (.receipt hash)
  match ← expect "eth_getTransactionReceipt failed" (response.readPresent receipt?) with
  | some r => return r
  | none => throw ⟨"receipt for " ++ hash.hex ++ " not found", []⟩

/-! ## Reverts -/

def didNotRevert (hash : TxHash) (block : Nat) : Entry :=
  .warn ("Transaction " ++ hash.hex ++ s!" did not revert when replayed at block {block}")

def revertFound (hash : TxHash) (reason : Option String) : Entry :=
  .debug ("Revert reason for " ++ hash.hex ++ ": " ++ Text.quotedOption reason)

/-- Replays a transaction at its block. The error the node replies with holds the reason. -/
def revertReason (hash : TxHash) : Work (Option String) := do
  let t ← transactionRecord hash
  match t.block with
  | none => throw ⟨"transaction " ++ hash.hex ++ " is still pending", []⟩
  | some block =>
    match (← ask (.replay ⟨t.transaction, t.gasLimit, block⟩)).read bytes? with
    | .ok _ =>
      write (didNotRevert hash block)
      return none
    | .error (.refused r) =>
      write (revertFound hash (Revert.reason r))
      return Revert.reason r
    | .error p => throw (p.under "eth_call replay failed")

/-! ## Tokens, pools and pairs -/

/-- Reads what a call of a getter returned. -/
def Getter.ofResponse (g : Getter) (r : Response) : Except Problem g.result.Value := do
  let data ← r.read bytes?
  match g.read data with
  | .ok value => .ok value
  | .error cause => .error (if data.isEmpty then .noData g else .unreadable cause)

def call (contract : Address) (g : Getter) : Work (Except Problem g.result.Value) := do
  return g.ofResponse (← ask (.getter contract g))

/-- A value without which a read fails. -/
def callOr (message : String) (contract : Address) (g : Getter) : Work g.result.Value := do
  expect message (← call contract g)

def noSymbol (address : Address) (p : Problem) : Entry :=
  .debug ("symbol() failed for " ++ address.checksummed ++ ": " ++ p.message)

/-- A token's symbol; some tokens have none, or one that is no text. -/
def symbol (address : Address) : Work (Option String) := do
  match ← call address .symbol with
  | .ok text => return some (Utf8.decodeLossy text)
  | .error p =>
    write (noSymbol address p)
    return none

/-- Asks for a token and keeps it. -/
def fetchToken (address : Address) : Work Token := do
  let decimals : BitVec 8 ←
    callOr ("Failed to get decimals for token " ++ address.checksummed) address .decimals
  let token : Token := ⟨address, decimals.toNat, ← symbol address⟩
  modify fun cache => (address, token) :: cache
  return token

def token (address : Address) : Work Token := do
  let cache ← get
  match cache.lookup address with
  | some t => return t
  | none => fetchToken address

/-- A pool tells its tokens in its own order. -/
def pool (address : Address) : Work Pool := do
  let address0 : Address ← callOr "Failed to get token0" address .token0
  let address1 : Address ← callOr "Failed to get token1" address .token1
  let fee : BitVec 24 ← callOr "Failed to get pool fee" address .fee
  return ⟨address, ← token address0, ← token address1, fee.toNat⟩

def pair (address : Address) : Work (Address × Address) := do
  let address0 : Address ← callOr "Failed to get pair token0" address .token0
  let address1 : Address ← callOr "Failed to get pair token1" address .token1
  return (address0, address1)

/-! ## Chain data from a node -/

/-- The work that answers a reading of chain data. -/
def reading : (r : Chain.Reading) → Work r.Value
  | .transaction hash => transaction hash
  | .receipt hash => receipt hash
  | .revertReason hash => revertReason hash
  | .token address => token address
  | .pool address => pool address
  | .pair address => pair address

/-- The result of some work, and the tokens known after it. -/
def Work.start {α : Type} (w : Work α) (cache : TokenCache) :
    Inquiry source (Except ReadFailure α × TokenCache) :=
  w.run.run cache

/-- An analysis within a session. -/
def analyse {α : Type} (a : Analysis α) (cache : TokenCache) :
    Inquiry source (Except TradeError α × TokenCache) :=
  Inquiry.resolve (fun r => (reading r).start) a.run cache

end DexTrade.Node
