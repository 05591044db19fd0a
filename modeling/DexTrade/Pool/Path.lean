import DexTrade.Address
/-!
# Packed pool paths

A route through pools is packed as a token, a three-byte fee, a token, a fee, and so on to the last
token. Every hop adds 23 bytes to the 20 of the first token, so a packed path is 43 bytes or more
and 20 beyond a multiple of 23. A fee is in hundredths of a basis point; packing keeps its low 24
bits.
-/
namespace DexTrade

/-- `fees[i]` is the fee of the pool between `tokens[i]` and `tokens[i + 1]`. -/
structure PoolPath where
  tokens : List Address
  fees : List Nat
  deriving DecidableEq

namespace PoolPath

def addressSize : Nat := 20
def feeSize : Nat := 3
def hopSize : Nat := addressSize + feeSize

/-- Why a path cannot be unpacked or packed. -/
inductive Problem where
  | length (bytes : Nat)
  | shape (tokens fees : Nat)
  deriving DecidableEq

def Problem.message : Problem → String
  | .length bytes => s!"invalid v3 path length {bytes}"
  | .shape tokens fees => s!"{tokens} tokens need {tokens - 1} fees, got {fees}"

/-- The same route walked from the other end. -/
def reversed (p : PoolPath) : PoolPath :=
  ⟨p.tokens.reverse, p.fees.reverse⟩

def firstToken? (p : PoolPath) : Option Address :=
  p.tokens.head?

def lastToken? (p : PoolPath) : Option Address :=
  p.tokens.getLast?

def hops (p : PoolPath) : Nat :=
  p.fees.length

/-- Reads as many hops as asked for and the token after them. -/
def unpackHops : Nat → Bytes → PoolPath
  | 0, b => ⟨[Address.ofBytes b], []⟩
  | hops + 1, b =>
    let rest := unpackHops hops (b.drop hopSize)
    ⟨Address.ofBytes (b.take addressSize) :: rest.tokens,
      Bytes.value ((b.drop addressSize).take feeSize) :: rest.fees⟩

def unpack (b : Bytes) : Except Problem PoolPath :=
  if b.length < addressSize + hopSize ∨ (b.length - addressSize) % hopSize ≠ 0 then
    .error (.length b.length)
  else
    .ok (unpackHops ((b.length - addressSize) / hopSize) b)

/-- Tokens and fees in turn, ending with the last token. -/
def packHops : List Address → List Nat → Bytes
  | [], _ => []
  | token :: _, [] => token.toBytes
  | token :: tokens, fee :: fees => token.toBytes ++ Bytes.ofNat feeSize fee ++ packHops tokens fees

def pack (tokens : List Address) (fees : List Nat) : Except Problem Bytes :=
  if tokens.length < 2 ∨ fees.length + 1 ≠ tokens.length then
    .error (.shape tokens.length fees.length)
  else
    .ok (packHops tokens fees)

end PoolPath

end DexTrade
