import DexTrade.Text.Hex
/-!
# Words

A word is the 256-bit unit of contract data: an unsigned amount, a topic, a hash. Read as a signed
amount it is in two's complement (`BitVec.toInt`).
-/
namespace DexTrade

abbrev Word := BitVec 256

namespace Word

def ofBytes (b : Bytes) : Word :=
  BitVec.ofNat 256 b.value

/-- The 32 bytes of the word, most significant first. -/
def toBytes (w : Word) : Bytes :=
  Bytes.ofNat 32 w.toNat

/-- The word in decimal, read without a sign. -/
def decimal (w : Word) : String :=
  toString w.toNat

/-- The word in decimal, read in two's complement. -/
def signedDecimal (w : Word) : String :=
  toString w.toInt

/-- All 64 hexadecimal digits, without a leading `0x`. -/
def digits (w : Word) : String :=
  Hex.text w.toBytes

/-- All 64 hexadecimal digits after `0x`. -/
def hex (w : Word) : String :=
  "0x" ++ w.digits

/-- The shortest hexadecimal form after `0x`. -/
def quantity (w : Word) : String :=
  "0x" ++ String.ofList (Hex.natDigits w.toNat)

theorem length_toBytes (w : Word) : w.toBytes.length = 32 :=
  Bytes.length_ofNat 32 w.toNat

theorem ofBytes_toBytes (w : Word) : ofBytes w.toBytes = w := by
  have h : w.toNat < Nat.pow 256 32 := w.isLt
  rw [ofBytes, toBytes, Bytes.value_ofNat_of_lt h, BitVec.ofNat_toNat, BitVec.setWidth_eq]

end Word

end DexTrade
