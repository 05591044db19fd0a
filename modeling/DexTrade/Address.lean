import DexTrade.Keccak
import DexTrade.Word
/-!
# Addresses

An account or contract is named by 160 bits. Its text has two spellings: all digits lowercase, or the
checksummed one, in which a letter is uppercase where the hash of the lowercase digits has a nibble
of eight or more.
-/
namespace DexTrade

structure Address where
  bits : BitVec 160
  deriving DecidableEq

namespace Address

/-- The address whose twenty bytes end the string; a shorter string is filled with zeros in front. -/
def ofBytes (b : Bytes) : Address :=
  ⟨BitVec.ofNat 160 b.value⟩

def toBytes (a : Address) : Bytes :=
  Bytes.ofNat 20 a.bits.toNat

/-- The address in the low twenty bytes of a word; the high twelve are not looked at. -/
def ofWord (w : Word) : Address :=
  ⟨w.setWidth 160⟩

def toWord (a : Address) : Word :=
  a.bits.setWidth 256

/-- The forty digits, all lowercase, after `0x`. -/
def lowercase (a : Address) : String :=
  "0x" ++ Hex.text a.toBytes

/-- The letter or digit `c` as the checksum spells it where its nibble of the hash is `nibble`. -/
def checksumDigit (c : Char) (nibble : Nat) : Char :=
  if 8 ≤ nibble then c.toUpper else c

/-- The forty digits after `0x`, the letters in upper or lower case as the checksum has them. -/
def checksummed (a : Address) : String :=
  let digits := Hex.encode a.toBytes
  let hash := Keccak.digest (digits.map fun c => UInt8.ofNat c.toNat)
  let nibbles := hash.flatMap fun b => [b.toNat / 16, b.toNat % 16]
  "0x" ++ String.ofList (List.zipWith checksumDigit digits nibbles)

/-- Forty hexadecimal digits of either case, after `0x`, `0X` or nothing. -/
def parse? (text : List Char) : Option Address :=
  (Hex.parseFixed? 20 text).map ofBytes

theorem length_toBytes (a : Address) : a.toBytes.length = 20 :=
  Bytes.length_ofNat 20 a.bits.toNat

theorem ofBytes_toBytes (a : Address) : ofBytes a.toBytes = a := by
  have h : a.bits.toNat < Nat.pow 256 20 := a.bits.isLt
  rw [ofBytes, toBytes, Bytes.value_ofNat_of_lt h, BitVec.ofNat_toNat, BitVec.setWidth_eq]

theorem ofWord_toWord (a : Address) : ofWord a.toWord = a := by
  rcases a with ⟨bits⟩
  simp [ofWord, toWord]

end Address

end DexTrade
