import DexTrade.Bytes
/-!
# Hexadecimal text

Two digits a byte. Writing uses the lowercase digits; reading takes either case and refuses an odd
number of digits.
-/
namespace DexTrade.Hex

/-- The lowercase digit of a number below sixteen. -/
def digit (n : Nat) : Char :=
  if n < 10 then Char.ofNat (48 + n) else Char.ofNat (87 + n)

/-- The value of a digit of either case. -/
def digitValue? (c : Char) : Option Nat :=
  if 48 ≤ c.toNat ∧ c.toNat ≤ 57 then some (c.toNat - 48)
  else if 97 ≤ c.toNat ∧ c.toNat ≤ 102 then some (c.toNat - 87)
  else if 65 ≤ c.toNat ∧ c.toNat ≤ 70 then some (c.toNat - 55)
  else none

def encodeByte (b : UInt8) : List Char :=
  [digit (b.toNat / 16), digit (b.toNat % 16)]

def encode (b : Bytes) : List Char :=
  b.flatMap encodeByte

def decode? : List Char → Option Bytes
  | [] => some []
  | [_] => none
  | hi :: lo :: rest => do
    let h ← digitValue? hi
    let l ← digitValue? lo
    let tail ← decode? rest
    return UInt8.ofNat (16 * h + l) :: tail

/-- The digits of a byte string, without a leading `0x`. -/
def text (b : Bytes) : String :=
  String.ofList (encode b)

/-- The digits of a number without leading zeros; zero keeps one. -/
def natDigits (n : Nat) : List Char :=
  Nat.toDigits 16 n

/-- The digits after an optional `0x` or `0X`. -/
def dropMark : List Char → List Char
  | '0' :: 'x' :: rest => rest
  | '0' :: 'X' :: rest => rest
  | cs => cs

/-- The bytes that a text spells, with a mark in front or without one. -/
def parse? (text : List Char) : Option Bytes :=
  decode? (dropMark text)

/-- The bytes that a text spells, if they are of one length. -/
def parseFixed? (width : Nat) (text : List Char) : Option Bytes :=
  (parse? text).filter fun b => b.length = width

end DexTrade.Hex
