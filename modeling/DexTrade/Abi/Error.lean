import DexTrade.Word
/-!
# Why contract data cannot be read

Reading is lenient: it fails only where the bytes end too early, where an offset or a length cannot
be a position in memory, or where the leading selector belongs to no known function.
-/
namespace DexTrade

/-- The four bytes in front of call arguments that name the function. -/
abbrev Selector := BitVec 32

namespace Selector

/-- The selector an input starts with; of a shorter input, what its bytes spell. -/
def ofInput (input : Bytes) : Selector :=
  BitVec.ofNat 32 (Bytes.value (input.take 4))

def toBytes (s : Selector) : Bytes :=
  Bytes.ofNat 4 s.toNat

def hex (s : Selector) : String :=
  "0x" ++ Hex.text s.toBytes

/-- The selector of an input as text; an input too short to have one shows question marks. -/
def describe (input : Bytes) : String :=
  if input.length < 4 then "0x????" else "0x" ++ Hex.text (input.take 4)

end Selector

namespace Abi

inductive Error where
  /-- The data ends before what it announces. -/
  | overrun
  /-- An offset or a length of 2^64 or more. -/
  | sizeTooLarge (size : Word)
  /-- Too short for every function of the interface. -/
  | tooShort (interface : String) (input : Bytes)
  | unknownSelector (interface : String) (selector : Selector)
  deriving DecidableEq

/-- A failed type check, with the bytes at fault unless there are none. -/
def typeCheckMessage (expected : String) (data : Bytes) : String :=
  let reason := "type check failed for \"" ++ expected ++ "\""
  if data.isEmpty then reason else reason ++ " with data: " ++ Hex.text data

/-- At most this many bytes of a short input are shown. -/
def shownBytes : Nat := 128

def Error.message : Error → String
  | .overrun => "ABI decoding failed: buffer overrun while deserializing"
  | .sizeTooLarge size => typeCheckMessage "offset (usize)" size.toBytes
  | .tooShort interface input => typeCheckMessage interface (input.take shownBytes)
  | .unknownSelector interface selector =>
    "unknown selector `" ++ selector.hex ++ "` for " ++ interface

end Abi

end DexTrade
