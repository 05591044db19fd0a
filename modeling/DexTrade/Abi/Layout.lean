import DexTrade.Address
/-!
# Parameter lists

The kinds of parameter that swap calls and log data use, and the values a list of them holds. Every
parameter has one 32-byte head; a dynamic one keeps its content apart and puts the offset of that
content into the head.
-/
namespace DexTrade.Abi

inductive Param where
  /-- An unsigned number of the given width. -/
  | uint (bits : Nat)
  /-- A number of the given width in two's complement. -/
  | int (bits : Nat)
  | address
  | bool
  | bytes
  | addresses
  | byteStrings
  deriving DecidableEq

/-- What a parameter holds. -/
@[reducible] def Param.Value : Param → Type
  | .uint bits => BitVec bits
  | .int bits => BitVec bits
  | .address => Address
  | .bool => Bool
  | .bytes => Bytes
  | .addresses => List Address
  | .byteStrings => List Bytes

/-- The values of a parameter list, in order. -/
@[reducible] def Values : List Param → Type
  | [] => Unit
  | p :: rest => p.Value × Values rest

end DexTrade.Abi
