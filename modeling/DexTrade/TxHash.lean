import DexTrade.Word
import DexTrade.Text.Blank
/-!
# Transaction hashes

A transaction is named by 32 bytes. Its text is an optional `0x` or `0X` and 64 digits of either
case, with blanks around it; a byte string names a transaction when it is 32 bytes long. All that can
name one is read by `Name.read`.
-/
namespace DexTrade

structure TxHash where
  word : Word
  deriving DecidableEq

namespace TxHash

/-- Why something does not name a transaction. -/
inductive Problem where
  | text (given : String)
  | byteCount (count : Nat)
  deriving DecidableEq

def Problem.message : Problem → String
  | .text given => given
  | .byteCount count => s!"expected 32 bytes, got {count}"

/-- The length of a text in UTF-8. -/
def byteLength : List Char → Nat
  | [] => 0
  | c :: cs => c.utf8Size + byteLength cs

/-- The hash that digits spell. -/
def ofDigits? (digits : List Char) : Option TxHash :=
  (Hex.parseFixed? 32 digits).map fun b => ⟨Word.ofBytes b⟩

/-- The hash a text spells. Its digits are counted as bytes, and whoever reads them looks for a mark once
more. The problem holds the text as it was given, blanks included. -/
def ofText (given : String) : Except Problem TxHash :=
  let digits := Hex.dropMark (Text.trimmed given.toList)
  if byteLength digits = 64 then
    match ofDigits? digits with
    | some h => .ok h
    | none => .error (.text given)
  else .error (.text given)

def ofBytes (b : Bytes) : Except Problem TxHash :=
  if b.length = 32 then .ok ⟨Word.ofBytes b⟩ else .error (.byteCount b.length)

/-- What a transaction can be named by: itself, 32 bytes, any bytes, or a text, which may be a part of
one, owned, or lent whole. -/
inductive Name where
  | hash (h : TxHash)
  | array (b : Vector UInt8 32)
  | bytes (b : Bytes)
  | text (given : String)
  | ownedText (given : String)
  | lentText (given : String)

def Name.read : Name → Except Problem TxHash
  | .hash h => .ok h
  | .array b => .ok ⟨Word.ofBytes b.toList⟩
  | .bytes b => ofBytes b
  | .text given => ofText given
  | .ownedText given => ofText given
  | .lentText given => ofText given

def toBytes (h : TxHash) : Bytes :=
  h.word.toBytes

/-- The 64 digits, lowercase, after `0x`. -/
def hex (h : TxHash) : String :=
  h.word.hex

end TxHash

end DexTrade
