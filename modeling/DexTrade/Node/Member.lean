import DexTrade.Json.Value
import DexTrade.Word
import DexTrade.Address
/-!
# Members of a node's values

A node writes bytes as hexadecimal text and numbers as quantities: hexadecimal digits after `0x`. Here
are the readers of such values, and of members of an object that may be missing.
-/
namespace DexTrade.Node

/-- The bytes that a text spells. -/
def bytes? : JsonValue → Option Bytes
  | .string s => Hex.parse? s.toList
  | _ => none

/-- A byte string of one length. -/
def fixed? (width : Nat) (v : JsonValue) : Option Bytes :=
  (bytes? v).filter fun b => b.length = width

def address? (v : JsonValue) : Option Address :=
  (fixed? 20 v).map Address.ofBytes

def word? (v : JsonValue) : Option Word :=
  (fixed? 32 v).map Word.ofBytes

/-- The number that hexadecimal digits spell. -/
def number? (digits : List Char) : Option Nat :=
  (digits.mapM Hex.digitValue?).map fun values => values.foldl (fun n d => 16 * n + d) 0

/-- A quantity that fits into a number of bits. -/
def quantity? (bits : Nat) : JsonValue → Option (BitVec bits)
  | .string s =>
    match s.toList with
    | '0' :: 'x' :: digit :: rest =>
      ((number? (digit :: rest)).filter fun n => (BitVec.ofNat bits n).toNat == n).map
        (BitVec.ofNat bits)
    | _ => none
  | _ => none

def list? {α : Type} (item : JsonValue → Option α) : JsonValue → Option (List α)
  | .array items => items.mapM item
  | _ => none

/-- A member that has to be there. -/
def member? {α : Type} (form : JsonValue → Option α) (key : String) (v : JsonValue) : Option α :=
  (v.member? key).bind form

/-- A member that may be missing or `null`. -/
def optionalMember? {α : Type} (form : JsonValue → Option α) (key : String) (v : JsonValue) :
    Option (Option α) :=
  match v.member? key with
  | none | some .null => some none
  | some value => (form value).map some

/-- How the value of a member is written. -/
inductive Form where
  | quantity (bits : Nat)
  | bytes
  | fixed (width : Nat)
  | list
  deriving DecidableEq

def Form.accepts : Form → JsonValue → Bool
  | .quantity bits, v => (quantity? bits v).isSome
  | .bytes, v => (bytes? v).isSome
  | .fixed width, v => (fixed? width v).isSome
  | .list, .array _ => true
  | .list, _ => false

/-- Whether an object has all of some members in their forms. -/
def hasMembers (members : List (String × Form)) (v : JsonValue) : Bool :=
  members.all fun (key, form) => (v.member? key).any form.accepts

end DexTrade.Node
