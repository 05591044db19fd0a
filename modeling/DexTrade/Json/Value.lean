/-!
# JSON values

An object keeps its members in the order in which they were given. A number keeps the text it is
written as.
-/
namespace DexTrade

inductive JsonValue where
  | null
  | bool (b : Bool)
  | number (literal : String)
  | string (s : String)
  | array (items : List JsonValue)
  | object (members : List (String × JsonValue))
  deriving Inhabited

namespace JsonValue

/-- A whole number without a sign. -/
def natural (n : Nat) : JsonValue :=
  .number (toString n)

/-- The text if there is one, else `null`. -/
def ofText? : Option String → JsonValue
  | some s => .string s
  | none => .null

/-- The member of an object with a given key. -/
def member? (key : String) : JsonValue → Option JsonValue
  | .object members => members.lookup key
  | _ => none

end JsonValue

end DexTrade
