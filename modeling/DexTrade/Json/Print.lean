import DexTrade.Json.Value
import DexTrade.Text.Hex
/-!
# Writing JSON

Two layouts: on one line without blanks, and with one item a line, two blanks a level. Text is quoted
with the short escapes where there are such; other characters below `0x20` are written as `\u00xx` and
all others as they are.
-/
namespace DexTrade.JsonValue

/-- The escape of a character that has to have one. -/
def escape? (c : Char) : Option (List Char) :=
  match c.toNat with
  | 0x22 => some ['\\', '\x22']
  | 0x5c => some ['\\', '\\']
  | 0x08 => some ['\\', 'b']
  | 0x0c => some ['\\', 'f']
  | 0x0a => some ['\\', 'n']
  | 0x0d => some ['\\', 'r']
  | 0x09 => some ['\\', 't']
  | n =>
    if n < 0x20 then some ['\\', 'u', '0', '0', Hex.digit (n / 16), Hex.digit (n % 16)] else none

def escape (c : Char) : List Char :=
  (escape? c).getD [c]

/-- The text between double quotes. -/
def quote (s : String) : String :=
  "\"" ++ String.ofList (s.toList.flatMap escape) ++ "\""

mutual

/-- The value on one line. -/
def compact : JsonValue → String
  | .null => "null"
  | .bool b => if b then "true" else "false"
  | .number literal => literal
  | .string s => quote s
  | .array items => "[" ++ ",".intercalate (compactItems items) ++ "]"
  | .object members => "\x7b" ++ ",".intercalate (compactMembers members) ++ "\x7d"

def compactItems : List JsonValue → List String
  | [] => []
  | item :: rest => compact item :: compactItems rest

def compactMembers : List (String × JsonValue) → List String
  | [] => []
  | (key, value) :: rest => (quote key ++ ":" ++ compact value) :: compactMembers rest

end

/-- A new line at a level. -/
def newLine (level : Nat) : String :=
  String.ofList ('\n' :: List.replicate (2 * level) ' ')

/-- Items between brackets, each on a line of its own one level further in. -/
def block (opening closing : String) (level : Nat) (items : List String) : String :=
  if items.isEmpty then opening ++ closing
  else
    let separator := "," ++ newLine (level + 1)
    opening ++ newLine (level + 1) ++ separator.intercalate items ++ newLine level ++ closing

mutual

/-- The value with one item a line, at a level. -/
def prettyAt (level : Nat) : JsonValue → String
  | .null => "null"
  | .bool b => if b then "true" else "false"
  | .number literal => literal
  | .string s => quote s
  | .array items => block "[" "]" level (prettyItems (level + 1) items)
  | .object members => block "\x7b" "\x7d" level (prettyMembers (level + 1) members)

def prettyItems (level : Nat) : List JsonValue → List String
  | [] => []
  | item :: rest => prettyAt level item :: prettyItems level rest

def prettyMembers (level : Nat) : List (String × JsonValue) → List String
  | [] => []
  | (key, value) :: rest =>
    (quote key ++ ": " ++ prettyAt level value) :: prettyMembers level rest

end

def pretty (v : JsonValue) : String :=
  prettyAt 0 v

end DexTrade.JsonValue
