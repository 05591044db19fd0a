/-!
# TOML values

What a key of a TOML document holds. Floating-point numbers and points in time keep the text they are
written as. Keys of a table stand in the order in which they came, each once.
-/
namespace DexTrade.Toml

inductive Value where
  | string (s : String)
  | integer (n : Int)
  | float (written : String)
  | boolean (b : Bool)
  | moment (written : String)
  | array (items : List Value)
  | table (entries : List (String × Value))

/-- Gives back what follows what was read. -/
abbrev Scan (α : Type) := List Char → Option (α × List Char)

end DexTrade.Toml
