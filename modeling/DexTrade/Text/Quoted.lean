import DexTrade.Text.Hex
import DexTrade.Text.PrintData
/-!
# Quoted text

A text between double quotes in which every character can be seen: quotes and backslashes are escaped,
as are line breaks, and characters that are not printed or that change their neighbours are given by
their code.
-/
namespace DexTrade.Text

def isListed (ranges : List (Nat × Nat)) (c : Char) : Bool :=
  ranges.any fun (first, last) => first ≤ c.toNat && c.toNat ≤ last

/-- Whether a character is given by its code. -/
def needsCode (c : Char) : Bool :=
  c.toNat < 0x20 || isListed graphemeExtendRanges c || isListed unprintableRanges c

/-- A character by its code in braces. -/
def codeEscape (c : Char) : List Char :=
  ['\\', 'u', '\x7b'] ++ Hex.natDigits c.toNat ++ ['\x7d']

/-- A character as it stands between quotes. -/
def quotedChar (c : Char) : List Char :=
  match c with
  | '\x00' => ['\\', '0']
  | '\t' => ['\\', 't']
  | '\n' => ['\\', 'n']
  | '\r' => ['\\', 'r']
  | '\\' => ['\\', '\\']
  | '\x22' => ['\\', '\x22']
  | c => if needsCode c then codeEscape c else [c]

def quoted (s : String) : String :=
  "\"" ++ String.ofList (s.toList.flatMap quotedChar) ++ "\""

/-- A text that may be missing: `Some` with the quoted text, or `None`. -/
def quotedOption : Option String → String
  | some s => "Some(" ++ quoted s ++ ")"
  | none => "None"

end DexTrade.Text
