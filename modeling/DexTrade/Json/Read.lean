import DexTrade.Json.Value
import DexTrade.Text.Hex
/-!
# Reading JSON

A reader takes what it reads from the front of a text and gives the rest back. Numbers keep the text
they are written as. In a quoted text a character may be given by its code in sixteen-bit units, two of
which make up a character beyond them; a unit that lacks its partner is refused.
-/
namespace DexTrade.JsonValue

def isSpace (c : Char) : Bool :=
  c == ' ' || c == '\t' || c == '\n' || c == '\r'

def skipSpaces (cs : List Char) : List Char :=
  cs.dropWhile isSpace

/-- The rest behind a word that has to be there. -/
def takeWord : (word text : List Char) → Option (List Char)
  | [], rest => some rest
  | c :: word, d :: text => if c = d then takeWord word text else none
  | _ :: _, [] => none

/-! ## Numbers -/

/-- One digit or more. -/
def takeDigits (cs : List Char) : Option (List Char × List Char) :=
  let digits := cs.takeWhile Char.isDigit
  if digits.isEmpty then none else some (digits, cs.dropWhile Char.isDigit)

/-- Digits of which the first is no zero unless it is the only one. -/
def takeWhole : List Char → Option (List Char × List Char)
  | '0' :: rest => some (['0'], rest)
  | cs => takeDigits cs

/-- A point with digits behind it, or nothing. -/
def takeFraction : List Char → Option (List Char × List Char)
  | '.' :: rest => (takeDigits rest).map fun (digits, rest) => ('.' :: digits, rest)
  | cs => some ([], cs)

def takeSign : List Char → List Char × List Char
  | '+' :: rest => (['+'], rest)
  | '-' :: rest => (['-'], rest)
  | cs => ([], cs)

/-- An exponent, or nothing. -/
def takeExponent : List Char → Option (List Char × List Char)
  | c :: rest =>
    if c = 'e' ∨ c = 'E' then
      let (sign, rest) := takeSign rest
      (takeDigits rest).map fun (digits, rest) => (c :: sign ++ digits, rest)
    else some ([], c :: rest)
  | [] => some ([], [])

def takeNumber (cs : List Char) : Option (JsonValue × List Char) := do
  let (minus, cs) := match cs with
    | '-' :: rest => (['-'], rest)
    | cs => ([], cs)
  let (whole, cs) ← takeWhole cs
  let (fraction, cs) ← takeFraction cs
  let (exponent, cs) ← takeExponent cs
  return (.number (String.ofList (minus ++ whole ++ fraction ++ exponent)), cs)

/-! ## Quoted texts -/

/-- A character, or a unit of one that is given by its code. -/
inductive Unit16 where
  | char (c : Char)
  | code (n : Nat)

def isLeading (n : Nat) : Bool :=
  0xD800 ≤ n && n < 0xDC00

def isTrailing (n : Nat) : Bool :=
  0xDC00 ≤ n && n < 0xE000

/-- The characters that units make up. -/
def joinUnits : List Unit16 → Option (List Char)
  | [] => some []
  | .char c :: rest => (joinUnits rest).map (c :: ·)
  | .code n :: .code m :: rest =>
    if isLeading n then
      if isTrailing m then
        (joinUnits rest).map (Char.ofNat (0x10000 + 1024 * (n - 0xD800) + (m - 0xDC00)) :: ·)
      else none
    else if isTrailing n then none
    else (joinUnits (.code m :: rest)).map (Char.ofNat n :: ·)
  | .code n :: rest =>
    if isLeading n || isTrailing n then none else (joinUnits rest).map (Char.ofNat n :: ·)

/-- What a letter behind a backslash stands for. -/
def unescape? (c : Char) : Option Char :=
  if c = '\x22' ∨ c = '\\' ∨ c = '/' then some c
  else if c = 'b' then some '\x08'
  else if c = 'f' then some '\x0c'
  else if c = 'n' then some '\n'
  else if c = 'r' then some '\r'
  else if c = 't' then some '\t'
  else none

/-- The units up to the closing quote. -/
def takeUnits : List Char → Option (List Unit16 × List Char)
  | [] => none
  | '\x22' :: rest => some ([], rest)
  | '\\' :: 'u' :: a :: b :: c :: d :: rest => do
    let digits ← [a, b, c, d].mapM Hex.digitValue?
    let (units, rest) ← takeUnits rest
    return (.code (digits.foldl (fun n d => 16 * n + d) 0) :: units, rest)
  | '\\' :: c :: rest => do
    let c ← unescape? c
    let (units, rest) ← takeUnits rest
    return (.char c :: units, rest)
  | c :: rest =>
    if c.toNat < 0x20 ∨ c = '\\' then none
    else (takeUnits rest).map fun (units, rest) => (.char c :: units, rest)

/-- The text behind an opening quote. -/
def takeText (cs : List Char) : Option (String × List Char) := do
  let (units, rest) ← takeUnits cs
  let text ← joinUnits units
  return (String.ofList text, rest)

/-- A key with the colon behind it. -/
def takeKey (cs : List Char) : Option (String × List Char) := do
  match skipSpaces cs with
  | '\x22' :: rest =>
    let (key, rest) ← takeText rest
    let rest ← takeWord [':'] (skipSpaces rest)
    return (key, rest)
  | _ => none

/-! ## Values -/

mutual

/-- A value that starts here, read in a bounded number of steps into values and their parts. -/
def takeValue (steps : Nat) (cs : List Char) : Option (JsonValue × List Char) :=
  match steps with
  | 0 => none
  | steps + 1 =>
    match skipSpaces cs with
    | 'n' :: rest => (takeWord ['u', 'l', 'l'] rest).map fun rest => (.null, rest)
    | 't' :: rest => (takeWord ['r', 'u', 'e'] rest).map fun rest => (.bool true, rest)
    | 'f' :: rest => (takeWord ['a', 'l', 's', 'e'] rest).map fun rest => (.bool false, rest)
    | '\x22' :: rest => (takeText rest).map fun (s, rest) => (.string s, rest)
    | '[' :: rest =>
      match skipSpaces rest with
      | ']' :: rest => some (.array [], rest)
      | rest => (takeItems steps rest).map fun (items, rest) => (.array items, rest)
    | '\x7b' :: rest =>
      match skipSpaces rest with
      | '\x7d' :: rest => some (.object [], rest)
      | rest => (takeMembers steps rest).map fun (members, rest) => (.object members, rest)
    | rest => takeNumber rest

/-- Items with commas between them, up to the closing bracket. -/
def takeItems (steps : Nat) (cs : List Char) : Option (List JsonValue × List Char) :=
  match steps with
  | 0 => none
  | steps + 1 =>
    match takeValue steps cs with
    | none => none
    | some (item, rest) =>
      match skipSpaces rest with
      | ']' :: rest => some ([item], rest)
      | ',' :: rest => (takeItems steps rest).map fun (items, rest) => (item :: items, rest)
      | _ => none

/-- Members with commas between them, up to the closing brace. -/
def takeMembers (steps : Nat) (cs : List Char) : Option (List (String × JsonValue) × List Char) :=
  match steps with
  | 0 => none
  | steps + 1 =>
    match takeKey cs with
    | none => none
    | some (key, rest) =>
      match takeValue steps rest with
      | none => none
      | some (value, rest) =>
        match skipSpaces rest with
        | '\x7d' :: rest => some ([(key, value)], rest)
        | ',' :: rest =>
          (takeMembers steps rest).map fun (members, rest) => ((key, value) :: members, rest)
        | _ => none

end

/-- The value a whole text spells. Of two steps at least one takes a character off the text, so its
length bounds their number. -/
def parse? (text : String) : Option JsonValue :=
  match takeValue (2 * text.length + 2) text.toList with
  | some (value, rest) => if (skipSpaces rest).isEmpty then some value else none
  | none => none

end DexTrade.JsonValue
