import DexTrade.Text.Hex
import DexTrade.Toml.Value
/-!
# Quoted TOML text

Four forms: between double quotes with escapes, between single quotes as it stands, and both over
several lines between three quotes. The readers start behind the opening quotes. A line break is read
as one line feed, however it is written.
-/
namespace DexTrade.Toml

def doubleQuote : Char := '\x22'
def singleQuote : Char := '\x27'

def isBlank (c : Char) : Bool :=
  c == ' ' || c == '\t'

/-- Characters that may stand as they are in quoted text: no control characters but the tab. -/
def isPrintable (c : Char) : Bool :=
  c == '\t' || (0x20 ≤ c.toNat && c.toNat != 0x7f)

/-- The character of a code in hexadecimal digits, if there is such a character. -/
def codeCharacter? (digits : List Char) : Option Char := do
  let values ← digits.mapM Hex.digitValue?
  let code := values.foldl (fun n d => 16 * n + d) 0
  if code < 0xD800 ∨ (0xDFFF < code ∧ code < 0x110000) then some (Char.ofNat code) else none

/-- The character that an escape stands for and the count of characters behind the backslash that it
takes. -/
def escaped? : List Char → Option (Char × Nat)
  | 'b' :: _ => some ('\x08', 1)
  | 't' :: _ => some ('\t', 1)
  | 'n' :: _ => some ('\n', 1)
  | 'f' :: _ => some ('\x0c', 1)
  | 'r' :: _ => some ('\r', 1)
  | '\x22' :: _ => some ('\x22', 1)
  | '\\' :: _ => some ('\\', 1)
  | 'u' :: rest => if 4 ≤ rest.length then (codeCharacter? (rest.take 4)).map (·, 5) else none
  | 'U' :: rest => if 8 ≤ rest.length then (codeCharacter? (rest.take 8)).map (·, 9) else none
  | _ => none

def prepend (c : Char) (r : Option (List Char × List Char)) : Option (List Char × List Char) :=
  r.map fun (text, rest) => (c :: text, rest)

/-- Text up to a double quote, with escapes. -/
def basicText (cs : List Char) : Option (List Char × List Char) :=
  match cs with
  | [] => none
  | c :: rest =>
    if c = doubleQuote then some ([], rest)
    else if c = '\\' then
      match escaped? rest with
      | some (x, used) => prepend x (basicText (rest.drop used))
      | none => none
    else if isPrintable c then prepend c (basicText rest)
    else none
termination_by cs.length
decreasing_by all_goals simp only [List.length_drop, List.length_cons]; omega

/-- Text up to a single quote. -/
def literalText : List Char → Option (List Char × List Char)
  | [] => none
  | c :: rest =>
    if c = singleQuote then some ([], rest)
    else if isPrintable c then prepend c (literalText rest)
    else none

/-- The text behind a line break, if there is one in front. -/
def afterBreak? : List Char → Option (List Char)
  | '\n' :: rest => some rest
  | '\r' :: '\n' :: rest => some rest
  | _ => none

/-- Passes over blanks and line breaks. -/
def skipSpace : List Char → List Char
  | ' ' :: rest => skipSpace rest
  | '\t' :: rest => skipSpace rest
  | '\n' :: rest => skipSpace rest
  | '\r' :: '\n' :: rest => skipSpace rest
  | cs => cs

theorem length_skipSpace_le (cs : List Char) : (skipSpace cs).length ≤ cs.length := by
  fun_induction skipSpace cs with
  | case1 rest ih | case2 rest ih | case3 rest ih | case4 rest ih =>
    simp only [List.length_cons]
    omega
  | case5 => exact Nat.le_refl _

theorem length_lt_of_afterBreak? {cs rest : List Char} (h : afterBreak? cs = some rest) :
    rest.length < cs.length := by
  unfold afterBreak? at h
  split at h
  · cases h; simp
  · cases h; simp only [List.length_cons]; omega
  · exact nomatch h

/-- How many of the characters in front are this quote. -/
def quoteCount (quote : Char) (cs : List Char) : Nat :=
  (cs.takeWhile (· == quote)).length

/-- The text of three quotes or more that end a text of several lines: up to two of them belong to
the text. Nothing if there are fewer than three. -/
def ending? (quote : Char) (cs : List Char) : Option (List Char × List Char) :=
  let count := quoteCount quote cs
  if count < 3 then none
  else
    let extra := min (count - 3) 2
    some (List.replicate extra quote, cs.drop (3 + extra))

/-- Text of several lines up to three double quotes, with escapes. A backslash at the end of a line
takes the line break and all space behind it away. -/
def basicLines (cs : List Char) : Option (List Char × List Char) :=
  match cs with
  | [] => none
  | c :: rest =>
    match ending? doubleQuote (c :: rest) with
    | some found => some found
    | none =>
      match _h : afterBreak? (c :: rest) with
      | some next => prepend '\n' (basicLines next)
      | none =>
        if c = '\\' then
          match escaped? rest with
          | some (x, used) => prepend x (basicLines (rest.drop used))
          | none =>
            if (afterBreak? (rest.dropWhile isBlank)).isSome then basicLines (skipSpace rest)
            else none
        else if isPrintable c then prepend c (basicLines rest)
        else none
termination_by cs.length
decreasing_by
  · exact length_lt_of_afterBreak? _h
  · simp only [List.length_drop, List.length_cons]; omega
  · have := length_skipSpace_le rest
    simp only [List.length_cons]; omega
  · simp

/-- Text of several lines up to three single quotes. -/
def literalLines (cs : List Char) : Option (List Char × List Char) :=
  match cs with
  | [] => none
  | c :: rest =>
    match ending? singleQuote (c :: rest) with
    | some found => some found
    | none =>
      match _h : afterBreak? (c :: rest) with
      | some next => prepend '\n' (literalLines next)
      | none => if isPrintable c then prepend c (literalLines rest) else none
termination_by cs.length
decreasing_by
  · exact length_lt_of_afterBreak? _h
  · simp

/-- A line break right behind the opening quotes is not part of the text. -/
def afterOpening (cs : List Char) : List Char :=
  (afterBreak? cs).getD cs

/-- Quoted text of one line, quotes included. -/
def quotedLine : Scan String
  | '\x22' :: rest => (basicText rest).map fun (text, rest) => (String.ofList text, rest)
  | '\x27' :: rest => (literalText rest).map fun (text, rest) => (String.ofList text, rest)
  | _ => none

/-- Quoted text in any form, quotes included. -/
def quoted : Scan String
  | '\x22' :: '\x22' :: '\x22' :: rest =>
    (basicLines (afterOpening rest)).map fun (text, rest) => (String.ofList text, rest)
  | '\x27' :: '\x27' :: '\x27' :: rest =>
    (literalLines (afterOpening rest)).map fun (text, rest) => (String.ofList text, rest)
  | cs => quotedLine cs

end DexTrade.Toml
