import DexTrade.Toml.Bare
import DexTrade.Toml.Quoted
import DexTrade.Toml.Table
/-!
# TOML documents

A document is a sequence of lines: blank or a comment, a header, or a key and its value. Only arrays
and quoted text of several lines run over the end of a line. Arrays and inline tables nest to a limited
depth, and a dotted key has a limited number of parts.
-/
namespace DexTrade.Toml

/-- How deep arrays and inline tables nest, and how many parts a key has, at most. -/
def depthLimit : Nat := 79

def skipBlanks (cs : List Char) : List Char :=
  cs.dropWhile isBlank

/-- Characters of a comment: all but control characters, with the tab. -/
def isComment (c : Char) : Bool :=
  isPrintable c

/-- Passes over blanks, line breaks and comments. -/
def skipFiller : (inComment : Bool) → List Char → List Char
  | _, '\r' :: '\n' :: rest => skipFiller false rest
  | inComment, c :: rest =>
    if inComment && isComment c then skipFiller true rest
    else if isBlank c || c == '\n' then skipFiller false rest
    else if c == '#' then skipFiller true rest
    else c :: rest
  | _, [] => []

/-! ## Keys -/

def isBareKey (c : Char) : Bool :=
  c.isAlphanum || c == '_' || c == '-'

/-- One part of a key, bare or quoted. -/
def keyPart : Scan String := fun cs =>
  match cs with
  | '\x22' :: _ | '\x27' :: _ => quotedLine cs
  | _ =>
    let name := cs.takeWhile isBareKey
    if name.isEmpty then none else some (String.ofList name, cs.dropWhile isBareKey)

/-- Parts with points between them, blanks around each. -/
def keyParts : (turns : Nat) → Scan (List String)
  | 0, _ => none
  | turns + 1, cs =>
    match keyPart (skipBlanks cs) with
    | none => none
    | some (part, rest) =>
      match skipBlanks rest with
      | '.' :: more => (keyParts turns more).map fun (parts, rest) => (part :: parts, rest)
      | rest => some ([part], rest)

/-- A dotted key, as the path to its table and its last part. -/
structure Key where
  path : List String
  last : String

def key : Scan Key := fun cs =>
  (keyParts depthLimit cs).bind fun (parts, rest) =>
    parts.getLast?.map fun last => (⟨parts.dropLast, last⟩, rest)

/-- A key, an equals sign and a value. -/
def pair (value : Scan Value) : Scan (Key × Value) := fun cs =>
  match key cs with
  | some (k, '=' :: rest) => (value (skipBlanks rest)).map fun (v, rest) => ((k, v), rest)
  | _ => none

/-! ## Values -/

/-- Elements up to the closing bracket, with a comma behind each but the last, which may have one. -/
def arrayItems (value : Scan Value) : (turns : Nat) → Scan (List Value)
  | 0, _ => none
  | turns + 1, cs =>
    match skipFiller false cs with
    | ']' :: rest => some ([], rest)
    | cs =>
      match value cs with
      | none => none
      | some (item, rest) =>
        match skipFiller false rest with
        | ']' :: rest => some ([item], rest)
        | ',' :: rest =>
          (arrayItems value turns rest).map fun (items, rest) => (item :: items, rest)
        | _ => none

/-- Pairs up to the closing brace with commas between them, added to what is there already. -/
def inlinePairs (value : Scan Value) : (turns : Nat) → Entries → Scan Entries
  | 0, _, _ => none
  | turns + 1, entries, cs =>
    match pair value cs with
    | none => none
    | some ((k, v), rest) =>
      (entries.insert k.path k.last v).bind fun entries =>
        match skipBlanks rest with
        | '\x7d' :: rest => some (entries, rest)
        | ',' :: rest => inlinePairs value turns entries rest
        | _ => none

/-- An inline table behind its opening brace. -/
def inlineTable (value : Scan Value) : Scan Value := fun cs =>
  match skipBlanks cs with
  | '\x7d' :: rest => some (.table [], rest)
  | cs =>
    (inlinePairs value cs.length [] cs).map fun (entries, rest) =>
      (.table (finishEntries entries), rest)

/-- A value that holds no others. -/
def scalar : Scan Value := fun cs =>
  match cs with
  | '\x22' :: _ | '\x27' :: _ => (quoted cs).map fun (s, rest) => (.string s, rest)
  | _ => bare cs

/-- A value in which arrays and inline tables nest at most so deep. -/
def value : (depth : Nat) → Scan Value
  | 0, cs => scalar cs
  | depth + 1, '[' :: rest =>
    (arrayItems (value depth) (rest.length + 1) rest).map fun (items, rest) => (.array items, rest)
  | depth + 1, '\x7b' :: rest => inlineTable (value depth) rest
  | _ + 1, cs => scalar cs

/-! ## Lines -/

/-- What follows the end of a line: blanks, a comment if there is one, and a line break or the end of
the document. -/
def afterLine (cs : List Char) : Option (List Char) :=
  let cs := skipBlanks cs
  let rest := match cs with
    | '#' :: comment => comment.dropWhile isComment
    | cs => cs
  if rest.isEmpty then some [] else afterBreak? rest

/-- What a document has built up so far: its tables, and the table that the last header opened. -/
structure Progress where
  entries : Entries
  header : List String

/-- One line of a document that is not empty. -/
def line (p : Progress) : Scan Progress
  | '[' :: '[' :: rest =>
    match key rest with
    | some (k, ']' :: ']' :: rest) =>
      (p.entries.appendTable k.path k.last).map fun entries =>
        (⟨entries, k.path ++ [k.last]⟩, rest)
    | _ => none
  | '[' :: rest =>
    match key rest with
    | some (k, ']' :: rest) =>
      (p.entries.openTable k.path k.last).map fun entries => (⟨entries, k.path ++ [k.last]⟩, rest)
    | _ => none
  | cs =>
    match pair (value depthLimit) cs with
    | some ((k, v), rest) =>
      (p.entries.insertBelow p.header k.path k.last v).map fun entries =>
        (⟨entries, p.header⟩, rest)
    | none => none

/-- A line that holds nothing but blanks and a comment. -/
def isEmptyLine (cs : List Char) : Bool :=
  match cs with
  | [] => true
  | c :: _ => c == '#' || c == '\n' || c == '\r'

/-- All lines, each of them at least one character. -/
def lines : (turns : Nat) → Progress → List Char → Option Progress
  | 0, p, cs => if cs.isEmpty then some p else none
  | turns + 1, p, cs =>
    let cs := skipBlanks cs
    if cs.isEmpty then some p
    else if isEmptyLine cs then (afterLine cs).bind fun rest => lines turns p rest
    else
      (line p cs).bind fun (p, rest) => (afterLine rest).bind fun rest => lines turns p rest

/-- A byte order mark in front is not part of the document. -/
def withoutMark : List Char → List Char
  | '\ufeff' :: rest => rest
  | cs => cs

/-- The top-level table of a document. -/
def read? (text : String) : Option (List (String × Value)) :=
  let cs := withoutMark text.toList
  (lines (cs.length + 1) ⟨[], []⟩ cs).map fun p => finishEntries p.entries

end DexTrade.Toml
