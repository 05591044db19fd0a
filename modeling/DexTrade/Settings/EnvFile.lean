import DexTrade.Text.Alphanumeric
import DexTrade.Text.Blank
import DexTrade.Text.Utf8
/-!
# Environment files

A file of lines `NAME=value` that fills in what the environment does not have. A line may start with
`export`, be blank or a comment; a value may be quoted, hold escapes and name other variables behind a
dollar sign, whose values are put in. The first line that is none of these ends the reading; the lines
before it count.
-/
namespace DexTrade.EnvFile

/-- Names with values, the first of equal names counting. -/
abbrev Bindings := List (String × String)

/-- Where the reading of a value stands. -/
inductive Phase where
  | plain
  /-- Behind a backslash. -/
  | escaped
  /-- Between single quotes. -/
  | verbatim
  /-- In a variable's name behind a dollar sign. -/
  | name (so_far : List Char)
  /-- In a variable's name between braces. -/
  | braced (so_far : List Char)
  /-- Behind the value, where only a comment may follow. -/
  | ended
  deriving DecidableEq

def singleQuote : Char := '\x27'
def doubleQuote : Char := '\x22'

/-- What a character behind a backslash stands for. -/
def unescape? (c : Char) : Option Char :=
  if c = 'n' then some '\n'
  else if c = '\\' ∨ c = singleQuote ∨ c = doubleQuote ∨ c = '$' ∨ c = ' ' then some c
  else none

/-- Reads a value on, inside or outside double quotes. The value of a variable is what `find` gives
for its name. -/
def readValue (find : String → String) : (inQuotes : Bool) → Phase → List Char → Option (List Char)
  | inQuotes, phase, [] =>
    if inQuotes then none
    else
      match phase with
      | .verbatim | .braced _ => none
      | .name so_far => some (find (String.ofList so_far)).toList
      | .plain | .escaped | .ended => some []
  | inQuotes, .ended, c :: rest =>
    if c = ' ' ∨ c = '\t' then readValue find inQuotes .ended rest
    else if c = '#' then some []
    else none
  | inQuotes, .escaped, c :: rest =>
    (unescape? c).bind fun x => (readValue find inQuotes .plain rest).map (x :: ·)
  | inQuotes, .verbatim, c :: rest =>
    if c = singleQuote then readValue find inQuotes .plain rest
    else (readValue find inQuotes .verbatim rest).map (c :: ·)
  | inQuotes, .name so_far, c :: rest =>
    if Text.isAlphanumeric c then readValue find inQuotes (.name (so_far ++ [c])) rest
    else if c = '\x7b' ∧ so_far = [] then readValue find inQuotes (.braced []) rest
    else
      let value := (find (String.ofList so_far)).toList
      if c = '$' then (readValue find inQuotes (.name []) rest).map (value ++ ·)
      else (readValue find inQuotes .plain rest).map fun tail => value ++ c :: tail
  | inQuotes, .braced so_far, c :: rest =>
    if c = '\x7d' then
      (readValue find inQuotes .plain rest).map ((find (String.ofList so_far)).toList ++ ·)
    else readValue find inQuotes (.braced (so_far ++ [c])) rest
  | inQuotes, .plain, c :: rest =>
    if c = '$' then readValue find inQuotes (.name []) rest
    else if c = '\\' then readValue find inQuotes .escaped rest
    else if c = doubleQuote then readValue find (!inQuotes) .plain rest
    else if inQuotes then (readValue find inQuotes .plain rest).map (c :: ·)
    else if c = singleQuote then readValue find inQuotes .verbatim rest
    else if c = ' ' ∨ c = '\t' then readValue find inQuotes .ended rest
    else (readValue find inQuotes .plain rest).map (c :: ·)

def startsName (c : Char) : Bool :=
  c.isAlpha || c == '_'

def continuesName (c : Char) : Bool :=
  c.isAlphanum || c == '_' || c == '.'

/-- A name, and what follows it and the blanks behind it. -/
def readName : List Char → Option (List Char × List Char)
  | c :: rest =>
    if startsName c then
      some (c :: rest.takeWhile continuesName, Text.trimStart (rest.dropWhile continuesName))
    else none
  | [] => none

/-- The name in front of an equals sign, `export` in front of that or not, and what follows the sign
and the blanks behind it. -/
def readAssignment (line : List Char) : Option (List Char × List Char) :=
  match readName line with
  | some (name, '=' :: rest) => some (name, Text.trimStart rest)
  | some (['e', 'x', 'p', 'o', 'r', 't'], rest) =>
    match readName rest with
    | some (name, '=' :: rest) => some (name, Text.trimStart rest)
    | _ => none
  | _ => none

/-- Nothing or a comment. -/
def isVoid (cs : List Char) : Bool :=
  match cs with
  | [] => true
  | c :: _ => c == '#'

/-- What a line says: nothing, or a value for a name. A line that says neither is refused. -/
def readLine (find : String → String) (line : List Char) : Option (Option (String × String)) :=
  let line := Text.trimmed line
  if isVoid line then some none
  else
    match readAssignment line with
    | none => none
    | some (name, rest) =>
      if isVoid rest then some (some (String.ofList name, ""))
      else
        (readValue find false .plain rest).map fun value =>
          some (String.ofList name, String.ofList value)

/-- The lines of a file without their ends; the last one may have none. -/
def splitLines (file : Bytes) : List Bytes :=
  match file with
  | [] => []
  | b :: rest =>
    let line := (b :: rest).takeWhile (· != 0x0a)
    let others := splitLines (((b :: rest).dropWhile (· != 0x0a)).drop 1)
    (if ((b :: rest).contains 0x0a) && line.getLast? == some 0x0d then line.dropLast else line) ::
      others
termination_by file.length
decreasing_by
  have h : ((b :: rest).dropWhile (· != 0x0a)).length ≤ (b :: rest).length := by
    simpa using (List.dropWhile_suffix (l := b :: rest) (· != 0x0a)).length_le
  simp only [List.length_drop, List.length_cons] at *
  omega

/-- Adds what the lines say to the environment, where that does not have the name. A variable's value
comes from the environment so far, else from the lines so far, of which the last counts. -/
def addLines (environment written : Bindings) : List Bytes → Bindings
  | [] => environment
  | line :: rest =>
    let find (name : String) : String :=
      ((environment.lookup name).or (written.lookup name)).getD ""
    match (Utf8.decode? line).bind fun text => readLine find text.toList with
    | none => environment
    | some none => addLines environment written rest
    | some (some (name, value)) =>
      let environment :=
        if (environment.lookup name).isSome then environment else environment ++ [(name, value)]
      addLines environment ((name, value) :: written) rest

/-- The environment with what a file adds to it. -/
def load (environment : Bindings) (file : Option Bytes) : Bindings :=
  match file with
  | none => environment
  | some file => addLines environment [] (splitLines file)

end DexTrade.EnvFile
