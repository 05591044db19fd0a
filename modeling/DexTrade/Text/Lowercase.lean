import DexTrade.Text.CaseData
/-!
# Lowercase text

Every character is replaced by its lowercase form. Two characters are special: the capital I with a
dot becomes an i and a combining dot, and a capital sigma becomes the final form at the end of a word,
where a cased character stands before it and none after it, case-ignorable characters not counted.
-/
namespace DexTrade.Text

def inRanges (ranges : List (Nat × Nat)) (c : Char) : Bool :=
  ranges.any fun (first, last) => first ≤ c.toNat && c.toNat ≤ last

def isCased (c : Char) : Bool :=
  inRanges casedRanges c

def isCaseIgnorable (c : Char) : Bool :=
  inRanges caseIgnorableRanges c

/-- The lowercase form of a character that is one character. -/
def lowercaseChar (c : Char) : Char :=
  let n := c.toNat
  match lowercaseRuns.find? fun (first, last, step, _) =>
      first ≤ n && n ≤ last && (n - first) % step == 0 with
  | some (_, _, _, shift) => Char.ofNat (n + shift).toNat
  | none => c

def capitalSigma : Char := '\u03a3'
def smallSigma : Char := '\u03c3'
def finalSigma : Char := '\u03c2'
def capitalDottedI : Char := '\u0130'

/-- The first character that is not case-ignorable is cased. -/
def startsCased (cs : List Char) : Bool :=
  match cs.dropWhile isCaseIgnorable with
  | c :: _ => isCased c
  | [] => false

/-- Whether a sigma between the characters before it, nearest first, and those after it ends a
word. -/
def endsWord (before after : List Char) : Bool :=
  startsCased before && !startsCased after

/-- The lowercase form of a character between others. -/
def lowercaseAt (before : List Char) (c : Char) (after : List Char) : List Char :=
  if c = capitalSigma then [if endsWord before after then finalSigma else smallSigma]
  else if c = capitalDottedI then ['i', '\u0307']
  else [lowercaseChar c]

/-- Lowercases what follows the characters already passed, nearest first. -/
def lowercaseAfter (before : List Char) : List Char → List Char
  | [] => []
  | c :: after => lowercaseAt before c after ++ lowercaseAfter (c :: before) after

def lowercase (s : String) : String :=
  String.ofList (lowercaseAfter [] s.toList)

end DexTrade.Text
