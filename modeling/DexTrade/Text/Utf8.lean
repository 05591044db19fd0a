import DexTrade.Bytes
/-!
# UTF-8

Bytes are read one at a time; between them stands what is still owed of a character. Where a byte
cannot go on, the bytes so far are one malformed piece and the byte starts anew. A strict reader
refuses malformed pieces, a lenient one puts the replacement character for each.
-/
namespace DexTrade.Utf8

/-- A character of which `owed` bytes are missing; the next one lies between the two bounds. -/
structure Pending where
  code : Nat
  owed : Nat
  least : Nat
  most : Nat

/-- The bounds of a continuation byte. -/
def tailLeast : Nat := 0x80
def tailMost : Nat := 0xBF

/-- What a byte makes between characters: pieces, a malformed one being nothing, and what is owed. -/
def start (b : Nat) : List (Option Char) × Option Pending :=
  if b ≤ 0x7F then ([some (Char.ofNat b)], none)
  else if 0xC2 ≤ b ∧ b ≤ 0xDF then ([], some ⟨b - 0xC0, 1, tailLeast, tailMost⟩)
  else if b = 0xE0 then ([], some ⟨0, 2, 0xA0, tailMost⟩)
  else if b = 0xED then ([], some ⟨0xD, 2, tailLeast, 0x9F⟩)
  else if 0xE1 ≤ b ∧ b ≤ 0xEF then ([], some ⟨b - 0xE0, 2, tailLeast, tailMost⟩)
  else if b = 0xF0 then ([], some ⟨0, 3, 0x90, tailMost⟩)
  else if 0xF1 ≤ b ∧ b ≤ 0xF3 then ([], some ⟨b - 0xF0, 3, tailLeast, tailMost⟩)
  else if b = 0xF4 then ([], some ⟨4, 3, tailLeast, 0x8F⟩)
  else ([none], none)

def step : Option Pending → Nat → List (Option Char) × Option Pending
  | none, b => start b
  | some p, b =>
    if p.least ≤ b ∧ b ≤ p.most then
      let code := 64 * p.code + (b - 0x80)
      if p.owed ≤ 1 then ([some (Char.ofNat code)], none)
      else ([], some ⟨code, p.owed - 1, tailLeast, tailMost⟩)
    else
      let (pieces, pending) := start b
      (none :: pieces, pending)

/-- All pieces of a byte string. -/
def pieces : Option Pending → Bytes → List (Option Char)
  | none, [] => []
  | some _, [] => [none]
  | pending, b :: rest =>
    let (here, pending) := step pending b.toNat
    here ++ pieces pending rest

/-- The text, if every piece is well-formed. -/
def decode? (b : Bytes) : Option String :=
  ((pieces none b).mapM id).map String.ofList

def replacement : Char := '\ufffd'

/-- The text with a replacement character for each malformed piece. -/
def decodeLossy (b : Bytes) : String :=
  String.ofList ((pieces none b).map fun piece => piece.getD replacement)

end DexTrade.Utf8
