import DexTrade.Binary64.Shortest
import DexTrade.Decimal.Basic
/-!
# Text of floating-point numbers

Two forms: the shortest digits that read back, for records, and a fixed number of places, rounded
from the exact value, for reading. Records cannot hold infinities.
-/
namespace DexTrade.Binary64

def natText (n : Nat) : List Char :=
  Nat.toDigits 10 n

/-- A sign for what is negative, then the text. -/
def signed (negative : Bool) (text : List Char) : String :=
  String.ofList (if negative then '-' :: text else text)

/-- Smallest decimal exponent of the first digit at which a number is written out. -/
def leastPlain : Int := -5

/-- Smallest decimal exponent above that at which a number is no longer written out. -/
def firstScientific : Int := 16

/-- The digits with a point after the first, if there are more. -/
def pointed (digits : List Char) : List Char :=
  match digits with
  | first :: more => if more.isEmpty then [first] else first :: '.' :: more
  | [] => []

/-- Digits whose last stands at `10 ^ exponent`: written out with a point, or with an exponent where
that would take many zeros. -/
def written (d : Digits) : List Char :=
  let digits := natText d.digits
  let first := d.exponent + (digits.length - 1 : Nat)
  if leastPlain ≤ first ∧ first < firstScientific then
    if 0 ≤ d.exponent then digits ++ List.replicate d.exponent.toNat '0' ++ ['.', '0']
    else Decimal.withPoint digits (-d.exponent).toNat
  else
    let mark := if first < 0 then ['e', '-'] else ['e', '+']
    pointed digits ++ mark ++ natText first.natAbs

/-- The digits without zeros at the end. -/
def stripZeros : (count : Nat) → Digits → Digits
  | 0, d => d
  | count + 1, d =>
    if d.digits ≠ 0 ∧ d.digits % 10 = 0 then stripZeros count ⟨d.digits / 10, d.exponent + 1⟩ else d

/-- The shortest text that reads back, if the number is finite. -/
def recordText? (x : Float) : Option String :=
  match read x with
  | .notANumber | .infinite _ => none
  | .finite negative mantissa exponent atBinade =>
    if mantissa = 0 then some (signed negative ['0', '.', '0'])
    else some (signed negative (written (stripZeros 17 (shortest mantissa exponent atBinade))))

/-- The exact value rounded to a number of places, a half to even; `inf` and `NaN` for what has no
value. -/
def fixedText (places : Nat) (x : Float) : String :=
  match read x with
  | .notANumber => "NaN"
  | .infinite negative => signed negative ['i', 'n', 'f']
  | .finite negative mantissa exponent _ =>
    let value := Ratio.ofBinary mantissa exponent
    let units := roundDiv (value.num * Nat.pow 10 places) value.den
    signed negative (Decimal.withPoint (natText units) places)

end DexTrade.Binary64
