import DexTrade.Text.Hex
import DexTrade.Toml.Value
/-!
# Bare TOML values

Truth values, numbers and points in time are written as a run of letters, digits and a few signs. A
run is read as a whole: it is a value of exactly one kind, or none.
-/
namespace DexTrade.Toml

/-- Characters a bare value is made of. -/
def isBare (c : Char) : Bool :=
  c.isAlphanum || c == '_' || c == '+' || c == '-' || c == '.' || c == ':'

/-- Digits of a kind with single underscores between them; gives the digits. -/
def spaced? (isDigit : Char → Bool) : List Char → Option (List Char)
  | [] => none
  | [c] => if isDigit c then some [c] else none
  | c :: '_' :: rest => if isDigit c then (spaced? isDigit rest).map (c :: ·) else none
  | c :: rest => if isDigit c then (spaced? isDigit rest).map (c :: ·) else none

/-- The number that digits spell to a base. -/
def digitsToNat (base : Nat) (digits : List Char) : Nat :=
  digits.foldl (fun n c => base * n + (Hex.digitValue? c).getD 0) 0

def isHexDigit (c : Char) : Bool :=
  (Hex.digitValue? c).isSome

/-- A sign, if there is one, and what follows it. -/
def splitSign : List Char → Option Char × List Char
  | '+' :: rest => (some '+', rest)
  | '-' :: rest => (some '-', rest)
  | cs => (none, cs)

/-- Decimal digits of a whole number: no zero in front of others. -/
def wholeDigits? (cs : List Char) : Option (List Char) :=
  if cs.head? = some '0' ∧ 1 < cs.length then none else spaced? Char.isDigit cs

/-- The whole number, if it fits into 64 bits with a sign. -/
def bounded? (n : Int) : Option Int :=
  if -0x8000000000000000 ≤ n ∧ n < 0x8000000000000000 then some n else none

/-- A number to the base that its mark names, or a decimal one with a sign or none. -/
def integer? (cs : List Char) : Option Int :=
  match cs with
  | '0' :: 'x' :: digits => (spaced? isHexDigit digits).bind fun d => bounded? (digitsToNat 16 d)
  | '0' :: 'o' :: digits =>
    (spaced? (fun c => '0' ≤ c && c ≤ '7') digits).bind fun d => bounded? (digitsToNat 8 d)
  | '0' :: 'b' :: digits =>
    (spaced? (fun c => c == '0' || c == '1') digits).bind fun d => bounded? (digitsToNat 2 d)
  | cs =>
    let (sign, digits) := splitSign cs
    (wholeDigits? digits).bind fun d =>
      let n : Int := digitsToNat 10 d
      bounded? (if sign = some '-' then -n else n)

/-- The least whole number that rounds to infinity: half a step above the largest number. -/
def infinityBound : Nat := Nat.pow 2 1024 - Nat.pow 2 970

/-- Whether `m * 10 ^ e` rounds to infinity. Sizes far from the bound are told by their digits. -/
def isInfinite (m : Nat) (e : Int) : Bool :=
  let digits : Int := (Nat.toDigits 10 m).length
  if m = 0 ∨ digits + e < 300 then false
  else if 400 < digits + e then true
  else if 0 ≤ e then infinityBound ≤ m * Nat.pow 10 e.toNat
  else infinityBound * Nat.pow 10 (-e).toNat ≤ m

/-- The exponent behind an `e` of either case; without one it is zero. -/
def exponent? : List Char → Option Int
  | [] => some 0
  | 'e' :: rest | 'E' :: rest =>
    let (sign, digits) := splitSign rest
    (spaced? Char.isDigit digits).map fun d =>
      let n : Int := digitsToNat 10 d
      if sign = some '-' then -n else n
  | _ => none

/-- Whether a run is a floating-point number: with a fraction or an exponent or both, and not one that
rounds to positive infinity; or a named one. -/
def isFloat (cs : List Char) : Bool :=
  let (sign, unsigned) := splitSign cs
  if unsigned = ['i', 'n', 'f'] ∨ unsigned = ['n', 'a', 'n'] then true
  else
    let whole := unsigned.takeWhile fun c => c.isDigit || c == '_'
    let tail := unsigned.dropWhile fun c => c.isDigit || c == '_'
    let (fraction, rest) : Option (List Char) × List Char :=
      match tail with
      | '.' :: more =>
        (spaced? Char.isDigit (more.takeWhile fun c => c.isDigit || c == '_'),
          more.dropWhile fun c => c.isDigit || c == '_')
      | tail => (some [], tail)
    match wholeDigits? whole, fraction, exponent? rest with
    | some w, some f, some e =>
      !tail.isEmpty && (sign = some '-' || !isInfinite (digitsToNat 10 (w ++ f)) (e - f.length))
    | _, _, _ => false

/-! ## Points in time -/

/-- A number of two digits up to a limit, and what follows it. -/
def twoDigits? (least most : Nat) : List Char → Option (List Char)
  | a :: b :: rest =>
    let n := digitsToNat 10 [a, b]
    if a.isDigit && b.isDigit && least ≤ n && n ≤ most then some rest else none
  | _ => none

def expect? (c : Char) : List Char → Option (List Char)
  | x :: rest => if x = c then some rest else none
  | [] => none

def daysInMonth (year month : Nat) : Nat :=
  if month = 2 then
    if year % 4 = 0 ∧ (year % 100 ≠ 0 ∨ year % 400 = 0) then 29 else 28
  else if month = 4 ∨ month = 6 ∨ month = 9 ∨ month = 11 then 30
  else 31

/-- What follows a date that exists. -/
def afterDate? (cs : List Char) : Option (List Char) := do
  let year := cs.take 4
  if year.length = 4 ∧ year.all Char.isDigit then
    let rest ← expect? '-' (cs.drop 4)
    let afterMonth ← twoDigits? 1 12 rest
    let day ← expect? '-' afterMonth
    twoDigits? 1 (daysInMonth (digitsToNat 10 year) (digitsToNat 10 (rest.take 2))) day
  else none

/-- What follows a time of day; its seconds may be 60 and have a fraction. -/
def afterTime? (cs : List Char) : Option (List Char) := do
  let minutes ← expect? ':' (← twoDigits? 0 23 cs)
  let seconds ← expect? ':' (← twoDigits? 0 59 minutes)
  match ← twoDigits? 0 60 seconds with
  | '.' :: fraction =>
    if (fraction.takeWhile Char.isDigit).isEmpty then none
    else some (fraction.dropWhile Char.isDigit)
  | rest => some rest

/-- Whether the rest is nothing or a distance from universal time. -/
def isOffset : List Char → Bool
  | [] => true
  | ['Z'] | ['z'] => true
  | c :: rest =>
    (c == '+' || c == '-') &&
      ((twoDigits? 0 23 rest).bind (expect? ':') |>.bind (twoDigits? 0 59)) == some []

/-- A time of day with an offset or without one. -/
def isTimeWithOffset (cs : List Char) : Bool :=
  match afterTime? cs with
  | some rest => isOffset rest
  | none => false

def isDate (cs : List Char) : Bool :=
  afterDate? cs == some []

/-- A date, a time of day, or both with a letter T between them. -/
def isMoment (cs : List Char) : Bool :=
  match afterDate? cs with
  | some [] => true
  | some (c :: rest) => (c == 'T' || c == 't') && isTimeWithOffset rest
  | none => afterTime? cs == some []

/-- The value of a run. -/
def bare? (cs : List Char) : Option Value :=
  if cs = ['t', 'r', 'u', 'e'] then some (.boolean true)
  else if cs = ['f', 'a', 'l', 's', 'e'] then some (.boolean false)
  else if isMoment cs then some (.moment (String.ofList cs))
  else if isFloat cs then some (.float (String.ofList cs))
  else (integer? cs).map .integer

/-- A bare value. A date and a time of day behind it may also be parted by one space. -/
def bare : Scan Value := fun cs =>
  let run := cs.takeWhile isBare
  let rest := cs.dropWhile isBare
  match rest with
  | ' ' :: more =>
    let time := more.takeWhile isBare
    if isDate run ∧ isTimeWithOffset time then
      some (.moment (String.ofList (run ++ ' ' :: time)), more.dropWhile isBare)
    else
      (bare? run).map (·, rest)
  | _ => (bare? run).map (·, rest)

end DexTrade.Toml
