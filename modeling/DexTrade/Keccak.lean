import DexTrade.Bytes
/-!
# Keccak-256

The sponge with a rate of 136 bytes over the 1600-bit permutation, with the padding `0x01 … 0x80`.
The state is five by five lanes of 64 bits; lane `(x, y)` stands at index `x + 5 * y`. Each step of
a round is a function from states to states.
-/
namespace DexTrade.Keccak

abbrev State := Vector UInt64 25

/-- The lane in column `x` and row `y`, both taken modulo five. -/
def State.lane (s : State) (x y : Nat) : UInt64 :=
  s.get ⟨x % 5 + 5 * (y % 5), by omega⟩

/-- The state whose lane `(x, y)` is `f x y`. -/
def State.build (f : Nat → Nat → UInt64) : State :=
  Vector.ofFn fun i : Fin 25 => f (i.val % 5) (i.val / 5)

def rotateLeft (w : UInt64) (n : Nat) : UInt64 :=
  if n = 0 then w else (w <<< UInt64.ofNat n) ||| (w >>> UInt64.ofNat (64 - n))

/-- How far the lane at each index turns. -/
def rotations : Vector Nat 25 :=
  #v[0, 1, 62, 28, 27, 36, 44, 6, 55, 20, 3, 10, 43, 25, 39, 41, 45, 15, 21, 8, 18, 2, 61, 56, 14]

def roundConstants : List UInt64 :=
  [0x0000000000000001, 0x0000000000008082, 0x800000000000808A, 0x8000000080008000,
    0x000000000000808B, 0x0000000080000001, 0x8000000080008081, 0x8000000000008009,
    0x000000000000008A, 0x0000000000000088, 0x0000000080008009, 0x000000008000000A,
    0x000000008000808B, 0x800000000000008B, 0x8000000000008089, 0x8000000000008003,
    0x8000000000008002, 0x8000000000000080, 0x000000000000800A, 0x800000008000000A,
    0x8000000080008081, 0x8000000000008080, 0x0000000080000001, 0x8000000080008008]

/-- Adds to every lane the parities of the two neighbouring columns. -/
def mixColumns (s : State) : State :=
  let parity : Vector UInt64 5 := Vector.ofFn fun x : Fin 5 =>
    s.lane x 0 ^^^ s.lane x 1 ^^^ s.lane x 2 ^^^ s.lane x 3 ^^^ s.lane x 4
  let column (x : Nat) : UInt64 := parity.get ⟨x % 5, by omega⟩
  State.build fun x y => s.lane x y ^^^ column (x + 4) ^^^ rotateLeft (column (x + 1)) 1

/-- Turns each lane by its own amount and moves it from `(x, y)` to `(y, 2x + 3y)`. -/
def turnAndMove (s : State) : State :=
  State.build fun x y =>
    let source := (x + 3 * y) % 5
    rotateLeft (s.lane source x) (rotations.get ⟨source % 5 + 5 * (x % 5), by omega⟩)

/-- The non-linear step along each row. -/
def mixRows (s : State) : State :=
  State.build fun x y => s.lane x y ^^^ (~~~ s.lane (x + 1) y &&& s.lane (x + 2) y)

def addConstant (c : UInt64) (s : State) : State :=
  s.set 0 (s.lane 0 0 ^^^ c)

def permute (s : State) : State :=
  roundConstants.foldl (fun s c => addConstant c (mixRows (turnAndMove (mixColumns s)))) s

/-- The number of bytes taken in between two permutations. -/
def rate : Nat := 136

/-- The message, closed by `0x01`, zeros and `0x80` up to a multiple of the rate. -/
def padded (message : Bytes) : Bytes :=
  let free := rate - message.length % rate
  if free = 1 then message ++ [0x81]
  else message ++ 0x01 :: List.replicate (free - 2) 0 ++ [0x80]

/-- The number with the given base-256 digits, least significant first. -/
def littleEndian (b : Bytes) : UInt64 :=
  b.foldr (fun x n => n * 256 + x.toUInt64) 0

/-- Adds one block of `rate` bytes to the state and permutes. -/
def absorb (s : State) (block : Bytes) : State :=
  permute (State.build fun x y =>
    s.lane x y ^^^ littleEndian ((block.drop (8 * (x + 5 * y))).take 8))

def laneBytes (w : UInt64) : Bytes :=
  (List.range 8).map fun i => (w >>> UInt64.ofNat (8 * i)).toUInt8

/-- The 32-byte digest of a message. -/
def digest (message : Bytes) : Bytes :=
  let input := padded message
  let blocks := (List.range (input.length / rate)).map fun i => (input.drop (i * rate)).take rate
  let final := blocks.foldl absorb (Vector.replicate 25 0)
  (List.range 4).flatMap fun x => laneBytes (final.lane x 0)

end DexTrade.Keccak
