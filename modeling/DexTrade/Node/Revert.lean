import DexTrade.Node.Response
import DexTrade.Text.Utf8
/-!
# Revert reasons

A contract that reverts returns data: a text or a panic code in a standard encoding, or bytes of its
own. A node hands them on inside its error, in a place that differs from node to node. Where there are
no bytes, the message of the error is all there is to tell.
-/
namespace DexTrade.Node.Revert

/-! ## Where the data is -/

/-- The value under the least key. -/
def atLeastKey? {α : Type} (members : List (String × α)) : Option α :=
  ((members.mergeSort fun a b => a.1 ≤ b.1).head?).map Prod.snd

mutual

/-- The first bytes in a value: of a text those it spells, of an object those under its least key. -/
def bytesIn? : JsonValue → Option Bytes
  | .string s => Hex.parse? s.toList
  | .object members => atLeastKey? (bytesInMembers members)
  | .null | .bool _ | .number _ | .array _ => none

/-- The members that hold bytes. -/
def bytesInMembers : List (String × JsonValue) → List (String × Bytes)
  | [] => []
  | (key, value) :: rest =>
    match bytesIn? value with
    | some b => (key, b) :: bytesInMembers rest
    | none => bytesInMembers rest

end

/-- Whether a word occurs in a text. -/
def occursIn (word : List Char) : List Char → Bool
  | [] => word.isEmpty
  | c :: rest => word.isPrefixOf (c :: rest) || occursIn word rest

/-- Whether an error speaks of a revert; of no other error is the data looked at. -/
def isRevert (r : Refusal) : Bool :=
  occursIn "revert".toList r.message.toList

/-- The data of a revert. -/
def data? (r : Refusal) : Option Bytes :=
  if isRevert r then r.data.bind bytesIn? else none

/-! ## What the data says -/

def textSelector : Selector := 0x08c379a0
def panicSelector : Selector := 0x4e487b71

def panicNames : List (Nat × String) :=
  [(0x00, "generic/unspecified error"),
    (0x01, "assertion failed"),
    (0x11, "arithmetic underflow or overflow"),
    (0x12, "division or modulo by zero"),
    (0x21, "failed to convert value into enum type"),
    (0x22, "storage byte array incorrectly encoded"),
    (0x31, "called `.pop()` on an empty array"),
    (0x32, "array out-of-bounds access"),
    (0x41, "memory allocation error"),
    (0x51, "called an invalid internal function")]

/-- A panic by its name and its code, a code without a name in its shortest form. -/
def describePanic (code : Word) : String :=
  match panicNames.lookup code.toNat with
  | some name => "panic: " ++ name ++ " (0x" ++ Hex.text [UInt8.ofNat code.toNat] ++ ")"
  | none => "panic: unknown code (" ++ code.quantity ++ ")"

def describeText (text : Bytes) : String :=
  "revert: " ++ if text.isEmpty then "<empty>" else Utf8.decodeLossy text

/-- A standard reason has a selector and at least one word. -/
def shortest : Nat := 36

/-- The reason in one of the standard encodings. -/
def standard? (data : Bytes) : Option String :=
  if data.length < shortest then none
  else if Selector.ofInput data = textSelector then
    match Abi.read [.bytes] (data.drop 4) with
    | .ok (text, ()) => some (describeText text)
    | .error _ => none
  else if Selector.ofInput data = panicSelector then
    match Abi.read [.uint 256] (data.drop 4) with
    | .ok (code, ()) => some (describePanic code)
    | .error _ => none
  else none

/-- The reason that data gives: a standard one, else the data itself if it is text. -/
def ofData (data : Bytes) : Option String :=
  (standard? data).or (Utf8.decode? data)

/-- The reason that an error gives. -/
def reason (r : Refusal) : Option String :=
  match data? r with
  | some data => ofData data
  | none => some r.message

end DexTrade.Node.Revert
