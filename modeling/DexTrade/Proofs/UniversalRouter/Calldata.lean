import DexTrade.Proofs.Abi.RoundTrip
import DexTrade.Proofs.Abi.Selector
import DexTrade.Swap.UniversalRouter
/-!
# Universal router calls in standard form

Both forms of a call as their senders write them, and the inputs of the swap commands. A call is read
back to its command bytes, its inputs and its deadline (`read_call`), so it decodes exactly when there
is one input for each command byte (`decode_call`). The input of a swap command is read back to its
amounts and its packed path (`decodeV3Swap_of_written`) or its route, whose length makes no difference
(`decodeV2Swap_of_written`). The parameter lists are spelled out here and not shared with the reader.
-/
namespace DexTrade

namespace ExecuteCall.Arguments

/-- A call with a deadline is not the same function as one without. -/
def selector (a : Arguments) : Selector :=
  match a.deadline with
  | some _ => 0x3593564c
  | none => 0x24856bc3

def write (a : Arguments) : Bytes :=
  match a.deadline with
  | some deadline =>
    Abi.write [.bytes, .byteStrings, .uint 256] (a.commands, a.inputs, deadline, ())
  | none => Abi.write [.bytes, .byteStrings] (a.commands, a.inputs, ())

def call (a : Arguments) : Bytes :=
  a.selector.toBytes ++ a.write

theorem le_length_write (a : Arguments) : 128 ≤ a.write.length := by
  rcases a with ⟨commands, inputs, _ | deadline⟩ <;>
    simp only [write, Abi.write, Abi.length_frameOf, Abi.parts, Abi.Param.part, Abi.contents,
      List.length_append, List.length_cons, List.length_nil, Abi.length_byteString,
      Abi.length_array] <;>
    omega

/-- An input can be addressed if the call around it can. -/
theorem addressable_input {a : Arguments} (h : Abi.Addressable a.write) {input : Bytes}
    (hinput : input ∈ a.inputs) : Abi.Addressable input := by
  rcases a with ⟨commands, inputs, deadline⟩
  have hcontent : input.length ≤
      (Abi.contents (inputs.map fun b => .apart (Abi.byteString b))).length := by
    refine Nat.le_trans ?_ (Abi.length_le_contents (List.mem_map.2 ⟨input, hinput, rfl⟩))
    rw [Abi.length_byteString]
    omega
  refine Nat.lt_of_le_of_lt ?_ h
  cases deadline <;>
    simp only [write, Abi.write, Abi.length_frameOf, Abi.parts, Abi.Param.part, Abi.contents,
      List.length_append, Abi.length_array] <;>
    omega

theorem read_call (a : Arguments) (hsize : Abi.Addressable a.write) :
    interface.read a.call = .ok a := by
  have hlength : interface.shortest ≤ 4 + a.write.length := Nat.add_le_add_left a.le_length_write 4
  rcases a with ⟨commands, inputs, _ | deadline⟩
  · have hfits : ∀ p ∈ [Abi.Param.bytes, .byteStrings], p.FitsWord := by decide
    have hread : interface.read (call ⟨commands, inputs, none⟩) = readWithoutDeadline _ :=
      Abi.Interface.read_call rfl hlength
    rw [hread, readWithoutDeadline, write, Abi.read_write hfits (commands, inputs, ()) hsize]
    rfl
  · have hfits : ∀ p ∈ [Abi.Param.bytes, .byteStrings, .uint 256], p.FitsWord := by decide
    have hread : interface.read (call ⟨commands, inputs, some deadline⟩) = readWithDeadline _ :=
      Abi.Interface.read_call rfl hlength
    rw [hread, readWithDeadline, write,
      Abi.read_write hfits (commands, inputs, deadline, ()) hsize]
    rfl

theorem decode_call (a : Arguments) (hsize : Abi.Addressable a.write) :
    decode a.call =
      if a.commands.length = a.inputs.length then
        .ok ⟨List.zipWith operation a.commands a.inputs, a.deadline⟩
      else .error (.inputDecode (.inputCount a.commands.length a.inputs.length)) := by
  rw [decode, a.read_call hsize]

end ExecuteCall.Arguments

namespace Operation

/-- The command that swaps along a packed path. -/
def v3Command (exactOutput : Bool) : Command :=
  if exactOutput then .v3SwapExactOut else .v3SwapExactIn

/-- The input of a V3 swap command. For an exact output `exact` is the output and `bound` the largest
input, else they are the input and the least output. -/
def writeV3 (recipient : Address) (exact bound : Word) (packed : Bytes) (payerIsUser : Bool) :
    Bytes :=
  Abi.write [.address, .uint 256, .uint 256, .bytes, .bool]
    (recipient, exact, bound, packed, payerIsUser, ())

/-- A swap command along a packed path is decoded like a router call along it. -/
theorem decodeV3Swap_of_written (exactOutput allowRevert : Bool) (recipient : Address)
    (exact bound : Word) (packed : Bytes) (payerIsUser : Bool)
    (hsize : Abi.Addressable (writeV3 recipient exact bound packed payerIsUser)) :
    decodeV3Swap
        ⟨v3Command exactOutput, allowRevert, writeV3 recipient exact bound packed payerIsUser⟩ =
      V3Router.pathSwap (v3Command exactOutput).name (v3Command exactOutput).name exactOutput packed
        exact bound := by
  have hvalues : Abi.read v3Params (writeV3 recipient exact bound packed payerIsUser) = .ok _ :=
    Abi.read_write (by decide) _ hsize
  cases exactOutput <;> simp only [decodeV3Swap, hvalues] <;> rfl

/-- The command that swaps along a route of pairs. -/
def v2Command (exactOutput : Bool) : Command :=
  if exactOutput then .v2SwapExactOut else .v2SwapExactIn

/-- The input of a V2 swap command, with `exact` and `bound` as for V3. -/
def writeV2 (recipient : Address) (exact bound : Word) (route : List Address)
    (payerIsUser : Bool) : Bytes :=
  Abi.write [.address, .uint 256, .uint 256, .addresses, .bool]
    (recipient, exact, bound, route, payerIsUser, ())

/-- A swap command along a route of pairs is decoded to that route, even if it has no two tokens. -/
theorem decodeV2Swap_of_written (exactOutput allowRevert : Bool) (recipient : Address)
    (exact bound : Word) (route : List Address) (payerIsUser : Bool)
    (hsize : Abi.Addressable (writeV2 recipient exact bound route payerIsUser)) :
    decodeV2Swap
        ⟨v2Command exactOutput, allowRevert, writeV2 recipient exact bound route payerIsUser⟩ =
      .ok (if exactOutput then
          SwapCall.ofExactOutput (v2Command exactOutput).name ⟨route, []⟩ exact (some bound)
        else
          SwapCall.ofExactInput (v2Command exactOutput).name ⟨route, []⟩ (some exact) bound) := by
  have hvalues : Abi.read v2Params (writeV2 recipient exact bound route payerIsUser) = .ok _ :=
    Abi.read_write (by decide) _ hsize
  cases exactOutput <;> simp only [decodeV2Swap, hvalues] <;> rfl

end Operation

end DexTrade
