import DexTrade.Proofs.UniversalRouter.Calldata
import Mathlib.Data.List.Zip
import Mathlib.Data.Nat.Bitwise
/-!
# The operations of a universal router call

An operation is named by the low six bits of its command byte alone and may revert by the highest bit
alone (`operation_eq_operationOf`). The swaps of a call are the operations whose low six bits are one
of four codes, in order (`swapOperations_zipWith`). Which bytes these are does not depend on the
inputs (`map_fst_swaps`), and commands that are no swaps can stand anywhere (`swaps_insert`).
-/
namespace DexTrade

namespace Command

/-- The codes of the swap commands: V3 exact input and output, V2 exact input and output. -/
def swapCodes : List Nat := [0x00, 0x01, 0x08, 0x09]

def v2SwapCodes : List Nat := [0x08, 0x09]

/-- The low six bits of a command byte. -/
def codeOf (b : UInt8) : Nat := b.toNat % 64

/-- The byte asks for a swap, whatever its two highest bits are. -/
def isSwapByte (b : UInt8) : Bool := swapCodes.contains (codeOf b)

theorem ofByte_eq (b : UInt8) : ofByte b = ofCode (UInt8.ofNat (codeOf b)) := by
  have hmask : (0x3f : UInt8).toNat = 2 ^ 6 - 1 := rfl
  have hlow : b &&& 0x3f = UInt8.ofNat (codeOf b) := by
    apply UInt8.toNat_inj.1
    rw [UInt8.toNat_and, hmask, Nat.and_two_pow_sub_one_eq_mod, UInt8.toNat_ofNat', codeOf]
    omega
  rw [ofByte, hlow]

theorem mayRevert_eq (b : UInt8) : mayRevert b = b.toNat.testBit 7 := by
  have hmask : (0x80 : UInt8).toNat = 2 ^ 7 := rfl
  have hbit : (b &&& 0x80).toNat = (b.toNat.testBit 7).toNat * 2 ^ 7 := by
    rw [UInt8.toNat_and, hmask, Nat.and_two_pow]
  rw [mayRevert, bne, Bool.eq_iff_iff, Bool.not_eq_true', beq_eq_false_iff_ne, ne_eq,
    ← UInt8.toNat_inj, hbit]
  cases b.toNat.testBit 7 <;> decide

theorem isV2Swap_ofCode (c : UInt8) : (ofCode c).isV2Swap = v2SwapCodes.contains c.toNat := by
  unfold ofCode
  split <;> try rfl
  simp_all [isV2Swap, v2SwapCodes, ← UInt8.toNat_inj]

theorem isSwap_ofCode (c : UInt8) : (ofCode c).isSwap = swapCodes.contains c.toNat := by
  unfold ofCode
  split <;> try rfl
  simp_all [isSwap, isV3Swap, isV2Swap, swapCodes, ← UInt8.toNat_inj]

theorem toNat_code (b : UInt8) : (UInt8.ofNat (codeOf b)).toNat = codeOf b := by
  rw [UInt8.toNat_ofNat', codeOf]
  omega

theorem isV2Swap_ofByte (b : UInt8) : (ofByte b).isV2Swap = v2SwapCodes.contains (codeOf b) := by
  rw [ofByte_eq, isV2Swap_ofCode, toNat_code]

theorem isSwap_ofByte (b : UInt8) : (ofByte b).isSwap = isSwapByte b := by
  rw [ofByte_eq, isSwap_ofCode, toNat_code, isSwapByte]

end Command

namespace ExecuteCall

open Command

/-- The operation of a command byte: its low six bits name the command, its highest bit lets it
revert. -/
def operationOf (b : UInt8) (input : Bytes) : Operation :=
  ⟨ofCode (UInt8.ofNat (codeOf b)), b.toNat.testBit 7, input⟩

theorem operation_eq_operationOf : operation = operationOf := by
  funext b input
  rw [operation, operationOf, ofByte_eq, mayRevert_eq]

namespace Arguments

/-- The swap commands of a call with their inputs, in order. -/
def swaps (a : Arguments) : List (UInt8 × Bytes) :=
  (a.commands.zip a.inputs).filter fun p => isSwapByte p.1

/-- Which commands are swaps does not depend on the inputs. -/
theorem map_fst_swaps {a : Arguments} (h : a.commands.length = a.inputs.length) :
    a.swaps.map Prod.fst = a.commands.filter isSwapByte := by
  have hcommands : (a.commands.zip a.inputs).map Prod.fst = a.commands :=
    List.map_fst_zip (Nat.le_of_eq h)
  conv_rhs => rw [← hcommands, List.filter_map]
  rfl

theorem length_swaps {a : Arguments} (h : a.commands.length = a.inputs.length) :
    a.swaps.length = (a.commands.filter isSwapByte).length := by
  rw [← map_fst_swaps h, List.length_map]

/-- A command that is no swap can be put anywhere among the others, or taken away. -/
theorem swaps_insert (commands : Bytes) (inputs : List Bytes)
    (h : commands.length = inputs.length) {b : UInt8} (hb : isSwapByte b = false) (input : Bytes)
    (commands' : Bytes) (inputs' : List Bytes) (deadline deadline' : Option Word) :
    swaps ⟨commands ++ b :: commands', inputs ++ input :: inputs', deadline⟩ =
      swaps ⟨commands ++ commands', inputs ++ inputs', deadline'⟩ := by
  simp only [swaps, List.zip_append h, List.zip_cons_cons, List.filter_append, List.filter_cons, hb,
    Bool.false_eq_true, if_false]

end Arguments

theorem swapOperations_zipWith (commands : Bytes) (inputs : List Bytes) (deadline : Option Word) :
    swapOperations ⟨List.zipWith operation commands inputs, deadline⟩ =
      (Arguments.swaps ⟨commands, inputs, deadline⟩).map fun p => operation p.1 p.2 := by
  have hswap : ((fun op : Operation => op.command.isSwap) ∘ fun p : UInt8 × Bytes =>
      operation p.1 p.2) = fun p => isSwapByte p.1 :=
    funext fun p => isSwap_ofByte p.1
  rw [swapOperations, Arguments.swaps, ← List.map_uncurry_zip_eq_zipWith]
  change ((commands.zip inputs).map fun p => operation p.1 p.2).filter _ = _
  rw [List.filter_map, hswap]

end ExecuteCall

end DexTrade
