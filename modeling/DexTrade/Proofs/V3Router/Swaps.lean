import DexTrade.Proofs.Pool.Path
import DexTrade.Proofs.V3Router.Calldata
import DexTrade.Proofs.V3Router.TwoLevel
/-!
# What the swap functions of the V3 routers mean

Eight functions, four of each router version, decode to the swap their sender wrote down
(`decode_swap_calls`). The receiver, the deadline and the price limit leave no trace in it. An exact
output along a path is packed from its last token on, so that route is turned round.
-/
namespace DexTrade.V3Router

theorem decode_of_read_error {input : Bytes} {cause : Abi.Error}
    (h : Request.read input = .error cause) :
    decode input = .error (unreadable input cause) := by
  rw [decode_eq_twoLevel, decodeTwoLevel, h]
  simp only [decodeUnwrapped, h]

theorem decode_of_read_single {input : Bytes} {exactOutput : Bool} {tokenIn tokenOut : Address}
    {fee : BitVec 24} {exact bound : Word}
    (h : Request.read input = .ok (.single exactOutput tokenIn tokenOut fee exact bound)) :
    decode input = .ok (singleSwap exactOutput tokenIn tokenOut fee exact bound) := by
  rw [decode_eq_twoLevel, decodeTwoLevel, h]
  simp only [decodeUnwrapped, h, Request.swap?, Option.getD_some]

theorem decode_of_read_path {input packed : Bytes} {exactOutput : Bool} {exact bound : Word}
    (h : Request.read input = .ok (.path exactOutput packed exact bound)) :
    decode input = pathSwap "exactInput" "exactOutput" exactOutput packed exact bound := by
  rw [decode_eq_twoLevel, decodeTwoLevel, h]
  simp only [decodeUnwrapped, h, Request.swap?, Option.getD_some]

/-- A route that was packed is the route of the swap, turned round for an exact output. -/
theorem pathSwap_of_pack {tokens : List Address} {fees : List Nat} {packed : Bytes}
    (inputName outputName : String) (exactOutput : Bool) (exact bound : Word)
    (hpack : PoolPath.pack tokens fees = .ok packed)
    (hfees : ∀ fee ∈ fees, fee < PoolPath.feeLimit) :
    pathSwap inputName outputName exactOutput packed exact bound =
      .ok (if exactOutput then
        SwapCall.ofExactOutput outputName (PoolPath.mk tokens fees).reversed exact (some bound)
      else SwapCall.ofExactInput inputName ⟨tokens, fees⟩ (some exact) bound) := by
  rw [pathSwap, PoolPath.unpack_pack_of_lt hpack hfees]
  cases exactOutput <;> rfl

/-- Each swap function of each version decodes to what its arguments say. In the swap, a leg's fee
stands between the leg's tokens; those of an exact output are the packed legs, walked backwards. -/
theorem decode_swap_calls (version : Version) :
    (∀ a : SingleArguments,
      decode (singleCall version false a) =
        .ok { function := "exactInputSingle", path := [a.tokenIn, a.tokenOut]
              fees := [a.fee.toNat], amountIn := some a.exact, amountInMax := none
              amountOutMin := a.bound, exactOutput := false } ∧
      decode (singleCall version true a) =
        .ok { function := "exactOutputSingle", path := [a.tokenIn, a.tokenOut]
              fees := [a.fee.toNat], amountIn := none, amountInMax := some a.bound
              amountOutMin := a.exact, exactOutput := true }) ∧
    ∀ (a : PathArguments) (tokens : List Address) (fees : List Nat),
      PoolPath.pack tokens fees = .ok a.packed → (∀ fee ∈ fees, fee < 0x1000000) →
      Abi.Addressable (a.write version) →
      decode (pathCall version false a) =
        .ok { function := "exactInput", path := tokens, fees
              amountIn := some a.exact, amountInMax := none
              amountOutMin := a.bound, exactOutput := false } ∧
      decode (pathCall version true a) =
        .ok { function := "exactOutput", path := tokens.reverse, fees := fees.reverse
              amountIn := none, amountInMax := some a.bound
              amountOutMin := a.exact, exactOutput := true } ∧
      PoolPath.legsOf tokens.reverse fees.reverse =
        (PoolPath.legsOf tokens fees).reverse.map PoolPath.Leg.flipped := by
  constructor
  · intro a
    constructor
    · exact decode_of_read_single (read_singleCall version false a)
    · exact decode_of_read_single (read_singleCall version true a)
  · intro a tokens fees hpack hfees hsize
    have hread := fun exactOutput => read_pathCall version exactOutput a hsize
    refine ⟨?_, ?_, PoolPath.legsOf_reverse (PoolPath.length_of_pack hpack)⟩
    · rw [decode_of_read_path (hread false), pathSwap_of_pack _ _ _ _ _ hpack hfees]
      rfl
    · rw [decode_of_read_path (hread true), pathSwap_of_pack _ _ _ _ _ hpack hfees]
      rfl

/-- An exact output of 42 over two pools, packed from the last token on. -/
theorem decode_exact_output_over_two_pools :
    let tokens : List Address := [⟨0x4ed4⟩, ⟨0x4200⟩, ⟨0x8335⟩]
    let a : PathArguments :=
      ⟨PoolPath.packHops tokens [10000, 500], ⟨0x1111⟩, 1, 42, 100⟩
    PoolPath.pack tokens [10000, 500] = .ok a.packed ∧
      (∀ fee ∈ [10000, 500], fee < 0x1000000) ∧ Abi.Addressable (a.write .first) ∧
      decode (pathCall .first true a) =
        .ok { function := "exactOutput", path := [⟨0x8335⟩, ⟨0x4200⟩, ⟨0x4ed4⟩]
              fees := [500, 10000], amountIn := none, amountInMax := some 100
              amountOutMin := 42, exactOutput := true } := by
  intro tokens a
  have hpack : PoolPath.pack tokens [10000, 500] = .ok a.packed := rfl
  have hfees : ∀ fee ∈ [10000, 500], fee < 0x1000000 := by decide
  have hsize : Abi.Addressable (a.write .first) := by decide +kernel
  exact ⟨hpack, hfees, hsize, ((decode_swap_calls .first).2 a tokens _ hpack hfees hsize).2.1⟩

end DexTrade.V3Router
