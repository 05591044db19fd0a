import DexTrade.Proofs.Pool.Codec
import DexTrade.Proofs.Swap.NamedInput
import DexTrade.Proofs.V3Router.Multicall
import DexTrade.Swap.UniversalRouter
import DexTrade.Swap.V2Router
/-!
# The shape of decoded swaps

Whatever bytes a swap was decoded from, in standard form or not, its route has two tokens or more. A swap
through pools has one fee of three bytes for each two neighbours of its route, and one of an exact and a
largest input; a swap along pairs has no fees, and no input of the other kind than its own
(`decoded_swap_shape`). Nothing is asked of the bytes: the shape comes from what the readers return, and
through a multicall from the one call that its swap was taken from.
-/
namespace DexTrade

/-! ## Routes through pools -/

/-- Two tokens or more, and between each two neighbours a fee of three bytes. -/
structure PoolPath.WellFormed (p : PoolPath) : Prop where
  two_le : 2 ≤ p.tokens.length
  length_fees : p.fees.length + 1 = p.tokens.length
  fee_lt : ∀ fee ∈ p.fees, fee < PoolPath.feeLimit

namespace PoolPath

theorem wellFormed_of_unpack {b : Bytes} {p : PoolPath} (h : unpack b = .ok p) : p.WellFormed := by
  obtain ⟨hops, hpos, hlength, rfl⟩ := unpack_eq_ok_iff.1 h
  have htokens := length_unpackHops hops b
  have hfees : (unpackHops hops b).fees.length = hops := hops_unpackHops hops b
  constructor
  · omega
  · omega
  · exact fun fee => lt_feeLimit_of_mem_unpackHops hlength

theorem WellFormed.reversed {p : PoolPath} (h : p.WellFormed) : p.reversed.WellFormed := by
  constructor
  · simpa [PoolPath.reversed] using h.two_le
  · simpa [PoolPath.reversed] using h.length_fees
  · simpa [PoolPath.reversed] using h.fee_lt

theorem wellFormed_of_one_pool (tokenIn tokenOut : Address) (fee : BitVec 24) :
    WellFormed ⟨[tokenIn, tokenOut], [fee.toNat]⟩ := by
  constructor
  · exact Nat.le_refl 2
  · rfl
  · intro f hf
    rw [List.mem_singleton.1 hf]
    exact fee.isLt

end PoolPath

/-! ## Swaps -/

/-- The swap goes through pools, its fees those of the hops. Of an exact and a largest input it has one,
the latter for an exact output. -/
structure SwapCall.ThroughPools (c : SwapCall) : Prop where
  two_le : 2 ≤ c.path.length
  length_fees : c.fees.length + 1 = c.path.length
  fee_lt : ∀ fee ∈ c.fees, fee < 0x1000000
  oneInput : c.amountIn.isSome = !c.amountInMax.isSome
  exactOutput : c.exactOutput = c.amountInMax.isSome

/-- The swap goes along pairs, which have no fees of their own. It may have the input of its kind, and has
none of the other kind. -/
structure SwapCall.AlongPairs (c : SwapCall) : Prop where
  two_le : 2 ≤ c.path.length
  fees : c.fees = []
  amountIn : c.exactOutput = true → c.amountIn = none
  amountInMax : c.exactOutput = false → c.amountInMax = none

namespace SwapCall

theorem throughPools_ofExactInput {route : PoolPath} (h : route.WellFormed) (function : String)
    (amountIn amountOutMin : Word) :
    (ofExactInput function route (some amountIn) amountOutMin).ThroughPools :=
  ⟨h.two_le, h.length_fees, h.fee_lt, rfl, rfl⟩

theorem throughPools_ofExactOutput {route : PoolPath} (h : route.WellFormed) (function : String)
    (amountOut amountInMax : Word) :
    (ofExactOutput function route amountOut (some amountInMax)).ThroughPools :=
  ⟨h.two_le, h.length_fees, h.fee_lt, rfl, rfl⟩

theorem alongPairs_ofExactInput {route : List Address} (h : 2 ≤ route.length) (function : String)
    (amountIn : Option Word) (amountOutMin : Word) :
    (ofExactInput function ⟨route, []⟩ amountIn amountOutMin).AlongPairs :=
  ⟨h, rfl, nofun, fun _ => rfl⟩

theorem alongPairs_ofExactOutput {route : List Address} (h : 2 ≤ route.length) (function : String)
    (amountOut : Word) (amountInMax : Option Word) :
    (ofExactOutput function ⟨route, []⟩ amountOut amountInMax).AlongPairs :=
  ⟨h, rfl, fun _ => rfl, nofun⟩

end SwapCall

namespace V3Router

theorem throughPools_pathSwap {inputName outputName : String} {exactOutput : Bool} {packed : Bytes}
    {exact bound : Word} {swap : SwapCall}
    (h : pathSwap inputName outputName exactOutput packed exact bound = .ok swap) :
    swap.ThroughPools := by
  unfold pathSwap at h
  split at h
  · cases h
  · rename_i route hroute
    have hformed := PoolPath.wellFormed_of_unpack hroute
    split at h
    · cases h
      exact SwapCall.throughPools_ofExactOutput hformed.reversed _ _ _
    · cases h
      exact SwapCall.throughPools_ofExactInput hformed _ _ _

theorem throughPools_singleSwap (exactOutput : Bool) (tokenIn tokenOut : Address) (fee : BitVec 24)
    (exact bound : Word) :
    (singleSwap exactOutput tokenIn tokenOut fee exact bound).ThroughPools := by
  have hformed := PoolPath.wellFormed_of_one_pool tokenIn tokenOut fee
  cases exactOutput with
  | true => exact SwapCall.throughPools_ofExactOutput hformed _ _ _
  | false => exact SwapCall.throughPools_ofExactInput hformed _ _ _

theorem throughPools_decodeUnwrapped {input : Bytes} {swap : SwapCall}
    (h : decodeUnwrapped input = .ok swap) : swap.ThroughPools := by
  unfold decodeUnwrapped at h
  cases hread : Request.read input with
  | error cause => simp [hread] at h
  | ok request =>
    cases request with
    | single exactOutput tokenIn tokenOut fee exact bound =>
      simp only [hread, Request.swap?, Option.getD_some, Except.ok.injEq] at h
      subst h
      exact throughPools_singleSwap _ _ _ _ _ _
    | path exactOutput packed exact bound =>
      simp only [hread, Request.swap?, Option.getD_some] at h
      exact throughPools_pathSwap h
    | multicall calls => simp [hread, Request.swap?] at h

/-- What is decoded is the swap of a call that wraps no others: the input, or one that it wraps. -/
theorem exists_unwrapped_of_decode {input : Bytes} {swap : SwapCall} (h : decode input = .ok swap) :
    ∃ call, decodeUnwrapped call = .ok swap := by
  rw [decode_eq_twoLevel] at h
  unfold decodeTwoLevel at h
  split at h
  · split at h
    · cases h
    · have hswap := List.mem_singleton_self swap
      rw [← onlySwap_ok_iff.1 h] at hswap
      obtain ⟨call, -, hcall⟩ := List.mem_filterMap.1 hswap
      exact ⟨call, toOption_eq_some_iff.1 hcall⟩
  · exact ⟨input, h⟩

theorem throughPools_decode {input : Bytes} {swap : SwapCall} (h : decode input = .ok swap) :
    swap.ThroughPools := by
  obtain ⟨call, hcall⟩ := exists_unwrapped_of_decode h
  exact throughPools_decodeUnwrapped hcall

theorem two_le_of_decode {input : Bytes} {swap : SwapCall} (h : decode input = .ok swap) :
    2 ≤ swap.path.length :=
  (throughPools_decode h).two_le

end V3Router

namespace Operation

theorem throughPools_decodeV3Swap {op : Operation} {swap : SwapCall}
    (h : op.decodeV3Swap = .ok swap) : swap.ThroughPools := by
  unfold decodeV3Swap at h
  split at h
  · split at h
    · cases h
    · exact V3Router.throughPools_pathSwap h
  · cases h

theorem two_le_of_decodeV3Swap {op : Operation} {swap : SwapCall} (h : op.decodeV3Swap = .ok swap) :
    2 ≤ swap.path.length :=
  (throughPools_decodeV3Swap h).two_le

end Operation

namespace V2Router

variable {f : Function} {swap : SwapCall}

theorem alongPairs_tokenSwap {exact bound : Word} {route : List Address}
    (h : 2 ≤ (tokenSwap f exact bound route).path.length) :
    (tokenSwap f exact bound route).AlongPairs := by
  revert h
  unfold tokenSwap
  cases f.isExactOutput with
  | true => exact fun h => SwapCall.alongPairs_ofExactOutput h _ _ _
  | false => exact fun h => SwapCall.alongPairs_ofExactInput h _ _ _

theorem alongPairs_etherSwap {output : Word} {route : List Address}
    (h : 2 ≤ (etherSwap f output route).path.length) : (etherSwap f output route).AlongPairs := by
  revert h
  unfold etherSwap
  cases f.isExactOutput with
  | true => exact fun h => SwapCall.alongPairs_ofExactOutput h _ _ _
  | false => exact fun h => SwapCall.alongPairs_ofExactInput h _ _ _

theorem alongPairs_of_readArguments {arguments : Bytes}
    (h : readArguments f arguments = .ok swap) (htwo : 2 ≤ swap.path.length) : swap.AlongPairs := by
  unfold readArguments at h
  split at h
  · obtain ⟨values, -, hswap⟩ := exists_of_bind_eq_ok h
    cases hswap
    exact alongPairs_etherSwap htwo
  · obtain ⟨values, -, hswap⟩ := exists_of_bind_eq_ok h
    cases hswap
    exact alongPairs_tokenSwap htwo

theorem alongPairs_decode {input : Bytes} (h : decode input = .ok swap) :
    swap.AlongPairs := by
  obtain ⟨htwo, f, -, hread⟩ := exists_function_of_decode h
  exact alongPairs_of_readArguments hread htwo

theorem two_le_of_decode {input : Bytes} (h : decode input = .ok swap) : 2 ≤ swap.path.length :=
  (alongPairs_decode h).two_le

end V2Router

/-- Whatever bytes a swap was decoded from, it has the shape of its family. -/
theorem decoded_swap_shape :
    (∀ input swap, V3Router.decode input = .ok swap → swap.ThroughPools) ∧
    (∀ (op : Operation) swap, op.decodeV3Swap = .ok swap → swap.ThroughPools) ∧
    ∀ input swap, V2Router.decode input = .ok swap → swap.AlongPairs :=
  ⟨fun _ _ => V3Router.throughPools_decode, fun _ _ => Operation.throughPools_decodeV3Swap,
    fun _ _ => V2Router.alongPairs_decode⟩

/-- A word with all of its high bits set, the low ones being those of a number. -/
def dirty (n : Nat) : Word :=
  BitVec.allOnes 256 <<< 160 ||| BitVec.ofNat 256 n

/-- A multicall of a helper and an exact output through one pool, a command along two pools and a call
that pays in ether. Bits that are not looked at are set, contents stand where no sender would put them,
and bytes follow behind the end. -/
theorem shape_of_unclean_bytes :
    let single : Bytes := Selector.toBytes 0x5023b4df ++
      [dirty 0x8335, dirty 0x4200, 0x010001f4, dirty 0x1111, 7, 2, dirty 0].flatMap Word.toBytes
    let input : Bytes :=
      V3Router.multicall (.deadline 0) [[0x12, 0x21, 0x0e, 0x8a], single] ++ [0xff]
    let op : Operation :=
      ⟨.v3SwapExactOut, true, [dirty 0x1111, 9, 5, 0xe0, dirty 2, 0, 0, 66].flatMap Word.toBytes ++
        PoolPath.packHops [⟨0x4ed4⟩, ⟨0x4200⟩, ⟨0x8335⟩] [10000, 500] ++ [0xff]⟩
    let pair : Bytes := Selector.toBytes 0x7ff36ab5 ++
      [3, 0xa0, dirty 0x1111, 1, 0, 2, dirty 0x4200, dirty 0x8335].flatMap Word.toBytes ++ [0xff]
    ∃ c d e, V3Router.decode input = .ok c ∧ c.ThroughPools ∧ c.path = [⟨0x8335⟩, ⟨0x4200⟩] ∧
      op.decodeV3Swap = .ok d ∧ d.ThroughPools ∧ d.path = [⟨0x8335⟩, ⟨0x4200⟩, ⟨0x4ed4⟩] ∧
      V2Router.decode pair = .ok e ∧ e.AlongPairs ∧ e.path = [⟨0x4200⟩, ⟨0x8335⟩] := by
  intro single input op pair
  have hinput : V3Router.decode input = .ok
      { function := "exactOutputSingle", path := [⟨0x8335⟩, ⟨0x4200⟩], fees := [500]
        amountIn := none, amountInMax := some 2, amountOutMin := 7, exactOutput := true } := by
    rw [V3Router.decode_eq_twoLevel, ← V3Router.toOption_eq_some_iff]
    decide +kernel
  have hop : op.decodeV3Swap = .ok
      { function := "V3_SWAP_EXACT_OUT", path := [⟨0x8335⟩, ⟨0x4200⟩, ⟨0x4ed4⟩]
        fees := [500, 10000], amountIn := none, amountInMax := some 5, amountOutMin := 9
        exactOutput := true } := by
    rw [← V3Router.toOption_eq_some_iff]
    decide +kernel
  have hpair : V2Router.decode pair = .ok
      { function := "swapExactETHForTokens", path := [⟨0x4200⟩, ⟨0x8335⟩], fees := []
        amountIn := none, amountInMax := none, amountOutMin := 3, exactOutput := false } := by
    rw [← V3Router.toOption_eq_some_iff]
    decide +kernel
  obtain ⟨hcall, hcommand, hpairs⟩ := decoded_swap_shape
  exact ⟨_, _, _, hinput, hcall _ _ hinput, rfl, hop, hcommand _ _ hop, rfl, hpair,
    hpairs _ _ hpair, rfl⟩

end DexTrade
