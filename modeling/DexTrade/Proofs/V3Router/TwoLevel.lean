import DexTrade.Swap.V3Router
import Mathlib.Data.List.Basic
/-!
# Two levels of wrapped calls

The decoder of V3 router calls follows wrapped calls by recursion. Since a multicall must not wrap
another one, what it finds can be said without recursion (`decode_eq_twoLevel`).
-/
namespace DexTrade.V3Router

/-- Only an input with a multicall selector is read as a multicall. -/
theorem isMulticall_of_read {input : Bytes} {calls : List Bytes}
    (h : Request.read input = .ok (.multicall calls)) : isMulticall input = true := by
  obtain ⟨hlen, reader, hread, hmem⟩ := exists_reader_of_read h
  by_cases hs : Selector.ofInput input ∈ multicallSelectors
  · simp [isMulticall, hlen, hs]
  · have hswaps : FindsSwaps reader := by
      rcases hmem with hmem | hmem
      · exact (functions_firstVersion hmem).2 hs
      · exact (functions_secondVersion hmem).2 hs
    exact absurd hread (hswaps _ _)

/-- The swap of a call that is no multicall. -/
def decodeUnwrapped (input : Bytes) : Except TradeError SwapCall :=
  match Request.read input with
  | .error cause => .error (unreadable input cause)
  | .ok request => (request.swap?).getD (.error (nested input))

/-- The same without recursion: a call, or a multicall of calls that wrap no others. -/
def decodeTwoLevel (input : Bytes) : Except TradeError SwapCall :=
  match Request.read input with
  | .ok (.multicall calls) =>
    match calls.find? isMulticall with
    | some call => .error (nested call)
    | none => onlySwap (calls.filterMap fun call => (decodeUnwrapped call).toOption)
  | _ => decodeUnwrapped input

theorem decode_of_not_isMulticall {input : Bytes} (h : isMulticall input = false) :
    decode input = decodeUnwrapped input := by
  rw [decode, decodeUnwrapped]
  split <;> rename_i hread <;> rw [hread] <;> try rfl
  exact absurd (isMulticall_of_read hread) (by simp [h])

theorem decode_eq_twoLevel (input : Bytes) : decode input = decodeTwoLevel input := by
  rw [decode, decodeTwoLevel]
  split
  · rename_i hread
    simp only [hread, decodeUnwrapped]
  · rename_i hread
    simp only [hread, decodeUnwrapped, Request.swap?, Option.getD_some]
  · rename_i hread
    simp only [hread, decodeUnwrapped, Request.swap?, Option.getD_some]
  · rename_i calls hread
    simp only [hread]
    cases hfind : calls.find? isMulticall with
    | some call => rfl
    | none =>
      -- Without a multicall among them, the wrapped calls are decoded without recursion.
      have hflat : calls.filterMap (fun call => (decode call).toOption) =
          calls.filterMap fun call => (decodeUnwrapped call).toOption := by
        refine List.filterMap_congr fun call hcall => ?_
        rw [decode_of_not_isMulticall]
        simpa using List.find?_eq_none.1 hfind call hcall
      simp only [List.filterMap_subtype, List.unattach_attach, hflat]

end DexTrade.V3Router
