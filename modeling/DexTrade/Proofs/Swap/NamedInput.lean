import DexTrade.Proofs.Abi.Selector
import DexTrade.Swap.V2Router
/-!
# The input that a call names

Four functions of a V2 router take an exact input in a token, as their first argument. The others take
an exact output, or the ether that is sent along, and their calls leave the input open
(`V2Router.amountIn_of_decode`).
-/
namespace DexTrade

theorem exists_of_bind_eq_ok {ε α β : Type} {x : Except ε α} {f : α → Except ε β} {b : β}
    (h : x >>= f = .ok b) : ∃ a, x = .ok a ∧ f a = .ok b := by
  cases x with
  | error e => exact nomatch h
  | ok a => exact ⟨a, rfl, h⟩

/-- A number that is the first argument is the first word. -/
theorem Abi.wordAt_of_read {params : List Param} {frame : Bytes}
    {values : Values (.uint 256 :: params)} (h : read (.uint 256 :: params) frame = .ok values) :
    wordAt frame 0 = .ok values.1 := by
  obtain ⟨first, hfirst, h⟩ := exists_of_bind_eq_ok h
  obtain ⟨others, -, h⟩ := exists_of_bind_eq_ok h
  cases h
  unfold Param.read at hfirst
  cases hword : wordAt frame 0 with
  | error e =>
    rw [hword] at hfirst
    exact nomatch hfirst
  | ok w =>
    rw [hword] at hfirst
    exact congrArg Except.ok ((BitVec.setWidth_eq w).symm.trans (Except.ok.inj hfirst))

namespace V2Router

/-- Both the input is exact and it is paid in a token. -/
def Function.namesInput : Function → Bool
  | .exactTokensForTokens | .exactTokensForEther | .exactTokensForTokensWithTransferFee
  | .exactTokensForEtherWithTransferFee => true
  | .tokensForExactTokens | .exactEtherForTokens | .tokensForExactEther | .etherForExactTokens
  | .exactEtherForTokensWithTransferFee => false

theorem Function.namesInput_eq (f : Function) :
    f.namesInput = (!f.paysEther && !f.isExactOutput) := by
  cases f <;> rfl

theorem amountIn_etherSwap (f : Function) (output : Word) (route : List Address) :
    (etherSwap f output route).amountIn = none := by
  unfold etherSwap
  cases f.isExactOutput <;> rfl

theorem amountIn_tokenSwap (f : Function) (exact bound : Word) (route : List Address) :
    (tokenSwap f exact bound route).amountIn = if f.isExactOutput then none else some exact := by
  unfold tokenSwap
  cases f.isExactOutput <;> rfl

/-- Where the arguments name the input, it is the first of them. -/
theorem amountIn_of_readArguments {f : Function} {arguments : Bytes} {swap : SwapCall}
    (h : readArguments f arguments = .ok swap) :
    if f.namesInput then ∃ w, Abi.wordAt arguments 0 = .ok w ∧ swap.amountIn = some w
    else swap.amountIn = none := by
  rw [f.namesInput_eq]
  unfold readArguments at h
  cases hether : f.paysEther with
  | true =>
    rw [hether, if_pos rfl] at h
    obtain ⟨values, -, hswap⟩ := exists_of_bind_eq_ok h
    cases hswap
    exact amountIn_etherSwap f _ _
  | false =>
    rw [hether, if_neg Bool.false_ne_true] at h
    obtain ⟨values, hread, hswap⟩ := exists_of_bind_eq_ok h
    cases hswap
    rw [amountIn_tokenSwap]
    cases f.isExactOutput with
    | true => rfl
    | false => exact ⟨_, Abi.wordAt_of_read hread, rfl⟩

/-- A call that is decoded was read by the function whose selector it starts with. -/
theorem exists_function_of_decode {input : Bytes} {swap : SwapCall} (h : decode input = .ok swap) :
    2 ≤ swap.path.length ∧ ∃ f : Function, f.selector.leads input = true ∧
      readArguments f (input.drop 4) = .ok swap := by
  have hread : interface.read input = .ok swap ∧ 2 ≤ swap.path.length := by
    unfold decode at h
    split at h
    · cases h
    · split at h
      · cases h
      · rename_i hread hlong
        cases h
        exact ⟨hread, Nat.le_of_not_lt hlong⟩
  obtain ⟨hlength, reader, hmem, hreader⟩ := Abi.Interface.exists_reader_of_read hread.1
  obtain ⟨f, -, hf⟩ := List.mem_map.1 hmem
  obtain ⟨hselector, rfl⟩ := Prod.mk.inj hf
  have hlong : 4 ≤ input.length := Nat.le_trans (by decide) hlength
  exact ⟨hread.2, f, Selector.leads_iff.2 ⟨hlong, hselector.symm⟩, hreader⟩

/-- A call names its input exactly if its function does. -/
theorem amountIn_of_decode {input : Bytes} {swap : SwapCall} (h : decode input = .ok swap) :
    ∃ f : Function, f.selector.leads input = true ∧
      if f.namesInput then
        ∃ w, Abi.wordAt (input.drop 4) 0 = .ok w ∧ swap.amountIn = some w
      else swap.amountIn = none := by
  obtain ⟨-, f, hleads, hreader⟩ := exists_function_of_decode h
  exact ⟨f, hleads, amountIn_of_readArguments hreader⟩

end V2Router

end DexTrade
