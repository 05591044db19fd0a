import DexTrade.Proofs.Analysis.Executed
import DexTrade.Proofs.Event.Report
import DexTrade.Proofs.UniversalRouter.Operations
/-!
# The set of swaps of a universal router call

Whether an executed call of the universal router is a trade is decided by its command bytes, before
any input is decoded and before anything is read: there has to be exactly one swap among them, and
that has to be a V3 swap. From there on the call counts for nothing but its one swap, so other
commands can be put into the call and taken out of it without changing what comes of it
(`swap_set_decides`).
-/
namespace DexTrade.Analysis.Universal

open Chain Command ExecuteCall

variable {a other : ExecuteCall.Arguments}

/-! ## The only swap -/

theorem onlySwap_of_none {call : ExecuteCall} (h : call.swapOperations = []) :
    onlySwap call = .error (.malformedSwapSet .noOperation) := by
  rw [onlySwap, h]

theorem onlySwap_of_one {call : ExecuteCall} {op : Operation} (h : call.swapOperations = [op]) :
    onlySwap call = if op.command.isV2Swap then .error (.unsupported .v2Command) else .ok op := by
  rw [onlySwap, h]

theorem onlySwap_of_two_le {call : ExecuteCall} (h : 2 ≤ call.swapOperations.length) :
    onlySwap call = .error (.malformedSwapSet (.operations call.swapOperations.length)) := by
  unfold onlySwap
  match call.swapOperations, h with
  | _ :: _ :: _, _ => rfl

/-- Operations that are no swaps do not matter. -/
theorem onlySwap_congr {call call' : ExecuteCall} (h : call.swapOperations = call'.swapOperations) :
    onlySwap call = onlySwap call' := by
  rw [onlySwap, onlySwap, h]

/-! ## Calls in standard form -/

theorem decode_ok (hsize : Abi.Addressable a.write) (h : a.commands.length = a.inputs.length) :
    ExecuteCall.decode a.call =
      .ok ⟨List.zipWith operation a.commands a.inputs, a.deadline⟩ := by
  rw [a.decode_call hsize, if_pos h]

theorem swapOf_call (hsize : Abi.Addressable a.write) (h : a.commands.length = a.inputs.length) :
    swapOf a.call =
      onlySwap ⟨List.zipWith operation a.commands a.inputs, a.deadline⟩ >>=
        Operation.decodeV3Swap := by
  rw [swapOf, decode_ok hsize h]
  rfl

theorem length_swapOperations (h : a.commands.length = a.inputs.length) :
    (swapOperations ⟨List.zipWith operation a.commands a.inputs, a.deadline⟩).length =
      (a.commands.filter isSwapByte).length := by
  rw [swapOperations_zipWith, List.length_map, Arguments.length_swaps h]

theorem swapOf_of_none (hsize : Abi.Addressable a.write) (h : a.commands.length = a.inputs.length)
    (hnone : a.commands.filter isSwapByte = []) :
    swapOf a.call = .error (.malformedSwapSet .noOperation) := by
  have hswaps := length_swapOperations h
  rw [hnone] at hswaps
  rw [swapOf_call hsize h, onlySwap_of_none (List.eq_nil_of_length_eq_zero hswaps)]
  rfl

theorem swapOf_of_two_le (hsize : Abi.Addressable a.write)
    (h : a.commands.length = a.inputs.length)
    (htwo : 2 ≤ (a.commands.filter isSwapByte).length) :
    swapOf a.call =
      .error (.malformedSwapSet (.operations (a.commands.filter isSwapByte).length)) := by
  have hswaps := length_swapOperations h
  rw [← hswaps] at htwo ⊢
  rw [swapOf_call hsize h, onlySwap_of_two_le htwo]
  rfl

/-- The one swap command of a call, together with its input. -/
theorem swaps_of_one {b : UInt8} (h : a.commands.length = a.inputs.length)
    (hone : a.commands.filter isSwapByte = [b]) : ∃ input, a.swaps = [(b, input)] := by
  have hbytes := Arguments.map_fst_swaps h
  rw [hone] at hbytes
  obtain ⟨⟨b', input⟩, hswaps, rfl⟩ := List.map_eq_singleton_iff.1 hbytes
  exact ⟨input, hswaps⟩

theorem swapOf_of_one {b : UInt8} {input : Bytes} (hsize : Abi.Addressable a.write)
    (h : a.commands.length = a.inputs.length) (hone : a.swaps = [(b, input)]) :
    swapOf a.call =
      if codeOf b ∈ v2SwapCodes then .error (.unsupported .v2Command)
      else (operationOf b input).decodeV3Swap := by
  have hop : swapOperations ⟨List.zipWith operation a.commands a.inputs, a.deadline⟩ =
      [operationOf b input] := by
    rw [swapOperations_zipWith, hone, operation_eq_operationOf]
    rfl
  have hkind : (operationOf b input).command.isV2Swap = true ↔ codeOf b ∈ v2SwapCodes := by
    rw [← operation_eq_operationOf, operation, isV2Swap_ofByte, List.contains_iff_mem]
  rw [swapOf_call hsize h, onlySwap_of_one hop]
  by_cases hv2 : codeOf b ∈ v2SwapCodes
  · rw [if_pos hv2, if_pos (hkind.2 hv2)]
    rfl
  · rw [if_neg hv2, if_neg (mt hkind.1 hv2)]
    rfl

theorem swapOf_congr (hsize : Abi.Addressable a.write) (h : a.commands.length = a.inputs.length)
    (hsize' : Abi.Addressable other.write) (h' : other.commands.length = other.inputs.length)
    (hsame : other.swaps = a.swaps) : swapOf other.call = swapOf a.call := by
  rw [swapOf_call hsize h, swapOf_call hsize' h']
  congr 1
  apply onlySwap_congr
  rw [swapOperations_zipWith, swapOperations_zipWith, hsame]

/-- A call is decoded exactly if it has one input for each command. Its swaps are then counted before
anything is read: unless there is exactly one and that one is a V3 swap, the analysis ends with an
error that names how many there are, whatever the inputs and the deadline hold and whatever happened
on the chain. All that matters of a call are its swaps with their inputs. -/
theorem swap_set_decides {σ : Type} (a : ExecuteCall.Arguments) (hsize : Abi.Addressable a.write)
    (answer : (r : Reading) → σ → Except ReadFailure r.Value × σ) (limit : Option Level)
    (events : TxHash → Analysis (List Event)) (hash : TxHash) (receipt : Receipt)
    (hstatus : receipt.status = true) (transaction : Transaction)
    (hinput : transaction.input = a.call) (s : σ) :
    (a.commands.length ≠ a.inputs.length →
      ∃ problem, ExecuteCall.decode a.call = .error (.inputDecode problem)) ∧
    (a.commands.length = a.inputs.length →
      (∃ call, ExecuteCall.decode a.call = .ok call ∧ call.deadline = a.deadline ∧
        call.operations.length = a.commands.length ∧
        (∀ (i : Nat) (b : UInt8) (input : Bytes), a.commands[i]? = some b →
          a.inputs[i]? = some input → call.operations[i]? = some (operationOf b input)) ∧
        call.swapOperations = a.swaps.map fun (b, input) => operationOf b input) ∧
      (a.commands.filter isSwapByte = [] →
        outcome answer limit (analyseFetched transaction hash receipt events) s =
          ⟨some (.error (.malformedSwapSet .noOperation)), [], s⟩) ∧
      (2 ≤ (a.commands.filter isSwapByte).length →
        outcome answer limit (analyseFetched transaction hash receipt events) s =
          ⟨some (.error (.malformedSwapSet
            (.operations (a.commands.filter isSwapByte).length))), [], s⟩) ∧
      (∀ b, a.commands.filter isSwapByte = [b] → codeOf b ∈ v2SwapCodes →
        outcome answer limit (analyseFetched transaction hash receipt events) s =
          ⟨some (.error (.unsupported .v2Command)), [], s⟩) ∧
      ∀ (other : ExecuteCall.Arguments) (transaction' : Transaction),
        Abi.Addressable other.write → other.commands.length = other.inputs.length →
        other.swaps = a.swaps → transaction'.input = other.call →
        outcome answer limit (analyseFetched transaction' hash receipt events) s =
          outcome answer limit (analyseFetched transaction hash receipt events) s) := by
  have hrun (t : Transaction) : outcome answer limit (analyseFetched t hash receipt events) s = _ :=
    outcome_universal_of_executed hstatus s
  refine ⟨fun hcount => ?_, fun h => ⟨?_, fun hnone => ?_, fun htwo => ?_, fun b hone hv2 => ?_,
    fun other transaction' hsize' h' hsame hinput' => ?_⟩⟩
  · rw [a.decode_call hsize, if_neg hcount]
    exact ⟨_, rfl⟩
  · refine ⟨_, decode_ok hsize h, rfl, ?_, fun i b input hb hi => ?_, ?_⟩
    · rw [List.length_zipWith, h, Nat.min_self]
    · rw [operation_eq_operationOf, List.getElem?_zipWith, hb, hi]
    · rw [swapOperations_zipWith, operation_eq_operationOf]
  · rw [hrun, hinput, swapOf_of_none hsize h hnone]
  · rw [hrun, hinput, swapOf_of_two_le hsize h htwo]
  · obtain ⟨input, hswaps⟩ := swaps_of_one h hone
    rw [hrun, hinput, swapOf_of_one hsize h hswaps, if_pos hv2]
  · rw [hrun, hrun, hinput, hinput', swapOf_congr hsize h hsize' h' hsame]

/-- A swap between a wrap and an unwrap of ether, under a deadline, is analysed like the swap alone; a
V3 and a V2 swap are one too many. -/
theorem wrapped_swap_like_bare_swap :
    let hash : TxHash := ⟨0x5af1⟩
    let usdc : Token := ⟨⟨0x8335⟩, 6, none⟩
    let weth : Token := ⟨⟨0x4200⟩, 18, some "WETH"⟩
    let swapped := Event.Report.v3Swap ⟨0x2626⟩ ⟨0x1111⟩ 5 (-9) 1 3 0
    let receipt : Receipt := ⟨true, 150000, 2500000000, some 7, [swapped.log ⟨0xbb⟩ (some 4)]⟩
    let packed := PoolPath.packHops [usdc.address, weth.address] [500]
    let swap := Operation.writeV3 ⟨0x1111⟩ 5 1 packed true
    let bare : ExecuteCall.Arguments := ⟨[0x80], [swap], none⟩
    let wrapped : ExecuteCall.Arguments := ⟨[0x0b, 0x80, 0x0c], [[1], swap, []], some 1700000000⟩
    let mixed : ExecuteCall.Arguments := ⟨[0x80, 0x48], [swap, []], none⟩
    let sent (a : ExecuteCall.Arguments) : Transaction := ⟨⟨0xa11ce⟩, some ⟨0x2626⟩, a.call, 0⟩
    let data : Chain.Data
      | .receipt _ => .ok receipt
      | .pool address => .ok ⟨address, usdc, weth, 500⟩
      | .token address => .ok (if address = weth.address then weth else usdc)
      | _ => .error ⟨"not found", []⟩
    let answer (r : Reading) (s : Unit) := (data r, s)
    let run (a : ExecuteCall.Arguments) :=
      outcome answer none (analyseFetched (sent a) hash receipt Analysis.events) ()
    receipt.status = true ∧ Abi.Addressable bare.write ∧ Abi.Addressable wrapped.write ∧
      wrapped.swaps = bare.swaps ∧ run wrapped = run bare ∧
      (run bare).asked =
        [.receipt hash, .pool ⟨0xbb⟩, .token usdc.address, .token weth.address] ∧
      (((run bare).result.bind Except.toOption).bind TradeAnalysis.success?).map
        (fun trade => (trade.path, trade.amountIn, trade.amountOutMin, trade.amountOut)) =
          some ([usdc.address, weth.address], 5, 1, 9) ∧
      run mixed = ⟨some (.error (.malformedSwapSet (.operations 2))), [], ()⟩ := by
  intro hash usdc weth swapped receipt packed swap bare wrapped mixed sent data answer run
  have hbare : Abi.Addressable bare.write := by decide +kernel
  have hwrapped : Abi.Addressable wrapped.write := by decide +kernel
  have hmixed : Abi.Addressable mixed.write := by decide +kernel
  have hsame : wrapped.swaps = bare.swaps := by
    have hwrap : wrapped.swaps = Arguments.swaps ⟨[0x80, 0x0c], [swap, []], none⟩ :=
      Arguments.swaps_insert [] [] rfl (b := 0x0b) rfl [1] [0x80, 0x0c] [swap, []] _ _
    have hunwrap : Arguments.swaps ⟨[0x80, 0x0c], [swap, []], none⟩ = bare.swaps :=
      Arguments.swaps_insert [0x80] [swap] rfl (b := 0x0c) rfl [] [] [] _ _
    exact hwrap.trans hunwrap
  obtain ⟨-, hdecided⟩ := swap_set_decides bare hbare answer none Analysis.events hash receipt rfl
    (sent bare) rfl ()
  obtain ⟨-, -, -, -, hinsert⟩ := hdecided rfl
  obtain ⟨-, hdecided'⟩ := swap_set_decides mixed hmixed answer none Analysis.events hash receipt rfl
    (sent mixed) rfl ()
  obtain ⟨-, -, htwo, -⟩ := hdecided' rfl
  exact ⟨rfl, hbare, hwrapped, hsame, hinsert wrapped (sent wrapped) hwrapped rfl hsame rfl,
    by decide +kernel, by decide +kernel, htwo (by decide)⟩

end DexTrade.Analysis.Universal
