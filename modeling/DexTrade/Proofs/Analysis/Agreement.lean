import DexTrade.Proofs.Analysis.Journal
import DexTrade.Proofs.Analysis.SwapSet
import DexTrade.Proofs.Event.Padding
import DexTrade.Proofs.Event.Report
import DexTrade.Proofs.V3Router.Agreement
/-!
# One trade, sent to a V3 router or to the universal router

The same swap along the same packed path has the same record and the same errors in both analyses,
after the same readings, provided that at most one log is a V3 swap (`analyses_agree`). The V3
router's analysis takes the only swap event and the universal router's the last one, which is then the
same event. Nothing but the line that the dispatcher writes about the record is peculiar to one side.
-/
namespace DexTrade.Analysis

open Chain Command

variable {σ : Type} {answer : (r : Reading) → σ → Except ReadFailure r.Value × σ}
  {limit : Option Level} {hash : TxHash} {receipt : Receipt}

/-! ## Selecting the event -/

theorem onlyEvent_eq_lastEvent {found : List Event} {kind : EventKind}
    (h : (found.filter fun e => e.kind == kind).length ≤ 1) :
    onlyEvent found kind = lastEvent found kind := by
  unfold onlyEvent lastEvent
  generalize (found.filter fun e => e.kind == kind) = wanted at h ⊢
  match wanted, h with
  | [], _ => rfl
  | [_], _ => rfl

/-! ## The same swap -/

/-- A universal router call that can be decoded and whose only swap is a V3 swap. -/
structure OnlyV3Swap (a : ExecuteCall.Arguments) (p : V3Router.PathSwap) : Prop where
  addressable : Abi.Addressable a.write
  count : a.commands.length = a.inputs.length
  swaps : ∃ (b : UInt8) (recipient : Address) (payerIsUser : Bool),
    codeOf b = (if p.exactOutput then 0x01 else 0x00) ∧
      a.swaps = [(b, Operation.writeV3 recipient p.exact p.bound p.packed payerIsUser)]

/-- The call stands for what its one command stands for. -/
theorem OnlyV3Swap.swapOf_eq {a : ExecuteCall.Arguments} {p : V3Router.PathSwap}
    (h : OnlyV3Swap a p) :
    ∃ f : V3Router.Envelope, Abi.Addressable (f.write p) ∧
      Universal.swapOf a.call = f.decode p := by
  obtain ⟨b, recipient, payerIsUser, hcode, hswaps⟩ := h.swaps
  have hv3 : codeOf b ∉ v2SwapCodes := by
    rw [hcode]
    cases p.exactOutput <;> decide
  have hcommand : ofCode (UInt8.ofNat (codeOf b)) = Operation.v3Command p.exactOutput := by
    rw [hcode]
    cases p.exactOutput <;> rfl
  have hmem : (b, Operation.writeV3 recipient p.exact p.bound p.packed payerIsUser) ∈
      a.commands.zip a.inputs := by
    apply List.mem_of_mem_filter
    rw [← ExecuteCall.Arguments.swaps, hswaps]
    exact List.mem_singleton_self _
  refine ⟨.command (b.toNat.testBit 7) recipient payerIsUser,
    ExecuteCall.Arguments.addressable_input h.addressable (List.of_mem_zip hmem).2, ?_⟩
  rw [Universal.swapOf_of_one h.addressable h.count hswaps, if_neg hv3, ExecuteCall.operationOf,
    hcommand]
  rfl

theorem OnlyV3Swap.sameSwap {a : ExecuteCall.Arguments} {p : V3Router.PathSwap}
    (h : OnlyV3Swap a p) {e : V3Router.Envelope} (he : Abi.Addressable (e.write p)) :
    V3Router.SameSwap (e.decode p) (Universal.swapOf a.call) := by
  obtain ⟨f, hf, hswap⟩ := h.swapOf_eq
  rw [hswap]
  exact V3Router.Envelope.sameSwap he hf

/-- Runs that decode the same swap are the same run. -/
theorem outcome_v3_eq_universal {called executed : Transaction} {s : σ}
    (hstatus : receipt.status = true)
    (hevents : ∀ served, (answer (.receipt hash) s).1 = .ok served →
      served.logs.countP (Event.isOfKind .v3Swap) ≤ 1)
    (hsame : V3Router.SameSwap (V3Router.decode called.input)
      (Universal.swapOf executed.input)) :
    outcome answer limit (V3.analyse called hash receipt) s =
      outcome answer limit (Universal.analyseFetched executed hash receipt) s := by
  rw [outcome_universal_of_executed hstatus]
  obtain ⟨c, d, hc, hd, hcd⟩ | ⟨problem, hc, hd⟩ := hsame
  · have hpath : c.path = d.path := by rw [← hcd]
    have hmin : c.amountOutMin = d.amountOutMin := by rw [← hcd]
    rw [hd]
    refine (Steps.outcome_of_decode V3.writable_steps hstatus hc s).trans ?_
    refine outcome_tradeOf_congr hpath hmin fun served hserved => onlyEvent_eq_lastEvent ?_
    rw [Event.length_filter_kind]
    exact hevents served hserved
  · rw [hd]
    exact Steps.outcome_of_refused V3.writable_steps hstatus hc s

/-- A swap along a packed path comes to the same, sent to a V3 router that the dispatcher knows or as
the only swap command of a universal router call: the same record or the same error, after the same
readings. Where nobody reads the journal the two runs are always equal. The dispatcher alone writes a
line about the record, and its run only breaks off for a reader who asks for that line although the
gas price is no decimal. -/
theorem analyses_agree (answer : (r : Reading) → σ → Except ReadFailure r.Value × σ)
    (limit : Option Level) (c : Dispatch.Context) (hash : TxHash) (receipt : Receipt) (s : σ)
    (hstatus : receipt.status = true)
    (hevents : ∀ served, (answer (.receipt hash) s).1 = .ok served →
      served.logs.countP (Event.isOfKind .v3Swap) ≤ 1)
    (p : V3Router.PathSwap)
    (version : V3Router.Version) (recipient : Address) (deadline : Word) (called : Transaction)
    (hrouter : called.destination.map (c.routers.classify c.chain) = some .v3)
    (hcalled : called.input =
      V3Router.pathCall version p.exactOutput ⟨p.packed, recipient, deadline, p.exact, p.bound⟩)
    (hsize : Abi.Addressable
      (V3Router.PathArguments.write ⟨p.packed, recipient, deadline, p.exact, p.bound⟩ version))
    (a : ExecuteCall.Arguments) (honly : OnlyV3Swap a p)
    (executed : Transaction) (hexecuted : executed.input = a.call) :
    let dispatched := outcome answer limit (Dispatch.analyseFetched c called hash receipt) s
    let universal := outcome answer limit (Universal.analyseFetched executed hash receipt) s
    (Level.info.isShown limit = false ∨
        receipt.effectiveGasPrice.toNat ≤ Decimal.maxMantissa → dispatched = universal) ∧
      dispatched.asked = universal.asked ∧ dispatched.state = universal.state ∧
      ∀ e, dispatched.result = some (.error e) ↔ universal.result = some (.error e) := by
  intro dispatched universal
  have hsame : V3Router.SameSwap (V3Router.decode called.input)
      (Universal.swapOf executed.input) := by
    rw [hcalled, hexecuted]
    exact honly.sameSwap (e := .call version recipient deadline) hsize
  have hrun : dispatched = Dispatch.lineWritten limit universal :=
    (Dispatch.outcome_of_family hrouter s).trans
      (congrArg (Dispatch.lineWritten limit) (outcome_v3_eq_universal hstatus hevents hsame))
  rw [hrun]
  refine ⟨fun hline => Dispatch.lineWritten_eq_self fun record hrecord => ?_, rfl, rfl,
    fun e => Dispatch.lineWritten_error_iff⟩
  rw [gasPrice_universal.result hrecord]
  exact hline

/-- An exact input of 5 for 9, with a deadline as a call of the first router version and without one
among the commands of a universal router call. -/
theorem one_swap_in_two_analyses :
    let hash : TxHash := ⟨0x5af1⟩
    let weth : Token := ⟨⟨0x4200⟩, 18, some "WETH"⟩
    let usdc : Token := ⟨⟨0x8335⟩, 6, none⟩
    let swapped := Event.Report.v3Swap ⟨0x2626⟩ ⟨0x1111⟩ 5 (-9) 1 3 0
    let receipt : Receipt := ⟨true, 150000, 2500000000, some 7, [swapped.log ⟨0xbb⟩ (some 4)]⟩
    let data : Chain.Data
      | .receipt _ => .ok receipt
      | .pool address => .ok ⟨address, weth, usdc, 500⟩
      | .token address => .ok (if address = weth.address then weth else usdc)
      | _ => .error ⟨"not found", []⟩
    let answer (r : Reading) (s : Unit) := (data r, s)
    let c : Dispatch.Context := ⟨⟨[("base", ⟨[], [⟨⟨0x2626⟩, "SwapRouter"⟩], []⟩)]⟩, "Base", 30⟩
    let packed := PoolPath.packHops [weth.address, usdc.address] [500]
    let called : Transaction := ⟨⟨0xa11ce⟩, some ⟨0x2626⟩,
      V3Router.pathCall .first false ⟨packed, ⟨0x1111⟩, 1700000000, 5, 1⟩, 0⟩
    let commands : ExecuteCall.Arguments :=
      ⟨[0x0b, 0x80], [[], Operation.writeV3 ⟨0x2222⟩ 5 1 packed true], none⟩
    let executed : Transaction := ⟨⟨0xb0b⟩, none, commands.call, 3⟩
    let universal := outcome answer (some .info) (Universal.analyseFetched executed hash receipt) ()
    outcome answer (some .info) (Dispatch.analyseFetched c called hash receipt) () = universal ∧
      universal.asked = [.receipt hash, .pool ⟨0xbb⟩, .token weth.address, .token usdc.address] ∧
      ((universal.result.bind Except.toOption).bind TradeAnalysis.success?).map
        (fun trade => (trade.amountIn, trade.amountOut)) = some (5, 9) := by
  intro hash weth usdc swapped receipt data answer c packed called commands executed universal
  have hevents : ∀ served, (answer (.receipt hash) ()).1 = .ok served →
      served.logs.countP (Event.isOfKind .v3Swap) ≤ 1 := by
    rintro _ ⟨⟩
    exact List.countP_le_length
  have hrouter : called.destination.map (c.routers.classify c.chain) = some .v3 := by
    decide +kernel
  have hswaps : commands.swaps = [(0x80, Operation.writeV3 ⟨0x2222⟩ 5 1 packed true)] := by
    decide +kernel
  have honly : OnlyV3Swap commands ⟨false, packed, 5, 1⟩ :=
    ⟨by decide +kernel, rfl, 0x80, ⟨0x2222⟩, true, rfl, hswaps⟩
  obtain ⟨hagree, -⟩ := analyses_agree answer (some .info) c hash receipt () rfl hevents
    ⟨false, packed, 5, 1⟩ .first ⟨0x1111⟩ 1700000000 called hrouter rfl (by decide +kernel)
    commands honly executed rfl
  have hasked : universal.asked =
      [.receipt hash, .pool ⟨0xbb⟩, .token weth.address, .token usdc.address] := by
    decide +kernel
  have hprice : receipt.effectiveGasPrice.toNat ≤ Decimal.maxMantissa := by decide
  exact ⟨hagree (.inr hprice), hasked, by decide +kernel⟩

end DexTrade.Analysis
