import DexTrade.Proofs.Analysis.Success
import DexTrade.Proofs.Event.Report
import DexTrade.Proofs.Price
/-!
# Prices of successes

The price of a record from a V3 pool is positive. That of a record from a V2 pair is the executed
rate, which has no test of its own: it is zero where nothing of the rate is left at the largest scale,
and positive otherwise (`price_of_success`).
-/
namespace DexTrade.Analysis

open Chain

variable {σ : Type} {answer : (r : Reading) → σ → Except ReadFailure r.Value × σ}
  {limit : Option Level} {events : TxHash → Analysis (List Event)} {transaction : Transaction}
  {hash : TxHash} {receipt : Receipt}

/-- The price as it has to be for a router of a family. -/
def HasPrice (family : Option RouterKind) (t : TradeSuccess) : Prop :=
  match family with
  | some .v2 =>
    0 ≤ t.price.signedMantissa ∧
      (t.price.signedMantissa = 0 ↔
        Price.Vanishes t.amountIn t.amountInDecimals t.amountOut t.amountOutDecimals)
  | _ => 0 < t.price.signedMantissa

/-! ## Each family -/

theorem price_v3Trade (path : List Address) (amountOutMin : Word) (event : Event) :
    (V3.buildTrade receipt path amountOutMin event).Returns (HasPrice (some .v3)) := by
  unfold V3.buildTrade
  refine .after fun _ => .after fun _ => .after fun _ => .after fun _ => .after fun _ => ?_
  exact .bind .expect fun price hprice => .after fun _ => .pure (Pool.price_pos hprice)

theorem price_v2Trade (fee : Nat) (swap : SwapCall) (event : Event) :
    (V2.buildTrade receipt fee swap event).Returns (HasPrice (some .v2)) := by
  unfold V2.buildTrade
  refine .after fun _ => .after fun _ => .after fun _ => .after fun _ => ?_
  exact .bind .expect fun price hprice => .after fun _ => .after fun _ =>
    .pure (Price.executed_sign hprice)

theorem price_v3 :
    (V3.analyse transaction hash receipt events).Returns (OfSuccess (HasPrice (some .v3))) :=
  V3.steps.ofSuccess fun _ event _ => price_v3Trade _ _ event

theorem price_v2 (fee : Nat) :
    (V2.analyse transaction hash receipt fee events).Returns (OfSuccess (HasPrice (some .v2))) :=
  (V2.steps fee).ofSuccess fun swap event _ => price_v2Trade fee swap event

theorem price_universal :
    (Universal.analyseFetched transaction hash receipt events).Returns
      (OfSuccess (HasPrice (some .universal))) :=
  Universal.steps.ofSuccess fun _ event _ => price_v3Trade _ _ event

theorem price_dispatch (c : Dispatch.Context) :
    (Dispatch.analyseFetched c transaction hash receipt events).Returns
      (OfSuccess (HasPrice (transaction.destination.map (c.routers.classify c.chain)))) :=
  Dispatch.returns_by_family (P := fun family => OfSuccess (HasPrice family)) (price_v2 c.v2Fee)
    price_v3

/-- The price of a success is positive in the universal router's analysis and for a V3 router. For a
V2 router it is never negative, and it is zero exactly if the exact rate of the recorded amounts is at
most half of the smallest decimal. -/
theorem price_of_success (answer : (r : Reading) → σ → Except ReadFailure r.Value × σ)
    (limit : Option Level) (events : TxHash → Analysis (List Event)) (c : Dispatch.Context)
    (transaction : Transaction) (hash : TxHash) (receipt : Receipt) (s : σ) (t : TradeSuccess) :
    ((outcome answer limit (Universal.analyseFetched transaction hash receipt events) s).result =
      some (.ok (.success t)) → 0 < t.price.signedMantissa) ∧
    ((outcome answer limit (Universal.analyse hash events) s).result = some (.ok (.success t)) →
      0 < t.price.signedMantissa) ∧
    ((outcome answer limit (Dispatch.analyseFetched c transaction hash receipt events) s).result =
      some (.ok (.success t)) →
        HasPrice (transaction.destination.map (c.routers.classify c.chain)) t) ∧
    ((outcome answer limit (Dispatch.analyse c hash events) s).result = some (.ok (.success t)) →
      ∃ transaction, (answer (.transaction hash) s).1 = .ok transaction ∧
        HasPrice (transaction.destination.map (c.routers.classify c.chain)) t) := by
  refine ⟨fun h => price_universal.result h t rfl, fun h => ?_,
    fun h => (price_dispatch c).result h t rfl, fun h => ?_⟩
  · obtain ⟨_, _, -, -, hprice⟩ := Returns.of_fetched (fun t r => price_universal) h
    exact hprice t rfl
  · obtain ⟨transaction, _, htransaction, -, hprice⟩ :=
      Returns.of_fetched (P := fun a transaction _ =>
        OfSuccess (HasPrice (transaction.destination.map (c.routers.classify c.chain))) a)
        (fun t r => price_dispatch c) h
    exact ⟨transaction, htransaction, hprice t rfl⟩

/-- A trade of 3000 USDC for one WETH through a V2 pair. -/
theorem price_of_pair_trade :
    let weth : Token := ⟨⟨0x4200⟩, 18, some "WETH"⟩
    let usdc : Token := ⟨⟨0x8335⟩, 6, some "USDC"⟩
    let router : Address := ⟨0x4752⟩
    let call := Selector.toBytes 0x38ed1739 ++
      Abi.write [.uint 256, .uint 256, .addresses, .address, .uint 256]
        (3000000000, 1, [usdc.address, weth.address], ⟨0x1111⟩, 0, ())
    let swapped := Event.Report.v2Swap router 0 3000000000 1000000000000000000 0 ⟨0x1111⟩
    let receipt : Receipt := ⟨true, 150000, 2500000000, some 7, [swapped.log ⟨0x88a4⟩ (some 4)]⟩
    let transaction : Transaction := ⟨⟨0x1111⟩, some router, call, 0⟩
    let c : Dispatch.Context := ⟨⟨[("base", ⟨[⟨router, "V2Router02"⟩], [], []⟩)]⟩, "Base", 30⟩
    let data : Chain.Data
      | .receipt _ => .ok receipt
      | .token address => .ok (if address.bits.toNat = 0x4200 then weth else usdc)
      | .pair _ => .ok (weth.address, usdc.address)
      | _ => .error ⟨"not found", []⟩
    let answer (r : Reading) (s : Unit) := (data r, s)
    let run := outcome answer none (Dispatch.analyseFetched c transaction ⟨0x5af1⟩ receipt) ()
    ∃ t, run.result = some (.ok (.success t)) ∧ 0 < t.price.signedMantissa := by
  intro weth usdc router call swapped receipt transaction c data answer run
  have hrecorded : ((run.result.bind Except.toOption).bind TradeAnalysis.success?).map (fun t =>
      (t.amountIn, t.amountInDecimals, t.amountOut, t.amountOutDecimals)) =
        some (3000000000, 6, 1000000000000000000, 18) := by
    decide +kernel
  have hfamily : transaction.destination.map (c.routers.classify c.chain) = some .v2 := by
    decide +kernel
  obtain ⟨t, hresult, hamounts⟩ := exists_success_of_map hrecorded
  simp only [Prod.mk.injEq] at hamounts
  obtain ⟨hamountIn, hdecimalsIn, hamountOut, hdecimalsOut⟩ := hamounts
  obtain ⟨-, -, hdispatch, -⟩ :=
    price_of_success answer none Analysis.events c transaction ⟨0x5af1⟩ receipt () t
  have hprice : HasPrice (some .v2) t := hfamily ▸ hdispatch hresult
  obtain ⟨hnonnegative, hzero⟩ := hprice
  rw [hamountIn, hdecimalsIn, hamountOut, hdecimalsOut] at hzero
  have hlarge : ¬Price.Vanishes 3000000000 6 1000000000000000000 18 := by
    unfold Price.Vanishes
    decide
  have hne := mt hzero.1 hlarge
  exact ⟨t, hresult, by omega⟩

/-- A hundred billion USDC are sold to a V2 pair for the smallest amount of WETH. The rate is a tenth
of the smallest decimal, and the record of the trade has a price of zero. -/
theorem zero_price_of_pair_trade :
    let weth : Token := ⟨⟨0x4200⟩, 18, some "WETH"⟩
    let usdc : Token := ⟨⟨0x8335⟩, 6, some "USDC"⟩
    let router : Address := ⟨0x4752⟩
    let call := Selector.toBytes 0x38ed1739 ++
      Abi.write [.uint 256, .uint 256, .addresses, .address, .uint 256]
        (100000000000000000, 1, [usdc.address, weth.address], ⟨0x1111⟩, 0, ())
    let swapped := Event.Report.v2Swap router 0 100000000000000000 1 0 ⟨0x1111⟩
    let receipt : Receipt := ⟨true, 150000, 2500000000, some 7, [swapped.log ⟨0x88a4⟩ (some 4)]⟩
    let transaction : Transaction := ⟨⟨0x1111⟩, some router, call, 0⟩
    let c : Dispatch.Context := ⟨⟨[("base", ⟨[⟨router, "V2Router02"⟩], [], []⟩)]⟩, "Base", 30⟩
    let data : Chain.Data
      | .receipt _ => .ok receipt
      | .token address => .ok (if address.bits.toNat = 0x4200 then weth else usdc)
      | .pair _ => .ok (weth.address, usdc.address)
      | _ => .error ⟨"not found", []⟩
    let run := Inquiry.runFixed data none (Dispatch.analyseFetched c transaction ⟨0x5af1⟩ receipt).run
    ∃ t, run.result = some (.ok (.success t)) ∧ ¬0 < t.price.signedMantissa := by
  intro weth usdc router call swapped receipt transaction c data run
  have hrecorded : ((run.result.bind Except.toOption).bind TradeAnalysis.success?).map
      (fun t => t.price.signedMantissa) = some 0 := by
    decide +kernel
  obtain ⟨t, hresult, hprice⟩ := exists_success_of_map hrecorded
  exact ⟨t, hresult, by omega⟩

end DexTrade.Analysis
