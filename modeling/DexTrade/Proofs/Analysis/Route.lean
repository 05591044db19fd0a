import DexTrade.Proofs.Analysis.Executed
import DexTrade.Proofs.Analysis.Status
import DexTrade.Proofs.Analysis.Success
import DexTrade.Proofs.Event.Report
import DexTrade.Proofs.Swap.Shape
/-!
# Routes of successes

A record from a V3 pool is about one hop: a longer route is refused as soon as the event is found
(`outcome_tradeOf_of_long`). The analysis of a V2 router has no such test. What it makes of a longer
route is what it makes of the direct route between both ends, but for the route that is written into
the record (`outcome_v2_along`), so the one succeeds whenever the other does.
-/
namespace DexTrade.Analysis

open Chain

variable {σ : Type} {answer : (r : Reading) → σ → Except ReadFailure r.Value × σ}
  {limit : Option Level} {events : TxHash → Analysis (List Event)}
  {transaction other : Transaction} {hash : TxHash} {receipt : Receipt}

/-- The route as it has to be for a router of a family and the call data. -/
def HasRoute (family : Option RouterKind) (input : Bytes) (t : TradeSuccess) : Prop :=
  match family with
  | some .v2 => ∃ swap, V2Router.decode input = .ok swap ∧ t.path = swap.path ∧ 2 ≤ t.path.length
  | _ => t.path.length = 2

/-! ## Routes of one hop -/

theorem V3.length_of_ends {path : List Address} {ends : Address × Address}
    (h : V3.ends path = .ok ends) : path.length = 2 := by
  unfold V3.ends at h
  split at h
  · rfl
  · cases h
  · cases h
  · cases h

theorem V3.ends_of_long {path : List Address} (h : 2 < path.length) :
    V3.ends path = .error (.unsupported (.multiHop path.length)) := by
  match path, h with
  | _ :: _ :: _ :: _, _ => rfl

theorem route_v3Trade (path : List Address) (amountOutMin : Word) (event : Event) :
    (V3.buildTrade receipt path amountOutMin event).Returns fun t => t.path.length = 2 := by
  unfold V3.buildTrade
  refine .bind .expect fun ends hends => ?_
  repeat refine .after fun _ => ?_
  exact .pure (V3.length_of_ends hends)

theorem route_v3 :
    (V3.analyse transaction hash receipt events).Returns
      (OfSuccess fun t => t.path.length = 2) :=
  V3.steps.ofSuccess fun _ event _ => route_v3Trade _ _ event

theorem route_universal :
    (Universal.analyseFetched transaction hash receipt events).Returns
      (OfSuccess fun t => t.path.length = 2) :=
  Universal.steps.ofSuccess fun _ event _ => route_v3Trade _ _ event

/-- Why there is no trade of a longer route: its event is not there, or it is, and the route is
refused. -/
def longRouteError (select : List Event → Except TradeError Event) (length : Nat)
    (served : Except ReadFailure Receipt) : TradeError :=
  match served with
  | .error failure => .failedRead failure
  | .ok receipt =>
    match select (Event.ofLogs receipt.logs) with
    | .error e => e
    | .ok _ => .unsupported (.multiHop length)

theorem outcome_v3Trade_of_long {path : List Address} (h : 2 < path.length) (amountOutMin : Word)
    (event : Event) (s : σ) :
    outcome answer limit (V3.buildTrade receipt path amountOutMin event) s =
      ⟨some (.error (.unsupported (.multiHop path.length))), [], s⟩ := by
  unfold V3.buildTrade
  rw [V3.ends_of_long h]
  exact outcome_bind_of_error (outcome_expect answer limit _ s) _

/-- Neither a pool nor a token is read for a longer route. -/
theorem outcome_tradeOf_of_long {select : List Event → Except TradeError Event} {swap : SwapCall}
    (h : 2 < swap.path.length) (s : σ) :
    outcome answer limit (tradeOf hash receipt Analysis.events select swap) s =
      ⟨some (.error (longRouteError select swap.path.length (answer (.receipt hash) s).1)),
        [.receipt hash], (answer (.receipt hash) s).2⟩ := by
  unfold tradeOf
  cases hserved : (answer (.receipt hash) s).1 with
  | error failure => exact outcome_bind_of_error (outcome_events_of_error hserved) _
  | ok served =>
    rw [outcome_bind_of_ok (outcome_events_of_ok hserved), outcome_expect_bind]
    simp only [longRouteError]
    cases select (Event.ofLogs served.logs) with
    | error e => rfl
    | ok event =>
      simp only [outcome_bind_of_error (outcome_v3Trade_of_long h _ event _), List.append_nil]

/-! ## Routes of a V2 router -/

theorem route_v2Trade (fee : Nat) {swap : SwapCall} (event : Event)
    (hswap : V2Router.decode transaction.input = .ok swap) :
    (V2.buildTrade receipt fee swap event).Returns (HasRoute (some .v2) transaction.input) := by
  unfold V2.buildTrade
  repeat refine .after fun _ => ?_
  exact .pure ⟨swap, hswap, rfl, V2Router.two_le_of_decode hswap⟩

theorem route_v2 (fee : Nat) :
    (V2.analyse transaction hash receipt fee events).Returns
      (OfSuccess (HasRoute (some .v2) transaction.input)) :=
  (V2.steps fee).ofSuccess fun _ event hswap => route_v2Trade fee event hswap

theorem route_dispatch (c : Dispatch.Context) :
    (Dispatch.analyseFetched c transaction hash receipt events).Returns
      (OfSuccess (HasRoute (transaction.destination.map (c.routers.classify c.chain))
        transaction.input)) :=
  Dispatch.returns_by_family (P := fun family => OfSuccess (HasRoute family transaction.input))
    (route_v2 c.v2Fee) route_v3

/-- Two swaps between the same ends, with the same input and the same least output. -/
structure SameEnds (swap swap' : SwapCall) : Prop where
  tokenIn : swap'.tokenIn? = swap.tokenIn?
  tokenOut : swap'.tokenOut? = swap.tokenOut?
  amountIn : swap'.amountIn = swap.amountIn
  amountOutMin : swap'.amountOutMin = swap.amountOutMin

/-- The record with another route. -/
def along (path : List Address) : TradeAnalysis → TradeAnalysis
  | .success t => .success { t with path }
  | .fail fail => .fail fail

theorem effectiveGasPrice_along (path : List Address) (a : TradeAnalysis) :
    (along path a).effectiveGasPrice = a.effectiveGasPrice := by
  cases a <;> rfl

/-- The run with another route in its record. -/
def runAlong (path : List Address) (run : Outcome source (Except TradeError TradeAnalysis) σ) :
    Outcome source (Except TradeError TradeAnalysis) σ :=
  { run with result := run.result.map (Except.map (along path)) }

theorem outcome_map_along (path : List Address) (x : Analysis TradeAnalysis) (s : σ) :
    outcome answer limit (x >>= fun a => pure (along path a)) s =
      runAlong path (outcome answer limit x s) := by
  rw [outcome_bind]
  unfold Outcome.andThen runAlong
  rcases (outcome answer limit x s) with ⟨_ | e | a, asked, s'⟩
  · rfl
  · simp [Except.map]
  · simp [outcome_pure, Except.map]

theorem trade_along {swap swap' : SwapCall} (h : SameEnds swap swap') (fee : Nat) :
    (V2.steps fee).trade hash receipt events swap' =
      (V2.steps fee).trade hash receipt events swap >>= fun a => pure (along swap'.path a) := by
  have hends : V2.ends swap' = V2.ends swap := by
    unfold V2.ends
    rw [h.tokenIn, h.tokenOut]
  -- the entry that is written about the trade does not show the route, so the journals agree too
  simp only [Steps.trade, V2.steps, V2.buildTrade, hends, h.amountIn, h.amountOutMin, bind_assoc,
    pure_bind, along]

theorem runAlong_of_failed (path : List Address) (s : σ) :
    runAlong path (failed answer hash receipt s) = failed answer hash receipt s :=
  rfl

theorem lineWritten_along (path : List Address)
    (run : Outcome source (Except TradeError TradeAnalysis) σ) :
    Dispatch.lineWritten limit (runAlong path run) =
      runAlong path (Dispatch.lineWritten limit run) := by
  rcases run with ⟨_ | e | a, asked, s⟩
  · rfl
  · rfl
  · simp only [Dispatch.lineWritten, runAlong, Option.map_some, Except.map, Option.bind_some,
      effectiveGasPrice_along]
    split <;> rfl

/-- The analysis looks at the route of a call for nothing but its ends. -/
theorem outcome_v2_along {swap swap' : SwapCall}
    (hswap : V2Router.decode transaction.input = .ok swap)
    (hswap' : V2Router.decode other.input = .ok swap') (h : SameEnds swap swap') (fee : Nat)
    (s : σ) :
    outcome answer limit (V2.analyse other hash receipt fee events) s =
      runAlong swap'.path
        (outcome answer limit (V2.analyse transaction hash receipt fee events) s) := by
  have hsteps := V2.writable_steps fee
  cases hstatus : receipt.status with
  | false =>
    rw [V2.analyse, V2.analyse, Steps.outcome_of_reverted hsteps hstatus,
      Steps.outcome_of_reverted hsteps hstatus, runAlong_of_failed]
  | true =>
    rw [V2.analyse, V2.analyse, Steps.outcome_of_decode hsteps hstatus hswap,
      Steps.outcome_of_decode hsteps hstatus hswap', trade_along h, outcome_map_along]

/-! ## The dispatcher -/

theorem outcome_dispatch_along {c : Dispatch.Context} {swap swap' : SwapCall}
    (hfamily : transaction.destination.map (c.routers.classify c.chain) = some .v2)
    (hdestination : other.destination = transaction.destination)
    (hswap : V2Router.decode transaction.input = .ok swap)
    (hswap' : V2Router.decode other.input = .ok swap') (h : SameEnds swap swap') (s : σ) :
    outcome answer limit (Dispatch.analyseFetched c other hash receipt events) s =
      runAlong swap'.path
        (outcome answer limit (Dispatch.analyseFetched c transaction hash receipt events) s) := by
  rw [Dispatch.outcome_of_family hfamily, Dispatch.outcome_of_family (hdestination ▸ hfamily),
    ← lineWritten_along]
  exact congrArg (Dispatch.lineWritten limit) (outcome_v2_along hswap hswap' h c.v2Fee s)

/-- A success of the universal router's analysis or for a V3 router has a route of one hop; one for
a V2 router has the route of its call, however long that is. A longer route in an executed call to
the universal router or to a V3 router ends in the error of `longRouteError`, and nothing but the
receipt is read. To a V2 router the longer route makes no difference: the call has the outcome of
any other between the same ends, with its own route in the record. -/
theorem route_of_success (answer : (r : Reading) → σ → Except ReadFailure r.Value × σ)
    (limit : Option Level) (events : TxHash → Analysis (List Event)) (c : Dispatch.Context)
    (transaction : Transaction) (hash : TxHash) (receipt : Receipt) (s : σ) :
    let family := transaction.destination.map (c.routers.classify c.chain)
    (∀ t, (outcome answer limit (Universal.analyseFetched transaction hash receipt events)
      s).result = some (.ok (.success t)) → t.path.length = 2) ∧
    (∀ t, (outcome answer limit (Universal.analyse hash events) s).result =
      some (.ok (.success t)) → t.path.length = 2) ∧
    (∀ t, (outcome answer limit (Dispatch.analyseFetched c transaction hash receipt events)
      s).result = some (.ok (.success t)) → HasRoute family transaction.input t) ∧
    (∀ t, (outcome answer limit (Dispatch.analyse c hash events) s).result =
      some (.ok (.success t)) →
        ∃ transaction, (answer (.transaction hash) s).1 = .ok transaction ∧
          HasRoute (transaction.destination.map (c.routers.classify c.chain))
            transaction.input t) ∧
    (receipt.status = true → ∀ swap, 2 < swap.path.length →
      (Universal.swapOf transaction.input = .ok swap →
        outcome answer limit (Universal.analyseFetched transaction hash receipt) s =
          ⟨some (.error (longRouteError (lastEvent · .v3Swap) swap.path.length
            (answer (.receipt hash) s).1)), [.receipt hash], (answer (.receipt hash) s).2⟩) ∧
      (family = some .v3 → V3Router.decode transaction.input = .ok swap →
        outcome answer limit (Dispatch.analyseFetched c transaction hash receipt) s =
          ⟨some (.error (longRouteError (onlyEvent · .v3Swap) swap.path.length
            (answer (.receipt hash) s).1)), [.receipt hash], (answer (.receipt hash) s).2⟩)) ∧
    (family = some .v2 → ∀ other, other.destination = transaction.destination →
      ∀ swap swap', V2Router.decode transaction.input = .ok swap →
        V2Router.decode other.input = .ok swap' → SameEnds swap swap' →
          outcome answer limit (Dispatch.analyseFetched c other hash receipt events) s =
            runAlong swap'.path
              (outcome answer limit (Dispatch.analyseFetched c transaction hash receipt events)
                s)) := by
  intro family
  refine ⟨fun t h => route_universal.result h t rfl, fun t h => ?_,
    fun t h => (route_dispatch c).result h t rfl, fun t h => ?_, fun hstatus swap hlong => ⟨?_, ?_⟩,
    fun hfamily other hdestination swap swap' hswap hswap' h =>
      outcome_dispatch_along hfamily hdestination hswap hswap' h s⟩
  · obtain ⟨_, _, -, -, hroute⟩ := Returns.of_fetched (fun t r => route_universal) h
    exact hroute t rfl
  · obtain ⟨transaction, _, htransaction, -, hroute⟩ :=
      Returns.of_fetched (P := fun a transaction _ =>
        OfSuccess (HasRoute (transaction.destination.map (c.routers.classify c.chain))
          transaction.input) a)
        (fun t r => route_dispatch c) h
    exact ⟨transaction, htransaction, hroute t rfl⟩
  · intro hswap
    rw [outcome_universal_of_executed hstatus, hswap]
    exact outcome_tradeOf_of_long hlong s
  · intro hfamily hswap
    have hrun : outcome answer limit (V3.analyse transaction hash receipt) s = _ :=
      (Steps.outcome_of_decode V3.writable_steps hstatus hswap s).trans
        (outcome_tradeOf_of_long hlong s)
    rw [Dispatch.outcome_of_family hfamily]
    exact congrArg (Dispatch.lineWritten limit) hrun

/-- 1000 USDC for 0.4 of a token of 18 decimals, directly and by way of WETH, in one swap of a pair.
For a V2 router the two calls make the same trade; the second route in a call of a V3 router makes
none. -/
theorem trades_along_two_routes :
    let weth : Token := ⟨⟨0x4200⟩, 18, some "WETH"⟩
    let usdc : Token := ⟨⟨0x8335⟩, 6, some "USDC"⟩
    let degen : Token := ⟨⟨0x4ed4⟩, 18, none⟩
    let v2Router : Address := ⟨0x4752⟩
    let v3Router : Address := ⟨0x2626⟩
    let call (route : List Address) : Transaction :=
      ⟨⟨0x1111⟩, some v2Router, Selector.toBytes 0x38ed1739 ++
        Abi.write [.uint 256, .uint 256, .addresses, .address, .uint 256]
          (1000000000, 1, route, ⟨0x1111⟩, 0, ()), 0⟩
    let packed := PoolPath.packHops [usdc.address, weth.address, degen.address] [500, 3000]
    let hops : Transaction := ⟨⟨0x1111⟩, some v3Router,
      V3Router.pathCall .first false ⟨packed, ⟨0x1111⟩, 1700000000, 1000000000, 1⟩, 0⟩
    let swapped := Event.Report.v2Swap v2Router 0 1000000000 400000000000000000 0 ⟨0x1111⟩
    let pooled := Event.Report.v3Swap v3Router ⟨0x1111⟩ (-400000000000000000) 1000000000 1 3 0
    let receipt : Receipt := ⟨true, 150000, 2500000000, some 7,
      [swapped.log ⟨0x88a4⟩ (some 4), pooled.log ⟨0xd0b5⟩ (some 5)]⟩
    let c : Dispatch.Context :=
      ⟨⟨[("base", ⟨[⟨v2Router, "V2Router02"⟩], [⟨v3Router, "SwapRouter"⟩], []⟩)]⟩, "Base", 30⟩
    let data : Chain.Data
      | .receipt _ => .ok receipt
      | .token address =>
        .ok (([weth, usdc, degen].find? fun token => token.address = address).getD weth)
      | .pair _ => .ok (degen.address, usdc.address)
      | _ => .error ⟨"not found", []⟩
    let answer (r : Reading) (s : Unit) := (data r, s)
    let hash : TxHash := ⟨0x5af1⟩
    let direct := [usdc.address, degen.address]
    let long := [usdc.address, weth.address, degen.address]
    let dispatch (transaction : Transaction) :=
      outcome answer none (Dispatch.analyseFetched c transaction hash receipt) ()
    (∃ t, (dispatch (call direct)).result = some (.ok (.success t)) ∧ t.path.length = 2) ∧
      dispatch (call long) = runAlong long (dispatch (call direct)) ∧
      dispatch hops = ⟨some (.error (.unsupported (.multiHop 3))), [.receipt hash], ()⟩ := by
  intro weth usdc degen v2Router v3Router call packed hops swapped pooled receipt c data answer hash
    direct long dispatch
  have hdecode (transaction : Transaction) (route : List Address)
      (h : (V2Router.decode transaction.input).toOption =
        some (V2Router.tokenSwap .exactTokensForTokens 1000000000 1 route)) :
      V2Router.decode transaction.input =
        .ok (V2Router.tokenSwap .exactTokensForTokens 1000000000 1 route) :=
    V3Router.toOption_eq_some_iff.1 h
  have hdirect := hdecode (call direct) direct (by decide +kernel)
  have hlong := hdecode (call long) long (by decide +kernel)
  have hsame : SameEnds (V2Router.tokenSwap .exactTokensForTokens 1000000000 1 direct)
      (V2Router.tokenSwap .exactTokensForTokens 1000000000 1 long) :=
    ⟨rfl, rfl, rfl, rfl⟩
  have hv2 : (call direct).destination.map (c.routers.classify c.chain) = some .v2 := by
    decide +kernel
  have hv3 : hops.destination.map (c.routers.classify c.chain) = some .v3 := by decide +kernel
  have hhops : (V3Router.decode hops.input).toOption.map (·.path) = some long := by decide +kernel
  obtain ⟨swap, hswap, hpath⟩ := Option.map_eq_some_iff.1 hhops
  have hlength : swap.path.length = 3 := hpath ▸ rfl
  have hrecorded : (((dispatch (call direct)).result.bind Except.toOption).bind
      TradeAnalysis.success?).map (·.path) = some direct := by
    decide +kernel
  obtain ⟨t, hresult, -⟩ := exists_success_of_map hrecorded
  obtain ⟨-, -, hroute, -, -, hsimilar⟩ :=
    route_of_success answer none Analysis.events c (call direct) hash receipt ()
  obtain ⟨-, -, -, -, hrefused, -⟩ :=
    route_of_success answer none Analysis.events c hops hash receipt ()
  have hroutes := hsimilar hv2 (call long) rfl _ _ hdirect hlong hsame
  obtain ⟨-, hrefused⟩ := hrefused rfl swap (hlength ▸ by decide)
  have hrun := hrefused hv3 (V3Router.toOption_eq_some_iff.1 hswap)
  have herror : longRouteError (onlyEvent · .v3Swap) 3 (data (.receipt hash)) =
      .unsupported (.multiHop 3) := by
    have hselect : (onlyEvent (Event.ofLogs receipt.logs) .v3Swap).toOption.isSome := by
      decide +kernel
    obtain ⟨event, hevent⟩ := Option.isSome_iff_exists.1 hselect
    change longRouteError _ 3 (.ok receipt) = _
    simp only [longRouteError, V3Router.toOption_eq_some_iff.1 hevent]
  rw [hlength, show (answer (.receipt hash) ()).1 = data (.receipt hash) from rfl, herror] at hrun
  refine ⟨⟨t, hresult, ?_⟩, hroutes, hrun⟩
  obtain ⟨called, hcalled, hroute, -⟩ : HasRoute (some .v2) (call direct).input t :=
    hv2 ▸ hroute t hresult
  obtain rfl := Except.ok.inj (hcalled.symm.trans hdirect)
  exact hroute ▸ rfl

/-- A call of a V2 router along three tokens in whose receipt one pair reports a swap. The record
has the amounts of that pair and the ends of the whole route. -/
theorem three_tokens_through_one_pair :
    let weth : Token := ⟨⟨0x4200⟩, 18, some "WETH"⟩
    let usdc : Token := ⟨⟨0x8335⟩, 6, some "USDC"⟩
    let degen : Token := ⟨⟨0x4ed4⟩, 18, none⟩
    let router : Address := ⟨0x4752⟩
    let call := Selector.toBytes 0x38ed1739 ++
      Abi.write [.uint 256, .uint 256, .addresses, .address, .uint 256]
        (1000000000, 1, [usdc.address, degen.address, weth.address], ⟨0x1111⟩, 0, ())
    let swapped := Event.Report.v2Swap router 0 1000000000 400000000000000000 0 ⟨0x1111⟩
    let receipt : Receipt := ⟨true, 150000, 2500000000, some 7, [swapped.log ⟨0x88a4⟩ (some 4)]⟩
    let transaction : Transaction := ⟨⟨0x1111⟩, some router, call, 0⟩
    let c : Dispatch.Context := ⟨⟨[("base", ⟨[⟨router, "V2Router02"⟩], [], []⟩)]⟩, "Base", 30⟩
    let data : Chain.Data
      | .receipt _ => .ok receipt
      | .token address =>
        .ok (([weth, usdc, degen].find? fun token => token.address = address).getD weth)
      | .pair _ => .ok (weth.address, usdc.address)
      | _ => .error ⟨"not found", []⟩
    let run :=
      Inquiry.runFixed data none (Dispatch.analyseFetched c transaction ⟨0x5af1⟩ receipt).run
    ∃ t, run.result = some (.ok (.success t)) ∧ t.path.length ≠ 2 := by
  intro weth usdc degen router call swapped receipt transaction c data run
  have hrecorded : ((run.result.bind Except.toOption).bind TradeAnalysis.success?).map
      (fun t => t.path.length) = some 3 := by
    decide +kernel
  obtain ⟨t, hresult, hlength⟩ := exists_success_of_map hrecorded
  exact ⟨t, hresult, by omega⟩

end DexTrade.Analysis
